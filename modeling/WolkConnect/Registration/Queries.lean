import WolkConnect.Error.Model
import Mathlib.Data.Prod.Lex
import Mathlib.Data.String.Basic

/-!
# Queries for registered devices

`RegistrationService.cpp`: `obtainDevices`, `obtainDevicesAsync`, and the handler of
their responses. A query waits in a map under its timestamp, type and external id.
-/

namespace WolkConnect

structure RegisteredDeviceInformation where
  deviceKey : String
  deviceType : String
  externalId : String
  deriving DecidableEq

/-- The timestamp is in milliseconds. -/
structure RegisteredDevicesRequestMessage where
  timestampFrom : Int
  deviceType : String
  externalId : String

structure RegisteredDevicesResponseMessage where
  timestampFrom : Int
  deviceType : String
  externalId : String
  matchingDevices : List RegisteredDeviceInformation
  deriving DecidableEq

/-- `duration_cast<milliseconds>`, which drops what is less than a millisecond. -/
def toMilliseconds (time : TimePoint) : Int := time.tdiv 1000000

/-- `TimePoint(milliseconds)`. -/
def ofMilliseconds (milliseconds : Int) : TimePoint := milliseconds * 1000000

/-- The key of the map, whose timestamp is a whole number of milliseconds. The callback that a
`DeviceQueryData` carries too is stored with the entry of the map. -/
@[ext]
structure DeviceQueryData where
  timestampFrom : TimePoint
  deviceType : String
  externalId : String
  whole : 1000000 ∣ timestampFrom

namespace DeviceQueryData

/-- Any order will do for the map. -/
instance : LinearOrder DeviceQueryData :=
  LinearOrder.lift' (fun q => toLex (q.timestampFrom, toLex (q.deviceType, q.externalId)))
    fun a b h => by
      have hpair := Prod.mk.inj (toLex.injective h)
      have hstrings := Prod.mk.inj (toLex.injective hpair.2)
      exact DeviceQueryData.ext hpair.1 hstrings.1 hstrings.2

/-- The constructor, which drops what is less than a millisecond. -/
def make (timestampFrom : TimePoint) (deviceType externalId : String) : DeviceQueryData :=
  ⟨ofMilliseconds (toMilliseconds timestampFrom), deviceType, externalId, Dvd.intro_left _ rfl⟩

end DeviceQueryData

/-- What a call of `obtainDevices` asks for. -/
structure DeviceQuery where
  timestampFrom : TimePoint
  deviceType : String
  externalId : String

namespace DeviceQuery

variable (query : DeviceQuery)

/-- The key that the call makes. -/
def data : DeviceQueryData := .make query.timestampFrom query.deviceType query.externalId

def request : RegisteredDevicesRequestMessage :=
  ⟨toMilliseconds query.timestampFrom, query.deviceType, query.externalId⟩

/-- The response of the platform, which echoes the request. -/
def response (matchingDevices : List RegisteredDeviceInformation) : RegisteredDevicesResponseMessage :=
  ⟨query.request.timestampFrom, query.request.deviceType, query.request.externalId, matchingDevices⟩

end DeviceQuery

/-- The key that a response is looked for under. -/
def RegisteredDevicesResponseMessage.query (message : RegisteredDevicesResponseMessage) :
    DeviceQueryData :=
  .make (ofMilliseconds message.timestampFrom) message.deviceType message.externalId

/-- The protocol and the connectivity service, as they are when a call is made. -/
structure DeviceQueryContext (M : Type) where
  makeOutboundMessage : String → RegisteredDevicesRequestMessage → Option M
  publish : M → Bool

/-- Messages are made and published. -/
def DeviceQueryContext.working : DeviceQueryContext Unit := ⟨fun _ _ => some (), fun _ => true⟩

/-- An entry of `m_deviceRegistrationResponses` has the callback of its query and the response. The
commands call a callback `ρ` with devices. -/
structure DeviceQueries (ρ : Type) where
  deviceRegistrationResponses :
    OrderedMap DeviceQueryData (Option ρ × Option RegisteredDevicesResponseMessage)
  commandBuffer : List (ρ × List RegisteredDeviceInformation)

namespace DeviceQueries

variable {M ρ : Type} (ctx : DeviceQueryContext M) (svc : DeviceQueries ρ)

/-- The message is made, and, under the lock, published. -/
def publishRequest (deviceKey : String) (query : DeviceQuery) : Bool :=
  match ctx.makeOutboundMessage deviceKey query.request with
  | none => false
  | some message => ctx.publish message

def emplace (query : DeviceQueryData) (callback : Option ρ) : DeviceQueries ρ :=
  { svc with
    deviceRegistrationResponses := svc.deviceRegistrationResponses.emplace query (callback, none) }

def obtainDevicesAsync (deviceKey : String) (query : DeviceQuery) (callback : Option ρ) :
    Bool × DeviceQueries ρ :=
  match callback with
  | none => (false, svc)
  | some callback =>
    if publishRequest ctx deviceKey query then (true, svc.emplace query.data (some callback))
    else (false, svc)

/-- `obtainDevices` up to the wait. -/
def sendQuery (deviceKey : String) (query : DeviceQuery) : Bool × DeviceQueries ρ :=
  if publishRequest ctx deviceKey query then (true, svc.emplace query.data none) else (false, svc)

/-- `obtainDevices` after the wait: a response that is there is taken out. -/
def takeResponse (query : DeviceQueryData) :
    Option RegisteredDevicesResponseMessage × DeviceQueries ρ :=
  match svc.deviceRegistrationResponses.find? query with
  | none => (none, svc)
  | some (_, response) =>
    (response,
      { svc with deviceRegistrationResponses := svc.deviceRegistrationResponses.erase query })

/-- The first component tells whether a waiting call is notified. -/
def handleRegisteredDevicesResponse (responseMessage : Option RegisteredDevicesResponseMessage) :
    Bool × DeviceQueries ρ :=
  match responseMessage with
  | none => (false, svc)
  | some message =>
    match svc.deviceRegistrationResponses.find? message.query with
    | none => (false, svc)
    | some (some callback, _) =>
      (true, { svc with
        commandBuffer := svc.commandBuffer ++ [(callback, message.matchingDevices)] })
    | some (none, _) =>
      (true, { svc with
        deviceRegistrationResponses :=
          svc.deviceRegistrationResponses.insert message.query (none, some message) })

end DeviceQueries

@[simp] theorem toMilliseconds_ofMilliseconds (milliseconds : Int) :
    toMilliseconds (ofMilliseconds milliseconds) = milliseconds :=
  Int.mul_tdiv_cancel milliseconds (by decide)

/-- The response to a query is looked for under the key of the query. -/
theorem DeviceQuery.response_query (query : DeviceQuery) (devices : List RegisteredDeviceInformation) :
    (query.response devices).query = query.data := by
  refine DeviceQueryData.ext ?_ rfl rfl
  exact congrArg ofMilliseconds (toMilliseconds_ofMilliseconds _)

end WolkConnect
