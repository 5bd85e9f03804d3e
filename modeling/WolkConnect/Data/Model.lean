import WolkConnect.Lib.Grouping
import WolkConnect.Data.Keys

/-!
# The data service

`DataService.cpp`: readings, attributes and parameters that wait in the persistence
to be published, and callbacks that wait for the responses to requests.
-/

namespace WolkConnect

structure Reading where
  reference : String
  values : List String
  rtc : Nat
  deriving DecidableEq

structure Attribute where
  name : String
  value : String
  deriving DecidableEq

/-- `ParameterName`, by the text that `toString` gives it: capital letters and underscores. -/
structure ParameterName where
  text : String
  plain : Plain text
  deriving DecidableEq

namespace ParameterName

theorem plain_fileTransferPlatformEnabled : Plain "FILE_TRANSFER_PLATFORM_ENABLED" := by decide

theorem plain_fileTransferUrlEnabled : Plain "FILE_TRANSFER_URL_ENABLED" := by decide

theorem plain_firmwareUpdateEnabled : Plain "FIRMWARE_UPDATE_ENABLED" := by decide

theorem plain_firmwareVersion : Plain "FIRMWARE_VERSION" := by decide

theorem plain_firmwareUpdateRepository : Plain "FIRMWARE_UPDATE_REPOSITORY" := by decide

theorem plain_firmwareUpdateCheckTime : Plain "FIRMWARE_UPDATE_CHECK_TIME" := by decide

def fileTransferPlatformEnabled : ParameterName :=
  ⟨"FILE_TRANSFER_PLATFORM_ENABLED", plain_fileTransferPlatformEnabled⟩

def fileTransferUrlEnabled : ParameterName :=
  ⟨"FILE_TRANSFER_URL_ENABLED", plain_fileTransferUrlEnabled⟩

def firmwareUpdateEnabled : ParameterName :=
  ⟨"FIRMWARE_UPDATE_ENABLED", plain_firmwareUpdateEnabled⟩

def firmwareVersion : ParameterName :=
  ⟨"FIRMWARE_VERSION", plain_firmwareVersion⟩

def firmwareUpdateRepository : ParameterName :=
  ⟨"FIRMWARE_UPDATE_REPOSITORY", plain_firmwareUpdateRepository⟩

def firmwareUpdateCheckTime : ParameterName :=
  ⟨"FIRMWARE_UPDATE_CHECK_TIME", plain_firmwareUpdateCheckTime⟩

end ParameterName

abbrev Parameter := ParameterName × String

/-! ## The persistence -/

structure Persistence where
  readings : OrderedMap String (List Reading)
  attributes : OrderedMap String Attribute
  parameters : OrderedMap String Parameter

namespace Persistence

variable (p : Persistence) (key : String)

def empty : Persistence := ⟨.empty, .empty, .empty⟩

/-- The readings that are kept under a key, in the order in which they were put. -/
def readingsAt : List Reading := (p.readings.find? key).getD []

def putReading (reading : Reading) : Persistence :=
  { p with readings := p.readings.insert key (p.readingsAt key ++ [reading]) }

def getReadings (count : Nat) : List Reading := (p.readingsAt key).take count

def removeReadings (count : Nat) : Persistence :=
  match p.readings.find? key with
  | none => p
  | some readings => { p with readings := p.readings.insert key (readings.drop count) }

def getReadingsKeys : List String := p.readings.keys

end Persistence

/-! ## Messages -/

/-- What the service makes messages of. -/
inductive DataMessage
  | feedValues (readings : List Reading)
  | attributeRegistration (attributes : List Attribute)
  | parametersUpdate (parameters : List Parameter)
  | synchronizeParameters (parameters : List ParameterName)
  | detailsSynchronizationRequest
  deriving DecidableEq

/-- How an attempt to send ended: without a message, or with the result of `publish`. -/
inductive Outcome
  | unserialisable | refused | published
  deriving DecidableEq

structure Send where
  deviceKey : String
  message : DataMessage
  outcome : Outcome
  deriving DecidableEq

/-- The protocol and the connectivity service, which may answer differently at each attempt (they
are told how many came before), and whether the handlers are set. -/
structure DataContext where
  makeOutboundMessage : Nat → String → DataMessage → Bool
  publish : Nat → String → DataMessage → Bool
  feedUpdateHandler : Bool
  parameterSyncHandler : Bool
  detailsSyncHandler : Bool

def DataContext.outcome (ctx : DataContext) (attempt : Nat) (deviceKey : String)
    (message : DataMessage) : Outcome :=
  if ctx.makeOutboundMessage attempt deviceKey message then
    if ctx.publish attempt deviceKey message then .published else .refused
  else .unserialisable

/-- Every message is made and published. -/
def reliable : DataContext where
  makeOutboundMessage _ _ _ := true
  publish _ _ _ := true
  feedUpdateHandler := true
  parameterSyncHandler := true
  detailsSyncHandler := true

/-! ## The service -/

/-- A subscription is made with a callback that is set. -/
structure ParameterSubscription (ρ : Type) where
  parameters : List ParameterName
  callback : ρ
  deriving DecidableEq

/-- A callback in the command buffer, with its arguments. The device that sent them is kept as well:
the code does not hand it to the callback. -/
inductive DataCommand (ρ : Type)
  | parameters (callback : ρ) (deviceKey : String) (values : List Parameter)
  | details (callback : ρ) (deviceKey : String) (feeds attributes : List String)
  deriving DecidableEq

/-- A call of one of the general handlers. -/
inductive HandlerCall
  | feedUpdate (deviceKey : String) (readings : List (Nat × List Reading))
  | parameterSync (deviceKey : String) (values : List Parameter)
  | detailsSync (deviceKey : String) (feeds attributes : List String)
  deriving DecidableEq

/-- `ρ` are the callbacks. `sends` lists the attempts to send a message. -/
structure DataService (ρ : Type) where
  persistence : Persistence
  iterator : Nat
  parameterSubscriptions : OrderedMap Nat (ParameterSubscription ρ)
  detailsCallbacks : List ρ
  commandBuffer : List (DataCommand ρ)
  sends : List Send
  handled : List HandlerCall

namespace DataService

variable {ρ : Type} (ctx : DataContext) (svc : DataService ρ)

def create (persistence : Persistence) : DataService ρ where
  persistence := persistence
  iterator := 0
  parameterSubscriptions := .empty
  detailsCallbacks := []
  commandBuffer := []
  sends := []
  handled := []

/-- `makeOutboundMessage`, and `publish` when there is a message. -/
def send (deviceKey : String) (message : DataMessage) : Outcome × DataService ρ :=
  let outcome := ctx.outcome svc.sends.length deviceKey message
  (outcome, { svc with sends := svc.sends ++ [⟨deviceKey, message, outcome⟩] })

/-! ### Readings -/

def addReading (deviceKey : String) (reading : Reading) : DataService ρ :=
  { svc with
    persistence :=
      svc.persistence.putReading (makePersistenceKey deviceKey reading.reference) reading }

def addReadings (deviceKey : String) (readings : List Reading) : DataService ρ :=
  readings.foldl (fun svc reading => svc.addReading deviceKey reading) svc

/-- `PUBLISH_BATCH_ITEMS_COUNT`. -/
def publishBatchItemsCount : Nat := 50

def removeReadings (key : String) : DataService ρ :=
  { svc with persistence := svc.persistence.removeReadings key publishBatchItemsCount }

theorem length_removeReadings {p : Persistence} {key : String} {count : Nat} (hcount : 0 < count)
    (h : p.getReadings key count ≠ []) :
    ((p.removeReadings key count).readingsAt key).length < (p.readingsAt key).length := by
  unfold Persistence.getReadings at h
  unfold Persistence.removeReadings
  cases hfind : p.readings.find? key with
  | none => simp [Persistence.readingsAt, hfind] at h
  | some readings =>
    simp only [Persistence.readingsAt, hfind, Option.getD_some, OrderedMap.find?_insert_self,
      List.length_drop] at h ⊢
    have hpos : 0 < readings.length := List.length_pos_iff.mpr fun hnil => h (by simp [hnil])
    omega

def publishReadingsForPersistenceKey (svc : DataService ρ) (persistenceKey : String) :
    DataService ρ :=
  let readings := svc.persistence.getReadings persistenceKey publishBatchItemsCount
  if _ : readings = [] then svc
  else
    let deviceKey := (parsePersistenceKey persistenceKey).1
    if deviceKey = "" then svc
    else
      let sent := svc.send ctx deviceKey (.feedValues readings)
      match sent.1 with
      | .unserialisable => sent.2.removeReadings persistenceKey
      | .refused => sent.2
      | .published => publishReadingsForPersistenceKey (sent.2.removeReadings persistenceKey) persistenceKey
termination_by (svc.persistence.readingsAt persistenceKey).length
decreasing_by exact length_removeReadings (by decide) ‹_›

/-- `publishReadings()`. -/
def publishReadings : DataService ρ :=
  svc.persistence.getReadingsKeys.foldl (publishReadingsForPersistenceKey ctx) svc

/-- `publishReadings(deviceKey)`. -/
def publishReadingsOf (deviceKey : String) : DataService ρ :=
  svc.publishReadingsForPersistenceKey ctx deviceKey

end DataService

/-! ## Attributes and parameters -/

/-- What the service does alike for attributes and for parameters: where the persistence keeps them,
how they are named, and the message that publishes them. -/
structure EntryKind (α : Type) where
  name : α → String
  message : List α → DataMessage
  message_injective : Function.Injective message
  stored : Persistence → OrderedMap String α
  store : Persistence → OrderedMap String α → Persistence
  stored_empty : stored .empty = .empty
  stored_store : ∀ p m, stored (store p m) = m
  store_store : ∀ p m n, store (store p m) n = store p n
  store_stored : ∀ p, store p (stored p) = p

def attributeKind : EntryKind Attribute where
  name := Attribute.name
  message := .attributeRegistration
  message_injective _ _ h := DataMessage.attributeRegistration.inj h
  stored := Persistence.attributes
  store p m := { p with attributes := m }
  stored_empty := rfl
  stored_store _ _ := rfl
  store_store _ _ _ := rfl
  store_stored _ := rfl

def parameterKind : EntryKind Parameter where
  name parameter := parameter.1.text
  message := .parametersUpdate
  message_injective _ _ h := DataMessage.parametersUpdate.inj h
  stored := Persistence.parameters
  store p m := { p with parameters := m }
  stored_empty := rfl
  stored_store _ _ := rfl
  store_store _ _ _ := rfl
  store_stored _ := rfl

namespace DataService

variable {ρ α : Type} (ctx : DataContext) (kind : EntryKind α) (svc : DataService ρ)

/-- The persistence's `put` of an entry, under the key of its device and name. -/
def putEntry (deviceKey : String) (entry : α) : DataService ρ :=
  { svc with
    persistence := kind.store svc.persistence
      ((kind.stored svc.persistence).insert (makePersistenceKey deviceKey (kind.name entry)) entry) }

/-- The lambda that deletes what has been published. -/
def deleteAll (deviceKey : String) (entries : List α) : DataService ρ :=
  { svc with
    persistence := kind.store svc.persistence
      ((entries.map fun entry => makePersistenceKey deviceKey (kind.name entry)).foldl
        OrderedMap.erase (kind.stored svc.persistence)) }

/-- The entries of all devices, grouped up by device. -/
def groups (p : Persistence) : OrderedMap String (List α) :=
  OrderedMap.groupBy (fun entry => deviceOf entry.1) Prod.snd (kind.stored p).entries

/-- The loop that sends a message out for all devices. It is over when a message cannot be made. -/
def publishGroups : List (String × List α) → DataService ρ → DataService ρ
  | [], svc => svc
  | (deviceKey, entries) :: rest, svc =>
    match svc.send ctx deviceKey (kind.message entries) with
    | (.unserialisable, svc) => svc.deleteAll kind deviceKey entries
    | (.published, svc) => publishGroups rest (svc.deleteAll kind deviceKey entries)
    | (.refused, svc) => publishGroups rest svc

def publishEntries : DataService ρ :=
  publishGroups ctx kind (groups kind svc.persistence).entries svc

/-- The entries of one device. -/
def entriesOf (p : Persistence) (deviceKey : String) : List α :=
  ((kind.stored p).entries.filter fun entry => deviceOf entry.1 = deviceKey).map Prod.snd

def publishEntriesOf (deviceKey : String) : DataService ρ :=
  let entries := entriesOf kind svc.persistence deviceKey
  if entries = [] then svc
  else
    match svc.send ctx deviceKey (kind.message entries) with
    | (.refused, svc) => svc
    | (_, svc) => svc.deleteAll kind deviceKey entries

def addAttribute (deviceKey : String) (entry : Attribute) : DataService ρ :=
  svc.putEntry attributeKind deviceKey entry

def updateParameter (deviceKey : String) (parameter : Parameter) : DataService ρ :=
  svc.putEntry parameterKind deviceKey parameter

/-- `publishAttributes()`. -/
def publishAttributes : DataService ρ := svc.publishEntries ctx attributeKind

/-- `publishAttributes(deviceKey)`. -/
def publishAttributesOf (deviceKey : String) : DataService ρ :=
  svc.publishEntriesOf ctx attributeKind deviceKey

/-- `publishParameters()`. -/
def publishParameters : DataService ρ := svc.publishEntries ctx parameterKind

/-- `publishParameters(deviceKey)`. -/
def publishParametersOf (deviceKey : String) : DataService ρ :=
  svc.publishEntriesOf ctx parameterKind deviceKey

end DataService

/-! ## Requests and their responses -/

structure DetailsSynchronizationResponseMessage where
  feeds : List String
  attributes : List String
  deriving DecidableEq

/-- Whether these are the values that the subscription waits for: as many, and all the names. -/
def ParameterSubscription.awaits {ρ : Type} (subscription : ParameterSubscription ρ)
    (values : List Parameter) : Bool :=
  values.length = subscription.parameters.length ∧
    subscription.parameters.all fun name => values.any fun parameter => parameter.1 = name

namespace DataService

variable {ρ : Type} (ctx : DataContext) (svc : DataService ρ)

/-- `m_parameterSubscriptions.emplace(m_iterator++, ...)`. -/
def subscribe (parameters : List ParameterName) (callback : ρ) : DataService ρ :=
  { svc with
    iterator := (svc.iterator + 1) % 2 ^ 64
    parameterSubscriptions :=
      svc.parameterSubscriptions.emplace svc.iterator ⟨parameters, callback⟩ }

def synchronizeParameters (deviceKey : String) (parameters : List ParameterName)
    (callback : Option ρ) : Bool × DataService ρ :=
  let sent := svc.send ctx deviceKey (.synchronizeParameters parameters)
  if sent.1 = .published then
    match callback with
    | some callback => (true, sent.2.subscribe parameters callback)
    | none => (true, sent.2)
  else (false, sent.2)

def pushCallback (callback : ρ) : DataService ρ :=
  { svc with detailsCallbacks := svc.detailsCallbacks ++ [callback] }

/-- The retry handler takes every message that is handed to it. -/
def addMessage (deviceKey : String) : DataService ρ :=
  { svc with
    sends := svc.sends ++ [⟨deviceKey, .detailsSynchronizationRequest, .published⟩] }

def detailsSynchronizationAsync (deviceKey : String) (callback : Option ρ) : Bool × DataService ρ :=
  if ctx.makeOutboundMessage svc.sends.length deviceKey .detailsSynchronizationRequest then
    match callback with
    | some callback => (true, (svc.addMessage deviceKey).pushCallback callback)
    | none => (true, svc.addMessage deviceKey)
  else
    (false, { svc with
      sends := svc.sends ++ [⟨deviceKey, .detailsSynchronizationRequest, .unserialisable⟩] })

def pushCommand (command : DataCommand ρ) : DataService ρ :=
  { svc with commandBuffer := svc.commandBuffer ++ [command] }

/-- The first subscription of the map that waits for the values, with its place. -/
def findSubscription (values : List Parameter) : Option (Nat × ParameterSubscription ρ) :=
  svc.parameterSubscriptions.entries.find? fun entry => entry.2.awaits values

def checkIfSubscriptionIsWaiting (deviceKey : String) (values : List Parameter) :
    Bool × DataService ρ :=
  match svc.findSubscription values with
  | none => (false, svc)
  | some (iterator, subscription) =>
    let svc :=
      { svc with parameterSubscriptions := svc.parameterSubscriptions.erase iterator }
    (true, svc.pushCommand (.parameters subscription.callback deviceKey values))

def checkIfCallbackIsWaiting (deviceKey : String)
    (message : DetailsSynchronizationResponseMessage) : Bool × DataService ρ :=
  match svc.detailsCallbacks with
  | [] => (false, svc)
  | callback :: rest =>
    let svc := svc.pushCommand (.details callback deviceKey message.feeds message.attributes)
    (true, { svc with detailsCallbacks := rest })

/-- A message as the protocol parses it. -/
inductive Inbound
  | feedValues (readings : List (Nat × List Reading))
  | parameterSync (values : List Parameter)
  | detailsSynchronizationResponse (message : DetailsSynchronizationResponseMessage)
  /-- Null, of another type, or not to be parsed. -/
  | other
  deriving DecidableEq

def messageReceived (deviceKey : String) (message : Inbound) : DataService ρ :=
  if deviceKey = "" then svc
  else
    match message with
    | .feedValues readings =>
      if ctx.feedUpdateHandler then
        { svc with handled := svc.handled ++ [.feedUpdate deviceKey readings] }
      else svc
    | .parameterSync values =>
      let (waiting, svc) := svc.checkIfSubscriptionIsWaiting deviceKey values
      if waiting then svc
      else if ctx.parameterSyncHandler then
        { svc with handled := svc.handled ++ [.parameterSync deviceKey values] }
      else svc
    | .detailsSynchronizationResponse response =>
      let (waiting, svc) := svc.checkIfCallbackIsWaiting deviceKey response
      if waiting then svc
      else if ctx.detailsSyncHandler then
        { svc with
          handled := svc.handled ++ [.detailsSync deviceKey response.feeds response.attributes] }
      else svc
    | .other => svc

end DataService

end WolkConnect
