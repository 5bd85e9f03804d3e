import WolkConnect.Builder.Use
import WolkConnect.Connection.Attempts
import WolkConnect.Data.Operations

/-!
# A connector and its data

`WolkInterface.cpp`, `WolkSingle.cpp` and `WolkMulti.cpp`, with one command buffer for the
connection, for what is asked of the data service, and for what it hands on to the handlers.
A step is a call of one thread or one command of the buffer.
-/

namespace WolkConnect

/-! ## Feeds -/

/-- The messages of `DataService.cpp` that are about feeds, and the one that pulls parameters. -/
inductive FeedMessage (φ : Type)
  | feedRegistration (feeds : List φ)
  | feedRemoval (references : List String)
  | pullFeedValues
  | parametersPull
  deriving DecidableEq

structure FeedSend (φ : Type) where
  deviceKey : String
  message : FeedMessage φ
  outcome : Outcome
  deriving DecidableEq

/-- The protocol and the connectivity service, as `DataContext` has them. -/
structure FeedContext (φ : Type) where
  makeOutboundMessage : Nat → String → FeedMessage φ → Bool
  publish : Nat → String → FeedMessage φ → Bool

/-- The attempts to send these messages. -/
structure FeedSends (φ : Type) where
  sends : List (FeedSend φ)

namespace FeedSends

variable {φ : Type} (ctx : FeedContext φ) (f : FeedSends φ) (deviceKey : String)

def send (message : FeedMessage φ) : FeedSends φ :=
  let outcome : Outcome :=
    if ctx.makeOutboundMessage f.sends.length deviceKey message then
      if ctx.publish f.sends.length deviceKey message then .published else .refused
    else .unserialisable
  ⟨f.sends ++ [⟨deviceKey, message, outcome⟩]⟩

def registerFeeds (feeds : List φ) : FeedSends φ := f.send ctx deviceKey (.feedRegistration feeds)

def registerFeed (feed : φ) : FeedSends φ := f.registerFeeds ctx deviceKey [feed]

def removeFeeds (feeds : List String) : FeedSends φ := f.send ctx deviceKey (.feedRemoval feeds)

def removeFeed (reference : String) : FeedSends φ := f.removeFeeds ctx deviceKey [reference]

def pullFeedValues : FeedSends φ := f.send ctx deviceKey .pullFeedValues

def pullParameters : FeedSends φ := f.send ctx deviceKey .parametersPull

end FeedSends

/-! ## Handlers -/

/-- A handler of feed updates or of parameters: a weak pointer, which is empty once its object is
gone, or a lambda. -/
structure Handler (η : Type) where
  provider : Option η
  lambda : Option η

/-- The two setters of the builder. -/
inductive HandlerSetting (η : Type)
  | lambda (lambda : Option η)
  | provider (provider : Option η)

namespace Handler

variable {η : Type}

def unset : Handler η := ⟨none, none⟩

def set (_ : Handler η) : HandlerSetting η → Handler η
  | .lambda lambda => ⟨none, lambda⟩
  | .provider provider => ⟨provider, none⟩

/-- The one that is called, if any. -/
def target (handler : Handler η) : Option η :=
  match handler.provider with
  | some provider => some provider
  | none => handler.lambda

def expire (handler : Handler η) : Handler η := { handler with provider := none }

end Handler

/-! ## Commands -/

/-- What a command asks of the data service for one device. -/
inductive DataRequest (ρ φ : Type)
  | addReading (reading : Reading)
  | addReadings (readings : List Reading)
  | pullFeedValues
  | pullParameters
  | synchronizeParameters (parameters : List ParameterName) (callback : Option ρ)
  | obtainDetails (callback : Option ρ)
  | registerFeed (feed : φ)
  | registerFeeds (feeds : List φ)
  | removeFeed (reference : String)
  | removeFeeds (references : List String)
  | addAttribute (entry : Attribute)
  | updateParameter (parameter : Parameter)

inductive ConnectorCommand (ρ φ : Type)
  | connection (command : ConnectionCommand)
  | data (deviceKey : String) (request : DataRequest ρ φ)
  | feedUpdate (deviceKey : String) (readings : List (Nat × List Reading))
  | parameterSync (deviceKey : String) (values : List Parameter)

/-- What a connector knows of its firmware update service. A listener for parameters has the callback
that `obtainParametersAndAnnounce` makes, and an installer has none. -/
structure FirmwareModule (ρ : Type) where
  getVersionForDevice : String → String
  parametersCallback : Option ρ

/-- What a connector knows of its optional services. -/
structure ConnectorServices (ρ : Type) where
  fileTransferEnabled : Bool
  fileTransferUrlEnabled : Bool
  firmwareUpdate : Option (FirmwareModule ρ)

structure Connector (ρ φ η : Type) (type : WolkInterfaceType) where
  devices : type.Devices
  services : ConnectorServices ρ
  feedUpdateHandler : Handler η
  parameterHandler : Handler η
  connected : Bool
  connectionStatusListener : Bool
  dataService : DataService ρ
  feeds : FeedSends φ
  commandBuffer : List (ConnectorCommand ρ φ)
  /-- The calls about the connection, and what came of them. -/
  calls : List ConnectionCall
  actions : List ConnectionAction
  /-- The calls that the data service got. -/
  performed : List (DataOperation ρ)
  /-- What was handed on, each with the handler that got it. -/
  handed : List (Option η × HandlerCall)

/-- The protocol and the connectivity service. -/
structure ConnectorContext (φ : Type) where
  data : DataContext
  feeds : FeedContext φ

/-- The builder gives all three handlers to the data service. -/
def ConnectorContext.built {φ : Type} (ctx : ConnectorContext φ) : DataContext :=
  { ctx.data with feedUpdateHandler := true, parameterSyncHandler := true, detailsSyncHandler := true }

namespace Connector

section
variable {ρ φ η : Type} {type : WolkInterfaceType} (ctx : ConnectorContext φ)
  (w : Connector ρ φ η type) (deviceKey : String)

/-! ### The command buffer -/

def addToCommandBuffer (command : ConnectorCommand ρ φ) : Connector ρ φ η type :=
  { w with commandBuffer := w.commandBuffer ++ [command] }

def act (action : ConnectionAction) : Connector ρ φ η type :=
  { w with actions := w.actions ++ [action] }

def tryConnect (call : Nat) (firstTime : Bool) : Connector ρ φ η type :=
  w.addToCommandBuffer (.connection (.tryConnect call firstTime))

def connect : Connector ρ φ η type :=
  { w.tryConnect w.calls.length true with calls := w.calls ++ [.connect w.calls.length] }

def disconnect : Connector ρ φ η type :=
  { w.addToCommandBuffer (.connection (.disconnect w.calls.length)) with
    calls := w.calls ++ [.disconnect w.calls.length] }

def publish : Connector ρ φ η type := w.addToCommandBuffer (.connection .publish)

def notifyConnectionStatusListener : Connector ρ φ η type :=
  if w.connectionStatusListener then w.addToCommandBuffer (.connection .connectionStatusListener)
  else w

def notifyDisconnected : Connector ρ φ η type :=
  ({ w with connected := false } : Connector ρ φ η type).notifyConnectionStatusListener

/-- The lambda that the builder gives to the connectivity service. -/
def onConnectionLost : Connector ρ φ η type := w.notifyDisconnected.connect

def handleFeedUpdateCommand (readings : List (Nat × List Reading)) : Connector ρ φ η type :=
  w.addToCommandBuffer (.feedUpdate deviceKey readings)

def handleParameterCommand (values : List Parameter) : Connector ρ φ η type :=
  w.addToCommandBuffer (.parameterSync deviceKey values)

/-- The lambdas that the builder gives to the data service. The one for details only logs them. -/
def handle (w : Connector ρ φ η type) : HandlerCall → Connector ρ φ η type
  | .feedUpdate deviceKey readings => w.handleFeedUpdateCommand deviceKey readings
  | .parameterSync deviceKey values => w.handleParameterCommand deviceKey values
  | .detailsSync _ _ _ => w

/-! ### The data service -/

def perform (op : DataOperation ρ) : Connector ρ φ η type :=
  { w with dataService := w.dataService.perform ctx.built op, performed := w.performed ++ [op] }

/-- A message that the data service gets, with the calls of its handlers. -/
def messageReceived (message : DataService.Inbound) : Connector ρ φ η type :=
  let w' := w.perform ctx (.messageReceived deviceKey message)
  (w'.dataService.handled.drop w.dataService.handled.length).foldl handle w'

def executeRequest : DataRequest ρ φ → Connector ρ φ η type
  | .addReading reading => w.perform ctx (.addReading deviceKey reading)
  | .addReadings readings => w.perform ctx (.addReadings deviceKey readings)
  | .pullFeedValues => { w with feeds := w.feeds.pullFeedValues ctx.feeds deviceKey }
  | .pullParameters => { w with feeds := w.feeds.pullParameters ctx.feeds deviceKey }
  | .synchronizeParameters parameters callback =>
    w.perform ctx (.synchronizeParameters deviceKey parameters callback)
  | .obtainDetails callback => w.perform ctx (.detailsSynchronizationAsync deviceKey callback)
  | .registerFeed feed => { w with feeds := w.feeds.registerFeed ctx.feeds deviceKey feed }
  | .registerFeeds feeds => { w with feeds := w.feeds.registerFeeds ctx.feeds deviceKey feeds }
  | .removeFeed reference => { w with feeds := w.feeds.removeFeed ctx.feeds deviceKey reference }
  | .removeFeeds references => { w with feeds := w.feeds.removeFeeds ctx.feeds deviceKey references }
  | .addAttribute entry => w.perform ctx (.addAttribute deviceKey entry)
  | .updateParameter parameter => w.perform ctx (.updateParameter deviceKey parameter)

def flushAttributes : Connector ρ φ η type := w.perform ctx .publishAttributes

def flushReadings : Connector ρ φ η type := w.perform ctx .publishReadings

def flushParameters : Connector ρ φ η type := w.perform ctx .publishParameters

/-! ### What is reported about a device -/

def updateParameter (name : ParameterName) (value : String) : Connector ρ φ η type :=
  w.perform ctx (.updateParameter deviceKey (name, value))

def reportFileManagementParametersForDevice : Connector ρ φ η type :=
  let w := w.updateParameter ctx deviceKey .fileTransferPlatformEnabled
    (Wolk.flagText w.services.fileTransferEnabled)
  w.updateParameter ctx deviceKey .fileTransferUrlEnabled
    (Wolk.flagText w.services.fileTransferUrlEnabled)

def reportFirmwareUpdateParametersForDevice : Connector ρ φ η type :=
  let firmwareVersion := match w.services.firmwareUpdate with
    | some firmware => firmware.getVersionForDevice deviceKey
    | none => ""
  let w := w.updateParameter ctx deviceKey .firmwareUpdateEnabled
    (Wolk.flagText w.services.firmwareUpdate.isSome)
  w.updateParameter ctx deviceKey .firmwareVersion firmwareVersion

/-- The part of `reportFirmwareUpdateForDevice` about the data service. -/
def obtainParametersAndAnnounce : Connector ρ φ η type :=
  match w.services.firmwareUpdate.bind FirmwareModule.parametersCallback with
  | none => w
  | some callback =>
    w.perform ctx (.synchronizeParameters deviceKey
      [.firmwareUpdateRepository, .firmwareUpdateCheckTime] (some callback))

/-! ### Executing commands -/

/-- `WolkSingle` announces its device, and `WolkMulti` all that are in its list. -/
def notifyConnected : Connector ρ φ η type :=
  let w := ({ w with connected := true } : Connector ρ φ η type).notifyConnectionStatusListener.publish
  (type.keys w.devices).foldl (fun w key => w.obtainParametersAndAnnounce ctx key) w

def executeConnection (success : Bool) : ConnectionCommand → Connector ρ φ η type
  | .tryConnect call firstTime =>
    let w := w.act (.connect call firstTime success)
    if success then w.notifyConnected ctx else w.tryConnect call false
  | .disconnect call => (w.act (.disconnect call)).notifyDisconnected
  | .publish => (((w.act .flush).flushAttributes ctx).flushReadings ctx).flushParameters ctx
  | .connectionStatusListener =>
    if w.connectionStatusListener then w.act (.connectionStatus w.connected) else w

def hand (handler : Handler η) (call : HandlerCall) : Connector ρ φ η type :=
  { w with handed := w.handed ++ [(handler.target, call)] }

def executeCommand (success : Bool) : ConnectorCommand ρ φ → Connector ρ φ η type
  | .connection command => w.executeConnection ctx success command
  | .data deviceKey request => w.executeRequest ctx deviceKey request
  | .feedUpdate deviceKey readings => w.hand w.feedUpdateHandler (.feedUpdate deviceKey readings)
  | .parameterSync deviceKey values => w.hand w.parameterHandler (.parameterSync deviceKey values)

/-- Should the command be an attempt to connect, `success` is what comes of it. -/
def execute (success : Bool) : Connector ρ φ η type :=
  match w.commandBuffer with
  | [] => w
  | command :: rest => { w with commandBuffer := rest }.executeCommand ctx success command

/-- What happens to the connection, or is asked of it. -/
def link (w : Connector ρ φ η type) : LinkEvent → Connector ρ φ η type
  | .event .connect => w.connect
  | .event .disconnect => w.disconnect
  | .event .publish => w.publish
  | .event (.setConnectionStatusListener listener) => { w with connectionStatusListener := listener }
  | .event (.execute success) => w.execute ctx success
  | .connectionLost => w.onConnectionLost

/-! ### Building -/

/-- What `WolkBuilder::build` leaves to begin with. -/
def create (services : ConnectorServices ρ) (feedUpdateHandler parameterHandler : Handler η)
    (devices : type.Devices) : Connector ρ φ η type where
  devices := devices
  services := services
  feedUpdateHandler := feedUpdateHandler
  parameterHandler := parameterHandler
  connected := false
  connectionStatusListener := false
  dataService := .create .empty
  feeds := ⟨[]⟩
  commandBuffer := []
  calls := []
  actions := []
  performed := []
  handed := []

/-- The two loops over the devices of the builder. -/
def build (services : ConnectorServices ρ) (feedUpdateHandler parameterHandler : Handler η)
    (devices : type.Devices) : Connector ρ φ η type :=
  let w := (type.keys devices).foldl
    (fun w key => w.reportFileManagementParametersForDevice ctx key)
    (create services feedUpdateHandler parameterHandler devices)
  (type.keys devices).foldl (fun w key => w.reportFirmwareUpdateParametersForDevice ctx key) w

end

/-- The time that a reading without one gets. -/
def orCurrentRtc (rtc currentRtc : Nat) : Nat := if rtc = 0 then currentRtc else rtc

end Connector

/-! ## Calls of `WolkSingle` -/

namespace WolkSingle

open Connector

variable {ρ φ η : Type} (w : Connector ρ φ η .singleDevice)

def request (request : DataRequest ρ φ) : Connector ρ φ η .singleDevice :=
  w.addToCommandBuffer (.data w.devices.key request)

/-- `addReading` with a value. -/
def addReadingValue (reference value : String) (rtc currentRtc : Nat) :
    Connector ρ φ η .singleDevice :=
  request w (.addReading ⟨reference, [value], orCurrentRtc rtc currentRtc⟩)

/-- `addReading` with several values. -/
def addReadingValues (reference : String) (values : List String) (rtc currentRtc : Nat) :
    Connector ρ φ η .singleDevice :=
  request w (.addReading ⟨reference, values, orCurrentRtc rtc currentRtc⟩)

def addReading (reading : Reading) : Connector ρ φ η .singleDevice := request w (.addReading reading)

def addReadings (readings : List Reading) : Connector ρ φ η .singleDevice :=
  request w (.addReadings readings)

def pullFeedValues : Connector ρ φ η .singleDevice := request w .pullFeedValues

def pullParameters : Connector ρ φ η .singleDevice := request w .pullParameters

def synchronizeParameters (parameters : List ParameterName) (callback : Option ρ) :
    Connector ρ φ η .singleDevice :=
  request w (.synchronizeParameters parameters callback)

def obtainDetails (callback : Option ρ) : Connector ρ φ η .singleDevice :=
  request w (.obtainDetails callback)

def registerFeed (feed : φ) : Connector ρ φ η .singleDevice := request w (.registerFeed feed)

def registerFeeds (feeds : List φ) : Connector ρ φ η .singleDevice := request w (.registerFeeds feeds)

def removeFeed (reference : String) : Connector ρ φ η .singleDevice :=
  request w (.removeFeed reference)

def removeFeeds (references : List String) : Connector ρ φ η .singleDevice :=
  request w (.removeFeeds references)

def addAttribute (entry : Attribute) : Connector ρ φ η .singleDevice :=
  request w (.addAttribute entry)

def updateParameter (parameter : Parameter) : Connector ρ φ η .singleDevice :=
  request w (.updateParameter parameter)

end WolkSingle

/-! ## Calls of `WolkMulti` -/

namespace WolkMulti

open Connector

variable {ρ φ η : Type} (ctx : ConnectorContext φ) (w : Connector ρ φ η .multiDevice)
  (deviceKey : String)

def isDeviceInList : Bool := w.devices.any fun device => decide (device.key = deviceKey)

/-- Readings are taken for any device: the check would be made too often. -/
def requestUnchecked (request : DataRequest ρ φ) : Connector ρ φ η .multiDevice :=
  w.addToCommandBuffer (.data deviceKey request)

def request (request : DataRequest ρ φ) : Connector ρ φ η .multiDevice :=
  if isDeviceInList w deviceKey then requestUnchecked w deviceKey request else w

/-- `addReading` with a value. -/
def addReadingValue (reference value : String) (rtc currentRtc : Nat) :
    Connector ρ φ η .multiDevice :=
  requestUnchecked w deviceKey (.addReading ⟨reference, [value], orCurrentRtc rtc currentRtc⟩)

/-- `addReading` with several values. -/
def addReadingValues (reference : String) (values : List String) (rtc currentRtc : Nat) :
    Connector ρ φ η .multiDevice :=
  requestUnchecked w deviceKey (.addReading ⟨reference, values, orCurrentRtc rtc currentRtc⟩)

def addReading (reading : Reading) : Connector ρ φ η .multiDevice :=
  requestUnchecked w deviceKey (.addReading reading)

def addReadings (readings : List Reading) : Connector ρ φ η .multiDevice :=
  requestUnchecked w deviceKey (.addReadings readings)

def pullFeedValues : Connector ρ φ η .multiDevice := request w deviceKey .pullFeedValues

def pullParameters : Connector ρ φ η .multiDevice := request w deviceKey .pullParameters

def registerFeed (feed : φ) : Connector ρ φ η .multiDevice := request w deviceKey (.registerFeed feed)

def registerFeeds (feeds : List φ) : Connector ρ φ η .multiDevice :=
  request w deviceKey (.registerFeeds feeds)

def removeFeed (reference : String) : Connector ρ φ η .multiDevice :=
  request w deviceKey (.removeFeed reference)

def removeFeeds (references : List String) : Connector ρ φ η .multiDevice :=
  request w deviceKey (.removeFeeds references)

def addAttribute (entry : Attribute) : Connector ρ φ η .multiDevice :=
  request w deviceKey (.addAttribute entry)

def updateParameter (parameter : Parameter) : Connector ρ φ η .multiDevice :=
  request w deviceKey (.updateParameter parameter)

/-- Its parameters are reported at once, past the command buffer. -/
def addDevice (device : Device) : Connector ρ φ η .multiDevice :=
  if isDeviceInList w device.key then w
  else
    let w : Connector ρ φ η .multiDevice := { w with devices := w.devices ++ [device] }
    let w := w.reportFileManagementParametersForDevice ctx device.key
    let w := w.reportFirmwareUpdateParametersForDevice ctx device.key
    if w.connected then
      (w.perform ctx (.publishParametersOf device.key)).obtainParametersAndAnnounce ctx device.key
    else w

end WolkMulti

/-! ## Runs -/

/-- The calls that both connectors have, for a device. -/
inductive DataClientCall (φ : Type)
  | addReadingValue (reference value : String) (rtc currentRtc : Nat)
  | addReadingValues (reference : String) (values : List String) (rtc currentRtc : Nat)
  | addReading (reading : Reading)
  | addReadings (readings : List Reading)
  | pullFeedValues
  | pullParameters
  | registerFeed (feed : φ)
  | registerFeeds (feeds : List φ)
  | removeFeed (reference : String)
  | removeFeeds (references : List String)
  | addAttribute (entry : Attribute)
  | updateParameter (parameter : Parameter)

def WolkSingle.call {ρ φ η : Type} (w : Connector ρ φ η .singleDevice) :
    DataClientCall φ → Connector ρ φ η .singleDevice
  | .addReadingValue reference value rtc currentRtc => addReadingValue w reference value rtc currentRtc
  | .addReadingValues reference values rtc currentRtc =>
    addReadingValues w reference values rtc currentRtc
  | .addReading reading => addReading w reading
  | .addReadings readings => addReadings w readings
  | .pullFeedValues => pullFeedValues w
  | .pullParameters => pullParameters w
  | .registerFeed feed => registerFeed w feed
  | .registerFeeds feeds => registerFeeds w feeds
  | .removeFeed reference => removeFeed w reference
  | .removeFeeds references => removeFeeds w references
  | .addAttribute entry => addAttribute w entry
  | .updateParameter parameter => updateParameter w parameter

def WolkMulti.call {ρ φ η : Type} (w : Connector ρ φ η .multiDevice) (deviceKey : String) :
    DataClientCall φ → Connector ρ φ η .multiDevice
  | .addReadingValue reference value rtc currentRtc =>
    addReadingValue w deviceKey reference value rtc currentRtc
  | .addReadingValues reference values rtc currentRtc =>
    addReadingValues w deviceKey reference values rtc currentRtc
  | .addReading reading => addReading w deviceKey reading
  | .addReadings readings => addReadings w deviceKey readings
  | .pullFeedValues => pullFeedValues w deviceKey
  | .pullParameters => pullParameters w deviceKey
  | .registerFeed feed => registerFeed w deviceKey feed
  | .registerFeeds feeds => registerFeeds w deviceKey feeds
  | .removeFeed reference => removeFeed w deviceKey reference
  | .removeFeeds references => removeFeeds w deviceKey references
  | .addAttribute entry => addAttribute w deviceKey entry
  | .updateParameter parameter => updateParameter w deviceKey parameter

inductive WolkClientEvent (ρ φ : Type) : WolkInterfaceType → Type
  | link {type : WolkInterfaceType} (e : LinkEvent) : WolkClientEvent ρ φ type
  | messageReceived {type : WolkInterfaceType} (deviceKey : String)
    (message : DataService.Inbound) : WolkClientEvent ρ φ type
  /-- The data service's own command buffer takes out its first command. -/
  | runCommand {type : WolkInterfaceType} : WolkClientEvent ρ φ type
  | feedUpdateHandlerExpired {type : WolkInterfaceType} : WolkClientEvent ρ φ type
  | parameterHandlerExpired {type : WolkInterfaceType} : WolkClientEvent ρ φ type
  | single (call : DataClientCall φ) : WolkClientEvent ρ φ .singleDevice
  | synchronizeParameters (parameters : List ParameterName) (callback : Option ρ) :
    WolkClientEvent ρ φ .singleDevice
  | obtainDetails (callback : Option ρ) : WolkClientEvent ρ φ .singleDevice
  | multi (deviceKey : String) (call : DataClientCall φ) : WolkClientEvent ρ φ .multiDevice
  /-- Also what a registration service does for each device that got registered. -/
  | addDevice (device : Device) : WolkClientEvent ρ φ .multiDevice

def Connector.after {ρ φ η : Type} (ctx : ConnectorContext φ) {type : WolkInterfaceType}
    (w : Connector ρ φ η type) (e : WolkClientEvent ρ φ type) : Connector ρ φ η type :=
  match type, w, e with
  | _, w, .link e => w.link ctx e
  | _, w, .messageReceived deviceKey message => w.messageReceived ctx deviceKey message
  | _, w, .runCommand => w.perform ctx .runCommand
  | _, w, .feedUpdateHandlerExpired => { w with feedUpdateHandler := w.feedUpdateHandler.expire }
  | _, w, .parameterHandlerExpired => { w with parameterHandler := w.parameterHandler.expire }
  | _, w, .single call => WolkSingle.call w call
  | _, w, .synchronizeParameters parameters callback =>
    WolkSingle.synchronizeParameters w parameters callback
  | _, w, .obtainDetails callback => WolkSingle.obtainDetails w callback
  | _, w, .multi deviceKey call => WolkMulti.call w deviceKey call
  | _, w, .addDevice device => WolkMulti.addDevice ctx w device

def Connector.step {ρ φ η : Type} (ctx : ConnectorContext φ) {type : WolkInterfaceType}
    (w : Connector ρ φ η type) (e : WolkClientEvent ρ φ type) :
    Except Empty (Connector ρ φ η type) := .ok (w.after ctx e)

end WolkConnect
