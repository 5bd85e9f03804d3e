import WolkConnect.Data.Model
import WolkConnect.Firmware.System
import WolkConnect.Registration.Model
import WolkConnect.Service.Model

/-!
# The builder and the connectors

`WolkBuilder.cpp`, `WolkSingle.cpp`, `WolkMulti.cpp`. The calls of the builder decide which
of the optional services a connector has. The others are null pointers.
-/

namespace WolkConnect

/-! ## Pointers -/

inductive NullPointer
  | registrationService | fileManagementService | firmwareUpdateService | platformStatusService
  | firmwareInstaller | firmwareParametersListener
  deriving DecidableEq, Repr

inductive WolkFault
  | dereferenced (pointer : NullPointer)
  | runtimeError (what : String)
  deriving DecidableEq, Repr

namespace NullPointer

variable {α : Type} (pointer : NullPointer) (p : Option α) (f : α → α)

/-- `p->`. -/
def arrow : Except WolkFault α :=
  match p with
  | some a => .ok a
  | none => .error (.dereferenced pointer)

/-- `p->f()`. -/
def call : Except WolkFault (Option α) := do
  let a ← pointer.arrow p
  .ok (some (f a))

/-- `if (p != nullptr) p->f();`. -/
def callIfPresent : Except WolkFault (Option α) :=
  if p.isSome then pointer.call p f else .ok p

end NullPointer

/-! ## The firmware update service, and its module -/

structure FirmwareParametersListener where
  getFirmwareVersion : String

/-- `getVersionForDevice`, which the builder has too. -/
def getFirmwareVersion (firmwareInstaller : Option FirmwareInstaller)
    (firmwareParametersListener : Option FirmwareParametersListener) (deviceKey : String) :
    Except WolkFault String :=
  if firmwareInstaller.isSome then do
    let installer ← NullPointer.firmwareInstaller.arrow firmwareInstaller
    .ok (installer.getFirmwareVersion deviceKey)
  else if firmwareParametersListener.isSome then do
    let listener ← NullPointer.firmwareParametersListener.arrow firmwareParametersListener
    .ok listener.getFirmwareVersion
  else .ok ""

/-- `synchronized` has the devices whose firmware parameters the data service was asked for. -/
structure FirmwareUpdater where
  svc : FirmwareUpdateService
  firmwareInstaller : Option FirmwareInstaller
  firmwareParametersListener : Option FirmwareParametersListener
  synchronized : List String

namespace FirmwareUpdater

variable (u : FirmwareUpdater) (fctx : FirmwareContext) (deviceKey : String)

def isInstaller : Bool := u.firmwareInstaller.isSome

def isParameterListener : Bool := u.firmwareParametersListener.isSome

def getVersionForDevice : Except WolkFault String :=
  getFirmwareVersion u.firmwareInstaller u.firmwareParametersListener deviceKey

def loadState : FirmwareUpdater :=
  { u with svc := u.svc.loadState { fctx with firmwareInstaller := u.firmwareInstaller } deviceKey }

def obtainParametersAndAnnounce : FirmwareUpdater :=
  if u.isParameterListener then { u with synchronized := u.synchronized ++ [deviceKey] } else u

def publishQueue : FirmwareUpdater := { u with svc := u.svc.publishQueue }

/-- The part of `WolkSingle::notifyConnected` about the service. -/
def notifyConnected : FirmwareUpdater :=
  if u.isInstaller then u.publishQueue
  else if u.isParameterListener then u.obtainParametersAndAnnounce deviceKey
  else u

/-- The part of `WolkMulti::reportFirmwareUpdateForDevice` about the service. -/
def reportFirmwareUpdate : FirmwareUpdater :=
  if u.isInstaller then (u.loadState fctx deviceKey).publishQueue
  else if u.isParameterListener then u.obtainParametersAndAnnounce deviceKey
  else u

/-- `messageReceived` with a `FirmwareUpdateInstall` message. `messagePath` is the path that is made
of the file in it. -/
def onFirmwareInstall (messagePath : Except WolkFault String) : Except WolkFault FirmwareUpdater :=
  if u.isInstaller then
    if u.svc.ongoing deviceKey then .ok u
    else do
      let path ← messagePath
      let installer ← NullPointer.firmwareInstaller.arrow u.firmwareInstaller
      let fctx := { fctx with firmwareInstaller := some installer, deviceFile := fun _ _ => path }
      .ok { u with svc := u.svc.onFirmwareInstall fctx deviceKey installer path }
  else .ok u

/-- `messageReceived` with a `FirmwareUpdateAbort` message. Tells whether the installer is asked. -/
def onFirmwareAbort : Except WolkFault Bool :=
  if u.isInstaller then
    if u.svc.ongoing deviceKey && u.firmwareInstaller.isSome then do
      let _ ← NullPointer.firmwareInstaller.arrow u.firmwareInstaller
      .ok true
    else .ok false
  else .ok false

end FirmwareUpdater

/-! ## The builder -/

structure Device where
  key : String
  password : String
  deriving DecidableEq

/-- The members that `build` looks at. Of a protocol or a listener there is only whether it is there,
and a file management protocol is there only when one of the two flags is on. -/
structure WolkBuilder (δ : Type) where
  devices : List Device
  fileManagementProtocol : Bool
  fileDownloadDirectory : String
  fileTransferEnabled : Bool
  fileTransferUrlEnabled : Bool
  fileDownloader : Option δ
  fileListener : Bool
  firmwareUpdateProtocol : Bool
  firmwareInstaller : Option FirmwareInstaller
  firmwareParametersListener : Option FirmwareParametersListener
  platformStatusProtocol : Bool
  platformStatusListener : Bool
  registrationProtocol : Bool
  enabled : fileManagementProtocol = true → fileTransferEnabled = true ∨ fileTransferUrlEnabled = true

/-- The setters that say nothing about an optional service. -/
inductive RequiredSetting
  | host | caCertPath | feedUpdateHandler | parameterHandler | withPersistence | withDataProtocol
  | withErrorProtocol

inductive BuilderCall (δ : Type)
  /-- What the caller makes of the devices it has a reference to. -/
  | getDevices (devices : List Device)
  | required (setting : RequiredSetting)
  | withFileTransfer (fileDownloadLocation : String)
  | withFileURLDownload (fileDownloadLocation : String) (fileDownloader : Option δ)
    (transferEnabled : Bool)
  | withFileListener (fileListener : Bool)
  /-- `withFirmwareUpdate` with an installer, and with a listener. -/
  | withFirmwareInstaller (firmwareInstaller : Option FirmwareInstaller)
  | withFirmwareParametersListener (firmwareParametersListener : Option FirmwareParametersListener)
  | withPlatformStatus (platformStatusListener : Bool)
  /-- Without a protocol, the builder makes one. -/
  | withRegistration (protocol : Bool)

namespace WolkBuilder

variable {δ : Type} (b : WolkBuilder δ)

def newBuilder (devices : List Device) : WolkBuilder δ where
  devices := devices
  fileManagementProtocol := false
  fileDownloadDirectory := ""
  fileTransferEnabled := false
  fileTransferUrlEnabled := false
  fileDownloader := none
  fileListener := false
  firmwareUpdateProtocol := false
  firmwareInstaller := none
  firmwareParametersListener := none
  platformStatusProtocol := false
  platformStatusListener := false
  registrationProtocol := false
  enabled := fun h => by cases h

def withFileTransfer (fileDownloadLocation : String) : WolkBuilder δ :=
  { b with
    fileManagementProtocol := true
    fileDownloadDirectory := fileDownloadLocation
    fileTransferEnabled := true
    fileTransferUrlEnabled := false
    fileDownloader := none
    enabled := fun _ => .inl rfl }

def withFileURLDownload (fileDownloadLocation : String) (fileDownloader : Option δ)
    (transferEnabled : Bool) : WolkBuilder δ :=
  { b with
    fileManagementProtocol := true
    fileDownloadDirectory := fileDownloadLocation
    fileTransferEnabled := if b.fileTransferEnabled then true else transferEnabled
    fileTransferUrlEnabled := true
    fileDownloader := fileDownloader
    enabled := fun _ => .inr rfl }

def withFirmwareInstaller (firmwareInstaller : Option FirmwareInstaller) : WolkBuilder δ :=
  { b with
    firmwareUpdateProtocol := true
    firmwareParametersListener := none
    firmwareInstaller := firmwareInstaller }

def withFirmwareParametersListener
    (firmwareParametersListener : Option FirmwareParametersListener) : WolkBuilder δ :=
  { b with
    firmwareUpdateProtocol := true
    firmwareInstaller := none
    firmwareParametersListener := firmwareParametersListener }

def withPlatformStatus (platformStatusListener : Bool) : WolkBuilder δ :=
  { b with platformStatusProtocol := true, platformStatusListener := platformStatusListener }

def withRegistration : WolkBuilder δ := { b with registrationProtocol := true }

def call (b : WolkBuilder δ) : BuilderCall δ → WolkBuilder δ
  | .getDevices devices => { b with devices := devices }
  | .required _ => b
  | .withFileTransfer location => b.withFileTransfer location
  | .withFileURLDownload location downloader transferEnabled =>
    b.withFileURLDownload location downloader transferEnabled
  | .withFileListener listener => { b with fileListener := listener }
  | .withFirmwareInstaller installer => b.withFirmwareInstaller installer
  | .withFirmwareParametersListener listener => b.withFirmwareParametersListener listener
  | .withPlatformStatus listener => b.withPlatformStatus listener
  | .withRegistration _ => b.withRegistration

end WolkBuilder

/-! ## The connectors -/

structure PlatformStatusService where
  listener : Bool

/-- What a connector asks of its registration service. -/
inductive RegistrationCall
  | start
  | registerDevices (deviceKey : String) (devices : List DeviceRegistrationData)
  | removeDevices (deviceKey : String) (deviceKeysToRemove : List String)
  | obtainDevices (deviceKey : String) (timestampFrom : Nat) (deviceType externalId : String)
    (timeout : Nat)
  | obtainDevicesAsync (deviceKey : String) (timestampFrom : Nat) (deviceType externalId : String)
  | obtainChildrenAsync (deviceKey : String)
  deriving DecidableEq

/-- The methods of both connectors that push a command for the data service. -/
inductive DataMethod
  | addReading | addReadings | pullFeedValues | pullParameters | registerFeed | registerFeeds
  | removeFeed | removeFeeds | addAttribute | updateParameter
  deriving DecidableEq

/-- What a connector asks of its data service: at once, or by a command. -/
inductive DataCall
  | updateParameter (deviceKey : String) (parameter : Parameter)
  | publishParameters (deviceKey : String)
  | command (deviceKey : String) (method : DataMethod)
  | synchronizeParameters (deviceKey : String) (parameters : List ParameterName)
  | detailsSynchronizationAsync (deviceKey : String)
  deriving DecidableEq

/-- `m_device` or `m_devices`. -/
abbrev WolkInterfaceType.Devices : WolkInterfaceType → Type
  | .singleDevice => Device
  | .multiDevice => List Device

/-- A connector, with what it asked of the data service, which is always there. Of the registration
service there is what it was asked. -/
structure Wolk (δ φ : Type) (type : WolkInterfaceType) where
  devices : type.Devices
  connected : Bool
  dataService : List DataCall
  fileManagementService : Option (FileManagementService δ φ)
  firmwareUpdateService : Option FirmwareUpdater
  platformStatusService : Option PlatformStatusService
  registrationService : Option (List RegistrationCall)

namespace Wolk

section
variable {δ μ φ : Type} {type : WolkInterfaceType} (ctx : Context δ μ φ) (fctx : FirmwareContext)
  (w : Wolk δ φ type) (deviceKey : String)

def create (devices : type.Devices) : Wolk δ φ type := ⟨devices, false, [], none, none, none, none⟩

def ask (call : DataCall) : Wolk δ φ type := { w with dataService := w.dataService ++ [call] }

def updateParameter (name : ParameterName) (value : String) : Wolk δ φ type :=
  w.ask (.updateParameter deviceKey (name, value))

/-- `flag ? "true" : "false"`. -/
def flagText (flag : Bool) : String := if flag then "true" else "false"

def reportFileTransferParameters (transferEnabled urlDownloadEnabled : Bool) : Wolk δ φ type :=
  (w.updateParameter deviceKey ⟨"FILE_TRANSFER_PLATFORM_ENABLED", by decide⟩
    (flagText transferEnabled)).updateParameter deviceKey ⟨"FILE_TRANSFER_URL_ENABLED", by decide⟩
      (flagText urlDownloadEnabled)

def reportFirmwareParameters (firmwareUpdateEnabled : Bool) (firmwareVersion : String) :
    Wolk δ φ type :=
  (w.updateParameter deviceKey ⟨"FIRMWARE_UPDATE_ENABLED", by decide⟩
    (flagText firmwareUpdateEnabled)).updateParameter deviceKey ⟨"FIRMWARE_VERSION", by decide⟩
      firmwareVersion

/-- `WolkInterface::notifyConnected`, but for the commands that it pushes. -/
def interfaceConnected : Except WolkFault (Wolk δ φ type) := do
  let registrationService ←
    NullPointer.registrationService.callIfPresent w.registrationService (· ++ [.start])
  .ok { w with connected := true, registrationService := registrationService }

/-- A firmware service that is there listens to the messages. -/
def firmwareInstall (file : String) : Except WolkFault (Wolk δ φ type) :=
  match w.firmwareUpdateService with
  | none => .ok w
  | some u => do
    let messagePath : Except WolkFault String :=
      if w.fileManagementService.isSome then do
        let svc ← NullPointer.fileManagementService.arrow w.fileManagementService
        .ok (ctx.fs.composePath file (ctx.fs.absolutePath svc.disk (svc.deviceFolder ctx deviceKey)))
      else .ok file
    let u ← u.onFirmwareInstall fctx deviceKey messagePath
    .ok { w with firmwareUpdateService := some u }

def firmwareAbort : Except WolkFault (Wolk δ φ type) :=
  match w.firmwareUpdateService with
  | none => .ok w
  | some u => do
    let _ ← u.onFirmwareAbort deviceKey
    .ok w

/-- `WolkMulti::reportFilesForDevice`, and the part of `WolkSingle::notifyConnected`. -/
def reportFilesForDevice : Except WolkFault (Wolk δ φ type) := do
  let fileManagementService ← NullPointer.fileManagementService.callIfPresent w.fileManagementService
    (·.reportPresentFiles ctx deviceKey)
  .ok { w with fileManagementService := fileManagementService }

end

/-! ### `WolkSingle` -/

section
variable {δ μ φ : Type} (ctx : Context δ μ φ) (w : Wolk δ φ .singleDevice)

def obtainChildren : Except WolkFault (Wolk δ φ .singleDevice) :=
  if w.registrationService.isSome then do
    let registrationService ← NullPointer.registrationService.call w.registrationService
      (· ++ [.obtainChildrenAsync w.devices.key])
    .ok { w with registrationService := registrationService }
  else .ok w

def notifyConnectedSingle : Except WolkFault (Wolk δ φ .singleDevice) := do
  let w ← w.interfaceConnected
  let w ← w.reportFilesForDevice ctx w.devices.key
  let firmwareUpdateService ← NullPointer.firmwareUpdateService.callIfPresent w.firmwareUpdateService
    (·.notifyConnected w.devices.key)
  .ok { w with firmwareUpdateService := firmwareUpdateService }

end

/-! ### `WolkMulti` -/

section
variable {δ μ φ : Type} (ctx : Context δ μ φ) (fctx : FirmwareContext) (w : Wolk δ φ .multiDevice)
  (deviceKey : String)

def isDeviceInList : Bool := w.devices.any fun device => decide (device.key = deviceKey)

def reportFileManagementParametersForDevice : Except WolkFault (Wolk δ φ .multiDevice) := do
  let flags : Bool × Bool ←
    if w.fileManagementService.isSome then do
      let svc ← NullPointer.fileManagementService.arrow w.fileManagementService
      .ok (svc.config.fileTransferEnabled, svc.config.fileTransferUrlEnabled)
    else .ok (false, false)
  .ok (w.reportFileTransferParameters deviceKey flags.1 flags.2)

def reportFirmwareUpdateForDevice : Except WolkFault (Wolk δ φ .multiDevice) := do
  let firmwareUpdateService ← NullPointer.firmwareUpdateService.callIfPresent w.firmwareUpdateService
    (·.reportFirmwareUpdate fctx deviceKey)
  .ok { w with firmwareUpdateService := firmwareUpdateService }

def reportFirmwareUpdateParametersForDevice : Except WolkFault (Wolk δ φ .multiDevice) := do
  let firmwareVersion ←
    if w.firmwareUpdateService.isSome then do
      let u ← NullPointer.firmwareUpdateService.arrow w.firmwareUpdateService
      u.getVersionForDevice deviceKey
    else .ok ""
  .ok (w.reportFirmwareParameters deviceKey w.firmwareUpdateService.isSome firmwareVersion)

/-- With what it returns. -/
def addDevice (device : Device) : Except WolkFault (Bool × Wolk δ φ .multiDevice) :=
  if w.isDeviceInList device.key then .ok (false, w)
  else do
    let w := { w with devices := w.devices ++ [device] }
    let w ← w.reportFileManagementParametersForDevice device.key
    let w ← w.reportFirmwareUpdateParametersForDevice device.key
    if w.connected then do
      let w ← (w.ask (.publishParameters device.key)).reportFilesForDevice ctx device.key
      let w ← w.reportFirmwareUpdateForDevice fctx device.key
      .ok (true, w)
    else .ok (true, w)

def notifyConnectedMulti : Except WolkFault (Wolk δ φ .multiDevice) := do
  let w ← w.interfaceConnected
  w.devices.foldlM (fun w device => do
    let w ← w.reportFilesForDevice ctx device.key
    w.reportFirmwareUpdateForDevice fctx device.key) w

/-- `addReading` and `addReadings` do not look for the device. -/
def dataMethod (method : DataMethod) : Wolk δ φ .multiDevice :=
  if method = .addReading ∨ method = .addReadings ∨ w.isDeviceInList deviceKey then
    w.ask (.command deviceKey method)
  else w

def registerDevices (devices : List DeviceRegistrationData) :
    Except WolkFault (Wolk δ φ .multiDevice) :=
  if w.registrationService.isSome then do
    let registrationService ← NullPointer.registrationService.call w.registrationService
      (· ++ [.registerDevices "*" devices])
    .ok { w with registrationService := registrationService }
  else .ok w

def registerDevice (device : DeviceRegistrationData) : Except WolkFault (Wolk δ φ .multiDevice) :=
  w.registerDevices [device]

/-- The loop of the callback that `wrapRegisterCallback` makes. -/
def addRegistered (devices : List DeviceRegistrationData) (success : List String) :
    Except WolkFault (Wolk δ φ .multiDevice) :=
  devices.foldlM (fun w device =>
    if device.key ∈ success then do
      let r ← w.addDevice ctx fctx ⟨device.key, ""⟩
      .ok r.2
    else .ok w) w

/-- The callback, which a registration service calls. -/
def registered (devices : List DeviceRegistrationData) (success : List String) :
    Except WolkFault (Wolk δ φ .multiDevice) :=
  match w.registrationService with
  | none => .ok w
  | some _ => w.addRegistered ctx fctx devices success

/-- The methods that ask the registration service for a device, once they found it in the list. -/
def queryRegistration (call : RegistrationCall) : Except WolkFault (Wolk δ φ .multiDevice) :=
  if w.isDeviceInList deviceKey then do
    let registrationService ←
      NullPointer.registrationService.call w.registrationService (· ++ [call])
    .ok { w with registrationService := registrationService }
  else .ok w

def removeDevices (deviceKeysToRemove : List String) : Except WolkFault (Wolk δ φ .multiDevice) :=
  w.queryRegistration deviceKey (.removeDevices deviceKey deviceKeysToRemove)

def removeDevice (deviceKeyToRemove : String) : Except WolkFault (Wolk δ φ .multiDevice) :=
  w.queryRegistration deviceKey (.removeDevices deviceKey [deviceKeyToRemove])

def obtainDevices (timestampFrom : Nat) (deviceType externalId : String) (timeout : Nat) :
    Except WolkFault (Wolk δ φ .multiDevice) :=
  w.queryRegistration deviceKey (.obtainDevices deviceKey timestampFrom deviceType externalId timeout)

def obtainDevicesAsync (timestampFrom : Nat) (deviceType externalId : String) :
    Except WolkFault (Wolk δ φ .multiDevice) :=
  w.queryRegistration deviceKey (.obtainDevicesAsync deviceKey timestampFrom deviceType externalId)

end

end Wolk

/-! ## Building a connector -/

namespace WolkBuilder

variable {δ μ φ : Type} (ctx : Context δ μ φ) (fctx : FirmwareContext) (b : WolkBuilder δ)
  {type : WolkInterfaceType} (w : Wolk δ φ type)

def buildFileManagement (disk : φ) : Except WolkFault (Wolk δ φ type) :=
  if h : b.fileManagementProtocol then do
    let config : Configuration := ⟨b.fileTransferEnabled, b.fileTransferUrlEnabled,
      b.fileDownloadDirectory, b.fileListener, b.enabled h⟩
    -- `createFolder`
    let fileManagementService ← NullPointer.fileManagementService.call
      (some (FileManagementService.create config b.fileDownloader disk))
      fun svc => { svc with disk := svc.makeFolder ctx svc.config.fileLocation }
    .ok { w with fileManagementService := fileManagementService }
  else .ok w

def reportParameters : Except WolkFault (Wolk δ φ type) := do
  let w := b.devices.foldl (fun w device =>
    w.reportFileTransferParameters device.key b.fileTransferEnabled b.fileTransferUrlEnabled) w
  b.devices.foldlM (fun w device => do
    let version ← getFirmwareVersion b.firmwareInstaller b.firmwareParametersListener device.key
    .ok (w.reportFirmwareParameters device.key b.firmwareUpdateProtocol version)) w

/-- The firmware service, by the module that there is. `sessionFiles` has the files that an earlier
process left. -/
def makeFirmwareUpdateService (sessionFiles : OrderedMap String String) : Option FirmwareUpdater :=
  let svc := { FirmwareUpdateService.create with sessionFiles := sessionFiles }
  if b.firmwareInstaller.isSome then some ⟨svc, b.firmwareInstaller, none, []⟩
  else if b.firmwareParametersListener.isSome then some ⟨svc, none, b.firmwareParametersListener, []⟩
  else none

/-- The loop does not look whether the service was made. -/
def loadStates (service : Option FirmwareUpdater) : Except WolkFault (Option FirmwareUpdater) :=
  b.devices.foldlM (fun service device =>
    NullPointer.firmwareUpdateService.call service (·.loadState fctx device.key)) service

def buildFirmwareUpdate (sessionFiles : OrderedMap String String) :
    Except WolkFault (Wolk δ φ type) :=
  if b.firmwareUpdateProtocol then do
    let service ← b.loadStates fctx (b.makeFirmwareUpdateService sessionFiles)
    .ok { w with firmwareUpdateService := service }
  else .ok w

def buildPlatformStatus : Wolk δ φ type :=
  if b.platformStatusProtocol then { w with platformStatusService := some ⟨b.platformStatusListener⟩ }
  else w

def buildRegistration : Wolk δ φ type :=
  if b.registrationProtocol then { w with registrationService := some [] } else w

def build (disk : φ) (sessionFiles : OrderedMap String String) (devices : type.Devices) :
    Except WolkFault (Wolk δ φ type) := do
  let w ← b.buildFileManagement ctx (.create devices) disk
  let w ← b.reportParameters w
  let w ← b.buildFirmwareUpdate fctx w sessionFiles
  .ok (b.buildRegistration (b.buildPlatformStatus w))

def buildWolkSingle (disk : φ) (sessionFiles : OrderedMap String String) :
    Except WolkFault (Wolk δ φ .singleDevice) :=
  match b.devices with
  | [device] =>
    if device.key = "" then
      .error (.runtimeError
        "Failed to build `WolkSingle` instance: The device contains an empty key.")
    else if device.password = "" then
      .error (.runtimeError
        "Failed to build `WolkSingle` instance: The device contains an empty password.")
    else b.build ctx fctx disk sessionFiles device
  | _ => .error (.runtimeError ("Failed to build `WolkSingle` instance: " ++
      "The devices vector does not contain exactly one device."))

def buildWolkMulti (disk : φ) (sessionFiles : OrderedMap String String) :
    Except WolkFault (Wolk δ φ .multiDevice) :=
  if b.devices.any fun device => decide (device.key = "") then
    .error (.runtimeError ("Failed to build `WolkMulti` instance: " ++
      "One of the devices in the vector contains an empty key."))
  else b.build ctx fctx disk sessionFiles b.devices

/-- The two functions that build a connector. -/
def buildWolk (disk : φ) (sessionFiles : OrderedMap String String) :
    (type : WolkInterfaceType) → Except WolkFault (Wolk δ φ type)
  | .singleDevice => b.buildWolkSingle ctx fctx disk sessionFiles
  | .multiDevice => b.buildWolkMulti ctx fctx disk sessionFiles

end WolkBuilder

/-! ## Using a connector -/

inductive InterfaceMethod
  | connect | disconnect | isConnected | setConnectionStatusListener | publish

inductive ErrorMethod
  | peekErrorCount | popFrontMessage | popBackMessage

/-- A call of the public interface of a connector, or what happens to it. -/
inductive WolkEvent : WolkInterfaceType → Type
  | interface {type : WolkInterfaceType} (method : InterfaceMethod) : WolkEvent type
  /-- The connection is there, and it is lost. -/
  | connected {type : WolkInterfaceType} (fctx : FirmwareContext) : WolkEvent type
  | disconnected {type : WolkInterfaceType} : WolkEvent type
  | firmwareInstall {type : WolkInterfaceType} (fctx : FirmwareContext) (deviceKey file : String) :
    WolkEvent type
  | firmwareAbort {type : WolkInterfaceType} (deviceKey : String) : WolkEvent type
  | dataSingle (method : DataMethod) : WolkEvent .singleDevice
  | synchronizeParameters (parameters : List ParameterName) : WolkEvent .singleDevice
  | obtainDetails : WolkEvent .singleDevice
  | obtainChildren : WolkEvent .singleDevice
  | dataMulti (deviceKey : String) (method : DataMethod) : WolkEvent .multiDevice
  | errors (deviceKey : String) (method : ErrorMethod) : WolkEvent .multiDevice
  | addDevice (fctx : FirmwareContext) (device : Device) : WolkEvent .multiDevice
  | registerDevice (device : DeviceRegistrationData) : WolkEvent .multiDevice
  | registerDevices (devices : List DeviceRegistrationData) : WolkEvent .multiDevice
  | registered (fctx : FirmwareContext) (devices : List DeviceRegistrationData)
    (success : List String) : WolkEvent .multiDevice
  | removeDevice (deviceKey deviceKeyToRemove : String) : WolkEvent .multiDevice
  | removeDevices (deviceKey : String) (deviceKeysToRemove : List String) : WolkEvent .multiDevice
  | obtainDevices (deviceKey : String) (timestampFrom : Nat) (deviceType externalId : String)
    (timeout : Nat) : WolkEvent .multiDevice
  | obtainDevicesAsync (deviceKey : String) (timestampFrom : Nat) (deviceType externalId : String) :
    WolkEvent .multiDevice

/-- The methods of the interface push commands for the connectivity and the data service, and the
error service answers the others. -/
def Wolk.step {δ μ φ : Type} (ctx : Context δ μ φ) {type : WolkInterfaceType} (w : Wolk δ φ type)
    (e : WolkEvent type) : Except WolkFault (Wolk δ φ type) :=
  match type, w, e with
  | _, w, .interface _ => .ok w
  | .singleDevice, w, .connected _ => w.notifyConnectedSingle ctx
  | .multiDevice, w, .connected fctx => w.notifyConnectedMulti ctx fctx
  | _, w, .disconnected => .ok { w with connected := false }
  | _, w, .firmwareInstall fctx deviceKey file => w.firmwareInstall ctx fctx deviceKey file
  | _, w, .firmwareAbort deviceKey => w.firmwareAbort deviceKey
  | _, w, .dataSingle method => .ok (w.ask (.command w.devices.key method))
  | _, w, .synchronizeParameters parameters =>
    .ok (w.ask (.synchronizeParameters w.devices.key parameters))
  | _, w, .obtainDetails => .ok (w.ask (.detailsSynchronizationAsync w.devices.key))
  | _, w, .obtainChildren => w.obtainChildren
  | _, w, .dataMulti deviceKey method => .ok (w.dataMethod deviceKey method)
  | _, w, .errors _ _ => .ok w
  | _, w, .addDevice fctx device => do
    let r ← w.addDevice ctx fctx device
    .ok r.2
  | _, w, .registerDevice device => w.registerDevice device
  | _, w, .registerDevices devices => w.registerDevices devices
  | _, w, .registered fctx devices success => w.registered ctx fctx devices success
  | _, w, .removeDevice deviceKey deviceKeyToRemove => w.removeDevice deviceKey deviceKeyToRemove
  | _, w, .removeDevices deviceKey deviceKeysToRemove => w.removeDevices deviceKey deviceKeysToRemove
  | _, w, .obtainDevices deviceKey timestampFrom deviceType externalId timeout =>
    w.obtainDevices deviceKey timestampFrom deviceType externalId timeout
  | _, w, .obtainDevicesAsync deviceKey timestampFrom deviceType externalId =>
    w.obtainDevicesAsync deviceKey timestampFrom deviceType externalId

end WolkConnect
