import WolkConnect.Lib.Run
import WolkConnect.Firmware.Model

/-!
# Firmware updates over restarts and reconnects

The service step by step, and the connectors `WolkSingle` and `WolkMulti` that drive it.
A message is handled in two steps, before and after the installer is asked to install,
because the connector may do something else in between.
-/

namespace WolkConnect

inductive FirmwareEvent
  /-- A `FirmwareUpdateInstall` message is handled up to `installFirmware`. -/
  | install (ctx : FirmwareContext) (deviceKey : String)
  /-- `installFirmware` returns, and the rest of the message is handled. -/
  | respond (ctx : FirmwareContext) (response : InstallResponse)
  | abort (ctx : FirmwareContext) (deviceKey : String)
  | loadState (ctx : FirmwareContext) (deviceKey : String)
  | publishQueue
  | restart

/-- `handling` is the device of a message that is being handled, and the version that was stored for
it. `accepted` has the devices of the accepted install requests, and `lost` what was in the queue of
a process that ended. For an installation that is `running`, there are the version that was stored
and the number of reports published by the time the installer said it would install. -/
structure FirmwareSystem where
  svc : FirmwareUpdateService
  handling : Option (String × String)
  accepted : List String
  lost : List FirmwareReport
  running : OrderedMap String (String × Nat)

namespace FirmwareSystem

variable (ctx : FirmwareContext) (sys : FirmwareSystem) (deviceKey : String)

def create : FirmwareSystem := ⟨.create, none, [], [], .empty⟩

/-- A message is ignored while an installation is ongoing, and without an installer. -/
def install : FirmwareSystem :=
  match sys.handling, ctx.firmwareInstaller with
  | none, some installer =>
    if sys.svc.ongoing deviceKey then sys
    else
      { sys with
        svc := sys.svc.beginInstall ctx deviceKey installer
        handling := some (deviceKey, installer.getFirmwareVersion deviceKey)
        accepted := sys.accepted ++ [deviceKey] }
  | _, _ => sys

def respond (response : InstallResponse) : FirmwareSystem :=
  match sys.handling with
  | none => sys
  | some (deviceKey, version) =>
    let svc := sys.svc.finishInstall ctx deviceKey response
    { sys with
      svc := svc
      handling := none
      running :=
        if response = .willInstall then sys.running.insert deviceKey (version, svc.published.length)
        else sys.running }

def abort : FirmwareSystem :=
  if sys.handling = none ∧ sys.svc.onFirmwareAbort ctx deviceKey = true then
    { sys with running := sys.running.erase deviceKey }
  else sys

def restart : FirmwareSystem :=
  { sys with
    svc := sys.svc.restart, handling := none, lost := sys.lost ++ sys.svc.queue, running := .empty }

def step : FirmwareEvent → FirmwareSystem
  | .install ctx deviceKey => sys.install ctx deviceKey
  | .respond ctx response => sys.respond ctx response
  | .abort ctx deviceKey => sys.abort ctx deviceKey
  | .loadState ctx deviceKey => { sys with svc := sys.svc.loadState ctx deviceKey }
  | .publishQueue => { sys with svc := sys.svc.publishQueue }
  | .restart => sys.restart

/-- The two steps of a message come to the handler, if nothing is done in between. -/
theorem svc_install_respond (hidle : sys.handling = none) {installer : FirmwareInstaller}
    (hinstaller : ctx.firmwareInstaller = some installer) (file : String) :
    ((sys.install ctx deviceKey).respond ctx
        (installer.installFirmware deviceKey (ctx.deviceFile deviceKey file))).svc =
      sys.svc.onFirmwareInstall ctx deviceKey installer file := by
  unfold install FirmwareUpdateService.onFirmwareInstall
  rw [hidle, hinstaller]
  by_cases hongoing : sys.svc.ongoing deviceKey = true
  · simp only [if_pos hongoing]
    unfold respond
    rw [hidle]
  · simp only [if_neg hongoing]
    rfl

end FirmwareSystem

/-! ## Connectors -/

inductive WolkInterfaceType
  | singleDevice | multiDevice
  deriving DecidableEq

inductive FirmwareTask
  | loadState (deviceKey : String)
  | publishQueue
  deriving DecidableEq

inductive ConnectorEvent
  /-- The process ends, and another builds a connector. -/
  | restart (type : WolkInterfaceType) (devices : List String)
  | connect
  | disconnect
  | addDevice (deviceKey : String)
  /-- The next task of the connector. -/
  | task (ctx : FirmwareContext)
  | install (ctx : FirmwareContext) (deviceKey : String)
  | respond (ctx : FirmwareContext) (response : InstallResponse)
  | abort (ctx : FirmwareContext) (deviceKey : String)

/-- The connector has `tasks` that it does one after the other. Messages arrive from the first
connection on, when it has `started`. -/
structure FirmwareConnector where
  sys : FirmwareSystem
  type : WolkInterfaceType
  devices : List String
  connected : Bool
  started : Bool
  tasks : List FirmwareTask

namespace FirmwareConnector

variable (c : FirmwareConnector)

/-- `WolkBuilder::build`. -/
def build (sys : FirmwareSystem) (type : WolkInterfaceType) (devices : List String) :
    FirmwareConnector :=
  ⟨sys, type, devices, false, false, devices.map .loadState⟩

def create (type : WolkInterfaceType) (devices : List String) : FirmwareConnector :=
  build .create type devices

/-- `WolkMulti::reportFirmwareUpdateForDevice`. -/
def reportFirmwareUpdateForDevice (deviceKey : String) : List FirmwareTask :=
  [.loadState deviceKey, .publishQueue]

/-- `WolkSingle::notifyConnected` and `WolkMulti::notifyConnected`. -/
def notifyConnected (type : WolkInterfaceType) (devices : List String) : List FirmwareTask :=
  match type with
  | .singleDevice => [.publishQueue]
  | .multiDevice => devices.flatMap reportFirmwareUpdateForDevice

def connect : FirmwareConnector :=
  if c.tasks = [] then
    { c with connected := true, started := true, tasks := notifyConnected c.type c.devices }
  else c

/-- `WolkMulti::addDevice`. -/
def addDevice (deviceKey : String) : FirmwareConnector :=
  match c.type with
  | .singleDevice => c
  | .multiDevice =>
    if deviceKey ∈ c.devices then c
    else
      { c with
        devices := c.devices ++ [deviceKey]
        tasks := if c.connected then c.tasks ++ reportFirmwareUpdateForDevice deviceKey else c.tasks }

/-- What an event is for the service. -/
def operation : ConnectorEvent → Option FirmwareEvent
  | .restart _ _ => some .restart
  | .connect | .disconnect | .addDevice _ => none
  | .task ctx =>
    match c.tasks with
    | [] => none
    | .loadState deviceKey :: _ => some (.loadState ctx deviceKey)
    | .publishQueue :: _ => some .publishQueue
  | .install ctx deviceKey => if c.started then some (.install ctx deviceKey) else none
  | .respond ctx response => some (.respond ctx response)
  | .abort ctx deviceKey => if c.started then some (.abort ctx deviceKey) else none

/-- What an event is for the rest of the connector. -/
def follow : ConnectorEvent → FirmwareConnector
  | .restart type devices => build c.sys type devices
  | .connect => c.connect
  | .disconnect => { c with connected := false }
  | .addDevice deviceKey => c.addDevice deviceKey
  | .task _ => { c with tasks := c.tasks.tail }
  | .install _ _ | .respond _ _ | .abort _ _ => c

def step (c : FirmwareConnector) (e : ConnectorEvent) : Except Empty FirmwareConnector :=
  .ok { c.follow e with sys := (c.operation e).elim c.sys c.sys.step }

/-- A condition on what the service does, as one on what the connector does. -/
def Meets (ok : FirmwareSystem → FirmwareEvent → Prop) (c : FirmwareConnector) (e : ConnectorEvent) :
    Prop :=
  ∀ op ∈ c.operation e, ok c.sys op

instance (ok : FirmwareSystem → FirmwareEvent → Prop) [∀ sys op, Decidable (ok sys op)]
    (c : FirmwareConnector) (e : ConnectorEvent) : Decidable (c.Meets ok e) :=
  inferInstanceAs (Decidable (∀ op ∈ _, _))

variable {c} {t : FirmwareConnector} {e : ConnectorEvent} {ok : FirmwareSystem → FirmwareEvent → Prop}

/-- What a step of the connector does to the service. -/
theorem step_sys (hs : c.step e = .ok t) :
    c.operation e = none ∧ t.sys = c.sys ∨
      ∃ op, c.operation e = some op ∧ t.sys = c.sys.step op := by
  cases hs
  cases hop : c.operation e with
  | none => exact .inl ⟨rfl, rfl⟩
  | some op => exact .inr ⟨op, rfl, rfl⟩

/-- What the service keeps, the connector keeps. -/
theorem keeps {Inv : FirmwareSystem → Prop}
    (hkeep : ∀ sys op, Inv sys → ok sys op → Inv (sys.step op)) (h : Inv c.sys) (hok : c.Meets ok e)
    (hs : c.step e = .ok t) : Inv t.sys := by
  rcases step_sys hs with ⟨-, hsys⟩ | ⟨op, hop, hsys⟩
  · rw [hsys]
    exact h
  · rw [hsys]
    exact hkeep c.sys op h (hok op hop)

/-- A step of the connector that does not meet a condition is one of the service. -/
theorem step_of_not_meets (hok : ¬ c.Meets ok e) (hs : c.step e = .ok t) :
    ∃ op, c.operation e = some op ∧ ¬ ok c.sys op ∧ t.sys = c.sys.step op := by
  rcases step_sys hs with ⟨hnone, -⟩ | ⟨op, hop, hsys⟩
  · refine absurd (fun op hop => ?_) hok
    rw [hnone] at hop
    cases hop
  · refine ⟨op, hop, fun hop' => hok fun op' hsame => ?_, hsys⟩
    rw [hop] at hsame
    cases hsame
    exact hop'

end FirmwareConnector

end WolkConnect
