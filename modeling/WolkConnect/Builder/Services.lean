import WolkConnect.Lib.DistinctKeys
import WolkConnect.Builder.Model

/-!
# Optional services that are absent

The connectors look before they call an optional service, but for two places: the loop of
the builder that loads the states of the firmware service, and the methods of `WolkMulti`
that ask the registration service for a device.
-/

namespace WolkConnect

namespace NullPointer

variable {α : Type} (pointer : NullPointer) (f : α → α)

theorem callIfPresent_eq (p : Option α) : pointer.callIfPresent p f = .ok (p.map f) := by
  cases p <;> rfl

theorem foldlM_call_ok {β : Type} (f : β → α → α) {p : Option α} (hp : p.isSome = true)
    (bs : List β) : ∃ p', bs.foldlM (fun p b => pointer.call p (f b)) p = .ok p' := by
  have hcall : ∀ (p : Option α) (b : β), p.isSome = true →
      ∃ p', pointer.call p (f b) = .ok p' ∧ p'.isSome = true := by
    intro p b hp
    obtain ⟨a, rfl⟩ := Option.isSome_iff_exists.mp hp
    exact ⟨some (f b a), rfl, rfl⟩
  obtain ⟨p', hcalls, -⟩ := Machine.foldlM_ok hcall bs hp
  exact ⟨p', hcalls⟩

end NullPointer

theorem getFirmwareVersion_ok (installer : Option FirmwareInstaller)
    (listener : Option FirmwareParametersListener) (deviceKey : String) :
    ∃ version, getFirmwareVersion installer listener deviceKey = .ok version := by
  cases installer with
  | some installer => exact ⟨_, rfl⟩
  | none =>
    cases listener with
    | some listener => exact ⟨_, rfl⟩
    | none => exact ⟨_, rfl⟩

namespace FirmwareUpdater

variable (u : FirmwareUpdater) (fctx : FirmwareContext) (deviceKey : String)

theorem onFirmwareInstall_ok (path : String) :
    ∃ u', u.onFirmwareInstall fctx deviceKey (.ok path) = .ok u' := by
  unfold onFirmwareInstall
  split_ifs with hinstaller hongoing
  · exact ⟨_, rfl⟩
  · obtain ⟨installer, hsome⟩ := Option.isSome_iff_exists.mp hinstaller
    rw [hsome]
    exact ⟨_, rfl⟩
  · exact ⟨_, rfl⟩

theorem onFirmwareAbort_ok : ∃ asked, u.onFirmwareAbort deviceKey = .ok asked := by
  unfold onFirmwareAbort
  split_ifs with hinstaller hongoing
  · obtain ⟨installer, hsome⟩ := Option.isSome_iff_exists.mp hinstaller
    rw [hsome]
    exact ⟨_, rfl⟩
  · exact ⟨_, rfl⟩
  · exact ⟨_, rfl⟩

end FirmwareUpdater

/-! ## What the builder makes of its calls -/

namespace BuilderCall

variable {δ : Type}

def newDevices : BuilderCall δ → Option (List Device)
  | .getDevices devices => some devices
  | _ => none

/-- Whether the module of a firmware update is there. -/
def firmwareModule : BuilderCall δ → Option Bool
  | .withFirmwareInstaller installer => some installer.isSome
  | .withFirmwareParametersListener listener => some listener.isSome
  | _ => none

def addsRegistration : BuilderCall δ → Bool
  | .withRegistration _ => true
  | _ => false

/-- The devices that a builder has after the calls. -/
def devicesAtBuild (devices : List Device) (calls : List (BuilderCall δ)) : List Device :=
  (calls.filterMap newDevices).getLast?.getD devices

/-- The last module of a firmware update is there, if firmware updates were asked for. -/
def ModuleGiven (calls : List (BuilderCall δ)) : Prop :=
  (calls.filterMap firmwareModule).getLast? ≠ some false

instance (calls : List (BuilderCall δ)) : Decidable (ModuleGiven calls) :=
  inferInstanceAs (Decidable (_ ≠ _))

def RegistrationAdded (calls : List (BuilderCall δ)) : Prop :=
  calls.any addsRegistration = true

variable {devices : List Device} {calls : List (BuilderCall δ)} {c : BuilderCall δ}

theorem devicesAtBuild_append :
    devicesAtBuild devices (calls ++ [c]) = c.newDevices.getD (devicesAtBuild devices calls) := by
  unfold devicesAtBuild
  cases hc : c.newDevices with
  | none => simp [List.filterMap_append, hc]
  | some ds => simp [List.filterMap_append, hc]

theorem moduleGiven_append :
    ModuleGiven (calls ++ [c]) ↔ c.firmwareModule.elim (ModuleGiven calls) (· = true) := by
  unfold ModuleGiven
  cases hc : c.firmwareModule with
  | none => simp [List.filterMap_append, hc]
  | some given => simp [List.filterMap_append, hc]

theorem registrationAdded_append :
    RegistrationAdded (calls ++ [c]) ↔ RegistrationAdded calls ∨ c.addsRegistration = true := by
  simp [RegistrationAdded]

end BuilderCall

namespace WolkBuilder

open BuilderCall

variable {δ μ φ : Type}

def configure (b : WolkBuilder δ) (calls : List (BuilderCall δ)) : WolkBuilder δ :=
  calls.foldl call b

/-- The firmware service that `build` calls is null. -/
def LacksModule (b : WolkBuilder δ) : Prop :=
  b.firmwareUpdateProtocol = true ∧ b.firmwareInstaller = none ∧ b.firmwareParametersListener = none

/-- What the builder is after its calls. -/
structure Configured (devices : List Device) (calls : List (BuilderCall δ)) (b : WolkBuilder δ) :
    Prop where
  devices : b.devices = devicesAtBuild devices calls
  firmware : b.LacksModule ↔ ¬ ModuleGiven calls
  registration : b.registrationProtocol = true ↔ RegistrationAdded calls

theorem Configured.call {devices : List Device} {calls : List (BuilderCall δ)} {b : WolkBuilder δ}
    (h : Configured devices calls b) (c : BuilderCall δ) :
    Configured devices (calls ++ [c]) (b.call c) := by
  refine ⟨?_, ?_, ?_⟩
  · rw [devicesAtBuild_append]
    cases c with
    | getDevices ds => rfl
    | _ => exact h.devices
  · rw [moduleGiven_append]
    cases c with
    | withFirmwareInstaller installer =>
      cases installer <;> simp [WolkBuilder.call, withFirmwareInstaller, LacksModule, firmwareModule]
    | withFirmwareParametersListener listener =>
      cases listener <;>
        simp [WolkBuilder.call, withFirmwareParametersListener, LacksModule, firmwareModule]
    | _ => exact h.firmware
  · rw [registrationAdded_append]
    cases c with
    | withRegistration protocol => exact iff_of_true rfl (.inr rfl)
    | _ => exact h.registration.trans (or_iff_left (by rintro ⟨⟩)).symm

theorem configured (devices : List Device) (calls : List (BuilderCall δ)) :
    Configured devices calls ((newBuilder devices).configure calls) := by
  induction calls using List.reverseRecOn with
  | nil =>
    refine ⟨rfl, ?_, ?_⟩
    · simp [LacksModule, ModuleGiven, newBuilder, configure]
    · simp [RegistrationAdded, newBuilder, configure]
  | append_singleton calls c ih =>
    unfold configure at ih ⊢
    rw [List.foldl_append]
    exact ih.call c

end WolkBuilder

/-! ## What the connector keeps -/

namespace Wolk

variable {δ μ φ : Type} {type : WolkInterfaceType}

/-- The devices are the same, and the registration service is there as before. -/
structure Keeps (w w' : Wolk δ φ type) : Prop where
  devices : w'.devices = w.devices
  registration : w'.registrationService.isSome = w.registrationService.isSome

theorem Keeps.trans {w w' w'' : Wolk δ φ type} (h : Keeps w w') (h' : Keeps w' w'') : Keeps w w'' :=
  ⟨h'.devices.trans h.devices, h'.registration.trans h.registration⟩

/-- The call meets no null pointer. -/
def Safe (w : Wolk δ φ type) (r : Except WolkFault (Wolk δ φ type)) : Prop :=
  ∃ w', r = .ok w' ∧ Keeps w w'

theorem Safe.bind {w : Wolk δ φ type} {r : Except WolkFault (Wolk δ φ type)}
    {f : Wolk δ φ type → Except WolkFault (Wolk δ φ type)} (h : Safe w r)
    (hf : ∀ w', Safe w' (f w')) : Safe w (r >>= f) := by
  obtain ⟨w', rfl, hkeeps⟩ := h
  obtain ⟨w'', hr, hkeeps'⟩ := hf w'
  exact ⟨w'', hr, hkeeps.trans hkeeps'⟩

theorem Safe.foldlM {α : Type} {f : Wolk δ φ type → α → Except WolkFault (Wolk δ φ type)}
    (hf : ∀ w a, Safe w (f w a)) (as : List α) (w : Wolk δ φ type) : Safe w (as.foldlM f w) := by
  refine Machine.foldlM_ok (fun w' a hkeeps => ?_) as ⟨rfl, rfl⟩
  obtain ⟨w'', hw, hkeeps'⟩ := hf w' a
  exact ⟨w'', hw, hkeeps.trans hkeeps'⟩

variable (ctx : Context δ μ φ) (fctx : FirmwareContext)

theorem safe_interfaceConnected (w : Wolk δ φ type) : Safe w w.interfaceConnected := by
  unfold interfaceConnected
  rw [NullPointer.callIfPresent_eq]
  exact ⟨_, rfl, rfl, Option.isSome_map⟩

theorem safe_reportFilesForDevice (w : Wolk δ φ type) (deviceKey : String) :
    Safe w (w.reportFilesForDevice ctx deviceKey) := by
  unfold reportFilesForDevice
  rw [NullPointer.callIfPresent_eq]
  exact ⟨_, rfl, rfl, rfl⟩

theorem safe_firmwareInstall (w : Wolk δ φ type) (deviceKey file : String) :
    Safe w (w.firmwareInstall ctx fctx deviceKey file) := by
  unfold firmwareInstall
  cases w.firmwareUpdateService with
  | none => exact ⟨w, rfl, rfl, rfl⟩
  | some u =>
    have hpath : ∃ path, (if w.fileManagementService.isSome then do
        let svc ← NullPointer.fileManagementService.arrow w.fileManagementService
        .ok (ctx.fs.composePath file (ctx.fs.absolutePath svc.disk (svc.deviceFolder ctx deviceKey)))
        else .ok file : Except WolkFault String) = .ok path := by
      cases w.fileManagementService with
      | none => exact ⟨_, rfl⟩
      | some svc => exact ⟨_, rfl⟩
    obtain ⟨path, hpath⟩ := hpath
    obtain ⟨u', hu⟩ := u.onFirmwareInstall_ok fctx deviceKey path
    dsimp only
    rw [hpath, hu]
    exact ⟨_, rfl, rfl, rfl⟩

theorem safe_firmwareAbort (w : Wolk δ φ type) (deviceKey : String) :
    Safe w (w.firmwareAbort deviceKey) := by
  unfold firmwareAbort
  cases w.firmwareUpdateService with
  | none => exact ⟨w, rfl, rfl, rfl⟩
  | some u =>
    obtain ⟨asked, hasked⟩ := u.onFirmwareAbort_ok deviceKey
    dsimp only
    rw [hasked]
    exact ⟨w, rfl, rfl, rfl⟩

theorem safe_obtainChildren (w : Wolk δ φ .singleDevice) : Safe w w.obtainChildren := by
  unfold obtainChildren
  cases hservice : w.registrationService with
  | none => exact ⟨w, rfl, rfl, rfl⟩
  | some calls => exact ⟨_, rfl, rfl, by rw [hservice]; rfl⟩

theorem safe_notifyConnectedSingle (w : Wolk δ φ .singleDevice) :
    Safe w (w.notifyConnectedSingle ctx) := by
  refine (safe_interfaceConnected w).bind fun w => ?_
  refine (safe_reportFilesForDevice ctx w _).bind fun w => ?_
  rw [NullPointer.callIfPresent_eq]
  exact ⟨_, rfl, rfl, rfl⟩

section
variable (w : Wolk δ φ .multiDevice) (deviceKey : String)

theorem safe_reportFileManagementParametersForDevice :
    Safe w (w.reportFileManagementParametersForDevice deviceKey) := by
  unfold reportFileManagementParametersForDevice
  cases w.fileManagementService with
  | none => exact ⟨_, rfl, rfl, rfl⟩
  | some svc => exact ⟨_, rfl, rfl, rfl⟩

theorem safe_reportFirmwareUpdateForDevice :
    Safe w (w.reportFirmwareUpdateForDevice fctx deviceKey) := by
  unfold reportFirmwareUpdateForDevice
  rw [NullPointer.callIfPresent_eq]
  exact ⟨_, rfl, rfl, rfl⟩

theorem safe_reportFirmwareUpdateParametersForDevice :
    Safe w (w.reportFirmwareUpdateParametersForDevice deviceKey) := by
  unfold reportFirmwareUpdateParametersForDevice
  cases w.firmwareUpdateService with
  | none => exact ⟨_, rfl, rfl, rfl⟩
  | some u =>
    obtain ⟨version, hversion⟩ :=
      getFirmwareVersion_ok u.firmwareInstaller u.firmwareParametersListener deviceKey
    refine ⟨w.reportFirmwareParameters deviceKey true version, ?_, rfl, rfl⟩
    change (u.getVersionForDevice deviceKey >>= fun version =>
      Except.ok (w.reportFirmwareParameters deviceKey true version)) = _
    rw [FirmwareUpdater.getVersionForDevice, hversion]
    rfl

theorem safe_notifyConnectedMulti : Safe w (w.notifyConnectedMulti ctx fctx) := by
  refine (safe_interfaceConnected w).bind fun w => ?_
  refine Safe.foldlM (fun w device => ?_) _ w
  refine (safe_reportFilesForDevice ctx w _).bind fun w => ?_
  exact safe_reportFirmwareUpdateForDevice fctx w _

theorem safe_registerDevices (devices : List DeviceRegistrationData) :
    Safe w (w.registerDevices devices) := by
  unfold registerDevices
  cases hservice : w.registrationService with
  | none => exact ⟨w, rfl, rfl, rfl⟩
  | some calls => exact ⟨_, rfl, rfl, by rw [hservice]; rfl⟩

theorem isDeviceInList_iff :
    w.isDeviceInList deviceKey = true ↔ deviceKey ∈ w.devices.map Device.key := by
  simp [isDeviceInList]

/-- A device is added when none has its key. -/
theorem addDevice_ok (device : Device) : ∃ w',
    w.addDevice ctx fctx device = .ok (decide (device.key ∉ w.devices.map Device.key), w') ∧
    w'.registrationService.isSome = w.registrationService.isSome ∧
    w'.devices = DistinctKeys.add Device.key w.devices device := by
  unfold addDevice DistinctKeys.add
  simp only [isDeviceInList_iff]
  split_ifs with hlisted
  · exact ⟨w, by simp [hlisted], rfl, rfl⟩
  · let added : Wolk δ φ .multiDevice := { w with devices := w.devices ++ [device] }
    have hsafe : Safe added (do
        let w ← added.reportFileManagementParametersForDevice device.key
        let w ← w.reportFirmwareUpdateParametersForDevice device.key
        if w.connected then do
          let w ← (w.ask (.publishParameters device.key)).reportFilesForDevice ctx device.key
          w.reportFirmwareUpdateForDevice fctx device.key
        else .ok w) := by
      refine (safe_reportFileManagementParametersForDevice added _).bind fun w => ?_
      refine (safe_reportFirmwareUpdateParametersForDevice w _).bind fun w => ?_
      split_ifs
      · have hfiles := safe_reportFilesForDevice ctx (w.ask (.publishParameters device.key)) device.key
        obtain ⟨w', hw, hkeeps⟩ := hfiles.bind fun w =>
          safe_reportFirmwareUpdateForDevice fctx w device.key
        exact ⟨w', hw, hkeeps.devices, hkeeps.registration⟩
      · exact ⟨w, rfl, rfl, rfl⟩
    obtain ⟨w', hw, hkeeps⟩ := hsafe
    refine ⟨w', ?_, hkeeps.registration, hkeeps.devices⟩
    obtain ⟨w₁, hw₁, hw⟩ := Machine.bind_eq_ok.mp hw
    obtain ⟨w₂, hw₂, hw⟩ := Machine.bind_eq_ok.mp hw
    rw [decide_eq_true hlisted]
    refine Machine.bind_eq_ok.mpr ⟨w₁, hw₁, Machine.bind_eq_ok.mpr ⟨w₂, hw₂, ?_⟩⟩
    split_ifs at hw ⊢
    · obtain ⟨w₃, hw₃, hw⟩ := Machine.bind_eq_ok.mp hw
      exact Machine.bind_eq_ok.mpr ⟨w₃, hw₃, Machine.bind_eq_ok.mpr ⟨w', hw, rfl⟩⟩
    · rw [Except.ok.inj hw]

/-- The loop adds the requested devices that were registered. -/
theorem addRegistered_ok (devices : List DeviceRegistrationData) (success : List String) :
    ∃ w', w.addRegistered ctx fctx devices success = .ok w' ∧
      w'.registrationService.isSome = w.registrationService.isSome ∧
      w'.devices = DistinctKeys.addAll Device.key w.devices
        ((devices.filter (·.key ∈ success)).map fun device => ⟨device.key, ""⟩) := by
  induction devices generalizing w with
  | nil => exact ⟨w, rfl, rfl, rfl⟩
  | cons device devices ih =>
    by_cases hregistered : device.key ∈ success
    · obtain ⟨w₁, hw₁, hsame₁, hdevices₁⟩ := w.addDevice_ok ctx fctx ⟨device.key, ""⟩
      obtain ⟨w', hw', hsame', hdevices'⟩ := ih w₁
      refine ⟨w', ?_, hsame'.trans hsame₁, ?_⟩
      · unfold addRegistered at hw' ⊢
        rw [List.foldlM_cons, if_pos hregistered, hw₁]
        exact hw'
      · rw [hdevices', hdevices₁, List.filter_cons_of_pos (by simpa using hregistered)]
        rfl
    · obtain ⟨w', hw', hsame', hdevices'⟩ := ih w
      refine ⟨w', ?_, hsame', ?_⟩
      · unfold addRegistered at hw' ⊢
        rw [List.foldlM_cons, if_neg hregistered]
        exact hw'
      · rw [hdevices', List.filter_cons_of_neg (by simpa using hregistered)]

/-- Without a registration service there are no callbacks of it. -/
theorem registered_ok (devices : List DeviceRegistrationData) (success : List String) :
    ∃ w', w.registered ctx fctx devices success = .ok w' ∧
      w'.registrationService.isSome = w.registrationService.isSome ∧
      (w.registrationService = none → w' = w) := by
  unfold registered
  cases hservice : w.registrationService with
  | none => exact ⟨w, rfl, by rw [hservice], fun _ => rfl⟩
  | some calls =>
    obtain ⟨w', hw, hsame, -⟩ := w.addRegistered_ok ctx fctx devices success
    exact ⟨w', hw, by rw [hsame, hservice], by rintro ⟨⟩⟩

/-- The call is defined unless the device is listed and the service is null. -/
theorem safe_queryRegistration (call : RegistrationCall)
    (h : w.registrationService.isSome = true ∨ deviceKey ∉ w.devices.map Device.key) :
    Safe w (w.queryRegistration deviceKey call) := by
  unfold queryRegistration
  split_ifs with hlisted
  · rw [isDeviceInList_iff] at hlisted
    obtain ⟨calls, hservice⟩ := Option.isSome_iff_exists.mp (h.resolve_right (not_not.mpr hlisted))
    rw [hservice]
    exact ⟨_, rfl, rfl, by rw [hservice]; rfl⟩
  · exact ⟨w, rfl, rfl, rfl⟩

theorem queryRegistration_null (call : RegistrationCall) (hnull : w.registrationService = none)
    (hlisted : deviceKey ∈ w.devices.map Device.key) :
    w.queryRegistration deviceKey call = .error (.dereferenced .registrationService) := by
  unfold queryRegistration
  rw [if_pos (isDeviceInList_iff w deviceKey |>.mpr hlisted), hnull]
  rfl

end

end Wolk

end WolkConnect
