import WolkConnect.Connector.Model
import WolkConnect.Service.Folders

/-!
# What the platform is told about a device

`build` reports four parameters for each device it is given, and `addDevice` does for each one that comes
later. They go by different code: the builder by its own members, and `addDevice` by the services.
-/

namespace WolkConnect

/-! ## Lists -/

theorem filter_flatMap_nodup {κ β : Type} [DecidableEq κ] {key : β → κ} {f : κ → List β}
    (hf : ∀ k, ∀ b ∈ f k, key b = k) {keys : List κ} (hnodup : keys.Nodup) (k : κ) :
    (keys.flatMap f).filter (fun b => key b = k) = if k ∈ keys then f k else [] := by
  induction keys with
  | nil => rfl
  | cons k' keys ih =>
    rw [List.nodup_cons] at hnodup
    rw [List.flatMap_cons, List.filter_append, ih hnodup.2]
    by_cases hk : k' = k
    · subst hk
      rw [if_neg hnodup.1, if_pos List.mem_cons_self, List.append_nil, List.filter_eq_self]
      exact fun b hb => decide_eq_true (hf _ b hb)
    · have hnone : (f k').filter (fun b => key b = k) = [] := by
        rw [List.filter_eq_nil_iff]
        intro b hb
        simpa [hf _ b hb] using hk
      simp [hnone, Ne.symm hk]

/-! ## The parameters -/

/-- `getVersionForDevice`, which meets no null pointer. -/
def firmwareVersion (installer : Option FirmwareInstaller) (listener : Option FirmwareParametersListener)
    (deviceKey : String) : String :=
  match installer, listener with
  | some installer, _ => installer.getFirmwareVersion deviceKey
  | none, some listener => listener.getFirmwareVersion
  | none, none => ""

theorem getFirmwareVersion_eq (installer : Option FirmwareInstaller)
    (listener : Option FirmwareParametersListener) (deviceKey : String) :
    getFirmwareVersion installer listener deviceKey =
      .ok (firmwareVersion installer listener deviceKey) := by
  unfold getFirmwareVersion firmwareVersion
  cases installer with
  | some installer => rfl
  | none => cases listener <;> rfl

def fileTransferParameters (transferEnabled urlDownloadEnabled : Bool) (k : String) :
    List (String × Parameter) :=
  [(k, .fileTransferPlatformEnabled, Wolk.flagText transferEnabled),
    (k, .fileTransferUrlEnabled, Wolk.flagText urlDownloadEnabled)]

def firmwareParameters (enabled : Bool) (version : String) (k : String) : List (String × Parameter) :=
  [(k, .firmwareUpdateEnabled, Wolk.flagText enabled), (k, .firmwareVersion, version)]

/-- The update of a parameter that a connector asked for by itself. -/
def DataCall.update : DataCall → Option (String × Parameter)
  | .updateParameter deviceKey parameter => some (deviceKey, parameter)
  | _ => none

namespace Wolk

variable {δ μ φ : Type} {type : WolkInterfaceType} {w w' w'' : Wolk δ φ type}

def reported (w : Wolk δ φ type) : List (String × Parameter) :=
  w.dataService.filterMap DataCall.update

def transferEnabled (w : Wolk δ φ type) : Bool :=
  w.fileManagementService.any (·.config.fileTransferEnabled)

def urlDownloadEnabled (w : Wolk δ φ type) : Bool :=
  w.fileManagementService.any (·.config.fileTransferUrlEnabled)

def firmwareModule (w : Wolk δ φ type) :
    Option (Option FirmwareInstaller × Option FirmwareParametersListener) :=
  w.firmwareUpdateService.map fun u => (u.firmwareInstaller, u.firmwareParametersListener)

/-- What the services of the connector are, for one device. -/
def announcement (w : Wolk δ φ type) (k : String) : List (String × Parameter) :=
  fileTransferParameters w.transferEnabled w.urlDownloadEnabled k ++
    firmwareParameters w.firmwareModule.isSome
      (w.firmwareModule.elim "" fun m => firmwareVersion m.1 m.2 k) k

/-- The services are as they were. -/
structure Wired (w w' : Wolk δ φ type) : Prop where
  transfer : w'.transferEnabled = w.transferEnabled
  url : w'.urlDownloadEnabled = w.urlDownloadEnabled
  firmware : w'.firmwareModule = w.firmwareModule

theorem Wired.refl (w : Wolk δ φ type) : Wired w w := ⟨rfl, rfl, rfl⟩

theorem Wired.trans (h : Wired w w') (h' : Wired w' w'') : Wired w w'' :=
  ⟨h'.transfer.trans h.transfer, h'.url.trans h.url, h'.firmware.trans h.firmware⟩

theorem Wired.announcement (h : Wired w w') (k : String) : w'.announcement k = w.announcement k := by
  simp only [Wolk.announcement, h.transfer, h.url, h.firmware]

/-- Nothing is reported, and no device comes. -/
structure Silent (w w' : Wolk δ φ type) : Prop extends Wired w w' where
  devices : w'.devices = w.devices
  reported : w'.reported = w.reported

theorem Silent.refl (w : Wolk δ φ type) : Silent w w := ⟨.refl w, rfl, rfl⟩

theorem Silent.trans (h : Silent w w') (h' : Silent w' w'') : Silent w w'' :=
  ⟨h.toWired.trans h'.toWired, h'.devices.trans h.devices, h'.reported.trans h.reported⟩

theorem Silent.foldlM {α : Type} {f : Wolk δ φ type → α → Except WolkFault (Wolk δ φ type)}
    (hf : ∀ w a w', f w a = .ok w' → Silent w w') (as : List α) (h : as.foldlM f w = .ok w') :
    Silent w w' := by
  induction as generalizing w with
  | nil =>
    cases h
    exact .refl _
  | cons a as ih =>
    rw [List.foldlM_cons] at h
    obtain ⟨w₁, hw, h⟩ := Machine.bind_eq_ok.mp h
    exact (hf _ _ _ hw).trans (ih h)

/-! ## What says nothing -/

theorem silent_interfaceConnected (h : w.interfaceConnected = .ok w') : Silent w w' := by
  unfold interfaceConnected at h
  rw [NullPointer.callIfPresent_eq] at h
  cases h
  exact ⟨⟨rfl, rfl, rfl⟩, rfl, rfl⟩

theorem config_reportPresentFiles (ctx : Context δ μ φ) (svc : FileManagementService δ φ) (k : String) :
    (svc.reportPresentFiles ctx k).config = svc.config := by
  have hstep : System.step ctx ⟨svc, none⟩ (.receive k .fileListRequest fun _ => 0) =
      .ok ⟨svc.reportPresentFiles ctx k, none⟩ := rfl
  exact (System.step_files hstep).config

theorem silent_reportFilesForDevice {ctx : Context δ μ φ} {k : String}
    (h : w.reportFilesForDevice ctx k = .ok w') : Silent w w' := by
  unfold reportFilesForDevice at h
  rw [NullPointer.callIfPresent_eq] at h
  cases h
  refine ⟨⟨?_, ?_, rfl⟩, rfl, rfl⟩
  · simp [transferEnabled, Option.any_map, config_reportPresentFiles]
  · simp [urlDownloadEnabled, Option.any_map, config_reportPresentFiles]

/-- The firmware service keeps its module. -/
theorem silent_firmware {f : FirmwareUpdater → FirmwareUpdater}
    (hf : ∀ u, (f u).firmwareInstaller = u.firmwareInstaller ∧
      (f u).firmwareParametersListener = u.firmwareParametersListener) :
    Silent w { w with firmwareUpdateService := w.firmwareUpdateService.map f } := by
  refine ⟨⟨rfl, rfl, ?_⟩, rfl, rfl⟩
  simp [firmwareModule, Function.comp_def, hf]

theorem FirmwareUpdater.module_onFirmwareInstall {u u' : FirmwareUpdater} {fctx : FirmwareContext}
    {k : String} {messagePath : Except WolkFault String}
    (h : u.onFirmwareInstall fctx k messagePath = .ok u') :
    u'.firmwareInstaller = u.firmwareInstaller ∧
      u'.firmwareParametersListener = u.firmwareParametersListener := by
  unfold FirmwareUpdater.onFirmwareInstall at h
  split_ifs at h
  · cases h
    exact ⟨rfl, rfl⟩
  · obtain ⟨path, -, h⟩ := Machine.bind_eq_ok.mp h
    obtain ⟨installer, -, h⟩ := Machine.bind_eq_ok.mp h
    cases h
    exact ⟨rfl, rfl⟩
  · cases h
    exact ⟨rfl, rfl⟩

theorem silent_firmwareInstall {ctx : Context δ μ φ} {fctx : FirmwareContext} {k file : String}
    (h : w.firmwareInstall ctx fctx k file = .ok w') : Silent w w' := by
  unfold firmwareInstall at h
  cases hservice : w.firmwareUpdateService with
  | none =>
    rw [hservice] at h
    cases h
    exact .refl _
  | some u =>
    rw [hservice] at h
    obtain ⟨u', hu, h⟩ := Machine.bind_eq_ok.mp h
    cases h
    have hmodule := FirmwareUpdater.module_onFirmwareInstall hu
    refine ⟨⟨rfl, rfl, ?_⟩, rfl, rfl⟩
    simp [firmwareModule, hservice, hmodule]

theorem silent_firmwareAbort {k : String} (h : w.firmwareAbort k = .ok w') : Silent w w' := by
  unfold firmwareAbort at h
  cases hservice : w.firmwareUpdateService with
  | none =>
    rw [hservice] at h
    cases h
    exact .refl _
  | some u =>
    rw [hservice] at h
    obtain ⟨asked, -, h⟩ := Machine.bind_eq_ok.mp h
    cases h
    exact .refl _

theorem silent_ask {call : DataCall} (hcall : call.update = none) : Silent w (w.ask call) := by
  refine ⟨⟨rfl, rfl, rfl⟩, rfl, ?_⟩
  simp [Wolk.reported, ask, hcall]

/-- What the registration service is asked. -/
theorem silent_registration {calls : Option (List RegistrationCall)} :
    Silent w { w with registrationService := calls } :=
  ⟨⟨rfl, rfl, rfl⟩, rfl, rfl⟩

theorem FirmwareUpdater.module_notifyConnected (u : FirmwareUpdater) (k : String) :
    (u.notifyConnected k).firmwareInstaller = u.firmwareInstaller ∧
      (u.notifyConnected k).firmwareParametersListener = u.firmwareParametersListener := by
  unfold FirmwareUpdater.notifyConnected FirmwareUpdater.obtainParametersAndAnnounce
  split_ifs <;> exact ⟨rfl, rfl⟩

theorem FirmwareUpdater.module_reportFirmwareUpdate (u : FirmwareUpdater) (fctx : FirmwareContext)
    (k : String) : (u.reportFirmwareUpdate fctx k).firmwareInstaller = u.firmwareInstaller ∧
      (u.reportFirmwareUpdate fctx k).firmwareParametersListener = u.firmwareParametersListener := by
  unfold FirmwareUpdater.reportFirmwareUpdate FirmwareUpdater.obtainParametersAndAnnounce
  split_ifs <;> exact ⟨rfl, rfl⟩

theorem silent_reportFirmwareUpdateForDevice {w w' : Wolk δ φ .multiDevice} {fctx : FirmwareContext}
    {k : String} (h : w.reportFirmwareUpdateForDevice fctx k = .ok w') : Silent w w' := by
  unfold reportFirmwareUpdateForDevice at h
  rw [NullPointer.callIfPresent_eq] at h
  cases h
  exact silent_firmware fun u => FirmwareUpdater.module_reportFirmwareUpdate u fctx k

theorem silent_notifyConnectedSingle {ctx : Context δ μ φ} {w w' : Wolk δ φ .singleDevice}
    (h : w.notifyConnectedSingle ctx = .ok w') : Silent w w' := by
  unfold notifyConnectedSingle at h
  obtain ⟨w₁, hw₁, h⟩ := Machine.bind_eq_ok.mp h
  obtain ⟨w₂, hw₂, h⟩ := Machine.bind_eq_ok.mp h
  rw [NullPointer.callIfPresent_eq] at h
  cases h
  refine ((silent_interfaceConnected hw₁).trans (silent_reportFilesForDevice hw₂)).trans ?_
  exact silent_firmware fun u => FirmwareUpdater.module_notifyConnected u _

theorem silent_notifyConnectedMulti {ctx : Context δ μ φ} {fctx : FirmwareContext}
    {w w' : Wolk δ φ .multiDevice} (h : w.notifyConnectedMulti ctx fctx = .ok w') : Silent w w' := by
  unfold notifyConnectedMulti at h
  obtain ⟨w₁, hw₁, h⟩ := Machine.bind_eq_ok.mp h
  refine (silent_interfaceConnected hw₁).trans (Silent.foldlM (fun w device w' h => ?_) _ h)
  obtain ⟨w₂, hw₂, h⟩ := Machine.bind_eq_ok.mp h
  exact (silent_reportFilesForDevice hw₂).trans (silent_reportFirmwareUpdateForDevice h)

theorem silent_queryRegistration {w w' : Wolk δ φ .multiDevice} {k : String} {call : RegistrationCall}
    (h : w.queryRegistration k call = .ok w') : Silent w w' := by
  unfold queryRegistration at h
  split_ifs at h
  · obtain ⟨calls, -, h⟩ := Machine.bind_eq_ok.mp h
    cases h
    exact silent_registration
  · cases h
    exact .refl _

/-! ## Devices that come later -/

theorem reported_updateParameter (name : ParameterName) (value : String) (k : String) :
    (w.updateParameter k name value).reported = w.reported ++ [(k, name, value)] := by
  simp [Wolk.reported, updateParameter, ask, DataCall.update]

theorem reported_reportFileTransferParameters (transferEnabled urlDownloadEnabled : Bool) (k : String) :
    (w.reportFileTransferParameters k transferEnabled urlDownloadEnabled).reported =
      w.reported ++ fileTransferParameters transferEnabled urlDownloadEnabled k := by
  unfold reportFileTransferParameters
  rw [reported_updateParameter, reported_updateParameter, List.append_assoc]
  rfl

theorem reported_reportFirmwareParameters (enabled : Bool) (version : String) (k : String) :
    (w.reportFirmwareParameters k enabled version).reported =
      w.reported ++ firmwareParameters enabled version k := by
  unfold reportFirmwareParameters
  rw [reported_updateParameter, reported_updateParameter, List.append_assoc]
  rfl

theorem reported_reportFileManagementParameters {w w' : Wolk δ φ .multiDevice} {k : String}
    (h : w.reportFileManagementParametersForDevice k = .ok w') :
    Wired w w' ∧ w'.devices = w.devices ∧ w'.reported =
      w.reported ++ fileTransferParameters w.transferEnabled w.urlDownloadEnabled k := by
  unfold reportFileManagementParametersForDevice at h
  cases hservice : w.fileManagementService with
  | none =>
    rw [hservice] at h
    cases h
    refine ⟨⟨rfl, rfl, rfl⟩, rfl, ?_⟩
    rw [reported_reportFileTransferParameters]
    simp [transferEnabled, urlDownloadEnabled, hservice]
  | some svc =>
    rw [hservice] at h
    cases h
    refine ⟨⟨rfl, rfl, rfl⟩, rfl, ?_⟩
    rw [reported_reportFileTransferParameters]
    simp [transferEnabled, urlDownloadEnabled, hservice]

theorem reported_reportFirmwareUpdateParameters {w w' : Wolk δ φ .multiDevice} {k : String}
    (h : w.reportFirmwareUpdateParametersForDevice k = .ok w') :
    Wired w w' ∧ w'.devices = w.devices ∧ w'.reported =
      w.reported ++ firmwareParameters w.firmwareModule.isSome
        (w.firmwareModule.elim "" fun m => firmwareVersion m.1 m.2 k) k := by
  unfold reportFirmwareUpdateParametersForDevice at h
  cases hservice : w.firmwareUpdateService with
  | none =>
    rw [hservice] at h
    cases h
    refine ⟨⟨rfl, rfl, rfl⟩, rfl, ?_⟩
    rw [reported_reportFirmwareParameters]
    simp [firmwareModule, hservice]
  | some u =>
    rw [hservice] at h
    have hversion : u.getVersionForDevice k = .ok (firmwareVersion _ _ k) := getFirmwareVersion_eq _ _ k
    change (u.getVersionForDevice k >>= fun version =>
      Except.ok (w.reportFirmwareParameters k true version)) = _ at h
    rw [hversion] at h
    cases h
    refine ⟨⟨rfl, rfl, rfl⟩, rfl, ?_⟩
    rw [reported_reportFirmwareParameters]
    simp [firmwareModule, hservice]

/-- A device comes, with its parameters, or nothing happens. -/
theorem reported_addDevice {ctx : Context δ μ φ} {fctx : FirmwareContext} {w w' : Wolk δ φ .multiDevice}
    {device : Device} {added : Bool} (h : w.addDevice ctx fctx device = .ok (added, w')) : Silent w w' ∨
      device.key ∉ w.devices.map Device.key ∧ Wired w w' ∧ w'.devices = w.devices ++ [device] ∧
        w'.reported = w.reported ++ w.announcement device.key := by
  unfold addDevice at h
  split_ifs at h with hlisted
  · cases h
    exact .inl (.refl _)
  · right
    rw [isDeviceInList_iff] at hlisted
    obtain ⟨w₁, hw₁, h⟩ := Machine.bind_eq_ok.mp h
    obtain ⟨w₂, hw₂, h⟩ := Machine.bind_eq_ok.mp h
    obtain ⟨hwired₁, hdevices₁, hreported₁⟩ := reported_reportFileManagementParameters hw₁
    obtain ⟨hwired₂, hdevices₂, hreported₂⟩ := reported_reportFirmwareUpdateParameters hw₂
    have hsilent : Silent w₂ w' := by
      split_ifs at h
      · obtain ⟨w₃, hw₃, h⟩ := Machine.bind_eq_ok.mp h
        obtain ⟨w₄, hw₄, h⟩ := Machine.bind_eq_ok.mp h
        cases h
        refine Silent.trans ?_ (silent_reportFirmwareUpdateForDevice hw₄)
        exact (silent_ask rfl).trans (silent_reportFilesForDevice hw₃)
      · cases h
        exact .refl _
    have hwired : Wired w w₁ := ⟨hwired₁.transfer, hwired₁.url, hwired₁.firmware⟩
    refine ⟨hlisted, (hwired.trans hwired₂).trans hsilent.toWired, ?_, ?_⟩
    · rw [hsilent.devices, hdevices₂, hdevices₁]
    · rw [hsilent.reported, hreported₂, hreported₁, hwired.firmware, List.append_assoc]
      rfl

/-! ## Runs -/

/-- Each device was told of once. -/
def Told (w : Wolk δ φ type) : Prop :=
  (type.keys w.devices).Nodup ∧ ∀ k, w.reported.filter (fun r => r.1 = k) =
    if k ∈ type.keys w.devices then w.announcement k else []

theorem announcement_key {w : Wolk δ φ type} {k : String} : ∀ r ∈ w.announcement k, r.1 = k := by
  simp [announcement, fileTransferParameters, firmwareParameters]

theorem Told.silent (h : Told w) (hsilent : Silent w w') : Told w' := by
  obtain ⟨hnodup, htold⟩ := h
  unfold Told
  rw [hsilent.devices]
  refine ⟨hnodup, fun k => ?_⟩
  rw [hsilent.reported, htold, hsilent.announcement]

theorem Told.added {w w' : Wolk δ φ .multiDevice} (h : Told w) {device : Device}
    (hnew : device.key ∉ w.devices.map Device.key) (hwired : Wired w w')
    (hdevices : w'.devices = w.devices ++ [device])
    (hreported : w'.reported = w.reported ++ w.announcement device.key) : Told w' := by
  obtain ⟨hnodup, htold⟩ := h
  have hkeys : WolkInterfaceType.keys .multiDevice w'.devices =
      w.devices.map Device.key ++ [device.key] := by
    change w'.devices.map Device.key = _
    rw [hdevices, List.map_append, List.map_singleton]
  refine ⟨?_, fun k => ?_⟩
  · rw [hkeys]
    exact hnodup.append (List.nodup_singleton _) (List.disjoint_singleton.mpr hnew)
  · rw [hkeys, hreported, List.filter_append, htold, hwired.announcement]
    change (if k ∈ w.devices.map Device.key then _ else _) ++ _ = _
    by_cases hk : k = device.key
    · subst hk
      rw [if_neg hnew, List.nil_append, if_pos (by simp), List.filter_eq_self]
      intro r hr
      exact decide_eq_true (announcement_key r hr)
    · have hnone : (w.announcement device.key).filter (fun r => r.1 = k) = [] := by
        rw [List.filter_eq_nil_iff]
        intro r hr
        simpa [announcement_key r hr] using Ne.symm hk
      simp [hnone, hk]

theorem Told.addDevice {ctx : Context δ μ φ} {fctx : FirmwareContext} {w w' : Wolk δ φ .multiDevice}
    (h : Told w) {device : Device} {added : Bool} (hadd : w.addDevice ctx fctx device = .ok (added, w')) :
    Told w' ∧ Wired w w' := by
  rcases reported_addDevice hadd with hsilent | ⟨hnew, hwired, hdevices, hreported⟩
  · exact ⟨h.silent hsilent, hsilent.toWired⟩
  · exact ⟨h.added hnew hwired hdevices hreported, hwired⟩

theorem Told.registered {ctx : Context δ μ φ} {fctx : FirmwareContext} {w w' : Wolk δ φ .multiDevice}
    (h : Told w) {devices : List DeviceRegistrationData} {success : List String}
    (hregistered : w.registered ctx fctx devices success = .ok w') : Told w' ∧ Wired w w' := by
  unfold Wolk.registered Wolk.addRegistered at hregistered
  split at hregistered
  · cases hregistered
    exact ⟨h, .refl _⟩
  · rename_i hservice
    clear hservice
    induction devices generalizing w with
    | nil =>
      cases hregistered
      exact ⟨h, .refl _⟩
    | cons device devices ih =>
      rw [List.foldlM_cons] at hregistered
      obtain ⟨w₁, hw₁, hregistered⟩ := Machine.bind_eq_ok.mp hregistered
      split_ifs at hw₁
      · obtain ⟨r, hr, hw₁⟩ := Machine.bind_eq_ok.mp hw₁
        cases hw₁
        obtain ⟨htold, hwired⟩ := h.addDevice hr
        obtain ⟨htold', hwired'⟩ := ih htold hregistered
        exact ⟨htold', hwired.trans hwired'⟩
      · cases hw₁
        exact ih h hregistered

theorem Told.step {ctx : Context δ μ φ} (h : Told w) {e : WolkEvent type}
    (hstep : w.step ctx e = .ok w') : Told w' ∧ Wired w w' := by
  have hkept : Silent w w' → Told w' ∧ Wired w w' := fun hs => ⟨h.silent hs, hs.toWired⟩
  cases e with
  | interface =>
    cases hstep
    exact hkept (.refl _)
  | connected =>
    cases type with
    | singleDevice => exact hkept (silent_notifyConnectedSingle hstep)
    | multiDevice => exact hkept (silent_notifyConnectedMulti hstep)
  | disconnected =>
    cases hstep
    exact hkept ⟨⟨rfl, rfl, rfl⟩, rfl, rfl⟩
  | firmwareInstall => exact hkept (silent_firmwareInstall hstep)
  | firmwareAbort => exact hkept (silent_firmwareAbort hstep)
  | dataSingle | synchronizeParameters | obtainDetails =>
    cases hstep
    exact hkept (silent_ask rfl)
  | obtainChildren =>
    change w.obtainChildren = .ok w' at hstep
    unfold obtainChildren at hstep
    split_ifs at hstep
    · obtain ⟨calls, -, hstep⟩ := Machine.bind_eq_ok.mp hstep
      cases hstep
      exact hkept silent_registration
    · cases hstep
      exact hkept (.refl _)
  | dataMulti k method =>
    have hdata : w.dataMethod k method = w' := Except.ok.inj hstep
    unfold dataMethod at hdata
    split_ifs at hdata
    · exact hkept (hdata ▸ silent_ask rfl)
    · exact hkept (hdata ▸ .refl _)
  | errors =>
    cases hstep
    exact hkept (.refl _)
  | addDevice =>
    obtain ⟨r, hr, hstep⟩ := Machine.bind_eq_ok.mp hstep
    cases hstep
    exact h.addDevice hr
  | registerDevice | registerDevices =>
    have hregister : w.registerDevices _ = .ok w' := hstep
    unfold registerDevices at hregister
    split_ifs at hregister
    · obtain ⟨calls, -, hregister⟩ := Machine.bind_eq_ok.mp hregister
      cases hregister
      exact hkept silent_registration
    · cases hregister
      exact hkept (.refl _)
  | registered => exact h.registered hstep
  | removeDevice | removeDevices | obtainDevices | obtainDevicesAsync =>
    exact hkept (silent_queryRegistration hstep)

end Wolk

/-! ## Building -/

namespace WolkBuilder

open Wolk BuilderCall

variable {δ μ φ : Type} {ctx : Context δ μ φ} {fctx : FirmwareContext} {b : WolkBuilder δ}
  {type : WolkInterfaceType} {w w' : Wolk δ φ type}

/-- What no call of the builder breaks. -/
structure Consistent (b : WolkBuilder δ) : Prop where
  flags : b.fileManagementProtocol = false →
    b.fileTransferEnabled = false ∧ b.fileTransferUrlEnabled = false
  modules : b.firmwareUpdateProtocol = false →
    b.firmwareInstaller = none ∧ b.firmwareParametersListener = none

theorem Consistent.call (h : Consistent b) (c : BuilderCall δ) : Consistent (b.call c) := by
  cases c with
  | withFileTransfer | withFileURLDownload => exact ⟨(nomatch ·), h.modules⟩
  | withFirmwareInstaller | withFirmwareParametersListener => exact ⟨h.flags, (nomatch ·)⟩
  | _ => exact ⟨h.flags, h.modules⟩

theorem consistent_configure (h : Consistent b) (calls : List (BuilderCall δ)) :
    Consistent (b.configure calls) := by
  unfold configure
  induction calls generalizing b with
  | nil => exact h
  | cons c calls ih => exact ih (h.call c)

/-- The module that the firmware service is made of. -/
def firmwareModule (b : WolkBuilder δ) :
    Option (Option FirmwareInstaller × Option FirmwareParametersListener) :=
  if b.firmwareInstaller.isSome then some (b.firmwareInstaller, none)
  else if b.firmwareParametersListener.isSome then some (none, b.firmwareParametersListener)
  else none

theorem firmwareVersion_module (b : WolkBuilder δ) (k : String) :
    (b.firmwareModule.elim "" fun m => firmwareVersion m.1 m.2 k) =
      firmwareVersion b.firmwareInstaller b.firmwareParametersListener k := by
  unfold firmwareModule firmwareVersion
  cases b.firmwareInstaller with
  | some installer => rfl
  | none => cases b.firmwareParametersListener <;> rfl

theorem buildFileManagement_told (hb : Consistent b) {devices : type.Devices} {disk : φ}
    (h : b.buildFileManagement ctx (.create devices : Wolk δ φ type) disk = .ok w) :
    w.devices = devices ∧ w.reported = [] ∧ w.firmwareModule = none ∧
      w.transferEnabled = b.fileTransferEnabled ∧ w.urlDownloadEnabled = b.fileTransferUrlEnabled := by
  unfold buildFileManagement at h
  split_ifs at h with hprotocol
  · cases h
    exact ⟨rfl, rfl, rfl, rfl, rfl⟩
  · cases h
    obtain ⟨htransfer, hurl⟩ := hb.flags (by simpa using hprotocol)
    exact ⟨rfl, rfl, rfl, htransfer.symm, hurl.symm⟩

theorem reportParameters_told (h : b.reportParameters w = .ok w') :
    Wired w w' ∧ w'.devices = w.devices ∧ w'.reported = w.reported ++
      (b.devices.map Device.key).flatMap
        (fileTransferParameters b.fileTransferEnabled b.fileTransferUrlEnabled) ++
      (b.devices.map Device.key).flatMap fun k => firmwareParameters b.firmwareUpdateProtocol
        (firmwareVersion b.firmwareInstaller b.firmwareParametersListener k) k := by
  have hfiles : ∀ (devices : List Device) (w : Wolk δ φ type),
      let w' := devices.foldl (fun w device => w.reportFileTransferParameters device.key
        b.fileTransferEnabled b.fileTransferUrlEnabled) w
      Wired w w' ∧ w'.devices = w.devices ∧ w'.reported = w.reported ++
        (devices.map Device.key).flatMap
          (fileTransferParameters b.fileTransferEnabled b.fileTransferUrlEnabled) := by
    intro devices
    induction devices with
    | nil => exact fun w => ⟨.refl w, rfl, (List.append_nil _).symm⟩
    | cons device devices ih =>
      intro w
      obtain ⟨hwired, hdevices, hreported⟩ := ih (w.reportFileTransferParameters device.key
        b.fileTransferEnabled b.fileTransferUrlEnabled)
      refine ⟨⟨hwired.transfer, hwired.url, hwired.firmware⟩, hdevices, ?_⟩
      rw [List.foldl_cons, hreported, List.map_cons, List.flatMap_cons, ← List.append_assoc,
        reported_reportFileTransferParameters]
  have hfirmware : ∀ (devices : List Device) (w w' : Wolk δ φ type),
      devices.foldlM (fun w device => do
        let version ← getFirmwareVersion b.firmwareInstaller b.firmwareParametersListener device.key
        .ok (w.reportFirmwareParameters device.key b.firmwareUpdateProtocol version)) w = .ok w' →
      Wired w w' ∧ w'.devices = w.devices ∧ w'.reported = w.reported ++
        (devices.map Device.key).flatMap fun k => firmwareParameters b.firmwareUpdateProtocol
          (firmwareVersion b.firmwareInstaller b.firmwareParametersListener k) k := by
    intro devices
    induction devices with
    | nil =>
      rintro w w' ⟨⟩
      exact ⟨.refl w, rfl, (List.append_nil _).symm⟩
    | cons device devices ih =>
      intro w w' h
      rw [List.foldlM_cons, getFirmwareVersion_eq] at h
      obtain ⟨hwired, hdevices, hreported⟩ := ih _ _ h
      refine ⟨⟨hwired.transfer, hwired.url, hwired.firmware⟩, hdevices, ?_⟩
      rw [hreported, List.map_cons, List.flatMap_cons, ← List.append_assoc,
        reported_reportFirmwareParameters]
  unfold reportParameters at h
  obtain ⟨hwired, hdevices, hreported⟩ := hfirmware _ _ _ h
  obtain ⟨hwired', hdevices', hreported'⟩ := hfiles b.devices w
  refine ⟨hwired'.trans hwired, hdevices.trans hdevices', ?_⟩
  rw [hreported, hreported']

theorem buildFirmwareUpdate_told {sessionFiles : OrderedMap String String}
    (h : b.buildFirmwareUpdate fctx w sessionFiles = .ok w') (hnone : w.firmwareModule = none) :
    w'.transferEnabled = w.transferEnabled ∧ w'.urlDownloadEnabled = w.urlDownloadEnabled ∧
      w'.devices = w.devices ∧ w'.reported = w.reported ∧
      w'.firmwareModule = (if b.firmwareUpdateProtocol then b.firmwareModule else none) ∧
      (b.devices ≠ [] → b.firmwareUpdateProtocol = true → b.firmwareModule.isSome = true) := by
  unfold buildFirmwareUpdate at h
  split_ifs at h with hprotocol
  · obtain ⟨service, hservice, h⟩ := Machine.bind_eq_ok.mp h
    cases h
    -- Loading a state keeps the module, and needs a service.
    have hloaded : ∀ (devices : List Device) (service service' : Option FirmwareUpdater),
        devices.foldlM (fun service device =>
          NullPointer.firmwareUpdateService.call service (·.loadState fctx device.key)) service =
          .ok service' →
        (service'.map fun u => (u.firmwareInstaller, u.firmwareParametersListener)) =
          (service.map fun u => (u.firmwareInstaller, u.firmwareParametersListener)) ∧
        (devices ≠ [] → service.isSome = true) := by
      intro devices
      induction devices with
      | nil =>
        rintro service service' ⟨⟩
        exact ⟨rfl, fun h => absurd rfl h⟩
      | cons device devices ih =>
        intro service service' h
        cases service with
        | none => cases h
        | some u => exact ⟨(ih _ _ h).1, fun _ => rfl⟩
    obtain ⟨hmodule, hsome⟩ := hloaded _ _ _ hservice
    have hmade : (b.makeFirmwareUpdateService sessionFiles).map
        (fun u => (u.firmwareInstaller, u.firmwareParametersListener)) = b.firmwareModule := by
      unfold makeFirmwareUpdateService firmwareModule
      split_ifs <;> rfl
    rw [hmade] at hmodule
    refine ⟨rfl, rfl, rfl, rfl, hmodule.trans (if_pos hprotocol).symm, fun hdevices _ => ?_⟩
    rw [← hmade, Option.isSome_map]
    exact hsome hdevices
  · cases h
    exact ⟨rfl, rfl, rfl, rfl, hnone.trans (if_neg hprotocol).symm, fun _ h => absurd h hprotocol⟩

theorem build_told (hb : Consistent b) {disk : φ} {sessionFiles : OrderedMap String String}
    {devices : type.Devices} (hkeys : type.keys devices = b.devices.map Device.key)
    (hnodup : (b.devices.map Device.key).Nodup)
    (h : b.build ctx fctx disk sessionFiles devices = .ok w) : Wolk.Told w := by
  unfold build at h
  obtain ⟨w₁, hw₁, h⟩ := Machine.bind_eq_ok.mp h
  obtain ⟨w₂, hw₂, h⟩ := Machine.bind_eq_ok.mp h
  obtain ⟨w₃, hw₃, h⟩ := Machine.bind_eq_ok.mp h
  obtain ⟨hdevices₁, hreported₁, hnone, htransfer₁, hurl₁⟩ := buildFileManagement_told hb hw₁
  obtain ⟨hwired, hdevices₂, hreported₂⟩ := reportParameters_told hw₂
  obtain ⟨htransfer₃, hurl₃, hdevices₃, hreported₃, hmodule, hsome⟩ :=
    buildFirmwareUpdate_told hw₃ (hwired.firmware.trans hnone)
  have hsilent : Silent w₃ w := by
    cases h
    unfold buildRegistration buildPlatformStatus
    split_ifs <;> exact ⟨⟨rfl, rfl, rfl⟩, rfl, rfl⟩
  have htold : Wolk.Told w₃ := by
    have hlisted : type.keys w₃.devices = b.devices.map Device.key := by
      rw [hdevices₃, hdevices₂, hdevices₁, hkeys]
    refine ⟨hlisted ▸ hnodup, fun k => ?_⟩
    rw [hlisted, hreported₃, hreported₂, hreported₁, List.nil_append, List.filter_append,
      filter_flatMap_nodup (by simp [fileTransferParameters]) hnodup,
      filter_flatMap_nodup (by simp [firmwareParameters]) hnodup]
    split_ifs with hk
    · have hne : b.devices ≠ [] := by
        rintro hnil
        rw [hnil] at hk
        cases hk
      have hprotocol : w₃.firmwareModule.isSome = b.firmwareUpdateProtocol := by
        rw [hmodule]
        split_ifs with hp
        · rw [hp]
          exact hsome hne hp
        · simpa using Ne.symm hp
      have hversion : (w₃.firmwareModule.elim "" fun m => firmwareVersion m.1 m.2 k) =
          firmwareVersion b.firmwareInstaller b.firmwareParametersListener k := by
        rw [← firmwareVersion_module, hmodule]
        split_ifs with hp
        · rfl
        · obtain ⟨hinstaller, hlistener⟩ := hb.modules (by simpa using hp)
          simp [firmwareModule, hinstaller, hlistener]
      rw [announcement, htransfer₃, hurl₃, hwired.transfer, hwired.url, htransfer₁, hurl₁, hprotocol,
        hversion]
    · rfl
  exact htold.silent hsilent

/-- **What is reported of a device** does not depend on how it came to the connector: the same four
parameters, once each, with the values of the services that the connector has in the end. -/
theorem parameters_reported {disk : φ} {sessionFiles : OrderedMap String String} {devices : List Device}
    {calls : List (BuilderCall δ)} (hvalid : ValidDevices type (devicesAtBuild devices calls))
    (hnodup : ((devicesAtBuild devices calls).map Device.key).Nodup) {es : List (WolkEvent type)}
    (huse : use ctx fctx disk sessionFiles devices calls es = .ok w) (k : String) :
    w.reported.filter (fun r => r.1 = k) =
      if k ∈ type.keys w.devices then w.announcement k else [] := by
  have hconfigured := configured (δ := δ) devices calls
  have hconsistent : Consistent ((newBuilder devices : WolkBuilder δ).configure calls) :=
    consistent_configure ⟨fun _ => ⟨rfl, rfl⟩, fun _ => ⟨rfl, rfl⟩⟩ calls
  unfold use at huse
  generalize (newBuilder devices).configure calls = b at hconfigured hconsistent huse
  rw [← hconfigured.devices] at hvalid hnodup
  obtain ⟨own, hbuild, hkeys⟩ := buildWolk_eq ctx fctx b hvalid disk sessionFiles
  rw [hbuild] at huse
  obtain ⟨w₀, hw₀, huse⟩ := Machine.bind_eq_ok.mp huse
  have hstart : Wolk.Told w₀ := build_told hconsistent hkeys hnodup hw₀
  have hrun : ∀ (es : List (WolkEvent type)) (w₀ : Wolk δ φ type), Wolk.Told w₀ →
      es.foldlM (Wolk.step ctx) w₀ = .ok w → Wolk.Told w := by
    intro es
    induction es with
    | nil =>
      rintro w₀ htold ⟨⟩
      exact htold
    | cons e es ih =>
      intro w₀ htold h
      rw [List.foldlM_cons] at h
      obtain ⟨w₁, hw₁, h⟩ := Machine.bind_eq_ok.mp h
      exact ih w₁ (htold.step hw₁).1 h
  exact (hrun es w₀ hstart huse).2 k

/-- "d" is there from the start, and "e" comes later. -/
theorem parameters_reported_later : ∃ w : Wolk Empty PathDisk .multiDevice,
    use uploadContext .working (⟨[], []⟩ : PathDisk) .empty [⟨"d", ""⟩] complete
      [.connected .working, .addDevice .working ⟨"e", ""⟩, .addDevice .working ⟨"d", ""⟩] = .ok w ∧
    w.reported.filter (fun r => r.1 = "e") = w.announcement "e" ∧
    w.reported.filter (fun r => r.1 = "d") = w.announcement "d" := by
  have hvalid : ValidDevices .multiDevice (devicesAtBuild [⟨"d", ""⟩] complete) := by
    rw [show devicesAtBuild [⟨"d", ""⟩] complete = [⟨"d", ""⟩] from rfl]
    simp [ValidDevices]
  have hok : ((use uploadContext .working (⟨[], []⟩ : PathDisk) .empty [⟨"d", ""⟩] complete
      [.connected .working, .addDevice .working ⟨"e", ""⟩, .addDevice .working ⟨"d", ""⟩] :
        Except WolkFault (Wolk Empty PathDisk .multiDevice)).toOption.map fun w =>
      w.devices.map Device.key) = some ["d", "e"] := by
    decide +kernel
  generalize huse : use uploadContext .working (⟨[], []⟩ : PathDisk) .empty [⟨"d", ""⟩] complete
    [.connected .working, .addDevice .working ⟨"e", ""⟩, .addDevice .working ⟨"d", ""⟩] = r at hok
  cases r with
  | error f => cases hok
  | ok w =>
    have hkeys : w.devices.map Device.key = ["d", "e"] := Option.some.inj hok
    refine ⟨w, rfl, ?_, ?_⟩
    · rw [parameters_reported hvalid (by decide) huse "e", if_pos]
      change "e" ∈ w.devices.map Device.key
      rw [hkeys]
      decide
    · rw [parameters_reported hvalid (by decide) huse "d", if_pos]
      change "d" ∈ w.devices.map Device.key
      rw [hkeys]
      decide

end WolkBuilder

end WolkConnect
