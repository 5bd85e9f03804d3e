import WolkConnect.Builder.Services
import WolkConnect.Service.System

/-!
# Building a connector and using it

Which calls of the builder, and which events after them, meet a service that is absent.
-/

namespace WolkConnect

/-! ## Events -/

namespace WolkEvent

variable {type : WolkInterfaceType}

/-- The device that the registration service is asked for, whether it is there or not. -/
def query : WolkEvent type → Option String
  | .removeDevice deviceKey _ | .removeDevices deviceKey _ | .obtainDevices deviceKey _ _ _ _
  | .obtainDevicesAsync deviceKey _ _ _ => some deviceKey
  | _ => none

def added : WolkEvent type → Option String
  | .addDevice _ device => some device.key
  | _ => none

/-- No event asks for a device that is listed by then. -/
def Unlisted : List String → List (WolkEvent type) → Prop
  | _, [] => True
  | listed, e :: es => (∀ k ∈ e.query, k ∉ listed) ∧ Unlisted (listed ++ e.added.toList) es

end WolkEvent

def WolkInterfaceType.keys : (type : WolkInterfaceType) → type.Devices → List String
  | .singleDevice, device => [device.key]
  | .multiDevice, devices => devices.map Device.key

namespace Wolk

open WolkEvent

variable {δ μ φ : Type} {type : WolkInterfaceType}

/-- What an event leaves. The devices matter while there is no registration service. -/
structure Follows (e : WolkEvent type) (w w' : Wolk δ φ type) : Prop where
  registration : w'.registrationService.isSome = w.registrationService.isSome
  keys : w.registrationService = none →
    ∀ k, k ∈ type.keys w'.devices ↔ k ∈ type.keys w.devices ∨ k ∈ e.added

theorem Safe.follows {w : Wolk δ φ type} {r : Except WolkFault (Wolk δ φ type)} (h : Safe w r)
    {e : WolkEvent type} (hadded : e.added = none) : ∃ w', r = .ok w' ∧ Follows e w w' := by
  obtain ⟨w', hr, hkeeps⟩ := h
  refine ⟨w', hr, hkeeps.registration, fun _ k => ?_⟩
  rw [hkeeps.devices, hadded]
  exact (or_iff_left (by rintro ⟨⟩)).symm

theorem step_ok (ctx : Context δ μ φ) (w : Wolk δ φ type) (e : WolkEvent type)
    (h : w.registrationService.isSome = true ∨ ∀ k ∈ e.query, k ∉ type.keys w.devices) :
    ∃ w', w.step ctx e = .ok w' ∧ Follows e w w' := by
  have hok : ∀ w', Keeps w w' → Safe w (.ok w') := fun w' hkeeps => ⟨w', rfl, hkeeps⟩
  cases e with
  | interface method => exact (hok w ⟨rfl, rfl⟩).follows rfl
  | connected fctx =>
    cases type with
    | singleDevice => exact (safe_notifyConnectedSingle ctx w).follows rfl
    | multiDevice => exact (safe_notifyConnectedMulti ctx fctx w).follows rfl
  | disconnected => exact (hok { w with connected := false } ⟨rfl, rfl⟩).follows rfl
  | firmwareInstall fctx k file => exact (safe_firmwareInstall ctx fctx w k file).follows rfl
  | firmwareAbort k => exact (safe_firmwareAbort w k).follows rfl
  | dataSingle method => exact (hok (w.ask _) ⟨rfl, rfl⟩).follows rfl
  | synchronizeParameters parameters => exact (hok (w.ask _) ⟨rfl, rfl⟩).follows rfl
  | obtainDetails => exact (hok (w.ask _) ⟨rfl, rfl⟩).follows rfl
  | obtainChildren => exact (safe_obtainChildren w).follows rfl
  | dataMulti k method =>
    refine (hok (w.dataMethod k method) ?_).follows rfl
    unfold dataMethod
    split_ifs <;> exact ⟨rfl, rfl⟩
  | errors k method => exact (hok w ⟨rfl, rfl⟩).follows rfl
  | addDevice fctx device =>
    obtain ⟨w', hadded, hsame, hdevices⟩ := w.addDevice_ok ctx fctx device
    refine ⟨w', Machine.bind_eq_ok.mpr ⟨_, hadded, rfl⟩, hsame, fun _ k => ?_⟩
    rw [hdevices]
    exact DistinctKeys.mem_add.trans (or_congr_right (eq_comm.trans Option.mem_some_iff.symm))
  | registerDevice device => exact (safe_registerDevices w [device]).follows rfl
  | registerDevices devices => exact (safe_registerDevices w devices).follows rfl
  | registered fctx devices success =>
    obtain ⟨w', hw, hsame, hidle⟩ := w.registered_ok ctx fctx devices success
    refine ⟨w', hw, hsame, fun hnull k => ?_⟩
    rw [hidle hnull]
    exact (or_iff_left (by rintro ⟨⟩)).symm
  | removeDevice k key | removeDevices k keys | obtainDevices k from' type id timeout
  | obtainDevicesAsync k from' type id =>
    exact (safe_queryRegistration w k _ (h.imp_right fun h => h k rfl)).follows rfl

theorem step_null (ctx : Context δ μ φ) (w : Wolk δ φ type) (e : WolkEvent type) {k : String}
    (hnull : w.registrationService = none) (hquery : k ∈ e.query)
    (hlisted : k ∈ type.keys w.devices) :
    w.step ctx e = .error (.dereferenced .registrationService) := by
  cases e with
  | removeDevice key _ | removeDevices key _ | obtainDevices key _ _ _ _
  | obtainDevicesAsync key _ _ _ =>
    obtain rfl : key = k := Option.some.inj hquery
    exact queryRegistration_null w key _ hnull hlisted
  | _ => cases hquery

/-- Without a registration service, it matters whether a device is listed when it is asked for. -/
theorem run_safe_iff (ctx : Context δ μ φ) (es : List (WolkEvent type)) (w : Wolk δ φ type)
    (listed : List String)
    (hlisted : w.registrationService = none → ∀ k, k ∈ type.keys w.devices ↔ k ∈ listed) :
    (∀ pointer, es.foldlM (step ctx) w ≠ .error (.dereferenced pointer)) ↔
      w.registrationService.isSome = true ∨ Unlisted listed es := by
  induction es generalizing w listed with
  | nil => exact iff_of_true (by rintro pointer ⟨⟩) (.inr trivial)
  | cons e es ih =>
    by_cases hsafe : w.registrationService.isSome = true ∨ ∀ k ∈ e.query, k ∉ type.keys w.devices
    · obtain ⟨w', hstep, hfollows⟩ := step_ok ctx w e hsafe
      have hrun : (e :: es).foldlM (step ctx) w = es.foldlM (step ctx) w' := by
        rw [List.foldlM_cons, hstep]
        rfl
      have hnull : w'.registrationService = none → w.registrationService = none := fun h => by
        rw [← Option.isNone_iff_eq_none, ← Option.not_isSome, ← hfollows.registration, h]
        rfl
      rw [hrun, ih w' (listed ++ e.added.toList) fun h k => ?_, hfollows.registration]
      · refine or_congr_right' fun hthere => ?_
        have hidle : w.registrationService = none := by simpa using hthere
        have hquery : ∀ k ∈ e.query, k ∉ listed := fun k hk hmem =>
          hsafe.resolve_left hthere k hk ((hlisted hidle k).mpr hmem)
        exact (and_iff_right hquery).symm
      · rw [hfollows.keys (hnull h), hlisted (hnull h), List.mem_append, Option.mem_toList,
          Option.mem_def]
    · obtain ⟨hnone, hquery⟩ := not_or.mp hsafe
      push Not at hquery
      obtain ⟨k, hk, hmem⟩ := hquery
      have hidle : w.registrationService = none := by simpa using hnone
      refine iff_of_false (fun h => h .registrationService ?_) ?_
      · rw [List.foldlM_cons, step_null ctx w e hidle hk hmem]
        rfl
      · rintro (hthere | hunlisted)
        · exact hnone hthere
        · exact hunlisted.1 k hk ((hlisted hidle k).mp hmem)

end Wolk

/-! ## Building -/

namespace WolkBuilder

open BuilderCall Wolk

variable {δ μ φ : Type} (ctx : Context δ μ φ) (fctx : FirmwareContext) (b : WolkBuilder δ)
  {type : WolkInterfaceType}

theorem safe_buildFileManagement (w : Wolk δ φ type) (disk : φ) :
    Safe w (b.buildFileManagement ctx w disk) := by
  unfold buildFileManagement
  split_ifs
  · exact ⟨_, rfl, rfl, rfl⟩
  · exact ⟨w, rfl, rfl, rfl⟩

theorem safe_reportParameters (w : Wolk δ φ type) : Safe w (b.reportParameters w) := by
  have hreported : Keeps w (b.devices.foldl (fun w device =>
      w.reportFileTransferParameters device.key b.fileTransferEnabled b.fileTransferUrlEnabled) w) :=
    List.foldlRecOn (motive := Keeps w) _ _ ⟨rfl, rfl⟩ fun w' hkeeps device _ =>
      ⟨hkeeps.devices, hkeeps.registration⟩
  have hversion : ∀ (w : Wolk δ φ type) (device : Device), Safe w (do
      let version ← getFirmwareVersion b.firmwareInstaller b.firmwareParametersListener device.key
      .ok (w.reportFirmwareParameters device.key b.firmwareUpdateProtocol version)) := by
    intro w device
    obtain ⟨version, hversion⟩ :=
      getFirmwareVersion_ok b.firmwareInstaller b.firmwareParametersListener device.key
    rw [hversion]
    exact ⟨_, rfl, rfl, rfl⟩
  obtain ⟨w', hw, hkeeps⟩ := Safe.foldlM hversion b.devices _
  exact ⟨w', hw, hreported.trans hkeeps⟩

theorem isSome_makeFirmwareUpdateService (sessionFiles : OrderedMap String String) :
    (b.makeFirmwareUpdateService sessionFiles).isSome =
      (b.firmwareInstaller.isSome || b.firmwareParametersListener.isSome) := by
  unfold makeFirmwareUpdateService
  cases b.firmwareInstaller with
  | some installer => rfl
  | none =>
    cases b.firmwareParametersListener with
    | some listener => rfl
    | none => rfl

theorem safe_buildFirmwareUpdate (w : Wolk δ φ type) (sessionFiles : OrderedMap String String)
    (h : b.devices = [] ∨ ¬ b.LacksModule) : Safe w (b.buildFirmwareUpdate fctx w sessionFiles) := by
  unfold buildFirmwareUpdate
  split_ifs with hprotocol
  · have hloaded : ∃ service,
        b.loadStates fctx (b.makeFirmwareUpdateService sessionFiles) = .ok service := by
      unfold loadStates
      rcases h with hdevices | hmodule
      · rw [hdevices]
        exact ⟨_, rfl⟩
      · refine NullPointer.foldlM_call_ok _
          (fun (device : Device) (u : FirmwareUpdater) => u.loadState fctx device.key) ?_ b.devices
        rw [isSome_makeFirmwareUpdateService, Bool.or_eq_true]
        by_contra hnone
        obtain ⟨hinstaller, hlistener⟩ := not_or.mp hnone
        exact hmodule ⟨hprotocol, by simpa using hinstaller, by simpa using hlistener⟩
    obtain ⟨service, hloaded⟩ := hloaded
    rw [hloaded]
    exact ⟨_, rfl, rfl, rfl⟩
  · exact ⟨w, rfl, rfl, rfl⟩

theorem buildFirmwareUpdate_null (w : Wolk δ φ type) (sessionFiles : OrderedMap String String)
    (hdevices : b.devices ≠ []) (hlacks : b.LacksModule) :
    b.buildFirmwareUpdate fctx w sessionFiles = .error (.dereferenced .firmwareUpdateService) := by
  obtain ⟨device, devices, heq⟩ := List.exists_cons_of_ne_nil hdevices
  obtain ⟨hprotocol, hinstaller, hlistener⟩ := hlacks
  have hnull : b.makeFirmwareUpdateService sessionFiles = none := by
    simp [makeFirmwareUpdateService, hinstaller, hlistener]
  rw [buildFirmwareUpdate, if_pos hprotocol, hnull, loadStates, heq]
  rfl

theorem build_ok (disk : φ) (sessionFiles : OrderedMap String String) (devices : type.Devices)
    (h : b.devices = [] ∨ ¬ b.LacksModule) :
    ∃ w : Wolk δ φ type, b.build ctx fctx disk sessionFiles devices = .ok w ∧ w.devices = devices ∧
      w.registrationService.isSome = b.registrationProtocol := by
  let w₀ : Wolk δ φ type := .create devices
  obtain ⟨w₁, hfiles, hkeeps₁⟩ := safe_buildFileManagement ctx b w₀ disk
  obtain ⟨w₂, hparameters, hkeeps₂⟩ := safe_reportParameters b w₁
  obtain ⟨w₃, hfirmware, hkeeps₃⟩ := safe_buildFirmwareUpdate fctx b w₂ sessionFiles h
  have hkeeps := (hkeeps₁.trans hkeeps₂).trans hkeeps₃
  have hplatform : Keeps w₃ (b.buildPlatformStatus w₃) := by
    unfold buildPlatformStatus
    split_ifs <;> exact ⟨rfl, rfl⟩
  have hbefore := hkeeps.trans hplatform
  refine ⟨b.buildRegistration (b.buildPlatformStatus w₃), Machine.bind_eq_ok.mpr ⟨w₁, hfiles,
    Machine.bind_eq_ok.mpr ⟨w₂, hparameters, Machine.bind_eq_ok.mpr ⟨w₃, hfirmware, rfl⟩⟩⟩, ?_⟩
  unfold buildRegistration
  split_ifs with hprotocol
  · exact ⟨hbefore.devices, hprotocol.symm⟩
  · exact ⟨hbefore.devices, hbefore.registration.trans (Bool.not_eq_true _ ▸ hprotocol).symm⟩

theorem build_null (disk : φ) (sessionFiles : OrderedMap String String) (devices : type.Devices)
    (hdevices : b.devices ≠ []) (hlacks : b.LacksModule) :
    (b.build ctx fctx disk sessionFiles devices : Except WolkFault (Wolk δ φ type)) =
      .error (.dereferenced .firmwareUpdateService) := by
  let w₀ : Wolk δ φ type := .create devices
  obtain ⟨w₁, hfiles, -⟩ := safe_buildFileManagement ctx b w₀ disk
  obtain ⟨w₂, hparameters, -⟩ := safe_reportParameters b w₁
  have hfirmware := buildFirmwareUpdate_null fctx b w₂ sessionFiles hdevices hlacks
  rw [build, hfiles]
  change (b.reportParameters w₁ >>= _) = _
  rw [hparameters]
  change (b.buildFirmwareUpdate fctx w₂ sessionFiles >>= _) = _
  rw [hfirmware]
  rfl

/-- The checks of `buildWolkSingle` and `buildWolkMulti` pass. -/
def ValidDevices : WolkInterfaceType → List Device → Prop
  | .singleDevice, devices => ∃ device, devices = [device] ∧ device.key ≠ "" ∧ device.password ≠ ""
  | .multiDevice, devices => ∀ device ∈ devices, device.key ≠ ""

theorem buildWolk_eq (hvalid : ValidDevices type b.devices) (disk : φ)
    (sessionFiles : OrderedMap String String) : ∃ devices : type.Devices,
      b.buildWolk ctx fctx disk sessionFiles type = b.build ctx fctx disk sessionFiles devices ∧
      type.keys devices = b.devices.map Device.key := by
  cases type with
  | singleDevice =>
    obtain ⟨device, hdevices, hkey, hpassword⟩ := hvalid
    refine ⟨device, ?_, by rw [hdevices]; rfl⟩
    change b.buildWolkSingle ctx fctx disk sessionFiles = _
    unfold buildWolkSingle
    split
    · next device' heq =>
      rw [hdevices] at heq
      obtain rfl : device = device' := by simpa using heq
      rw [if_neg hkey, if_neg hpassword]
    · next hmany => exact absurd hdevices (hmany device)
  | multiDevice =>
    refine ⟨b.devices, ?_, rfl⟩
    change b.buildWolkMulti ctx fctx disk sessionFiles = _
    have hkeys : ¬ (b.devices.any fun device => decide (device.key = "")) = true := by
      rw [List.any_eq_true]
      rintro ⟨device, hdevice, hkey⟩
      exact hvalid device hdevice (of_decide_eq_true hkey)
    rw [buildWolkMulti, if_neg hkeys]

/-- The calls of a builder, and then the events of the connector that is built. -/
def use (disk : φ) (sessionFiles : OrderedMap String String) (devices : List Device)
    (calls : List (BuilderCall δ)) (es : List (WolkEvent type)) :
    Except WolkFault (Wolk δ φ type) := do
  let w ← ((newBuilder devices).configure calls).buildWolk ctx fctx disk sessionFiles type
  es.foldlM (Wolk.step ctx) w

/-- **When an absent service is met.** With valid devices, no null pointer is dereferenced exactly
if the last firmware module is there, unless there are no devices, and the registration service is
there, unless it is asked for no device while that is listed. -/
theorem no_null_dereferenced_iff (disk : φ) (sessionFiles : OrderedMap String String)
    (devices : List Device) (calls : List (BuilderCall δ)) (type : WolkInterfaceType)
    (hvalid : ValidDevices type (devicesAtBuild devices calls)) (es : List (WolkEvent type)) :
    (∀ pointer, use ctx fctx disk sessionFiles devices calls es ≠ .error (.dereferenced pointer)) ↔
      (devicesAtBuild devices calls = [] ∨ ModuleGiven calls) ∧
      (RegistrationAdded calls ∨
        WolkEvent.Unlisted ((devicesAtBuild devices calls).map Device.key) es) := by
  have hconfigured := configured (δ := δ) devices calls
  unfold use
  generalize (newBuilder devices).configure calls = b at hconfigured ⊢
  rw [← hconfigured.devices] at hvalid ⊢
  obtain ⟨own, hbuild, hkeys⟩ := buildWolk_eq ctx fctx b hvalid disk sessionFiles
  rw [hbuild]
  have hmodule : ModuleGiven calls ↔ ¬ b.LacksModule := by
    rw [hconfigured.firmware, not_not]
  rw [hmodule]
  by_cases hgiven : b.devices = [] ∨ ¬ b.LacksModule
  · obtain ⟨w, hw, hdevices, hregistration⟩ := build_ok ctx fctx b disk sessionFiles own hgiven
    rw [hw]
    have hlisted : w.registrationService = none →
        ∀ k, k ∈ type.keys w.devices ↔ k ∈ b.devices.map Device.key := fun _ k => by
      rw [hdevices, hkeys]
    refine (run_safe_iff ctx es w _ hlisted).trans ?_
    rw [hregistration, hconfigured.registration]
    exact (and_iff_right hgiven).symm
  · obtain ⟨hdevices, hlacks⟩ := not_or.mp hgiven
    refine iff_of_false (fun h => h .firmwareUpdateService ?_) fun h => hgiven h.1
    rw [build_null ctx fctx b disk sessionFiles own hdevices (not_not.mp hlacks)]
    rfl

/-- The calls for a connector with these services. -/
def complete : List (BuilderCall Empty) :=
  [.withFileTransfer "files", .withFirmwareInstaller (some .succeeding), .withRegistration false]

theorem no_null_dereferenced_iff_complete : ModuleGiven complete ∧ ∀ pointer,
    use uploadContext .working (⟨[], []⟩ : PathDisk) .empty [⟨"d", ""⟩] complete
      [WolkEvent.connected .working, .addDevice .working ⟨"e", ""⟩, .removeDevice "e" "f"] ≠
      .error (.dereferenced pointer) := by
  have hgiven : ModuleGiven complete := by decide
  have hdevices : devicesAtBuild [⟨"d", ""⟩] complete = [⟨"d", ""⟩] := rfl
  have hvalid : ValidDevices .multiDevice (devicesAtBuild [⟨"d", ""⟩] complete) := by
    rw [hdevices]
    simp [ValidDevices]
  exact ⟨hgiven, (no_null_dereferenced_iff _ _ _ _ _ _ .multiDevice hvalid _).mpr
    ⟨.inr hgiven, .inl rfl⟩⟩

/-- A connector without a registration service is asked to remove a device that it has, and a builder
is given no installer. -/
theorem absent_services_met :
    (ValidDevices .multiDevice [⟨"d", ""⟩] ∧
      use uploadContext .working (⟨[], []⟩ : PathDisk) .empty [⟨"d", ""⟩] []
        [WolkEvent.removeDevice "d" "f"] = .error (.dereferenced .registrationService)) ∧
    ValidDevices .singleDevice [⟨"d", "p"⟩] ∧
      use uploadContext .working (⟨[], []⟩ : PathDisk) .empty [⟨"d", "p"⟩]
        [.withFirmwareInstaller none] ([] : List (WolkEvent .singleDevice)) =
        .error (.dereferenced .firmwareUpdateService) := by
  have hmulti : ValidDevices .multiDevice [⟨"d", ""⟩] := by simp [ValidDevices]
  have hsingle : ValidDevices .singleDevice [⟨"d", "p"⟩] := ⟨⟨"d", "p"⟩, rfl, by decide, by decide⟩
  exact ⟨⟨hmulti, rfl⟩, hsingle, rfl⟩

end WolkBuilder

end WolkConnect
