import WolkConnect.Lib.DistinctKeys
import WolkConnect.Builder.Services
import WolkConnect.Service.System

/-!
# The device list of `WolkMulti`

It grows by `addDevice`, and by the callback that `wrapRegisterCallback` makes, which calls it for the
requested devices that were registered.
-/

namespace WolkConnect

/-- `returned` has what `addDevice` returned for each key, and `invoked` the two lists that each call of a
user's callback was given, with the keys of the devices at the time. -/
structure DeviceListSystem (δ φ : Type) where
  wolk : Wolk δ φ .multiDevice
  returned : List (String × Bool)
  invoked : List (List String × List String × List String)

inductive DeviceListEvent
  | addDevice (device : Device)
  /-- A callback that `wrapRegisterCallback` has made for these devices is executed. -/
  | registerCallback (devices : List DeviceRegistrationData) (success failed : List String)
  | notifyConnected
  | notifyDisconnected

namespace DeviceListSystem

variable {δ μ φ : Type}

def start (w : Wolk δ φ .multiDevice) : DeviceListSystem δ φ := ⟨w, [], []⟩

def keys (sys : DeviceListSystem δ φ) : List String := sys.wolk.devices.map Device.key

variable (ctx : Context δ μ φ) (fctx : FirmwareContext)

/-- What the callback of `wrapRegisterCallback` does. -/
def registerCallback (sys : DeviceListSystem δ φ) (devices : List DeviceRegistrationData)
    (success failed : List String) : Except WolkFault (DeviceListSystem δ φ) := do
  let w ← sys.wolk.addRegistered ctx fctx devices success
  .ok { sys with
    wolk := w, invoked := sys.invoked ++ [(success, failed, w.devices.map Device.key)] }

def step (sys : DeviceListSystem δ φ) : DeviceListEvent → Except WolkFault (DeviceListSystem δ φ)
  | .addDevice device => do
    let r ← sys.wolk.addDevice ctx fctx device
    .ok { sys with wolk := r.2, returned := sys.returned ++ [(device.key, r.1)] }
  | .registerCallback devices success failed =>
    sys.registerCallback ctx fctx devices success failed
  | .notifyConnected => do
    let w ← sys.wolk.notifyConnectedMulti ctx fctx
    .ok { sys with wolk := w }
  | .notifyDisconnected => .ok { sys with wolk := { sys.wolk with connected := false } }

/-- What an event does to the keys, what `addDevice` returns, and what the user's callback is given. -/
def Accounts (sys : DeviceListSystem δ φ) (e : DeviceListEvent) (sys' : DeviceListSystem δ φ) : Prop :=
  match e with
  | .addDevice device =>
    (∀ k, k ∈ sys'.keys ↔ k ∈ sys.keys ∨ k = device.key) ∧
      sys'.returned = sys.returned ++ [(device.key, decide (device.key ∉ sys.keys))] ∧
      sys'.invoked = sys.invoked
  | .registerCallback devices success failed =>
    (∀ k, k ∈ sys'.keys ↔
      k ∈ sys.keys ∨ k ∈ devices.map DeviceRegistrationData.key ∧ k ∈ success) ∧
      sys'.returned = sys.returned ∧ sys'.invoked = sys.invoked ++ [(success, failed, sys'.keys)]
  | .notifyConnected | .notifyDisconnected =>
    sys'.keys = sys.keys ∧ sys'.returned = sys.returned ∧ sys'.invoked = sys.invoked

variable {ctx fctx} {sys : DeviceListSystem δ φ}

theorem mem_registered {devices : List DeviceRegistrationData} {success : List String} {k : String} :
    k ∈ (((devices.filter (·.key ∈ success)).map fun device => (⟨device.key, ""⟩ : Device)).map
      Device.key) ↔ k ∈ devices.map DeviceRegistrationData.key ∧ k ∈ success := by
  simp only [List.map_map, List.mem_map, List.mem_filter, decide_eq_true_eq, Function.comp_apply]
  constructor
  · rintro ⟨device, ⟨hdevice, hregistered⟩, rfl⟩
    exact ⟨⟨device, hdevice, rfl⟩, hregistered⟩
  · rintro ⟨⟨device, hdevice, rfl⟩, hregistered⟩
    exact ⟨device, ⟨hdevice, hregistered⟩, rfl⟩

/-- Every event is defined. It keeps the devices in their places, and the keys apart. -/
theorem step_ok (ctx : Context δ μ φ) (fctx : FirmwareContext) (sys : DeviceListSystem δ φ)
    (e : DeviceListEvent) :
    ∃ sys', step ctx fctx sys e = .ok sys' ∧ sys.wolk.devices <+: sys'.wolk.devices ∧
      (sys.keys.Nodup → sys'.keys.Nodup) ∧ sys.Accounts e sys' := by
  cases e with
  | addDevice device =>
    obtain ⟨w', hw, -, hdevices⟩ := sys.wolk.addDevice_ok ctx fctx device
    refine ⟨⟨w', sys.returned ++ [(device.key, decide (device.key ∉ sys.keys))], sys.invoked⟩,
      Machine.bind_eq_ok.mpr ⟨_, hw, rfl⟩, ?_, fun hnodup => ?_, fun k => ?_, rfl, rfl⟩
    · exact hdevices ▸ DistinctKeys.prefix_add
    · rw [keys, hdevices]
      exact DistinctKeys.nodup_add hnodup
    · rw [keys, hdevices]
      exact DistinctKeys.mem_add
  | registerCallback devices success failed =>
    obtain ⟨w', hw, -, hdevices⟩ := sys.wolk.addRegistered_ok ctx fctx devices success
    refine ⟨⟨w', sys.returned, sys.invoked ++ [(success, failed, w'.devices.map Device.key)]⟩,
      Machine.bind_eq_ok.mpr ⟨_, hw, rfl⟩, ?_, fun hnodup => ?_, fun k => ?_, rfl, rfl⟩
    · exact hdevices ▸ DistinctKeys.prefix_addAll
    · rw [keys, hdevices]
      exact DistinctKeys.nodup_addAll hnodup
    · rw [keys, hdevices]
      exact DistinctKeys.mem_addAll.trans (or_congr_right mem_registered)
  | notifyConnected =>
    obtain ⟨w', hw, hkeeps⟩ := sys.wolk.safe_notifyConnectedMulti ctx fctx
    have hkeys : w'.devices.map Device.key = sys.keys := by rw [hkeeps.devices, keys]
    refine ⟨⟨w', sys.returned, sys.invoked⟩, Machine.bind_eq_ok.mpr ⟨_, hw, rfl⟩,
      hkeeps.devices ▸ List.prefix_refl _, fun hnodup => ?_, hkeys, rfl, rfl⟩
    change (w'.devices.map Device.key).Nodup
    rw [hkeys]
    exact hnodup
  | notifyDisconnected =>
    exact ⟨_, rfl, List.prefix_refl _, id, rfl, rfl, rfl⟩

/-- **The device list only grows**, by the keys that are new, whether `addDevice` is called or a device
is registered. -/
theorem device_list {w : Wolk δ φ .multiDevice} (hnodup : (w.devices.map Device.key).Nodup)
    {es : List DeviceListEvent}
    (hrun : Machine.Run (step ctx fctx) (fun _ _ => True) (start w) es sys) :
    sys.keys.Nodup ∧ w.devices <+: sys.wolk.devices ∧
      ∀ e, ∃ sys', step ctx fctx sys e = .ok sys' ∧ sys'.keys.Nodup ∧
        sys.wolk.devices <+: sys'.wolk.devices ∧ sys.Accounts e sys' := by
  have hinv : sys.keys.Nodup ∧ w.devices <+: sys.wolk.devices := by
    refine hrun.invariant (fun sys => sys.keys.Nodup ∧ w.devices <+: sys.wolk.devices)
      ⟨hnodup, List.prefix_refl _⟩ ?_
    intro sys e sys' ⟨hkeys, hgrown⟩ _ hs
    obtain ⟨sys'', hs', hgrows, hapart, -⟩ := step_ok ctx fctx sys e
    rw [hs] at hs'
    cases hs'
    exact ⟨hapart hkeys, hgrown.trans hgrows⟩
  obtain ⟨hkeys, hgrown⟩ := hinv
  refine ⟨hkeys, hgrown, fun e => ?_⟩
  obtain ⟨sys', hs, hgrows, hapart, haccounts⟩ := step_ok ctx fctx sys e
  exact ⟨sys', hs, hapart hkeys, hgrows, haccounts⟩

/-- `e` is added, and the callback is for two devices of one key, one that is listed and one that failed. -/
theorem device_list_registered : ∃ sys : DeviceListSystem Empty PathDisk,
    sys.keys.Nodup ∧ sys.keys = ["d", "e", "f"] ∧ sys.returned = [("e", true), ("d", false)] ∧
      sys.invoked = [(["f", "d"], ["g"], ["d", "e", "f"])] := by
  obtain ⟨sys, hrun, hsys⟩ := Machine.Run.exists_of_check (step uploadContext .working)
    (fun _ _ => True) (start (Wolk.create [⟨"d", ""⟩] : Wolk Empty PathDisk .multiDevice))
    [.notifyConnected, .addDevice ⟨"e", ""⟩, .addDevice ⟨"d", "p"⟩,
      .registerCallback (["f", "d", "f", "g"].map fun k => ⟨k, k, ""⟩) ["f", "d"] ["g"]]
    (fun sys => decide (sys.keys = ["d", "e", "f"] ∧ sys.returned = [("e", true), ("d", false)] ∧
      sys.invoked = [(["f", "d"], ["g"], ["d", "e", "f"])])) true (by decide +kernel)
  exact ⟨sys, (device_list (by decide) hrun).1, of_decide_eq_true hsys⟩

end DeviceListSystem

end WolkConnect
