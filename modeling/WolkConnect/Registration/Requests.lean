import WolkConnect.Lib.Run
import WolkConnect.Registration.Model
import Mathlib.Data.List.Perm.Subperm

/-!
# Requests that register one device

Any calls of `registerDevices` with one device each, in two steps, and one response of
the platform for each request. A callback is a number, that of its call.
-/

namespace WolkConnect

open Heap

inductive RegistrationEvent (M : Type)
  /-- A call up to the lock. -/
  | publish (ctx : RegistrationContext M) (deviceKey : String) (device : DeviceRegistrationData)
  /-- The rest of a call. -/
  | insert (call : Nat)
  /-- The platform answers the request of a call. -/
  | respond (call : Nat) (registered : Bool)
  | runCommand

/-- `calls` has the devices of the requests that have been published, and `inserting` the calls whose
callbacks are not in the map yet. -/
structure RegistrationSystem where
  svc : RegistrationService Nat
  calls : List DeviceRegistrationData
  inserting : List Nat
  unanswered : List Nat
  invoked : List (Nat × List String × List String)

namespace DeviceRegistrationData

variable (device : DeviceRegistrationData)

/-- The response to a request for one device. -/
def response (registered : Bool) : DeviceRegistrationResponseMessage :=
  if registered then ⟨[device.key], []⟩ else ⟨[], [device.key]⟩

end DeviceRegistrationData

namespace RegistrationSystem

variable {M : Type} (sortHeap : List String → List String) (sys : RegistrationSystem)

def create : RegistrationSystem := ⟨⟨.empty, []⟩, [], [], [], []⟩

def publish (ctx : RegistrationContext M) (deviceKey : String) (device : DeviceRegistrationData) :
    RegistrationSystem :=
  if RegistrationService.publishDevices ctx deviceKey [device] then
    { sys with
      calls := sys.calls ++ [device]
      inserting := sys.inserting ++ [sys.calls.length]
      unanswered := sys.unanswered ++ [sys.calls.length] }
  else sys

def insert (call : Nat) : RegistrationSystem :=
  match sys.calls[call]? with
  | none => sys
  | some device =>
    if call ∈ sys.inserting then
      { sys with
        svc := sys.svc.emplaceCallback sortHeap [device] call
        inserting := sys.inserting.erase call }
    else sys

def respond (call : Nat) (registered : Bool) : RegistrationSystem :=
  match sys.calls[call]? with
  | none => sys
  | some device =>
    if call ∈ sys.unanswered then
      { sys with
        svc := sys.svc.handleDeviceRegistrationResponse (some (device.response registered))
        unanswered := sys.unanswered.erase call }
    else sys

def runCommand : RegistrationSystem :=
  match sys.svc.commandBuffer with
  | [] => sys
  | command :: rest =>
    { sys with svc := { sys.svc with commandBuffer := rest }, invoked := sys.invoked ++ [command] }

def step (sys : RegistrationSystem) : RegistrationEvent M → Except Empty RegistrationSystem
  | .publish ctx deviceKey device => .ok (sys.publish ctx deviceKey device)
  | .insert call => .ok (sys.insert sortHeap call)
  | .respond call registered => .ok (sys.respond call registered)
  | .runCommand => .ok sys.runCommand

/-- Every call has returned, the platform has answered everything, and the command buffer is empty. -/
structure Complete : Prop where
  inserted : sys.inserting = []
  answered : sys.unanswered = []
  executed : sys.svc.commandBuffer = []

instance : Decidable sys.Complete :=
  decidable_of_iff (sys.inserting = [] ∧ sys.unanswered = [] ∧ sys.svc.commandBuffer = [])
    ⟨fun ⟨hinserted, hanswered, hexecuted⟩ => ⟨hinserted, hanswered, hexecuted⟩,
      fun h => ⟨h.inserted, h.answered, h.executed⟩⟩

/-- The callback of each call was invoked exactly once. -/
def InvokedOnce : Prop :=
  ∀ call < sys.calls.length, (sys.invoked.map Prod.fst).count call = 1

/-- The callback of a request for this device, or of another for the same key, is in the map. -/
def waits (device : DeviceRegistrationData) : Bool :=
  (sys.svc.deviceRegistrationCallbacks.find? [device.key]).isSome

/-- A callback that goes into the map finds its key free, and a response finds a callback there. -/
def InOrder (sys : RegistrationSystem) : RegistrationEvent M → Prop
  | .insert call => ∀ device ∈ sys.calls[call]?, call ∈ sys.inserting → sys.waits device = false
  | .respond call _ => ∀ device ∈ sys.calls[call]?, call ∈ sys.unanswered → sys.waits device = true
  | .publish _ _ _ | .runCommand => True

instance (sys : RegistrationSystem) : (e : RegistrationEvent M) → Decidable (sys.InOrder e)
  | .insert _ | .respond _ _ => inferInstanceAs (Decidable (∀ _ ∈ _, _ → _))
  | .publish _ _ _ | .runCommand => isTrue trivial

/-! ## Accounts -/

/-- The callbacks that are to be called, or have been. -/
def queued : List Nat := (sys.invoked ++ sys.svc.commandBuffer).map Prod.fst

/-- The callbacks that have not been dropped. -/
def kept : List Nat :=
  sys.queued ++ (sys.svc.deviceRegistrationCallbacks.entries.map Prod.snd ++ sys.inserting)

/-- The callbacks that have been called for, and the requests for which that may still come. -/
def owed : Nat := sys.queued.length + sys.unanswered.length

/-- What a step does to the accounts. -/
inductive Moves (sys sys' : RegistrationSystem) : Prop
  | published (calls : sys'.calls.length = sys.calls.length + 1)
      (kept : sys'.kept.Perm (sys.kept ++ [sys.calls.length])) (owed : sys'.owed = sys.owed + 1)
  | moved (calls : sys'.calls = sys.calls) (kept : sys'.kept.Perm sys.kept)
      (owed : sys'.owed = sys.owed)

/-- What a step does that leaves a callback or a response behind. -/
inductive Loses (sys sys' : RegistrationSystem) : Prop
  | callback (calls : sys'.calls = sys.calls) (kept : sys.kept.length = sys'.kept.length + 1)
      (owed : sys'.owed = sys.owed)
  | response (calls : sys'.calls = sys.calls) (kept : sys'.kept = sys.kept)
      (owed : sys.owed = sys'.owed + 1)

/-- Every callback is kept, and every one will be called for. -/
structure Accounted : Prop where
  kept : sys.kept.Perm (List.range sys.calls.length)
  owed : sys.owed = sys.calls.length

/-- There are too few callbacks, or responses. -/
def Short : Prop := sys.kept.length < sys.calls.length ∨ sys.owed < sys.calls.length

variable {sortHeap sys} {sys' : RegistrationSystem} {es : List (RegistrationEvent M)}

theorem Moves.refl (sys : RegistrationSystem) : Moves sys sys := .moved rfl (.refl _) rfl

theorem publish_moves (ctx : RegistrationContext M) (deviceKey : String)
    (device : DeviceRegistrationData) : Moves sys (sys.publish ctx deviceKey device) := by
  unfold publish
  split_ifs
  · refine .published List.length_append ?_ ?_
    · unfold kept
      rw [List.append_assoc, List.append_assoc]
      exact .refl _
    · unfold owed
      rw [List.length_append, List.length_singleton]
      exact (Nat.add_assoc _ _ 1).symm
  · exact .refl sys

theorem runCommand_moves (sys : RegistrationSystem) : Moves sys sys.runCommand := by
  unfold runCommand
  cases hbuffer : sys.svc.commandBuffer with
  | nil => exact .refl sys
  | cons command rest =>
    have hqueued : ({ sys with
        svc := { sys.svc with commandBuffer := rest }
        invoked := sys.invoked ++ [command] } : RegistrationSystem).queued = sys.queued := by
      unfold queued
      rw [hbuffer, List.append_assoc]
      rfl
    refine .moved rfl ?_ ?_
    · unfold kept
      rw [hqueued]
    · unfold owed
      rw [hqueued]

theorem sortHeap_key (hsort : SortsHeaps sortHeap) (device : DeviceRegistrationData) :
    sortHeap ([device].map DeviceRegistrationData.key) = [device.key] :=
  List.perm_singleton.mp (hsort.perm [device.key])

/-- A callback goes into the map, or is dropped. -/
theorem insert_cases (hsort : SortsHeaps sortHeap) (sys : RegistrationSystem) (call : Nat) :
    (∀ device ∈ sys.calls[call]?, call ∈ sys.inserting → sys.waits device = false) ∧
      Moves sys (sys.insert sortHeap call) ∨
    ¬ (∀ device ∈ sys.calls[call]?, call ∈ sys.inserting → sys.waits device = false) ∧
      Loses sys (sys.insert sortHeap call) := by
  unfold insert
  cases hcall : sys.calls[call]? with
  | none => exact .inl ⟨fun _ h => (by cases h), .refl sys⟩
  | some device =>
    dsimp only
    by_cases hmem : call ∈ sys.inserting
    · rw [if_pos hmem]
      unfold RegistrationService.emplaceCallback
      rw [sortHeap_key hsort]
      unfold OrderedMap.emplace waits
      cases hfind : sys.svc.deviceRegistrationCallbacks.find? [device.key] with
      | none =>
        refine .inl ⟨?_, .moved rfl ?_ rfl⟩
        · rintro _ ⟨⟩ -
          rw [hfind]
          rfl
        · have hmap := (OrderedMap.perm_insert hfind call).map Prod.snd
          rw [List.map_append] at hmap
          unfold kept
          refine .append_left _ ((hmap.append_right _).trans ?_)
          rw [List.append_assoc]
          exact (List.perm_cons_erase hmem).symm.append_left _
      | some old =>
        refine .inr ⟨fun hfree => ?_, .callback rfl ?_ rfl⟩
        · have hwaits := hfree device rfl hmem
          rw [hfind] at hwaits
          cases hwaits
        · have hlength := List.length_erase_add_one hmem
          unfold kept queued
          simp only [List.length_append, Option.isSome_some, if_true]
          omega
    · rw [if_neg hmem]
      exact .inl ⟨fun _ _ h => absurd h hmem, .refl sys⟩

/-- A response takes a callback out of the map, or finds none. -/
theorem respond_cases (sys : RegistrationSystem) (call : Nat) (registered : Bool) :
    (∀ device ∈ sys.calls[call]?, call ∈ sys.unanswered → sys.waits device = true) ∧
      Moves sys (sys.respond call registered) ∨
    ¬ (∀ device ∈ sys.calls[call]?, call ∈ sys.unanswered → sys.waits device = true) ∧
      Loses sys (sys.respond call registered) := by
  unfold respond
  cases hcall : sys.calls[call]? with
  | none => exact .inl ⟨fun _ h => (by cases h), .refl sys⟩
  | some device =>
    dsimp only
    by_cases hmem : call ∈ sys.unanswered
    · rw [if_pos hmem]
      have hlength := List.length_erase_add_one hmem
      have hnames : Heap.sort ((device.response registered).success ++
          (device.response registered).failed) = [device.key] := by
        cases registered <;> exact List.perm_singleton.mp (sort_perm [device.key])
      unfold RegistrationService.handleDeviceRegistrationResponse
      dsimp only
      rw [hnames]
      unfold waits
      cases hfind : sys.svc.deviceRegistrationCallbacks.find? [device.key] with
      | none =>
        refine .inr ⟨fun hfound => ?_, .response rfl rfl ?_⟩
        · have hwaits := hfound device rfl hmem
          rw [hfind] at hwaits
          cases hwaits
        · unfold owed
          change _ = _ + (sys.unanswered.erase call).length + 1
          rw [Nat.add_assoc, hlength]
          rfl
      | some callback =>
        refine .inl ⟨?_, .moved rfl ?_ ?_⟩
        · rintro _ ⟨⟩ -
          rw [hfind]
          rfl
        · have hmap := (OrderedMap.perm_erase hfind).map Prod.snd
          unfold kept queued
          simp only [List.map_append, List.map_cons, List.map_nil, List.append_assoc]
          refine .append_left _ (.append_left _ ?_)
          rw [← List.append_assoc]
          exact hmap.symm.append_right _
        · unfold owed queued
          simp only [List.map_append, List.length_append, List.map_cons, List.map_nil,
            List.length_cons, List.length_nil]
          omega
    · rw [if_neg hmem]
      exact .inl ⟨fun _ _ h => absurd h hmem, .refl sys⟩

theorem step_cases (hsort : SortsHeaps sortHeap) {e : RegistrationEvent M}
    (hs : step sortHeap sys e = .ok sys') :
    sys.InOrder e ∧ Moves sys sys' ∨ ¬ sys.InOrder e ∧ Loses sys sys' := by
  cases e with
  | publish ctx deviceKey device => cases hs; exact .inl ⟨trivial, publish_moves ctx deviceKey device⟩
  | insert call => cases hs; exact insert_cases hsort sys call
  | respond call registered => cases hs; exact respond_cases sys call registered
  | runCommand => cases hs; exact .inl ⟨trivial, sys.runCommand_moves⟩

theorem Accounted.moves (h : sys.Accounted) (hmoves : Moves sys sys') : sys'.Accounted := by
  cases hmoves with
  | published hcalls hkept howed =>
    refine ⟨?_, by rw [howed, h.owed, hcalls]⟩
    rw [hcalls, List.range_succ]
    exact hkept.trans (h.kept.append_right _)
  | moved hcalls hkept howed => exact ⟨hcalls ▸ hkept.trans h.kept, by rw [howed, h.owed, hcalls]⟩

theorem Accounted.loses (h : sys.Accounted) (hloses : Loses sys sys') : sys'.Short := by
  have hlength := h.kept.length_eq
  have howes := h.owed
  rw [List.length_range] at hlength
  unfold Short
  cases hloses with
  | callback hcalls hkept howed => rw [hcalls]; omega
  | response hcalls hkept howed => rw [hcalls, hkept]; omega

theorem Short.moves (h : sys.Short) (hmoves : Moves sys sys') : sys'.Short := by
  unfold Short at *
  cases hmoves with
  | published hcalls hkept howed =>
    have hlength := hkept.length_eq
    rw [List.length_append, List.length_singleton] at hlength
    omega
  | moved hcalls hkept howed =>
    rw [hcalls, hkept.length_eq, howed]
    exact h

theorem Short.loses (h : sys.Short) (hloses : Loses sys sys') : sys'.Short := by
  unfold Short at *
  cases hloses with
  | callback hcalls hkept howed => rw [hcalls]; omega
  | response hcalls hkept howed => rw [hcalls, hkept]; omega

theorem accounted_create : create.Accounted := ⟨.refl _, rfl⟩

theorem Complete.queued (h : sys.Complete) : sys.queued = sys.invoked.map Prod.fst := by
  unfold RegistrationSystem.queued
  rw [h.executed, List.append_nil]

/-- In the end all callbacks have been invoked: as many have been called for as there are. -/
theorem Accounted.invokedOnce (h : sys.Accounted) (hdone : sys.Complete) : sys.InvokedOnce := by
  have howed := h.owed
  have hlength := h.kept.length_eq
  have hkept := h.kept
  unfold RegistrationSystem.owed at howed
  unfold RegistrationSystem.kept at hkept hlength
  rw [hdone.answered, List.length_nil] at howed
  rw [hdone.inserted, List.append_nil] at hkept hlength
  rw [List.length_append, List.length_range] at hlength
  have hmap : sys.svc.deviceRegistrationCallbacks.entries.map Prod.snd = [] :=
    List.length_eq_zero_iff.mp (by omega)
  rw [hmap, List.append_nil, hdone.queued] at hkept
  intro call hcall
  rw [hkept.count_eq]
  exact List.count_eq_one_of_mem List.nodup_range (List.mem_range.mpr hcall)

theorem Short.not_invokedOnce (h : sys.Short) (hdone : sys.Complete) : ¬ sys.InvokedOnce := by
  intro honce
  have hsub : List.Subperm (List.range sys.calls.length) (sys.invoked.map Prod.fst) := by
    refine List.subperm_of_subset List.nodup_range fun call hcall => ?_
    have hcount := honce call (List.mem_range.mp hcall)
    exact List.count_pos_iff.mp (by omega)
  have hlength := hsub.length_le
  rw [List.length_range, ← hdone.queued] at hlength
  unfold Short owed kept at h
  rw [List.length_append] at h
  omega

/-- **Every request gets its answer.** Whatever way `std::sort_heap` sorts, when every call has
returned and every response has been handled, the callback of each call has been invoked exactly
once, if and only if every callback found its key free in the map, and every response found a
callback there. -/
theorem every_request_answered (hsort : SortsHeaps sortHeap)
    (hrun : Machine.Run (step sortHeap) (fun _ _ => True) create es sys) (hdone : sys.Complete) :
    sys.InvokedOnce ↔ Machine.Run (step sortHeap) InOrder create es sys := by
  refine hrun.iff_meets Accounted Short accounted_create ?_ ?_ ?_ (fun h => h.invokedOnce hdone)
    fun h => h.not_invokedOnce hdone
  · intro s e t h hok hs
    rcases step_cases hsort hs with ⟨-, hmoves⟩ | ⟨hnot, -⟩
    · exact h.moves hmoves
    · exact absurd hok hnot
  · intro s e t h _ hok hs
    rcases step_cases hsort hs with ⟨hin, -⟩ | ⟨-, hloses⟩
    · exact absurd hin hok
    · exact h.loses hloses
  · intro s e t h _ hs
    rcases step_cases hsort hs with ⟨-, hmoves⟩ | ⟨-, hloses⟩
    · exact h.moves hmoves
    · exact h.loses hloses

/-! ## Runs -/

/-- Messages are made and published. -/
def openContext : RegistrationContext Unit := ⟨fun _ _ => some (), fun _ => true, Heap.sort⟩

/-- Two requests for different devices, answered in the other order. -/
theorem every_request_answered_sample : ∃ sys : RegistrationSystem, sys.InvokedOnce ∧
    sys.invoked = [(1, ["b"], []), (0, [], ["a"])] := by
  obtain ⟨sys, hrun, hsys⟩ := Machine.Run.exists_of_check (step Heap.sort) InOrder create
    [.publish openContext "d" ⟨"A", "a", ""⟩, .publish openContext "d" ⟨"B", "b", ""⟩, .insert 1,
      .respond 1 true, .insert 0, .runCommand, .respond 0 false, .runCommand]
    (fun sys => (decide sys.Complete, sys.invoked))
    (true, [(1, ["b"], []), (0, [], ["a"])]) (by decide +kernel)
  obtain ⟨hdone, hinvoked⟩ := Prod.mk.injEq .. ▸ hsys
  have honce := every_request_answered sortsHeaps_sort (hrun.mono fun _ _ _ => trivial)
    (of_decide_eq_true hdone)
  exact ⟨sys, honce.mpr hrun, hinvoked⟩

/-- The response comes before the callback is in the map, and the callback is never invoked. -/
theorem response_before_callback : ∃ sys : RegistrationSystem,
    Machine.Run (step Heap.sort) (fun _ _ => True) create
      [.publish openContext "d" ⟨"A", "a", ""⟩, .respond 0 true, .insert 0] sys ∧
      sys.Complete ∧ ¬ sys.InvokedOnce := by
  obtain ⟨sys, hrun, hsys⟩ := Machine.Run.exists_of_check (step Heap.sort) (fun _ _ => True) create
    [.publish openContext "d" ⟨"A", "a", ""⟩, .respond 0 true, .insert 0]
    (fun sys => (decide sys.Complete, sys.invoked.map Prod.fst, sys.calls.length)) (true, [], 1)
    (by decide +kernel)
  obtain ⟨hdone, hinvoked, hcalls⟩ := Prod.mk.injEq .. ▸ (Prod.mk.injEq .. ▸ hsys)
  refine ⟨sys, hrun, of_decide_eq_true hdone, fun honce => ?_⟩
  have hcount := honce 0 (by omega)
  rw [hinvoked] at hcount
  cases hcount

end RegistrationSystem

end WolkConnect
