import WolkConnect.Monitor.Model
import Mathlib.Data.List.GetD

/-!
# The address of the computer

What the main loop adds when the address has changed.
-/

namespace WolkConnect

/-! ## Changes in a history -/

section

variable {α : Type} [DecidableEq α] (first : α) (values : List α)

/-- The values that differ from the one before them, each with the one before it. -/
def changes : List (α × α) := ((first :: values).zip values).filter fun change => change.1 ≠ change.2

theorem changes_cons (value : α) :
    changes first (value :: values) =
      (if first ≠ value then [(first, value)] else []) ++ changes value values := by
  unfold changes
  rw [List.zip_cons_cons, List.filter_cons]
  simp only [decide_eq_true_eq]
  split_ifs <;> rfl

theorem changes_append (value : α) :
    changes first (values ++ [value]) = changes first values ++
      if values.getLastD first ≠ value then [(values.getLastD first, value)] else [] := by
  induction values generalizing first with
  | nil => exact (changes_cons first [] value).trans (List.append_nil _)
  | cons v values ih =>
    rw [List.cons_append, changes_cons, ih, changes_cons, List.append_assoc, List.getLastD_cons]

theorem changes_eq_nil_iff : changes first values = [] ↔ ∀ value ∈ values, value = first := by
  induction values generalizing first with
  | nil => exact iff_of_true rfl fun _ h => absurd h List.not_mem_nil
  | cons v values ih =>
    rw [changes_cons, List.append_eq_nil_iff, ih, List.forall_mem_cons]
    by_cases h : first = v
    · subst h
      simp
    · simp [h, Ne.symm h]

/-- The values before the changes are not the values after them, unless there are none. -/
theorem changes_fst_eq_snd_iff {β : Type} {f : α → β} (hf : f.Injective) :
    (changes first values).map (fun change => f change.1) =
        (changes first values).map (fun change => f change.2) ↔
      ∀ value ∈ values, value = first := by
  rw [← changes_eq_nil_iff]
  constructor
  · intro heq
    rw [List.eq_nil_iff_forall_not_mem]
    intro change hchange
    have hne : change.1 ≠ change.2 := of_decide_eq_true (List.mem_filter.mp hchange).2
    exact hne (hf (List.map_inj_left.mp heq change hchange))
  · intro hnil
    rw [hnil]
    rfl

end

/-! ## The main loop -/

namespace MonitorSystem

variable {sys sys' : MonitorSystem} {es : List MonitorEvent} {ip : String}

/-- Both variables have the last address, and what was added for a change is the address before. -/
structure Tracks (ip : String) (sys : MonitorSystem) : Prop where
  current : sys.monitor.ip = sys.observed.getLastD ip
  known : sys.monitor.ipAddress = sys.observed.getLastD ip
  added : sys.changes =
    (WolkConnect.changes ip sys.observed).map fun change => Monitor.addressReading change.1

theorem changeAddress_cases (m : Monitor) (newIp : String) :
    m.ipAddress = newIp ∧ m.changeAddress newIp = ([], m) ∨
      m.ipAddress ≠ newIp ∧ m.changeAddress newIp =
        ([Monitor.addressReading m.ip], { m with ip := newIp, ipAddress := newIp }) := by
  unfold Monitor.changeAddress
  split_ifs with h
  · exact .inr ⟨h, rfl⟩
  · exact .inl ⟨not_not.mp h, rfl⟩

theorem Tracks.iterate (h : sys.Tracks ip) (past : Int → ℚ) (newIp : String) (values : List ℚ) :
    (sys.iterate past newIp values).Tracks ip := by
  have hhistory := changes_append ip sys.observed newIp
  rw [← h.known] at hhistory
  have hlast : (sys.observed ++ [newIp]).getLastD ip = newIp := List.getLastD_concat
  unfold MonitorSystem.iterate Monitor.iterate
  rcases changeAddress_cases { sys.monitor with
      temperatures := readTemperatures values
      temperaturesMax := sys.monitor.temperaturesMax ++
        [(getMaximumTemperature past (readTemperatures values)).maxValue] } newIp with
    ⟨hsame, heq⟩ | ⟨hnew, heq⟩
  · dsimp only at hsame ⊢
    rw [heq]
    rw [if_neg (not_not.mpr hsame), List.append_nil] at hhistory
    refine ⟨?_, hsame.trans hlast.symm, ?_⟩
    · exact h.current.trans (h.known.symm.trans (hsame.trans hlast.symm))
    · exact (List.append_nil _).trans (h.added.trans (by rw [hhistory]))
  · dsimp only at hnew ⊢
    rw [heq]
    rw [if_pos hnew] at hhistory
    refine ⟨hlast.symm, hlast.symm, ?_⟩
    -- The address before is that of both variables.
    have hip : sys.monitor.ip = sys.monitor.ipAddress := h.current.trans h.known.symm
    dsimp only
    rw [hhistory, List.map_append, ← h.added, hip]
    rfl

theorem Tracks.step (h : sys.Tracks ip) {e : MonitorEvent} (hs : sys.step e = .ok sys') :
    sys'.Tracks ip := by
  cases e with
  | iterate past newIp values => cases hs; exact h.iterate past newIp values
  | timerCpu | timerCpuMax | timerIp => cases hs; exact ⟨h.current, h.known, h.added⟩

theorem tracks_create (ip : String) : (create ip).Tracks ip := ⟨rfl, rfl, rfl⟩

/-- **Addresses.** What is added for the changes of the address are the addresses after the changes
if and only if there are none: every address that was observed is the initial one. -/
theorem addresses_added_iff (hrun : Machine.Run step (fun _ _ => True) (create ip) es sys) :
    sys.changes =
        (WolkConnect.changes ip sys.observed).map (fun change => Monitor.addressReading change.2) ↔
      ∀ address ∈ sys.observed, address = ip := by
  have htracks := hrun.invariant (Tracks ip) (tracks_create ip) fun _ _ _ h _ hs => h.step hs
  rw [htracks.added]
  refine changes_fst_eq_snd_iff ip sys.observed fun a b hab => ?_
  exact FeedValue.text.inj (FeedReading.mk.inj hab).2

/-- The address stays as it is for two passes. -/
theorem addresses_added_sample : ∃ sys : MonitorSystem,
    sys.observed = ["10.0.0.1", "10.0.0.1"] ∧ sys.changes = [] := by
  obtain ⟨sys, hrun, hobserved⟩ := Machine.Run.exists_of_check step (fun _ _ => True)
    (create "10.0.0.1")
    [.iterate (fun _ => 0) "10.0.0.1" [], .timerIp, .iterate (fun _ => 0) "10.0.0.1" []]
    MonitorSystem.observed ["10.0.0.1", "10.0.0.1"] (by decide +kernel)
  refine ⟨sys, hobserved, ((addresses_added_iff hrun).mpr ?_).trans ?_⟩
  · rw [hobserved]
    decide
  · rw [hobserved]
    rfl

/-- The first change adds the initial address, not the new one. -/
theorem old_address_added : ∃ sys : MonitorSystem,
    Machine.Run step (fun _ _ => True) (create "10.0.0.1") [.iterate (fun _ => 0) "10.0.0.2" []] sys ∧
      sys.changes ≠ (WolkConnect.changes "10.0.0.1" sys.observed).map
        fun change => Monitor.addressReading change.2 := by
  obtain ⟨sys, hrun, hsys⟩ := Machine.Run.exists_of_check step (fun _ _ => True) (create "10.0.0.1")
    [.iterate (fun _ => 0) "10.0.0.2" []]
    (fun sys => (sys.changes, sys.observed)) ([Monitor.addressReading "10.0.0.1"], ["10.0.0.2"])
    (by decide +kernel)
  obtain ⟨hchanges, hobserved⟩ := Prod.mk.inj hsys
  refine ⟨sys, hrun, ?_⟩
  rw [hchanges, hobserved]
  decide

end MonitorSystem

end WolkConnect
