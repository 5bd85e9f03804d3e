import Mathlib.Data.List.Basic
import Mathlib.Tactic.Push
import Mathlib.Tactic.SplitIfs

/-!
# Notices that are read late

A value is assigned again and again, and each time a notice may be queued. A notice is
delivered later, and shows the value at that time: two notices that wait together show
one value, even if they are about two.
-/

/-- `pending` counts the notices in the queue. -/
structure LateNotices (α : Type) where
  current : α
  pending : Nat
  assigned : List α
  heard : List α

namespace LateNotices

variable {α : Type} (f : LateNotices α)

/-- A notice is queued when somebody listens. -/
def assign (listening : Bool) (v : α) : LateNotices α :=
  ⟨v, f.pending + listening.toNat, f.assigned ++ [v], f.heard⟩

def deliver (listening : Bool) : LateNotices α :=
  ⟨f.current, f.pending - 1, f.assigned, f.heard ++ if listening then [f.current] else []⟩

/-- What was not heard yet is what the pending notices would show now. -/
def UpToDate : Prop := f.heard ++ List.replicate f.pending f.current = f.assigned

/-- A value has no notice, or something else was heard, or the pending notices are about different
values. -/
structure Lost : Prop where
  last : f.assigned.getLast? = some f.current
  counted : f.heard.length + f.pending ≤ f.assigned.length
  lost : f.heard.length + f.pending < f.assigned.length ∨ ¬ f.heard <+: f.assigned ∨
    ∃ v ∈ f.assigned.drop f.heard.length, v ≠ f.current

variable {f} {v : α} {listening : Bool}

theorem UpToDate.isPrefix (h : f.UpToDate) : f.heard <+: f.assigned := ⟨_, h⟩

theorem UpToDate.heard_eq (h : f.UpToDate) (hpending : f.pending = 0) : f.heard = f.assigned := by
  rw [UpToDate, hpending] at h
  simpa using h

theorem UpToDate.length (h : f.UpToDate) : f.heard.length + f.pending = f.assigned.length := by
  rw [← h, List.length_append, List.length_replicate]

/-- One value is assigned while notices wait, or none waits. -/
theorem UpToDate.assign (h : f.UpToDate) (hv : f.pending = 0 ∨ v = f.current) :
    (f.assign true v).UpToDate := by
  rw [UpToDate] at h
  change f.heard ++ List.replicate (f.pending + 1) v = f.assigned ++ [v]
  rw [← h, List.replicate_succ', List.append_assoc]
  rcases hv with hpending | rfl
  · rw [hpending, List.replicate_zero, List.replicate_zero]
  · rfl

theorem UpToDate.deliver (h : f.UpToDate) (hpending : 0 < f.pending) : (f.deliver true).UpToDate := by
  obtain ⟨n, hn⟩ := Nat.exists_eq_add_of_lt hpending
  rw [Nat.zero_add] at hn
  rw [UpToDate, hn, List.replicate_succ] at h
  change f.heard ++ [f.current] ++ List.replicate (f.pending - 1) f.current = f.assigned
  rw [hn, Nat.add_sub_cancel, List.append_assoc]
  exact h

/-- Nobody listens, or notices wait and the value changes. -/
theorem UpToDate.lost (h : f.UpToDate)
    (hv : listening = false ∨ f.pending ≠ 0 ∧ v ≠ f.current) : (f.assign listening v).Lost := by
  have hlength := h.length
  have hone := Bool.toNat_le listening
  refine ⟨?_, ?_, ?_⟩
  · simp [LateNotices.assign]
  · simp only [LateNotices.assign, List.length_append, List.length_singleton]
    omega
  rcases hv with rfl | ⟨hpending, hv⟩
  · left
    simp only [LateNotices.assign, List.length_append, List.length_singleton, Bool.toNat_false]
    omega
  · refine .inr (.inr ⟨f.current, ?_, Ne.symm hv⟩)
    change f.current ∈ (f.assigned ++ [v]).drop f.heard.length
    rw [← h, List.append_assoc, List.drop_left]
    exact List.mem_append_left _ (List.mem_replicate.mpr ⟨hpending, rfl⟩)

theorem Lost.assign (h : f.Lost) (listening : Bool) (v : α) : (f.assign listening v).Lost := by
  have hone := Bool.toNat_le listening
  have hcounted := h.counted
  refine ⟨?_, ?_, ?_⟩
  · simp [LateNotices.assign]
  · simp only [LateNotices.assign, List.length_append, List.length_singleton]
    omega
  rcases h.lost with hlost | hlost | ⟨u, hu, hne⟩
  · left
    simp only [LateNotices.assign, List.length_append, List.length_singleton]
    omega
  · right; left
    intro hprefix
    change f.heard <+: f.assigned ++ [v] at hprefix
    rcases List.prefix_concat_iff.mp hprefix with heq | hprefix
    · have := congrArg List.length heq
      rw [List.length_append, List.length_singleton] at this
      omega
    · exact hlost hprefix
  · -- The last value is one of the two that wait, so the new one differs from one of them.
    right; right
    have hdrop : (f.assigned ++ [v]).drop f.heard.length = f.assigned.drop f.heard.length ++ [v] :=
      List.drop_append_of_le_length (by omega)
    change ∃ w ∈ (f.assigned ++ [v]).drop f.heard.length, w ≠ v
    rw [hdrop]
    by_cases huv : u = v
    · refine ⟨f.current, List.mem_append_left _ ?_, fun hcurrent => hne (huv.trans hcurrent.symm)⟩
      have hlast : (f.assigned.drop f.heard.length).getLast? = some f.current := by
        rw [List.getLast?_drop, if_neg, h.last]
        exact fun hle => List.ne_nil_of_mem hu (List.drop_eq_nil_of_le hle)
      exact List.mem_of_getLast? hlast
    · exact ⟨u, List.mem_append_left _ hu, huv⟩

theorem Lost.deliver (h : f.Lost) (hpending : 0 < f.pending) (listening : Bool) :
    (f.deliver listening).Lost := by
  have hcounted := h.counted
  cases listening with
  | false =>
    have hheard : (f.deliver false).heard = f.heard := List.append_nil _
    refine ⟨h.last, ?_, ?_⟩
    · rw [hheard]
      change f.heard.length + (f.pending - 1) ≤ _
      exact Nat.le_trans (by omega) hcounted
    · left
      rw [hheard]
      change f.heard.length + (f.pending - 1) < f.assigned.length
      omega
  | true =>
    have hheard : (f.deliver true).heard = f.heard ++ [f.current] := rfl
    have hlength : (f.deliver true).heard.length + (f.deliver true).pending =
        f.heard.length + f.pending := by
      rw [hheard, List.length_append, List.length_singleton]
      change _ + (f.pending - 1) = _
      omega
    refine ⟨h.last, by rw [hlength]; exact hcounted, ?_⟩
    rcases h.lost with hlost | hlost | ⟨u, hu, hne⟩
    · exact .inl (by rw [hlength]; exact hlost)
    · exact .inr (.inl fun hprefix => hlost ((List.prefix_append _ _).trans hprefix))
    · by_cases hprefix : f.heard ++ [f.current] <+: f.assigned
      · obtain ⟨rest, hrest⟩ := hprefix
        refine .inr (.inr ⟨u, ?_, hne⟩)
        change u ∈ f.assigned.drop (f.heard ++ [f.current]).length
        rw [← hrest, List.drop_left]
        rw [← hrest, List.append_assoc, List.drop_left, List.singleton_append, List.mem_cons] at hu
        exact hu.resolve_left hne
      · exact .inr (.inl hprefix)

/-- Once something is lost, the two never agree when all notices are delivered. -/
theorem Lost.heard_ne (h : f.Lost) (hpending : f.pending = 0) : f.heard ≠ f.assigned := by
  intro heq
  rcases h.lost with hlost | hlost | ⟨v, hv, -⟩
  · rw [heq, hpending] at hlost
    exact Nat.lt_irrefl _ hlost
  · exact hlost (heq ▸ List.prefix_rfl)
  · rw [heq, List.drop_length] at hv
    cases hv

end LateNotices
