import Mathlib.Tactic.SplitIfs
import Mathlib.Data.List.Nodup

/-!
# Arrays that grow

An array whose elements move to a new buffer when there is no room for one more. A
`Position` is a place in a buffer. It is stale once the elements have moved away, or
once an element at the place or before it has been removed.
-/

/-- Buffers have numbers, in the order in which they were allocated. -/
structure GrowingArray (α : Type) where
  elements : List α
  capacity : Nat
  buffer : Nat

namespace GrowingArray

structure Position where
  buffer : Nat
  index : Nat

variable {α : Type} (grow : Nat → Nat) (v : GrowingArray α)

def empty : GrowingArray α := ⟨[], 0, 0⟩

def full : Bool := decide (v.capacity ≤ v.elements.length)

/-- `v.push_back(a)`. An implementation chooses how its arrays `grow`. -/
def pushBack (a : α) : GrowingArray α :=
  if v.full then ⟨v.elements ++ [a], grow v.capacity, v.buffer + 1⟩
  else { v with elements := v.elements ++ [a] }

/-- `std::prev(v.end())`. -/
def last : Position := ⟨v.buffer, v.elements.length - 1⟩

def removeAt (index : Nat) : GrowingArray α := { v with elements := v.elements.eraseIdx index }

/-- `v.erase(p)`, which has a meaning only for a place in the buffer that has an element. -/
def erase (p : Position) : Option (GrowingArray α) :=
  if p.buffer = v.buffer ∧ p.index < v.elements.length then some (v.removeAt p.index) else none

@[simp] theorem elements_pushBack (a : α) : (v.pushBack grow a).elements = v.elements ++ [a] := by
  unfold pushBack
  split_ifs <;> rfl

theorem buffer_pushBack (a : α) :
    (v.pushBack grow a).buffer = if v.full then v.buffer + 1 else v.buffer := by
  unfold pushBack
  split_ifs <;> rfl

variable {grow v} {p : Position} {a b : α} {stale : Bool}

/-- Where the element is that `p` was the position of. -/
def Tracks (v : GrowingArray α) (p : Position) (a : α) (stale : Bool) : Prop :=
  if stale then p.buffer < v.buffer ∨ ∀ j, v.elements[j]? = some a → j < p.index
  else p.buffer = v.buffer ∧ v.elements[p.index]? = some a

theorem tracks_last : (v.pushBack grow a).Tracks (v.pushBack grow a).last a false := by
  refine ⟨rfl, ?_⟩
  unfold last
  rw [elements_pushBack, List.length_append]
  exact List.getElem?_concat_length

/-- A new element makes all positions stale if it did not fit, and no other. -/
theorem Tracks.pushBack (h : v.Tracks p a stale) (hne : b ≠ a) :
    (v.pushBack grow b).Tracks p a (stale || v.full) := by
  cases stale with
  | true =>
    refine h.imp (fun hlt => ?_) fun hbefore j hj => ?_
    · rw [buffer_pushBack]
      split_ifs <;> omega
    · rw [elements_pushBack, List.getElem?_append] at hj
      split_ifs at hj
      · exact hbefore j hj
      · exact absurd (List.mem_singleton.mp (List.mem_of_getElem? hj)).symm hne
  | false =>
    obtain ⟨hbuffer, helement⟩ := h
    rw [Bool.false_or]
    cases hfull : v.full with
    | true =>
      refine Or.inl ?_
      rw [buffer_pushBack, if_pos hfull]
      omega
    | false =>
      refine ⟨?_, ?_⟩
      · rw [buffer_pushBack, hfull]
        exact hbuffer
      · rw [elements_pushBack, List.getElem?_append_left (List.getElem?_eq_some_iff.mp helement).1]
        exact helement

/-- An element that is removed makes the positions stale that are its own or after it. -/
theorem Tracks.removeAt (h : v.Tracks p a stale) (hnodup : v.elements.Nodup) (index : Nat) :
    (v.removeAt index).Tracks p a (stale || decide (index ≤ p.index)) := by
  have hbefore : (∀ j, v.elements[j]? = some a → j < p.index) ∨
      index ≤ p.index ∧ v.elements[p.index]? = some a →
        ∀ j, (v.removeAt index).elements[j]? = some a → j < p.index := by
    intro hwhere j hj
    unfold GrowingArray.removeAt at hj
    rw [List.getElem?_eraseIdx] at hj
    rcases hwhere with hall | ⟨hle, helement⟩
    · split_ifs at hj with hlt
      · exact hall j hj
      · have := hall (j + 1) hj
        omega
    · obtain ⟨hlt, -⟩ := List.getElem?_eq_some_iff.mp helement
      split_ifs at hj with hji
      · omega
      · have := (List.getElem?_inj hlt hnodup).mp (helement.trans hj.symm)
        omega
  cases stale with
  | true => exact h.imp_right fun hall => hbefore (.inl hall)
  | false =>
    obtain ⟨hbuffer, helement⟩ := h
    rw [Bool.false_or]
    by_cases hle : index ≤ p.index
    · rw [decide_eq_true hle]
      exact Or.inr (hbefore (.inr ⟨hle, helement⟩))
    · rw [decide_eq_false hle]
      refine ⟨hbuffer, ?_⟩
      unfold GrowingArray.removeAt
      rw [List.getElem?_eraseIdx_of_lt (by omega)]
      exact helement

theorem Tracks.erase (h : v.Tracks p a false) : v.erase p = some (v.removeAt p.index) :=
  if_pos ⟨h.1, (List.getElem?_eq_some_iff.mp h.2).1⟩

/-- At a stale position there is another element, if there is any. -/
theorem Tracks.erase_stale {v' : GrowingArray α} (h : v.Tracks p a true) (hv' : v.erase p = some v') :
    v' = v.removeAt p.index ∧ ∃ b, b ≠ a ∧ v.elements[p.index]? = some b := by
  unfold GrowingArray.erase at hv'
  split_ifs at hv' with hin
  obtain ⟨hbuffer, hlt⟩ := hin
  refine ⟨(Option.some.inj hv').symm, v.elements[p.index], ?_, List.getElem?_eq_getElem hlt⟩
  rintro rfl
  rcases h with hbuffer' | hbefore
  · omega
  · exact absurd (hbefore p.index (List.getElem?_eq_getElem hlt)) (Nat.lt_irrefl _)

theorem elements_removeAt [DecidableEq α] (hnodup : v.elements.Nodup) {index : Nat}
    (h : v.elements[index]? = some a) :
    (v.removeAt index).elements = v.elements.filter fun b => b != a := by
  obtain ⟨hlt, rfl⟩ := List.getElem?_eq_some_iff.mp h
  rw [← hnodup.erase_eq_filter]
  exact (hnodup.erase_getElem index hlt).symm

end GrowingArray
