import Mathlib.Data.List.Pairwise
import Mathlib.Data.List.Sort

/-!
# Heaps in a range

`std::sort_heap` sorts a range that is a max-heap. Of any other range it promises
nothing: an implementation moves the elements about and leaves them in some order.
-/

namespace Heap

variable {α : Type*} [LinearOrder α] {l : List α}

/-- The parent of a position in the tree that a range lays out. -/
def parent (l : List α) (i : Fin l.length) : Fin l.length := ⟨(i.val - 1) / 2, by omega⟩

/-- No element is greater than its parent: `std::is_heap`. -/
def IsMaxHeap (l : List α) : Prop := ∀ i : Fin l.length, l.get i ≤ l.get (parent l i)

instance : DecidablePred fun l : List α => IsMaxHeap l := fun l => by
  unfold IsMaxHeap
  infer_instance

/-- What the standard promises of `std::sort_heap`, and what any implementation does beyond it. -/
structure SortsHeaps (sortHeap : List α → List α) : Prop where
  perm : ∀ l, (sortHeap l).Perm l
  sorted : ∀ l, IsMaxHeap l → (sortHeap l).Pairwise (· ≤ ·)

/-- The elements in order: `std::sort`. -/
def sort (l : List α) : List α := l.mergeSort (· ≤ ·)

theorem sort_perm (l : List α) : (sort l).Perm l := List.mergeSort_perm l _

theorem sort_sorted (l : List α) : (sort l).Pairwise (· ≤ ·) := List.pairwise_mergeSort' _ l

theorem eq_sort {l' : List α} (hperm : l'.Perm l) (hsorted : l'.Pairwise (· ≤ ·)) : l' = sort l :=
  (hperm.trans (sort_perm l).symm).eq_of_pairwise (fun _ _ _ _ => le_antisymm) hsorted
    (sort_sorted l)

theorem sort_eq_of_perm {l' : List α} (hperm : l'.Perm l) : sort l' = sort l :=
  eq_sort ((sort_perm l').trans hperm) (sort_sorted l')

theorem sortsHeaps_sort : SortsHeaps fun l : List α => sort l := ⟨sort_perm, fun l _ => sort_sorted l⟩

theorem SortsHeaps.eq_sort {sortHeap : List α → List α} (h : SortsHeaps sortHeap)
    (hl : IsMaxHeap l) : sortHeap l = sort l :=
  Heap.eq_sort (h.perm l) (h.sorted l hl)

theorem isMaxHeap_of_forall_eq (h : ∀ a ∈ l, ∀ b ∈ l, a = b) : IsMaxHeap l :=
  fun _ => (h _ (List.get_mem _ _) _ (List.get_mem _ _)).le

/-- A sort of heaps may leave any other range unsorted. -/
theorem exists_sortsHeaps_ne (h : ¬ IsMaxHeap l) :
    ∃ sortHeap : List α → List α, SortsHeaps sortHeap ∧ sortHeap l ≠ sort l := by
  refine ⟨fun l => if IsMaxHeap l then sort l else (sort l).reverse, ⟨?_, ?_⟩, ?_⟩
  · intro l
    split_ifs
    · exact sort_perm l
    · exact (List.reverse_perm _).trans (sort_perm l)
  · intro l hl
    simp only [if_pos hl]
    exact sort_sorted l
  · simp only [if_neg h]
    intro heq
    apply h
    have hge : (sort l).Pairwise fun a b => b ≤ a := by
      rw [← List.pairwise_reverse, heq]
      exact sort_sorted l
    have hall : (sort l).Pairwise (· = ·) :=
      ((sort_sorted l).and hge).imp fun hab => le_antisymm hab.1 hab.2
    have hmem := List.Pairwise.forall_of_forall (fun _ _ => rfl) hall
    refine isMaxHeap_of_forall_eq fun a ha b hb => hmem ?_ ?_
    · exact (sort_perm l).mem_iff.mpr ha
    · exact (sort_perm l).mem_iff.mpr hb

/-! ## The pop loop -/

/-- The hole goes down to a leaf, past the greater child each time. -/
def sinkHole (len : Nat) (l : List α) : Nat → Nat → List α × Nat
  | 0, hole => (l, hole)
  | fuel + 1, hole =>
    let right := 2 * (hole + 1)
    match l[right - 1]?, (if right < len then l[right]? else none) with
    | some a, some b =>
      let child := if b < a then right - 1 else right
      sinkHole len (l.set hole (if b < a then a else b)) fuel child
    | some a, none =>
      if right - 1 < len then (l.set hole a, right - 1) else (l, hole)
    | none, _ => (l, hole)

/-- The value goes up from the hole to its place: `__push_heap`. -/
def pushValue (value : α) : Nat → Nat → List α → List α
  | 0, hole, l => l.set hole value
  | fuel + 1, hole, l =>
    match l[(hole - 1) / 2]? with
    | some parent =>
      if 0 < hole ∧ parent < value then pushValue value fuel ((hole - 1) / 2) (l.set hole parent)
      else l.set hole value
    | none => l.set hole value

/-- The greatest of the first `len + 1` elements goes to their end: `pop_heap`. -/
def popHeap (len : Nat) (l : List α) : List α :=
  match l[len]?, l[0]? with
  | some value, some greatest =>
    let (l, hole) := sinkHole len (l.set len greatest) len 0
    pushValue value len hole l
  | _, _ => l

/-- The loop of libstdc++: elements are popped from the end of the range down. -/
def sortHeap (l : List α) : List α :=
  (List.range l.length).reverse.foldl (fun l len => if 0 < len then popHeap len l else l) l

end Heap
