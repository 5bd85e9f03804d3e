import WolkConnect.Lib.OrderedMap
import Mathlib.Data.List.Induction

/-!
# Grouping a list

The elements of a list gathered in an ordered map under a key, each group in the
order of the list.
-/

namespace OrderedMap

variable {κ ε ν : Type} [LinearOrder κ]

/-- One element more, at the end of its group. -/
def addToGroup (key : ε → κ) (value : ε → ν) (groups : OrderedMap κ (List ν)) (x : ε) :
    OrderedMap κ (List ν) :=
  groups.insert (key x) ((groups.find? (key x)).getD [] ++ [value x])

def groupBy (key : ε → κ) (value : ε → ν) (l : List ε) : OrderedMap κ (List ν) :=
  l.foldl (addToGroup key value) .empty

/-- The group of a key, as the list has it. -/
def group (key : ε → κ) (value : ε → ν) (l : List ε) (k : κ) : List ν :=
  (l.filter fun x => key x = k).map value

variable {key : ε → κ} {value : ε → ν} {l : List ε} {k : κ}

theorem group_append (l l' : List ε) (k : κ) :
    group key value (l ++ l') k = group key value l k ++ group key value l' k := by
  simp [group]

theorem mem_group {v : ν} : v ∈ group key value l k ↔ ∃ x ∈ l, key x = k ∧ value x = v := by
  simp [group, and_assoc]

theorem group_eq_nil : group key value l k = [] ↔ ∀ x ∈ l, key x ≠ k := by
  simp [group, List.filter_eq_nil_iff]

/-- What a group is, when none is kept without an element. -/
def nonempty (g : List ν) : Option (List ν) := if g = [] then none else some g

theorem getD_nonempty (g : List ν) : (nonempty g).getD [] = g := by
  unfold nonempty
  split
  · simp_all
  · rfl

theorem find?_groupBy (l : List ε) (k : κ) :
    (groupBy key value l).find? k = nonempty (group key value l k) := by
  induction l using List.reverseRecOn with
  | nil => simp [groupBy, group, nonempty]
  | append_singleton l x ih =>
    rw [groupBy, List.foldl_append, List.foldl_cons, List.foldl_nil, ← groupBy]
    unfold addToGroup
    rw [find?_insert]
    split
    · rename_i hk
      rw [hk, ih, getD_nonempty, group_append, nonempty, if_neg] <;> simp [group, hk]
    · rename_i hk
      rw [ih, group_append]
      simp [group, hk]

/-- The groups are listed in the order of their keys, and none is empty. -/
theorem mem_groupBy {g : List ν} :
    (k, g) ∈ (groupBy key value l).entries ↔ g = group key value l k ∧ g ≠ [] := by
  rw [← find?_eq_some, find?_groupBy, nonempty]
  split
  · rename_i hnil
    simp only [reduceCtorEq, false_iff, not_and, not_not]
    exact fun h => h.trans hnil
  · rename_i hne
    rw [Option.some.injEq, eq_comm]
    exact ⟨fun h => ⟨h, h ▸ hne⟩, And.left⟩

theorem mem_keys_groupBy : k ∈ (groupBy key value l).keys ↔ ∃ x ∈ l, key x = k := by
  rw [mem_keys, find?_groupBy, nonempty]
  split
  · rename_i hnil
    simp only [Option.isSome_none, Bool.false_eq_true, false_iff, not_exists, not_and]
    exact group_eq_nil.mp hnil
  · rename_i hne
    rw [group_eq_nil] at hne
    simpa using hne

theorem keys_sorted {ν : Type} (m : OrderedMap κ ν) : m.keys.Pairwise (· < ·) := by
  rw [keys, List.pairwise_map]
  exact m.sorted

end OrderedMap
