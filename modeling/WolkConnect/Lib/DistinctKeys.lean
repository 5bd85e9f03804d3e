import Mathlib.Data.List.Nodup

/-!
# Lists that grow by new keys

An element is put at the end of a list when none of its key is there.
-/

namespace DistinctKeys

variable {α κ : Type} [DecidableEq κ] (key : α → κ)

def add (l : List α) (a : α) : List α := if key a ∈ l.map key then l else l ++ [a]

def addAll (l as : List α) : List α := as.foldl (add key) l

variable {key} {l as : List α} {a : α} {k : κ}

theorem prefix_add : l <+: add key l a := by
  unfold add
  split_ifs
  · exact List.prefix_refl l
  · exact List.prefix_append l [a]

omit [DecidableEq κ] in
theorem nodup_append (h : (l.map key).Nodup) (ha : ∀ b ∈ l, key b ≠ key a) :
    ((l ++ [a]).map key).Nodup := by
  rw [List.map_append, List.map_singleton]
  refine h.append (List.nodup_singleton _) (List.disjoint_singleton.mpr fun hmem => ?_)
  obtain ⟨b, hb, heq⟩ := List.mem_map.mp hmem
  exact ha b hb heq

theorem nodup_add (h : (l.map key).Nodup) : ((add key l a).map key).Nodup := by
  unfold add
  split_ifs with hmem
  · exact h
  · exact nodup_append h fun b hb heq => hmem (heq ▸ List.mem_map_of_mem hb)

theorem mem_add : k ∈ (add key l a).map key ↔ k ∈ l.map key ∨ k = key a := by
  unfold add
  split_ifs with hmem
  · refine (or_iff_left_of_imp ?_).symm
    rintro rfl
    exact hmem
  · rw [List.map_append, List.map_singleton, List.mem_append, List.mem_singleton]

theorem prefix_addAll : l <+: addAll key l as := by
  induction as generalizing l with
  | nil => exact List.prefix_refl l
  | cons a as ih => exact prefix_add.trans ih

theorem nodup_addAll (h : (l.map key).Nodup) : ((addAll key l as).map key).Nodup := by
  induction as generalizing l with
  | nil => exact h
  | cons a as ih => exact ih (nodup_add h)

theorem mem_addAll : k ∈ (addAll key l as).map key ↔ k ∈ l.map key ∨ k ∈ as.map key := by
  induction as generalizing l with
  | nil => simp [addAll]
  | cons a as ih =>
    rw [List.map_cons, List.mem_cons, ← or_assoc, ← mem_add]
    exact ih

end DistinctKeys
