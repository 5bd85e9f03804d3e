import Mathlib.Order.Lattice
import Mathlib.Data.List.Pairwise

/-!
# Ordered maps

A map with unique keys in increasing order, seen as the list of its entries. A
position in the list is an iterator: `entries.length` is the end of the map.
-/

/-- Entries with strictly increasing keys. -/
structure OrderedMap (κ ν : Type) [LinearOrder κ] where
  entries : List (κ × ν)
  sorted : entries.Pairwise fun a b => a.1 < b.1

namespace OrderedMap

variable {κ ν : Type} [LinearOrder κ]

theorem ext {m n : OrderedMap κ ν} (h : m.entries = n.entries) : m = n := by
  cases m; cases n; cases h; rfl

instance [DecidableEq ν] : DecidableEq (OrderedMap κ ν) := fun m n =>
  decidable_of_iff (m.entries = n.entries) ⟨ext, fun h => h ▸ rfl⟩

def empty : OrderedMap κ ν := ⟨[], .nil⟩

def size (m : OrderedMap κ ν) : Nat := m.entries.length

def keys (m : OrderedMap κ ν) : List κ := m.entries.map Prod.fst

/-! ## Lookup -/

def lookup (k : κ) : List (κ × ν) → Option ν
  | [] => none
  | (j, v) :: rest => if j = k then some v else lookup k rest

def find? (m : OrderedMap κ ν) (k : κ) : Option ν := lookup k m.entries

theorem mem_of_lookup {l : List (κ × ν)} {k : κ} {v : ν} (h : lookup k l = some v) : (k, v) ∈ l := by
  induction l with
  | nil => simp [lookup] at h
  | cons e rest ih =>
    obtain ⟨j, w⟩ := e
    simp only [lookup] at h
    split at h
    · rename_i hj
      simp_all
    · exact List.mem_cons_of_mem _ (ih h)

theorem lookup_of_mem {l : List (κ × ν)} (hl : l.Pairwise fun a b => a.1 < b.1) {k : κ} {v : ν}
    (h : (k, v) ∈ l) : lookup k l = some v := by
  induction l with
  | nil => simp at h
  | cons e rest ih =>
    obtain ⟨j, w⟩ := e
    rw [List.pairwise_cons] at hl
    rcases List.mem_cons.mp h with he | he
    · cases he; simp [lookup]
    · have hj : j ≠ k := (hl.1 _ he).ne
      simp only [lookup, if_neg hj]
      exact ih hl.2 he

theorem find?_eq_some {m : OrderedMap κ ν} {k : κ} {v : ν} :
    m.find? k = some v ↔ (k, v) ∈ m.entries :=
  ⟨mem_of_lookup, lookup_of_mem m.sorted⟩

@[simp] theorem find?_empty (k : κ) : (empty : OrderedMap κ ν).find? k = none := rfl

theorem mem_keys {m : OrderedMap κ ν} {k : κ} : k ∈ m.keys ↔ (m.find? k).isSome := by
  rw [Option.isSome_iff_exists, keys, List.mem_map]
  constructor
  · rintro ⟨⟨j, v⟩, he, rfl⟩
    exact ⟨v, find?_eq_some.mpr he⟩
  · rintro ⟨v, hv⟩
    exact ⟨(k, v), find?_eq_some.mp hv, rfl⟩

/-- A map is what its lookup says. -/
theorem ext_find? {m n : OrderedMap κ ν} (h : ∀ k, m.find? k = n.find? k) : m = n := by
  have hmem : ∀ e, e ∈ m.entries ↔ e ∈ n.entries := by
    rintro ⟨k, v⟩
    rw [← find?_eq_some, ← find?_eq_some, h]
  have hnodup : ∀ o : OrderedMap κ ν, o.entries.Nodup := fun o =>
    o.sorted.imp fun hab heq => absurd (congrArg Prod.fst heq) hab.ne
  have hperm : m.entries.Perm n.entries := (List.perm_ext_iff_of_nodup (hnodup m) (hnodup n)).mpr hmem
  exact ext (hperm.eq_of_pairwise (fun _ _ _ _ hab hba => absurd hab hba.not_gt) m.sorted n.sorted)

/-- The first entry that meets `p` has none before it. -/
theorem find?_entries_iff {m : OrderedMap κ ν} {p : κ × ν → Bool} {k : κ} {v : ν} :
    m.entries.find? p = some (k, v) ↔
      m.find? k = some v ∧ p (k, v) = true ∧ ∀ j w, j < k → m.find? j = some w → p (j, w) = false := by
  rw [List.find?_eq_some_iff_append, find?_eq_some]
  constructor
  · rintro ⟨hp, before, after, hentries, hbefore⟩
    refine ⟨hentries ▸ List.mem_append_right _ List.mem_cons_self, hp, fun j w hlt hj => ?_⟩
    have hsorted := m.sorted
    rw [hentries, List.pairwise_append, List.pairwise_cons] at hsorted
    rw [find?_eq_some, hentries, List.mem_append, List.mem_cons] at hj
    rcases hj with hj | hj | hj
    · simpa using hbefore _ hj
    · cases hj
      exact absurd hlt (lt_irrefl _)
    · exact absurd hlt (hsorted.2.1.1 _ hj).not_gt
  · rintro ⟨hmem, hp, hfirst⟩
    obtain ⟨before, after, hentries⟩ := List.append_of_mem hmem
    refine ⟨hp, before, after, hentries, fun e he => ?_⟩
    have hsorted := m.sorted
    rw [hentries, List.pairwise_append] at hsorted
    have hlt : e.1 < k := hsorted.2.2 e he (k, v) List.mem_cons_self
    have hfind : m.find? e.1 = some e.2 := by
      rw [find?_eq_some, hentries]
      exact List.mem_append_left _ he
    simpa using hfirst e.1 e.2 hlt hfind

/-! ## Writing an entry -/

def insertEntry (k : κ) (v : ν) : List (κ × ν) → List (κ × ν)
  | [] => [(k, v)]
  | (j, w) :: rest =>
    if k < j then (k, v) :: (j, w) :: rest
    else if k = j then (k, v) :: rest
    else (j, w) :: insertEntry k v rest

theorem mem_insertEntry {l : List (κ × ν)} {k : κ} {v : ν} {e : κ × ν}
    (h : e ∈ insertEntry k v l) : e = (k, v) ∨ e ∈ l := by
  induction l with
  | nil => simpa [insertEntry] using h
  | cons f rest ih =>
    obtain ⟨j, w⟩ := f
    simp only [insertEntry] at h
    split_ifs at h
    · simpa using h
    · rcases List.mem_cons.mp h with h | h
      · exact Or.inl h
      · exact Or.inr (List.mem_cons_of_mem _ h)
    · rcases List.mem_cons.mp h with h | h
      · exact Or.inr (h ▸ List.mem_cons_self)
      · exact (ih h).imp_right (List.mem_cons_of_mem _)

theorem insertEntry_sorted {l : List (κ × ν)} (hl : l.Pairwise fun a b => a.1 < b.1) (k : κ) (v : ν) :
    (insertEntry k v l).Pairwise fun a b => a.1 < b.1 := by
  induction l with
  | nil => simp [insertEntry]
  | cons f rest ih =>
    obtain ⟨j, w⟩ := f
    have hl' := List.pairwise_cons.mp hl
    simp only [insertEntry]
    split_ifs with hlt heq
    · refine List.pairwise_cons.mpr ⟨fun e he => ?_, hl⟩
      rcases List.mem_cons.mp he with rfl | he
      · exact hlt
      · exact hlt.trans (hl'.1 e he)
    · subst heq
      exact List.pairwise_cons.mpr hl'
    · refine List.pairwise_cons.mpr ⟨fun e he => ?_, ih hl'.2⟩
      rcases mem_insertEntry he with rfl | he
      · exact lt_of_le_of_ne (not_lt.mp hlt) (Ne.symm heq)
      · exact hl'.1 e he

theorem lookup_insertEntry (l : List (κ × ν)) (k j : κ) (v : ν) :
    lookup j (insertEntry k v l) = if k = j then some v else lookup j l := by
  induction l with
  | nil => rfl
  | cons f rest ih =>
    obtain ⟨i, w⟩ := f
    simp only [insertEntry]
    split
    · rfl
    · split
      · rename_i hki
        subst hki
        simp only [lookup]
        split_ifs <;> rfl
      · rename_i hki
        simp only [lookup, ih]
        split_ifs <;> simp_all

/-- `m[k] = v`. -/
def insert (m : OrderedMap κ ν) (k : κ) (v : ν) : OrderedMap κ ν :=
  ⟨insertEntry k v m.entries, insertEntry_sorted m.sorted k v⟩

/-- `m.emplace(k, v)`: an entry that is already there stays. -/
def emplace (m : OrderedMap κ ν) (k : κ) (v : ν) : OrderedMap κ ν :=
  if (m.find? k).isSome then m else m.insert k v

theorem find?_insert (m : OrderedMap κ ν) (k j : κ) (v : ν) :
    (m.insert k v).find? j = if k = j then some v else m.find? j :=
  lookup_insertEntry m.entries k j v

@[simp] theorem find?_insert_self (m : OrderedMap κ ν) (k : κ) (v : ν) :
    (m.insert k v).find? k = some v := by simp [find?_insert]

theorem find?_insert_ne (m : OrderedMap κ ν) {k j : κ} (v : ν) (h : k ≠ j) :
    (m.insert k v).find? j = m.find? j := by simp [find?_insert, h]

theorem insertEntry_of_lookup {l : List (κ × ν)} (hl : l.Pairwise fun a b => a.1 < b.1) {k : κ} {v : ν}
    (h : lookup k l = some v) : insertEntry k v l = l := by
  induction l with
  | nil => simp [lookup] at h
  | cons f rest ih =>
    obtain ⟨j, w⟩ := f
    rw [List.pairwise_cons] at hl
    simp only [lookup] at h
    split_ifs at h with hjk
    · subst hjk
      cases h
      simp [insertEntry]
    · have hlt : j < k := hl.1 _ (mem_of_lookup h)
      simp only [insertEntry, if_neg hlt.not_gt, if_neg (Ne.symm hjk), ih hl.2 h]

theorem insert_of_find? {m : OrderedMap κ ν} {k : κ} {v : ν} (h : m.find? k = some v) :
    m.insert k v = m :=
  ext (insertEntry_of_lookup m.sorted h)

theorem find?_emplace_of_none (m : OrderedMap κ ν) {k : κ} (v : ν) (h : m.find? k = none) (j : κ) :
    (m.emplace k v).find? j = if k = j then some v else m.find? j := by
  simp [emplace, h, find?_insert]

theorem find?_emplace (m : OrderedMap κ ν) (k j : κ) (v : ν) :
    (m.emplace k v).find? j = if k = j then some ((m.find? k).getD v) else m.find? j := by
  cases hk : m.find? k with
  | none => rw [find?_emplace_of_none m v hk, Option.getD_none]
  | some w =>
    rw [emplace, hk, if_pos (Option.isSome_some), Option.getD_some]
    split_ifs with hkj
    · rw [← hkj, hk]
    · rfl

/-- An entry after `emplace` was there before, or is the new one at a key that was free. -/
theorem find?_emplace_eq_some {m : OrderedMap κ ν} {k j : κ} {v w : ν}
    (h : (m.emplace k v).find? j = some w) : m.find? j = some w ∨ m.find? k = none ∧ j = k ∧ w = v := by
  rw [find?_emplace] at h
  split_ifs at h with hkj
  · cases hk : m.find? k with
    | none => exact .inr ⟨rfl, hkj.symm, by simpa [hk] using h.symm⟩
    | some u => exact .inl (by rw [← hkj, hk]; simpa [hk] using h)
  · exact .inl h

/-! ## Removing entries -/

def erase (m : OrderedMap κ ν) (k : κ) : OrderedMap κ ν :=
  ⟨m.entries.filter fun e => e.1 ≠ k, m.sorted.filter _⟩

/-- `m.erase(m.begin(), it)` where `it` is at position `n`. -/
def eraseBefore (m : OrderedMap κ ν) (n : Nat) : OrderedMap κ ν :=
  ⟨m.entries.drop n, m.sorted.sublist (List.drop_sublist n _)⟩

theorem lookup_filter (l : List (κ × ν)) (k j : κ) :
    lookup j (l.filter fun e => e.1 ≠ k) = if k = j then none else lookup j l := by
  induction l with
  | nil => simp [lookup]
  | cons f rest ih =>
    obtain ⟨i, w⟩ := f
    by_cases hik : i = k
    · rw [List.filter_cons_of_neg (by simpa using hik), ih]
      subst hik
      simp only [lookup]
      split_ifs <;> rfl
    · rw [List.filter_cons_of_pos (by simpa using hik)]
      simp only [lookup, ih]
      split_ifs <;> simp_all

theorem find?_erase (m : OrderedMap κ ν) (k j : κ) :
    (m.erase k).find? j = if k = j then none else m.find? j :=
  lookup_filter m.entries k j

theorem erase_insert {m : OrderedMap κ ν} {k : κ} (h : m.find? k = none) (v : ν) :
    (m.insert k v).erase k = m := by
  apply ext_find?
  intro j
  rw [find?_erase, find?_insert]
  split_ifs with hkj
  · rw [← hkj, h]
  · rfl

theorem find?_foldl_erase (ks : List κ) (m : OrderedMap κ ν) (j : κ) :
    (ks.foldl erase m).find? j = if j ∈ ks then none else m.find? j := by
  induction ks generalizing m with
  | nil => simp
  | cons k ks ih =>
    rw [List.foldl_cons, ih, find?_erase]
    by_cases hk : k = j
    · simp [hk]
    · simp [hk, Ne.symm hk]

/-- The entries whose keys meet `p`. -/
def filterKeys (p : κ → Bool) (m : OrderedMap κ ν) : OrderedMap κ ν :=
  ⟨m.entries.filter fun e => p e.1, m.sorted.filter _⟩

theorem find?_filterKeys (p : κ → Bool) (m : OrderedMap κ ν) (k : κ) :
    (m.filterKeys p).find? k = if p k then m.find? k else none := by
  apply Option.ext
  intro v
  rw [find?_eq_some, filterKeys, List.mem_filter, ← find?_eq_some]
  split_ifs with hk
  · simp [hk]
  · simp [hk]

theorem filterKeys_congr {p : κ → Bool} {m n : OrderedMap κ ν}
    (h : ∀ k, p k = true → m.find? k = n.find? k) : m.filterKeys p = n.filterKeys p := by
  apply ext_find?
  intro k
  rw [find?_filterKeys, find?_filterKeys]
  split_ifs with hk
  · exact h k hk
  · rfl

/-! ## The entries, in any order and in theirs -/

theorem nodup (m : OrderedMap κ ν) : m.entries.Nodup :=
  m.sorted.imp fun hab heq => absurd (congrArg Prod.fst heq) hab.ne

theorem perm_insert {m : OrderedMap κ ν} {k : κ} (h : m.find? k = none) (v : ν) :
    (m.insert k v).entries.Perm (m.entries ++ [(k, v)]) := by
  have hfresh : ∀ w, (k, w) ∉ m.entries := by
    intro w hw
    rw [find?_eq_some.mpr hw] at h
    cases h
  refine (List.perm_ext_iff_of_nodup (nodup _) ?_).mpr ?_
  · refine List.nodup_append.mpr ⟨m.nodup, List.pairwise_singleton _ _, fun e he f hf heq => ?_⟩
    rw [heq, List.mem_singleton.mp hf] at he
    exact hfresh v he
  · rintro ⟨j, w⟩
    rw [← find?_eq_some, find?_insert, List.mem_append, List.mem_singleton, ← find?_eq_some]
    split_ifs with hkj
    · subst hkj
      simp [h, eq_comm]
    · simp [Ne.symm hkj]

theorem perm_erase {m : OrderedMap κ ν} {k : κ} {v : ν} (h : m.find? k = some v) :
    m.entries.Perm ((k, v) :: (m.erase k).entries) := by
  have herased : ∀ w, (k, w) ∉ (m.erase k).entries := by
    intro w hw
    rw [← find?_eq_some, find?_erase, if_pos rfl] at hw
    cases hw
  refine (List.perm_ext_iff_of_nodup m.nodup (List.nodup_cons.mpr ⟨herased v, nodup _⟩)).mpr ?_
  rintro ⟨j, w⟩
  rw [List.mem_cons, ← find?_eq_some, ← find?_eq_some, find?_erase]
  split_ifs with hkj
  · subst hkj
    simp [h, eq_comm]
  · simp [Ne.symm hkj]

/-- `m.begin()` has the least key. -/
theorem head_le {m : OrderedMap κ ν} {e : κ × ν} (h : m.entries.head? = some e) :
    ∀ f ∈ m.entries, e.1 ≤ f.1 := by
  intro f hf
  obtain ⟨rest, hrest⟩ := List.head?_eq_some_iff.mp h
  have hsorted := m.sorted
  rw [hrest] at hsorted hf
  rcases List.mem_cons.mp hf with rfl | hf
  · exact le_refl _
  · exact ((List.pairwise_cons.mp hsorted).1 f hf).le

theorem le_getLast {m : OrderedMap κ ν} {e : κ × ν} (h : m.entries.getLast? = some e) :
    ∀ f ∈ m.entries, f.1 ≤ e.1 := by
  intro f hf
  obtain ⟨rest, hrest⟩ := List.getLast?_eq_some_iff.mp h
  have hsorted := m.sorted
  rw [hrest] at hsorted hf
  rcases List.mem_append.mp hf with hf | hf
  · exact ((List.pairwise_append.mp hsorted).2.2 f hf e List.mem_cons_self).le
  · exact (List.mem_singleton.mp hf) ▸ le_refl _

end OrderedMap
