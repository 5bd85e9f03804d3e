import WolkConnect.Monitor.Model
import Mathlib.Data.Rat.Floor
import Mathlib.Order.Bounds.Basic

/-!
# The maximum of the temperatures

The loop of `getMaximumTemperature` goes over the elements, and uses each as an index.
-/

namespace WolkConnect

/-! ## Values as indices -/

theorem toIndex_of_nonneg {value : ℚ} (h : 0 ≤ value) : toIndex value = ⌊value⌋ := by
  rw [toIndex, Rat.floor_def', Int.tdiv_eq_ediv_of_nonneg (Rat.num_nonneg.mpr h)]

theorem toIndex_neg (value : ℚ) : toIndex (-value) = -toIndex value := by
  unfold toIndex
  rw [Rat.num_neg_eq_neg_num, Rat.den_neg_eq_den, Int.neg_tdiv]

theorem toIndex_of_nonpos {value : ℚ} (h : value ≤ 0) : toIndex value = ⌈value⌉ := by
  have hneg := toIndex_of_nonneg (neg_nonneg.mpr h)
  rw [toIndex_neg, Int.floor_neg] at hneg
  exact neg_injective hneg

theorem toIndex_inRange_iff (value : ℚ) {size : Nat} (hsize : 0 < size) :
    0 ≤ toIndex value ∧ toIndex value < size ↔ -1 < value ∧ value < size := by
  have hpos : (0 : ℚ) < size := Nat.cast_pos.mpr hsize
  rcases le_total 0 value with h | h
  · rw [toIndex_of_nonneg h, Int.floor_lt, Int.cast_natCast]
    exact and_congr_left' (iff_of_true (Int.floor_nonneg.mpr h) (by linarith))
  · have hceil : 0 ≤ ⌈value⌉ ↔ -1 < value := by
      rw [← Int.sub_one_lt_iff, zero_sub, Int.lt_ceil, Int.cast_neg, Int.cast_one]
    have hnonpos : ⌈value⌉ ≤ 0 := Int.ceil_le.mpr (by rw [Int.cast_zero]; exact h)
    have hlt : ⌈value⌉ < size := hnonpos.trans_lt (Int.natCast_pos.mpr hsize)
    rw [toIndex_of_nonpos h, hceil]
    exact and_congr_right' (iff_of_true hlt (by linarith))

/-! ## The loop -/

section

variable (past : Int → ℚ) (temperatures : List ℚ)

/-- The positions that the loop uses. -/
def visited : List Int := 0 :: temperatures.map toIndex

theorem maxValue_visit (scan : MaximumScan) (itr : ℚ) :
    (scan.visit past temperatures itr).maxValue =
      max scan.maxValue (elementAt past temperatures (toIndex itr)) := by
  unfold MaximumScan.visit
  dsimp only
  split_ifs with h
  · exact (max_eq_right h.le).symm
  · exact (max_eq_left (not_lt.mp h)).symm

theorem mem_accesses_visit (scan : MaximumScan) (itr : ℚ) (a : Access) :
    a ∈ (scan.visit past temperatures itr).accesses ↔
      a ∈ scan.accesses ∨ a = ⟨toIndex itr, temperatures.length⟩ := by
  unfold MaximumScan.visit
  dsimp only
  split_ifs <;> simp

theorem maxValue_foldl_visit (l : List ℚ) (scan : MaximumScan) :
    (l.foldl (MaximumScan.visit past temperatures) scan).maxValue =
      ((l.map toIndex).map (elementAt past temperatures)).foldl max scan.maxValue := by
  induction l generalizing scan with
  | nil => rfl
  | cons itr l ih =>
    rw [List.foldl_cons, ih, maxValue_visit]
    rfl

theorem mem_accesses_foldl_visit (l : List ℚ) (scan : MaximumScan) (a : Access) :
    a ∈ (l.foldl (MaximumScan.visit past temperatures) scan).accesses ↔
      a ∈ scan.accesses ∨ ∃ index ∈ l.map toIndex, a = ⟨index, temperatures.length⟩ := by
  induction l generalizing scan with
  | nil => simp
  | cons itr l ih =>
    rw [List.foldl_cons, ih, mem_accesses_visit, List.map_cons, List.exists_mem_cons_iff, or_assoc]

theorem mem_accesses_getMaximumTemperature (a : Access) :
    a ∈ (getMaximumTemperature past temperatures).accesses ↔
      ∃ index ∈ visited temperatures, a = ⟨index, temperatures.length⟩ := by
  unfold getMaximumTemperature visited
  rw [mem_accesses_foldl_visit, List.mem_singleton, List.exists_mem_cons_iff]

/-- The result is the greatest of the elements at the positions that the loop uses. -/
theorem isGreatest_maxValue :
    IsGreatest {t | t ∈ (visited temperatures).map (elementAt past temperatures)}
      (getMaximumTemperature past temperatures).maxValue := by
  unfold getMaximumTemperature visited
  rw [maxValue_foldl_visit]
  exact List.max?_eq_some_iff.mp List.max?_cons'

theorem accesses_inRange_iff :
    (∀ a ∈ (getMaximumTemperature past temperatures).accesses, a.InRange) ↔
      temperatures ≠ [] ∧ ∀ t ∈ temperatures, -1 < t ∧ t < temperatures.length := by
  have hvisited : (∀ a ∈ (getMaximumTemperature past temperatures).accesses, a.InRange) ↔
      ∀ index ∈ visited temperatures, (Access.mk index temperatures.length).InRange := by
    simp only [mem_accesses_getMaximumTemperature]
    exact ⟨fun h index hindex => h _ ⟨index, hindex, rfl⟩,
      fun h a ⟨index, hindex, ha⟩ => ha ▸ h index hindex⟩
  have hfirst : (Access.mk 0 temperatures.length).InRange ↔ temperatures ≠ [] := by
    rw [← List.length_pos_iff]
    exact (and_iff_right le_rfl).trans Int.natCast_pos
  rw [hvisited, visited, List.forall_mem_cons, hfirst, List.forall_mem_map]
  refine and_congr_right fun hne => forall₂_congr fun t _ => ?_
  exact toIndex_inRange_iff t (List.length_pos_iff.mpr hne)

end

theorem elementAt_of_inRange {past : Int → ℚ} {temperatures : List ℚ} {index : Int}
    (h : (Access.mk index temperatures.length).InRange) :
    temperatures[index.toNat]? = some (elementAt past temperatures index) := by
  obtain ⟨hnonneg, hlt⟩ := h
  have hnat : index.toNat < temperatures.length := (Int.toNat_lt hnonneg).mpr hlt
  unfold elementAt
  rw [if_pos hnonneg, List.getElem?_eq_getElem hnat, Option.getD_some]

/-- **The maximum.** The loop stays inside of the list and finds its greatest element if and only if
the list is not empty, each of its elements lies between -1 and its length, and its greatest element
stands at the first position or at one that an element is cut to. -/
theorem getMaximumTemperature_iff (past : Int → ℚ) (temperatures : List ℚ) :
    ((∀ a ∈ (getMaximumTemperature past temperatures).accesses, a.InRange) ∧
        IsGreatest {t | t ∈ temperatures} (getMaximumTemperature past temperatures).maxValue) ↔
      (temperatures ≠ [] ∧ ∀ t ∈ temperatures, -1 < t ∧ t < temperatures.length) ∧
        ∃ top, IsGreatest {t | t ∈ temperatures} top ∧
          (temperatures[0]? = some top ∨
            ∃ t ∈ temperatures, temperatures[(toIndex t).toNat]? = some top) := by
  rw [accesses_inRange_iff]
  refine and_congr_right fun hcut => ?_
  have hrange := (accesses_inRange_iff past temperatures).mpr hcut
  have hfound : ∀ index ∈ visited temperatures,
      temperatures[index.toNat]? = some (elementAt past temperatures index) := by
    intro index hindex
    refine elementAt_of_inRange (hrange _ ?_)
    exact (mem_accesses_getMaximumTemperature _ _ _).mpr ⟨index, hindex, rfl⟩
  have hresult := isGreatest_maxValue past temperatures
  have hvisited : ∀ top, (temperatures[0]? = some top ∨
      ∃ t ∈ temperatures, temperatures[(toIndex t).toNat]? = some top) ↔
        ∃ index ∈ visited temperatures, temperatures[index.toNat]? = some top := by
    intro top
    rw [visited, List.exists_mem_cons_iff]
    refine or_congr Iff.rfl ⟨fun ⟨t, ht, hat⟩ => ⟨_, List.mem_map_of_mem ht, hat⟩, ?_⟩
    rintro ⟨index, hindex, hat⟩
    obtain ⟨t, ht, rfl⟩ := List.mem_map.mp hindex
    exact ⟨t, ht, hat⟩
  simp only [hvisited]
  constructor
  · intro hgreatest
    obtain ⟨index, hindex, heq⟩ := List.mem_map.mp hresult.1
    exact ⟨_, hgreatest, index, hindex, heq ▸ hfound index hindex⟩
  · rintro ⟨top, htop, index, hindex, hat⟩
    have heq : elementAt past temperatures index = top :=
      Option.some.inj ((hfound index hindex).symm.trans hat)
    -- The result is in the list, and not below the greatest element, which the loop has seen.
    obtain ⟨index', hindex', heq'⟩ := List.mem_map.mp hresult.1
    have hmem : (getMaximumTemperature past temperatures).maxValue ∈ temperatures :=
      heq' ▸ List.mem_of_getElem? (hfound index' hindex')
    have hle : top ≤ (getMaximumTemperature past temperatures).maxValue :=
      hresult.2 (List.mem_map.mpr ⟨index, hindex, heq⟩)
    exact le_antisymm hle (htop.2 hmem) ▸ htop

/-- Sixty degrees are used as a position of a list that has one. -/
theorem getMaximumTemperature_outside : ∃ temperatures : List ℚ, temperatures ≠ [] ∧ ∀ past,
    ¬ ((∀ a ∈ (getMaximumTemperature past temperatures).accesses, a.InRange) ∧
      IsGreatest {t | t ∈ temperatures} (getMaximumTemperature past temperatures).maxValue) := by
  refine ⟨[60], List.cons_ne_nil _ _, fun past h => ?_⟩
  have hused : (⟨60, 1⟩ : Access) ∈ (getMaximumTemperature past [60]).accesses :=
    (mem_accesses_getMaximumTemperature past [60] _).mpr ⟨60, by decide, rfl⟩
  exact absurd (h.1 _ hused) (by decide)

end WolkConnect
