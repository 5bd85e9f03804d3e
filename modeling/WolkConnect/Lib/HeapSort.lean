import Mathlib.Data.List.Perm.Basic
import WolkConnect.Lib.Heap

/-!
# The pop loop sorts heaps

A pop moves a hole from the root to a leaf, puts the last element there and lets it
rise. Every other element is copied from its place into the hole, which moves there.
-/

namespace Heap

variable {α : Type*} [LinearOrder α] {l : List α} {len hole c i j k fuel : Nat} {value a v m : α}

/-! ## The order of two positions -/

/-- The element at `i` is at most the one at `j`, where there are both. -/
def LeAt (l : List α) (i j : Nat) : Prop := ∀ a b, l[i]? = some a → l[j]? = some b → a ≤ b

theorem LeAt.trans (hj : j < l.length) (h : LeAt l i j) (h' : LeAt l j k) : LeAt l i k := by
  intro a b ha hb
  have hmid := List.getElem?_eq_getElem hj
  exact (h a _ ha hmid).trans (h' _ b hmid hb)

omit [LinearOrder α] in
/-- Where the elements are found when the one at `c` has been copied to the hole. -/
theorem getElem?_copy (hhole : hole < l.length) (ha : l[c]? = some a) (i : Nat) :
    (l.set hole a)[i]? = l[if i = hole then c else i]? := by
  split_ifs with hi
  · rw [hi, List.getElem?_set_self hhole, ha]
  · exact List.getElem?_set_ne (Ne.symm hi)

theorem leAt_copy (hhole : hole < l.length) (ha : l[c]? = some a) (i j : Nat) :
    LeAt (l.set hole a) i j ↔
      LeAt l (if i = hole then c else i) (if j = hole then c else j) := by
  simp only [LeAt, getElem?_copy hhole ha]

omit [LinearOrder α] in
/-- The hole and a copied element change places. -/
theorem copy_perm (hhole : hole < l.length) (ha : l[c]? = some a) (v : α) :
    ((l.set hole a).set c v).Perm (l.set hole v) := by
  obtain ⟨hc, hget⟩ := List.getElem?_eq_some_iff.mp ha
  by_cases heq : hole = c
  · subst heq
    rw [List.set_set]
  · have hperm := List.set_set_perm (show hole < (l.set hole v).length by simpa)
      (show c < (l.set hole v).length by simpa)
    simpa [List.getElem_set_ne heq, hget] using hperm

/-! ## The hole goes down -/

/-- The greatest child of the hole, which is copied into it. -/
structure Promoted (len : Nat) (l : List α) (hole c : Nat) (a : α) : Prop where
  pos : 0 < c
  below : c < len
  child : (c - 1) / 2 = hole
  value : l[c]? = some a
  greatest : ∀ i, 0 < i → i < len → (i - 1) / 2 = hole → LeAt l i c

theorem promoted_of_children (hchild : c = 2 * (hole + 1) - 1 ∨ c = 2 * (hole + 1))
    (hbelow : c < len) (hvalue : l[c]? = some a)
    (hleft : ∀ x, l[2 * (hole + 1) - 1]? = some x → x ≤ a)
    (hright : 2 * (hole + 1) < len → ∀ x, l[2 * (hole + 1)]? = some x → x ≤ a) :
    Promoted len l hole c a := by
  refine ⟨by omega, hbelow, by omega, hvalue, fun i hi hilen hparent x y hx hy => ?_⟩
  rw [hvalue] at hy
  cases hy
  have hi' : i = 2 * (hole + 1) - 1 ∨ i = 2 * (hole + 1) := by omega
  rcases hi' with rfl | rfl
  · exact hleft x hx
  · exact hright hilen x hx

theorem sinkHole_rec (len : Nat) {P : List α → Nat → Prop}
    (hstep : ∀ l hole c a, Promoted len l hole c a → P l hole → P (l.set hole a) c) (fuel : Nat)
    (l : List α) (hole : Nat) (h : P l hole) :
    P (sinkHole len l fuel hole).1 (sinkHole len l fuel hole).2 := by
  induction fuel generalizing l hole with
  | zero => exact h
  | succ fuel ih =>
    unfold sinkHole
    dsimp only
    split
    · rename_i a b ha hb
      split_ifs at hb with hright
      split_ifs with hlt
      · refine ih _ _ (hstep l hole _ a ?_ h)
        refine promoted_of_children (Or.inl rfl) (by omega) ha (fun x hx => ?_) fun _ x hx => ?_
        · exact (Option.some.inj (hx.symm.trans ha)).le
        · exact (Option.some.inj (hx.symm.trans hb)).le.trans hlt.le
      · refine ih _ _ (hstep l hole _ b ?_ h)
        refine promoted_of_children (Or.inr rfl) hright hb (fun x hx => ?_) fun _ x hx => ?_
        · exact (Option.some.inj (hx.symm.trans ha)).le.trans (not_lt.mp hlt)
        · exact (Option.some.inj (hx.symm.trans hb)).le
    · rename_i a ha hb
      split_ifs with hleft
      · refine hstep l hole _ a ?_ h
        refine promoted_of_children (Or.inl rfl) hleft ha (fun x hx => ?_) fun hright x hx => ?_
        · exact (Option.some.inj (hx.symm.trans ha)).le
        · rw [if_pos hright, hx] at hb
          cases hb
      · exact h
    · exact h

/-- With enough fuel, the hole ends at a leaf. -/
theorem sinkHole_leaf (hlen : len ≤ l.length) (hfuel : len ≤ fuel + hole) (hi : 0 < i)
    (hilen : i < len) : (i - 1) / 2 ≠ (sinkHole len l fuel hole).2 := by
  induction fuel generalizing l hole with
  | zero =>
    simp only [sinkHole]
    omega
  | succ fuel ih =>
    unfold sinkHole
    dsimp only
    split
    · split_ifs
      · exact ih (by simpa using hlen) (by omega)
      · exact ih (by simpa using hlen) (by omega)
    · rename_i a ha hb
      split_ifs with hleft
      · rcases Nat.lt_or_ge (2 * (hole + 1)) len with hright | hright
        · rw [if_pos hright, List.getElem?_eq_getElem (by omega)] at hb
          cases hb
        · dsimp only
          omega
      · dsimp only
        omega
    · rename_i hnone
      rw [List.getElem?_eq_none_iff] at hnone
      dsimp only
      omega

/-! ## The value rises -/

theorem pushValue_rec (value : α) {P : List α → Nat → Prop}
    (hstep : ∀ l hole b, 0 < hole → l[(hole - 1) / 2]? = some b → b < value → P l hole →
      P (l.set hole b) ((hole - 1) / 2))
    (hfuel : hole ≤ fuel) (h : P l hole) :
    ∃ l' hole', pushValue value fuel hole l = l'.set hole' value ∧ P l' hole' ∧
      (0 < hole' → ∀ b, l'[(hole' - 1) / 2]? = some b → value ≤ b) := by
  induction fuel generalizing l hole with
  | zero => exact ⟨l, hole, rfl, h, by omega⟩
  | succ fuel ih =>
    unfold pushValue
    split
    · rename_i b hb
      split_ifs with hrise
      · exact ih (by omega) (hstep l hole b hrise.1 hb hrise.2 h)
      · refine ⟨l, hole, rfl, h, fun hpos b' hb' => ?_⟩
        rw [hb] at hb'
        cases hb'
        exact not_lt.mp fun hlt => hrise ⟨hpos, hlt⟩
    · rename_i hnone
      refine ⟨l, hole, rfl, h, fun _ b hb => ?_⟩
      rw [hnone] at hb
      cases hb

/-! ## Nothing is lost -/

/-- What a pop does: the hole goes down in the range with the greatest element at its end, and the
last element rises from there. -/
theorem popHeap_eq {greatest : α} (hvalue : l[len]? = some value) (hgreatest : l[0]? = some greatest) :
    popHeap len l =
      pushValue value len (sinkHole len (l.set len greatest) len 0).2
        (sinkHole len (l.set len greatest) len 0).1 := by
  simp only [popHeap, hvalue, hgreatest]

theorem sinkHole_le : (sinkHole len l fuel 0).2 ≤ len :=
  sinkHole_rec len (P := fun _ hole => hole ≤ len) (fun _ _ _ _ hprom _ => hprom.below.le) fuel l 0
    (Nat.zero_le _)

theorem popHeap_perm (len : Nat) (l : List α) : (popHeap len l).Perm l := by
  cases hvalue : l[len]? with
  | none => simp only [popHeap, hvalue]; exact .refl _
  | some value =>
    obtain ⟨hlen, hget⟩ := List.getElem?_eq_some_iff.mp hvalue
    obtain ⟨greatest, hgreatest⟩ : ∃ greatest, l[0]? = some greatest :=
      ⟨_, List.getElem?_eq_getElem (by omega)⟩
    rw [popHeap_eq hvalue hgreatest]
    have hsink := sinkHole_rec len
      (P := fun l' hole => hole < l'.length ∧
        ∀ v, (l'.set hole v).Perm ((l.set len greatest).set 0 v))
      (fun l' hole c a hprom h => by
        obtain ⟨hc, -⟩ := List.getElem?_eq_some_iff.mp hprom.value
        exact ⟨by simpa using hc, fun v => (copy_perm h.1 hprom.value v).trans (h.2 v)⟩)
      len (l.set len greatest) 0 ⟨by simp; omega, fun v => .refl _⟩
    obtain ⟨l', hole', heq, hperm, -⟩ := pushValue_rec value
      (P := fun l' hole => hole < l'.length ∧
        (l'.set hole value).Perm ((l.set len greatest).set 0 value))
      (fun l' hole b _ hb _ h => by
        obtain ⟨hc, -⟩ := List.getElem?_eq_some_iff.mp hb
        exact ⟨by simpa using hc, (copy_perm h.1 hb value).trans h.2⟩)
      sinkHole_le ⟨hsink.1, hsink.2 value⟩
    have hself : l.set len value = l := by
      rw [← hget]
      exact List.set_getElem_self hlen
    have hswap := copy_perm hlen hgreatest value
    rw [hself] at hswap
    rw [heq]
    exact hperm.2.trans hswap

/-! ## The order of the heap -/

/-- Below `len`, every element is at most its parent, but for the hole, whose children are at most
its parent. -/
structure Holed (len : Nat) (l : List α) (hole : Nat) : Prop where
  length : len ≤ l.length
  below : hole < len
  except : ∀ i, 0 < i → i < len → i ≠ hole → (i - 1) / 2 ≠ hole → LeAt l i ((i - 1) / 2)
  grand : 0 < hole → ∀ i, 0 < i → i < len → (i - 1) / 2 = hole → LeAt l i ((hole - 1) / 2)

theorem Holed.promote (h : Holed len l hole) (hprom : Promoted len l hole c a) :
    Holed len (l.set hole a) c := by
  have hhole : hole < l.length := h.below.trans_le h.length
  have hlt : hole < c := by
    have := hprom.pos
    have := hprom.child
    omega
  refine ⟨by simpa using h.length, hprom.below, fun i hi hilen hic hparent => ?_,
    fun _ i hi hilen hparent => ?_⟩
  · rw [leAt_copy hhole hprom.value]
    by_cases hih : i = hole
    · subst hih
      rw [if_pos rfl, if_neg (by omega)]
      exact h.grand hi c hprom.pos hprom.below hprom.child
    · rw [if_neg hih]
      split_ifs with hph
      · exact hprom.greatest i hi hilen hph
      · exact h.except i hi hilen hih hph
  · rw [leAt_copy hhole hprom.value, hprom.child, if_pos rfl, if_neg (by omega), ← hparent]
    exact h.except i hi hilen (by omega) (by omega)

/-- The hole may take a value that is at least its children. -/
structure Rising (value : α) (len : Nat) (l : List α) (hole : Nat) : Prop
    extends Holed len l hole where
  children : ∀ i, 0 < i → i < len → (i - 1) / 2 = hole → ∀ a, l[i]? = some a → a ≤ value

theorem Rising.rise (h : Rising value len l hole) (hpos : 0 < hole)
    (hb : l[(hole - 1) / 2]? = some a) (hlt : a < value) :
    Rising value len (l.set hole a) ((hole - 1) / 2) := by
  have hhole : hole < l.length := h.below.trans_le h.length
  have hbelow := h.below
  have hup : ∀ i, 0 < i → i < len → (i - 1) / 2 = (hole - 1) / 2 → i ≠ hole →
      LeAt l i ((hole - 1) / 2) := by
    intro i hi hilen hparent hne
    rw [← hparent]
    exact h.except i hi hilen hne (by omega)
  refine ⟨⟨by simpa using h.length, by omega, fun i hi hilen hne hparent => ?_,
    fun hp i hi hilen hparent => ?_⟩, fun i hi hilen hparent b hb' => ?_⟩
  · have hih : i ≠ hole := by rintro rfl; exact hparent rfl
    rw [leAt_copy hhole hb, if_neg hih]
    split_ifs with hph
    · exact h.grand hpos i hi hilen hph
    · exact h.except i hi hilen hih hph
  · have hgrand : LeAt l ((hole - 1) / 2) (((hole - 1) / 2 - 1) / 2) :=
      h.except _ hp (by omega) (by omega) (by omega)
    rw [leAt_copy hhole hb, if_neg (show ((hole - 1) / 2 - 1) / 2 ≠ hole by omega)]
    split_ifs with hih
    · exact hgrand
    · exact (hup i hi hilen hparent hih).trans (by have := h.length; omega) hgrand
  · rw [getElem?_copy hhole hb] at hb'
    split_ifs at hb' with hih
    · rw [hb] at hb'
      cases hb'
      exact hlt.le
    · exact (hup i hi hilen hparent hih b a hb' hb).trans hlt.le

/-- The value is put in the hole when its parent is not less. -/
theorem Rising.settle (h : Rising value len l hole)
    (hstop : 0 < hole → ∀ b, l[(hole - 1) / 2]? = some b → value ≤ b) (hi : 0 < i)
    (hilen : i < len) : LeAt (l.set hole value) i ((i - 1) / 2) := by
  have hhole : hole < l.length := h.below.trans_le h.length
  intro x y hx hy
  by_cases hih : i = hole
  · subst hih
    rw [List.getElem?_set_self hhole] at hx
    rw [List.getElem?_set_ne (by omega)] at hy
    cases hx
    exact hstop hi y hy
  · rw [List.getElem?_set_ne (Ne.symm hih)] at hx
    by_cases hph : (i - 1) / 2 = hole
    · rw [hph, List.getElem?_set_self hhole] at hy
      cases hy
      exact h.children i hi hilen hph x hx
    · rw [List.getElem?_set_ne (Ne.symm hph)] at hy
      exact h.except i hi hilen hih hph x y hx hy

/-! ## One pop -/

/-- From `len` on, the elements are those of `l₀`. Below, they come from below. -/
structure Within (len : Nat) (l₀ l : List α) : Prop where
  above : ∀ i, len ≤ i → l[i]? = l₀[i]?
  below : ∀ i, i < len → ∀ a, l[i]? = some a → ∃ j, j < len ∧ l₀[j]? = some a

omit [LinearOrder α] in
theorem Within.copy {l₀ : List α} (h : Within len l₀ l) (hhole : hole < len)
    (hlen : len ≤ l.length) (hc : c < len) (ha : l[c]? = some a) :
    Within len l₀ (l.set hole a) where
  above i hi := by
    rw [List.getElem?_set_ne (by omega)]
    exact h.above i hi
  below i hi b hb := by
    rw [getElem?_copy (by omega) ha] at hb
    split_ifs at hb with hih
    · exact h.below c hc b hb
    · exact h.below i hi b hb

/-- A heap below `len`, and from there on sorted elements that are at least those before them. -/
structure SortedFrom (len : Nat) (l : List α) : Prop where
  length : len ≤ l.length
  heap : ∀ i, 0 < i → i < len → LeAt l i ((i - 1) / 2)
  sorted : ∀ i j, i < j → len ≤ j → LeAt l i j

theorem SortedFrom.root (h : SortedFrom len l) (hi : i < len) : LeAt l i 0 := by
  induction i using Nat.strong_induction_on with
  | _ i ih =>
    rcases Nat.eq_zero_or_pos i with rfl | hpos
    · intro a b ha hb
      rw [ha] at hb
      cases hb
      exact le_rfl
    · have hlength := h.length
      exact (h.heap i hpos hi).trans (by omega) (ih _ (by omega) (by omega))

/-- A pop moves the root to `len`, and leaves a heap of the others below it. -/
structure Popped (len : Nat) (l l' : List α) : Prop where
  length : len ≤ l'.length
  heap : ∀ i, 0 < i → i < len → LeAt l' i ((i - 1) / 2)
  inside : ∀ i < len, ∀ a, l'[i]? = some a → ∃ j ≤ len, l[j]? = some a
  root : l'[len]? = l[0]?
  above : ∀ i, len < i → l'[i]? = l[i]?

theorem SortedFrom.popped (h : SortedFrom (len + 1) l) (hpos : 0 < len) :
    Popped len l (popHeap len l) := by
  have hlength := h.length
  obtain ⟨value, hvalue⟩ : ∃ value, l[len]? = some value :=
    ⟨_, List.getElem?_eq_getElem (by omega)⟩
  obtain ⟨greatest, hgreatest⟩ : ∃ greatest, l[0]? = some greatest :=
    ⟨_, List.getElem?_eq_getElem (by omega)⟩
  have hholed : Holed len (l.set len greatest) 0 := by
    refine ⟨by simp; omega, hpos, fun i hi hilen _ _ a b ha hb => ?_, by omega⟩
    rw [List.getElem?_set_ne (by omega)] at ha hb
    exact h.heap i hi (by omega) a b ha hb
  have hsink := sinkHole_rec len
    (P := fun l' hole => Holed len l' hole ∧ Within len (l.set len greatest) l')
    (fun l' hole c a hprom h' => ⟨h'.1.promote hprom,
      h'.2.copy h'.1.below h'.1.length hprom.below hprom.value⟩)
    len _ 0 ⟨hholed, fun _ _ => rfl, fun i hi a ha => ⟨i, hi, ha⟩⟩
  have hrising : Rising value len (sinkHole len (l.set len greatest) len 0).1
      (sinkHole len (l.set len greatest) len 0).2 :=
    ⟨hsink.1, fun i hi hilen hparent =>
      absurd hparent (sinkHole_leaf hholed.length (by omega) hi hilen)⟩
  obtain ⟨l', hole', heq, ⟨hrising', hwithin⟩, hstop⟩ := pushValue_rec value
    (P := fun l' hole => Rising value len l' hole ∧ Within len (l.set len greatest) l')
    (fun l' hole b hp hb hlt h' => ⟨h'.1.rise hp hb hlt,
      h'.2.copy h'.1.below h'.1.length (by have := h'.1.below; omega) hb⟩)
    sinkHole_le ⟨hrising, hsink.2⟩
  rw [popHeap_eq hvalue hgreatest, heq]
  have hbelow := hrising'.below
  have hlength' := hrising'.length
  refine ⟨by simpa using hlength', fun i hi hilen => hrising'.settle hstop hi hilen,
    fun i hi a ha => ?_, ?_, fun i hi => ?_⟩
  · by_cases hih : i = hole'
    · rw [hih, List.getElem?_set_self (by omega)] at ha
      exact ⟨len, le_rfl, by rw [hvalue, ha]⟩
    · rw [List.getElem?_set_ne (Ne.symm hih)] at ha
      obtain ⟨j, hj, hja⟩ := hwithin.below i hi a ha
      rw [List.getElem?_set_ne (by omega)] at hja
      exact ⟨j, hj.le, hja⟩
  · rw [List.getElem?_set_ne (by omega), hwithin.above len le_rfl,
      List.getElem?_set_self (by omega), hgreatest]
  · rw [List.getElem?_set_ne (by omega), hwithin.above i hi.le, List.getElem?_set_ne (by omega)]

theorem SortedFrom.pop (h : SortedFrom (len + 1) l) (hpos : 0 < len) :
    SortedFrom len (popHeap len l) := by
  have hpop := h.popped hpos
  refine ⟨hpop.length, hpop.heap, fun i j hij hj a b ha hb => ?_⟩
  rcases Nat.eq_or_lt_of_le hj with rfl | hj
  · obtain ⟨k, hk, hka⟩ := hpop.inside i hij a ha
    rw [hpop.root] at hb
    exact h.root (by omega) a b hka hb
  · rw [hpop.above j hj] at hb
    rcases Nat.lt_trichotomy i len with hi | rfl | hi
    · obtain ⟨k, hk, hka⟩ := hpop.inside i hi a ha
      exact h.sorted k j (by omega) hj a b hka hb
    · rw [hpop.root] at ha
      exact h.sorted 0 j (by omega) hj a b ha hb
    · rw [hpop.above i hi] at ha
      exact h.sorted i j hij hj a b ha hb

/-! ## The loop -/

theorem sortHeap_perm (l : List α) : (sortHeap l).Perm l := by
  have hloop : ∀ (positions : List Nat) (l : List α),
      (positions.foldl (fun l len => if 0 < len then popHeap len l else l) l).Perm l := by
    intro positions
    induction positions with
    | nil => exact fun l => .refl l
    | cons len positions ih =>
      intro l
      refine (ih _).trans ?_
      dsimp only
      split_ifs
      · exact popHeap_perm len l
      · exact .refl l
  exact hloop _ l

theorem SortedFrom.loop (n : Nat) (h : SortedFrom n l) :
    SortedFrom 0 ((List.range n).reverse.foldl (fun l len => if 0 < len then popHeap len l else l) l) := by
  induction n generalizing l with
  | zero => exact h
  | succ n ih =>
    rw [List.range_succ, List.reverse_append]
    refine ih (l := if 0 < n then popHeap n l else l) ?_
    split_ifs with hpos
    · exact h.pop hpos
    · refine ⟨by omega, fun i _ hi => by omega, fun i j hij hj => h.sorted i j hij (by omega)⟩

/-- **The loop is a sort of heaps.** -/
theorem sortsHeaps_sortHeap : SortsHeaps fun l : List α => sortHeap l where
  perm := sortHeap_perm
  sorted l hl := by
    have hstart : SortedFrom l.length l := by
      refine ⟨le_rfl, fun i hi hilen a b ha hb => ?_, fun i j _ hj a b _ hb => ?_⟩
      · obtain ⟨_, rfl⟩ := List.getElem?_eq_some_iff.mp ha
        obtain ⟨_, rfl⟩ := List.getElem?_eq_some_iff.mp hb
        exact hl ⟨i, hilen⟩
      · rw [List.getElem?_eq_none hj] at hb
        cases hb
    have hsorted := (hstart.loop l.length).sorted
    rw [List.pairwise_iff_getElem]
    intro i j hi hj hij
    exact hsorted i j hij (Nat.zero_le _) _ _ (List.getElem?_eq_getElem hi)
      (List.getElem?_eq_getElem hj)

end Heap
