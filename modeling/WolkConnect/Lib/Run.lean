import Mathlib.Tactic.SplitIfs

/-!
# Runs of a machine whose steps may be undefined

`step s e` is the state after event `e`, or the fault at which the machine stops
having a meaning. A `Run` is a list of defined steps, each of which meets a side
condition on the event and on the state before it.
-/

namespace Machine

variable {σ ε φ : Type}

/-- The defined runs from `init` whose every step meets `ok`. -/
inductive Run (step : σ → ε → Except φ σ) (ok : σ → ε → Prop) (init : σ) : List ε → σ → Prop
  | nil : Run step ok init [] init
  | snoc {es s e t} : Run step ok init es s → ok s e → step s e = .ok t →
      Run step ok init (es ++ [e]) t

theorem bind_eq_ok {α β : Type} {x : Except φ α} {f : α → Except φ β} {b : β} :
    (x >>= f) = .ok b ↔ ∃ a, x = .ok a ∧ f a = .ok b := by
  cases x with
  | error e => simp [bind, Except.bind]
  | ok a => simp [bind, Except.bind]

/-- What every call keeps, the calls for the elements of a list keep one after the other. -/
theorem foldlM_ok {α : Type} {P : σ → Prop} {f : σ → α → Except φ σ}
    (hf : ∀ s a, P s → ∃ t, f s a = .ok t ∧ P t) (as : List α) {s : σ} (hs : P s) :
    ∃ t, as.foldlM f s = .ok t ∧ P t := by
  induction as generalizing s with
  | nil => exact ⟨s, rfl, hs⟩
  | cons a as ih =>
    obtain ⟨t, ht, hP⟩ := hf s a hs
    obtain ⟨t', ht', hP'⟩ := ih hP
    exact ⟨t', bind_eq_ok.mpr ⟨t, ht, ht'⟩, hP'⟩

/-- A step of one of the parties keeps what it keeps of that party. -/
theorem map_modify {α β : Type} {f : α → α} {g : α → β} (h : ∀ a, g (f a) = g a) (parties : List α)
    (i : Nat) : (parties.modify i f).map g = parties.map g := by
  induction parties generalizing i with
  | nil => rw [List.modify_nil]
  | cons a parties ih =>
    cases i with
    | zero => rw [List.modify_zero_cons, List.map_cons, List.map_cons, h]
    | succ i => rw [List.modify_succ_cons, List.map_cons, List.map_cons, ih]

/-- Parties of which no two are related stay so when one comes that is related to none. -/
theorem unrelated_append {α : Type} {P : α → α → Prop} {parties : List α} {a : α}
    (h : ∀ (i j : Nat) b b', parties[i]? = some b → parties[j]? = some b' → P b b' → i = j)
    (ha : ∀ b ∈ parties, ¬ P b a ∧ ¬ P a b) (i j : Nat) {b b' : α}
    (hi : (parties ++ [a])[i]? = some b) (hj : (parties ++ [a])[j]? = some b') (hP : P b b') :
    i = j := by
  rw [List.getElem?_append] at hi hj
  split_ifs at hi hj with hlt hlt' hlt'
  · exact h i j b b' hi hj hP
  · rw [List.getElem?_singleton] at hj
    split_ifs at hj
    cases hj
    exact absurd hP (ha b (List.mem_of_getElem? hi)).1
  · rw [List.getElem?_singleton] at hi
    split_ifs at hi
    cases hi
    exact absurd hP (ha b' (List.mem_of_getElem? hj)).2
  · rw [List.getElem?_singleton] at hi hj
    split_ifs at hi hj
    omega

/-- The state after events that all meet `ok`, when every step is defined. -/
def check (step : σ → ε → Except φ σ) (ok : σ → ε → Prop) [∀ s e, Decidable (ok s e)] :
    σ → List ε → Option σ
  | s, [] => some s
  | s, e :: es =>
    if ok s e then
      match step s e with
      | .ok t => check step ok t es
      | .error _ => none
    else none

/-- What `keep` makes of the events, each in the state in which it comes. -/
def kept {ε' : Type} (step : σ → ε → Except φ σ) (keep : σ → ε → Option ε') : σ → List ε → List ε'
  | _, [] => []
  | s, e :: es =>
    (keep s e).toList ++
      match step s e with
      | .ok t => kept step keep t es
      | .error _ => []

/-- What the steps give, each in the state in which it comes. -/
def gathered {α : Type} (step : σ → ε → Except φ σ) (give : σ → ε → List α) : σ → List ε → List α
  | _, [] => []
  | s, e :: es =>
    give s e ++
      match step s e with
      | .ok t => gathered step give t es
      | .error _ => []

variable {step : σ → ε → Except φ σ} {ok ok' : σ → ε → Prop} {init s t : σ} {es : List ε} {e : ε}

namespace Run

/-- What holds at the start and is kept by every allowed step holds after every run, also when it
speaks of the events so far. -/
theorem history (Inv : List ε → σ → Prop) (hinit : Inv [] init)
    (hstep : ∀ es s e t, Inv es s → ok s e → step s e = .ok t → Inv (es ++ [e]) t)
    (h : Run step ok init es t) : Inv es t := by
  induction h with
  | nil => exact hinit
  | snoc _ hok hs ih => exact hstep _ _ _ _ ih hok hs

theorem invariant (Inv : σ → Prop) (hinit : Inv init)
    (hstep : ∀ s e t, Inv s → ok s e → step s e = .ok t → Inv t)
    (h : Run step ok init es t) : Inv t :=
  h.history (fun _ => Inv) hinit fun _ => hstep

theorem mono (hle : ∀ s e, ok s e → ok' s e) (h : Run step ok init es t) :
    Run step ok' init es t := by
  induction h with
  | nil => exact .nil
  | snoc _ hok hs ih => exact .snoc ih (hle _ _ hok) hs

/-- A run whose steps keep `Inv` as long as they meet `ok`, and lead into `Bad`, for good, as soon as
one does not. -/
theorem meets_or_bad (Inv Bad : σ → Prop) (hinit : Inv init)
    (hgood : ∀ s e t, Inv s → ok s e → step s e = .ok t → Inv t)
    (hbreak : ∀ s e t, Inv s → ok' s e → ¬ ok s e → step s e = .ok t → Bad t)
    (hbad : ∀ s e t, Bad s → ok' s e → step s e = .ok t → Bad t)
    (h : Run step ok' init es t) : Run step ok init es t ∧ Inv t ∨ Bad t := by
  induction h with
  | nil => exact .inl ⟨.nil, hinit⟩
  | @snoc es s e t _ hok hs ih =>
    rcases ih with ⟨hrun, hinv⟩ | hs'
    · by_cases he : ok s e
      · exact .inl ⟨.snoc hrun he hs, hgood s e t hinv he hs⟩
      · exact .inr (hbreak s e t hinv hok he hs)
    · exact .inr (hbad s e t hs' hok hs)

/-- What `Inv` has and `Bad` has not holds after exactly the runs that meet `ok`. -/
theorem iff_meets {P : Prop} (Inv Bad : σ → Prop) (hinit : Inv init)
    (hgood : ∀ s e t, Inv s → ok s e → step s e = .ok t → Inv t)
    (hbreak : ∀ s e t, Inv s → ok' s e → ¬ ok s e → step s e = .ok t → Bad t)
    (hbad : ∀ s e t, Bad s → ok' s e → step s e = .ok t → Bad t)
    (hP : Inv t → P) (hnot : Bad t → ¬ P) (h : Run step ok' init es t) :
    P ↔ Run step ok init es t := by
  constructor
  · intro hp
    rcases h.meets_or_bad Inv Bad hinit hgood hbreak hbad with ⟨hrun, -⟩ | hb
    · exact hrun
    · exact absurd hp (hnot hb)
  · intro hrun
    exact hP (hrun.invariant Inv hinit hgood)

/-- Steps lead to one state only. -/
theorem unique (h : Run step ok init es s) (h' : Run step ok' init es t) : s = t := by
  induction h generalizing t with
  | nil =>
    generalize hes : ([] : List ε) = es at h'
    cases h' with
    | nil => rfl
    | snoc => exact absurd hes.symm (List.append_ne_nil_of_right_ne_nil _ (List.cons_ne_nil _ _))
  | @snoc es s e t₁ _ _ hs ih =>
    generalize hes : es ++ [e] = es' at h'
    cases h' with
    | nil => exact absurd hes (List.append_ne_nil_of_right_ne_nil _ (List.cons_ne_nil _ _))
    | snoc hrun' _ hs' =>
      obtain ⟨rfl, he⟩ := List.append_inj' hes rfl
      cases he
      cases ih hrun'
      rw [hs] at hs'
      exact Except.ok.inj hs'

theorem split {es₁ es₂ : List ε} (h : Run step ok init (es₁ ++ es₂) t) :
    ∃ s, Run step ok init es₁ s ∧ Run step ok s es₂ t := by
  generalize hes : es₁ ++ es₂ = es at h
  induction h generalizing es₂ with
  | nil =>
    obtain ⟨rfl, rfl⟩ := List.append_eq_nil_iff.mp hes
    exact ⟨init, .nil, .nil⟩
  | @snoc es' s e t' hrun hok hs ih =>
    rcases List.eq_nil_or_concat es₂ with rfl | ⟨es₃, e', rfl⟩
    · rw [List.append_nil] at hes
      exact ⟨t', hes ▸ .snoc hrun hok hs, .nil⟩
    · rw [List.concat_eq_append, ← List.append_assoc] at hes
      obtain ⟨hes', he⟩ := List.append_inj' hes rfl
      obtain ⟨s', hs', hrest⟩ := ih hes'
      cases he
      rw [List.concat_eq_append]
      exact ⟨s', hs', .snoc hrest hok hs⟩

theorem first {es₁ es₂ : List ε} (h : Run step ok init (es₁ ++ es₂) t) :
    ∃ s, Run step ok init es₁ s := by
  obtain ⟨s, hs, -⟩ := h.split
  exact ⟨s, hs⟩

/-- What every step keeps that meets `ok`, and no other step, holds in all states of exactly the runs
that meet `ok`. -/
theorem always_iff (P Inv : σ → Prop) (hinit : Inv init)
    (hgood : ∀ s e t, Inv s → ok s e → step s e = .ok t → Inv t) (hP : ∀ s, Inv s → P s)
    (hbreak : ∀ s e t, Inv s → ok' s e → ¬ ok s e → step s e = .ok t → ¬ P t)
    (h : Run step ok' init es t) :
    (∀ es₁ es₂ s, es = es₁ ++ es₂ → Run step ok' init es₁ s → P s) ↔ Run step ok init es t := by
  constructor
  · induction h with
    | nil => exact fun _ => .nil
    | @snoc es s e t hrun hok hs ih =>
      intro hall
      have hprev := ih fun es₁ es₂ s₁ hes hrun₁ =>
        hall es₁ (es₂ ++ [e]) s₁ (by rw [hes, List.append_assoc]) hrun₁
      refine .snoc hprev (Classical.byContradiction fun he => ?_) hs
      have hinv := hprev.invariant Inv hinit hgood
      exact hbreak s e t hinv hok he hs (hall _ [] t (List.append_nil _).symm (.snoc hrun hok hs))
  · rintro hrun es₁ es₂ s rfl hrun₁
    obtain ⟨s', hs'⟩ := hrun.first
    cases hrun₁.unique hs'
    exact hP s (hs'.invariant Inv hinit hgood)

theorem kept_append {ε' : Type} {keep : σ → ε → Option ε'} (h : Run step ok init es s)
    (es' : List ε) : kept step keep init (es ++ es') =
      kept step keep init es ++ kept step keep s es' := by
  induction h generalizing es' with
  | nil => rfl
  | @snoc es s e t _ _ hs ih =>
    rw [List.append_assoc, ih, ih]
    simp only [List.singleton_append, kept, hs, List.append_nil, List.append_assoc]

theorem gathered_append {α : Type} {give : σ → ε → List α} (h : Run step ok init es s)
    (es' : List ε) : gathered step give init (es ++ es') =
      gathered step give init es ++ gathered step give s es' := by
  induction h generalizing es' with
  | nil => rfl
  | @snoc es s e t _ _ hs ih =>
    rw [List.append_assoc, ih, ih]
    simp only [List.singleton_append, gathered, hs, List.append_nil, List.append_assoc]

/-- A total to which every step adds what it gives has after a run all that was given. -/
theorem gathers {α : Type} {give : σ → ε → List α} (total : σ → List α)
    (hstep : ∀ s e t, ok s e → step s e = .ok t → total t = total s ++ give s e)
    (h : Run step ok init es t) : total t = total init ++ gathered step give init es := by
  induction h with
  | nil => exact (List.append_nil _).symm
  | @snoc es s e t hrun hok hs ih =>
    rw [hstep s e t hok hs, ih, hrun.gathered_append, List.append_assoc]
    simp only [gathered, hs, List.append_nil]

/-- A simulation that leaves out some steps. -/
theorem project {σ' ε' φ' : Type} {step' : σ' → ε' → Except φ' σ'} {ok' : σ' → ε' → Prop}
    {init' : σ'} (keep : σ → ε → Option ε') (R : σ → σ' → Prop) (hinit : R init init')
    (hskip : ∀ s e t s', R s s' → ok s e → step s e = .ok t → keep s e = none → R t s')
    (hkeep : ∀ s e t s' e', R s s' → ok s e → step s e = .ok t → keep s e = some e' →
      ok' s' e' ∧ ∃ t', step' s' e' = .ok t' ∧ R t t')
    (h : Run step ok init es t) :
    ∃ t', Run step' ok' init' (kept step keep init es) t' ∧ R t t' := by
  induction h with
  | nil => exact ⟨init', .nil, hinit⟩
  | @snoc es s e t hrun hok hs ih =>
    obtain ⟨s', hrun', hR⟩ := ih
    rw [hrun.kept_append]
    simp only [kept, hs, List.append_nil]
    cases hk : keep s e with
    | none =>
      rw [Option.toList_none, List.append_nil]
      exact ⟨s', hrun', hskip s e t s' hR hok hs hk⟩
    | some e' =>
      obtain ⟨hok', t', hs', hR'⟩ := hkeep s e t s' e' hR hok hs hk
      exact ⟨t', .snoc hrun' hok' hs', hR'⟩

/-- What holds of a step exactly when it meets `ok`, from the states that a run can reach, holds of all
steps of exactly the runs that meet `ok`. -/
theorem steps_iff (Q : σ → ε → σ → Prop) (Inv : σ → Prop) (hinit : Inv init)
    (hkeep : ∀ s e t, Inv s → ok' s e → step s e = .ok t → Inv t)
    (hQ : ∀ s e t, Inv s → ok' s e → step s e = .ok t → (Q s e t ↔ ok s e))
    (h : Run step ok' init es t) :
    (∀ es₁ e es₂ s s', es = es₁ ++ e :: es₂ → Run step ok' init es₁ s → step s e = .ok s' →
      Q s e s') ↔ Run step ok init es t := by
  constructor
  · induction h with
    | nil => exact fun _ => .nil
    | @snoc es s e t hrun hok hs ih =>
      intro hall
      have hprev := ih fun es₁ e' es₂ s₁ s₂ hes hrun₁ hs₁ =>
        hall es₁ e' (es₂ ++ [e]) s₁ s₂ (by rw [hes, List.append_assoc, List.cons_append]) hrun₁ hs₁
      have hinv : Inv s := hrun.invariant Inv hinit hkeep
      exact .snoc hprev ((hQ s e t hinv hok hs).mp (hall es e [] s t rfl hrun hs)) hs
  · rintro hrun es₁ e es₂ s s' rfl hrun₁ hs
    rw [List.append_cons] at h hrun
    obtain ⟨s₂, hs₂⟩ := hrun.first
    obtain ⟨s₃, hs₃⟩ := h.first
    have hlast : ∀ {ok₁ : σ → ε → Prop} {u}, Run step ok₁ init (es₁ ++ [e]) u → ok₁ s e := by
      intro ok₁ u hu
      generalize hes : es₁ ++ [e] = es' at hu
      cases hu with
      | nil => exact absurd hes (List.append_ne_nil_of_right_ne_nil _ (List.cons_ne_nil _ _))
      | snoc hu' hok _ =>
        obtain ⟨rfl, he⟩ := List.append_inj' hes rfl
        cases he
        cases hrun₁.unique hu'
        exact hok
    have hinv : Inv s := hrun₁.invariant Inv hinit hkeep
    exact (hQ s e s' hinv (hlast hs₃) hs).mpr (hlast hs₂)

theorem append {es' : List ε} (h : Run step ok init es s) (h' : Run step ok s es' t) :
    Run step ok init (es ++ es') t := by
  induction h' with
  | nil => rw [List.append_nil]; exact h
  | snoc _ hok hs ih => rw [← List.append_assoc]; exact .snoc ih hok hs

theorem of_check [∀ s e, Decidable (ok s e)] (h : check step ok init es = some t) :
    Run step ok init es t := by
  induction es generalizing init with
  | nil => cases h; exact .nil
  | cons e es ih =>
    unfold check at h
    split_ifs at h with hok
    split at h
    · rename_i s hs
      have hone : Run step ok init [e] s := .snoc .nil hok hs
      exact hone.append (ih h)
    · cases h

/-- A run that was checked, with what can be read off its last state. -/
theorem exists_of_check {α : Type} (step : σ → ε → Except φ σ) (ok : σ → ε → Prop)
    [∀ s e, Decidable (ok s e)] (init : σ) (es : List ε) (f : σ → α) (a : α)
    (h : (check step ok init es).map f = some a) : ∃ t, Run step ok init es t ∧ f t = a := by
  obtain ⟨t, ht, hf⟩ := Option.map_eq_some_iff.mp h
  exact ⟨t, of_check ht, hf⟩

end Run

end Machine
