import WolkConnect.Lib.Run
import Mathlib.Logic.Function.Basic

/-!
# Threads and mutexes

Threads run programs of locks, unlocks and actions. An action may come to more code for its
thread, and start another thread. The mutexes are not recursive: a thread that locks one it
holds waits for itself.
-/

namespace Locks

inductive Instr (ι α : Type)
  | lock (m : ι)
  | unlock (m : ι)
  | act (a : α)
  deriving DecidableEq

structure State (τ ι α δ : Type) where
  program : τ → List (Instr ι α)
  owner : ι → Option τ
  data : δ

/-- What an action comes to. -/
structure Outcome (τ ι α δ : Type) where
  data : δ
  more : List (Instr ι α)
  spawned : Option (τ × List (Instr ι α))

/-- An idle thread is given a program, or a thread takes its next step. -/
inductive Event (τ ι α ω : Type)
  | call (t : τ) (program : List (Instr ι α))
  | run (t : τ) (choice : ω)

variable {τ ι α δ ω φ : Type} [DecidableEq τ] [DecidableEq ι]

namespace State

variable (s : State τ ι α δ) (t : τ)

def start (program : List (Instr ι α)) : State τ ι α δ :=
  if (s.program t).isEmpty then { s with program := Function.update s.program t program } else s

def spawn : Option (τ × List (Instr ι α)) → State τ ι α δ
  | none => s
  | some (t, program) => s.start t program

omit [DecidableEq ι] in
@[simp] theorem start_data (program : List (Instr ι α)) : (s.start t program).data = s.data := by
  unfold start
  split_ifs <;> rfl

omit [DecidableEq ι] in
@[simp] theorem spawn_data (spawned : Option (τ × List (Instr ι α))) :
    (s.spawn spawned).data = s.data := by
  cases spawned with
  | none => rfl
  | some spawned => exact start_data s spawned.1 spawned.2

/-- The mutexes that a thread holds. -/
def held (m : ι) : Bool := decide (s.owner m = some t)

/-- A thread locks a mutex that it holds. -/
def Relocks : Prop := ∃ t m rest, s.program t = .lock m :: rest ∧ s.owner m = some t

end State

section Step

variable (exec : State τ ι α δ → τ → ω → α → Except φ (Option (Outcome τ ι α δ)))

/-- An action that has no outcome waits. -/
def step (s : State τ ι α δ) : Event τ ι α ω → Except φ (State τ ι α δ)
  | .call t program => .ok (s.start t program)
  | .run t choice =>
    match s.program t with
    | [] => .ok s
    | .lock m :: rest =>
      match s.owner m with
      | some _ => .ok s
      | none => .ok { s with
          program := Function.update s.program t rest
          owner := Function.update s.owner m (some t) }
    | .unlock m :: rest => .ok { s with
        program := Function.update s.program t rest
        owner := Function.update s.owner m none }
    | .act a :: rest => do
      match ← exec s t choice a with
      | none => .ok s
      | some o =>
        let s := { s with data := o.data, program := Function.update s.program t (o.more ++ rest) }
        .ok (s.spawn o.spawned)

variable (ok : State τ ι α δ → α → Prop) (may : α → Prop) (waits : Prop)

/-- A program of a thread that holds these mutexes unlocks no others and leaves none locked, and takes
only the actions that it may. It locks one of them only if it waits, and then for good. This as long as
its actions meet `ok` when they are taken. -/
inductive Clean : (ι → Bool) → List (Instr ι α) → Prop
  | nil {held} : (∀ m, held m = false) → Clean held []
  | lock {held m rest} : held m = false → Clean (Function.update held m true) rest →
      Clean held (.lock m :: rest)
  | wait {held m rest} : waits → held m = true → Clean held (.lock m :: rest)
  | unlock {held m rest} : held m = true → Clean (Function.update held m false) rest →
      Clean held (.unlock m :: rest)
  | act {held a rest} : may a →
      (∀ s t choice o, ok s a → exec s t choice a = .ok (some o) → Clean held (o.more ++ rest)) →
      (∀ s t choice o t' program, ok s a → exec s t choice a = .ok (some o) →
        o.spawned = some (t', program) → Clean (fun _ => false) program) →
      Clean held (.act a :: rest)

/-- Only clean programs are called, and only allowed actions taken. -/
def Allowed (s : State τ ι α δ) : Event τ ι α ω → Prop
  | .call _ program => Clean exec ok may waits (fun _ => false) program
  | .run t _ => ∀ a rest, s.program t = .act a :: rest → ok s a

def Disciplined (s : State τ ι α δ) : Prop :=
  ∀ t, Clean exec ok may waits (s.held t) (s.program t)

end Step

variable {exec : State τ ι α δ → τ → ω → α → Except φ (Option (Outcome τ ι α δ))}
  {ok : State τ ι α δ → α → Prop} {may : α → Prop} {waits : Prop} {s s' : State τ ι α δ}
  {e : Event τ ι α ω} {t : τ}

/-- Only the actions change the data. -/
theorem step_data (hs : step exec s e = .ok s') :
    s'.data = s.data ∨ ∃ t choice a rest o, e = .run t choice ∧ s.program t = .act a :: rest ∧
      exec s t choice a = .ok (some o) ∧ s'.data = o.data := by
  cases e with
  | call t program =>
    cases hs
    exact .inl (State.start_data ..)
  | run t choice =>
    simp only [step] at hs
    split at hs
    · cases hs
      exact .inl rfl
    · split at hs <;> cases hs <;> exact .inl rfl
    · cases hs
      exact .inl rfl
    · rename_i a rest hprogram
      obtain ⟨o, ho, hs⟩ := Machine.bind_eq_ok.mp hs
      cases o with
      | none =>
        cases hs
        exact .inl rfl
      | some o =>
        cases hs
        exact .inr ⟨t, choice, a, rest, o, rfl, hprogram, ho, State.spawn_data ..⟩

namespace Disciplined

theorem not_relocks (h : Disciplined exec ok may waits s) (hwaits : ¬ waits) : ¬ s.Relocks := by
  rintro ⟨t, m, rest, hprogram, howner⟩
  have hclean := h t
  rw [hprogram] at hclean
  cases hclean with
  | lock hfree _ => simp [State.held, howner] at hfree
  | wait hwait _ => exact hwaits hwait

theorem may_act (h : Disciplined exec ok may waits s) {a : α} {rest : List (Instr ι α)}
    (hprogram : s.program t = .act a :: rest) : may a := by
  have hclean := h t
  rw [hprogram] at hclean
  cases hclean with
  | act hmay _ _ => exact hmay

/-- A new program of one thread. -/
theorem program (h : Disciplined exec ok may waits s) {program : List (Instr ι α)}
    (hclean : Clean exec ok may waits (s.held t) program) :
    Disciplined exec ok may waits { s with program := Function.update s.program t program } := by
  intro t'
  by_cases ht : t' = t
  · subst ht
    change Clean exec ok may waits (s.held t') (Function.update s.program t' program t')
    rw [Function.update_self]
    exact hclean
  · change Clean exec ok may waits (s.held t') (Function.update s.program t program t')
    rw [Function.update_of_ne ht]
    exact h t'

theorem start (h : Disciplined exec ok may waits s) {program : List (Instr ι α)}
    (hclean : Clean exec ok may waits (fun _ => false) program) :
    Disciplined exec ok may waits (s.start t program) := by
  unfold State.start
  split_ifs with hidle
  · have hnone := h t
    rw [List.isEmpty_iff.mp hidle] at hnone
    cases hnone with
    | nil hfree =>
      refine h.program ?_
      rw [show s.held t = fun _ => false from funext hfree]
      exact hclean
  · exact h

theorem spawn (h : Disciplined exec ok may waits s) {spawned : Option (τ × List (Instr ι α))}
    (hclean : ∀ t program, spawned = some (t, program) →
      Clean exec ok may waits (fun _ => false) program) :
    Disciplined exec ok may waits (s.spawn spawned) := by
  unfold State.spawn
  cases spawned with
  | none => exact h
  | some spawned => exact h.start (hclean _ _ rfl)

/-- A mutex changes hands: the others hold what they held. -/
theorem own (h : Disciplined exec ok may waits s) {m : ι} {owner : Option τ}
    {rest : List (Instr ι α)} (hothers : ∀ t', t' ≠ t → s.owner m ≠ some t' ∧ owner ≠ some t')
    (hclean : Clean exec ok may waits (Function.update (s.held t) m (decide (owner = some t))) rest) :
    Disciplined exec ok may waits { s with
      program := Function.update s.program t rest
      owner := Function.update s.owner m owner } := by
  intro t'
  by_cases ht : t' = t
  · subst ht
    have hheld : State.held { s with
        program := Function.update s.program t' rest
        owner := Function.update s.owner m owner } t' =
          Function.update (s.held t') m (decide (owner = some t')) := by
      funext m'
      by_cases hm : m' = m
      · subst hm
        simp [State.held]
      · simp [State.held, hm]
    rw [hheld]
    change Clean exec ok may waits _ (Function.update s.program t' rest t')
    rw [Function.update_self]
    exact hclean
  · have hheld : State.held { s with
        program := Function.update s.program t rest
        owner := Function.update s.owner m owner } t' = s.held t' := by
      obtain ⟨hbefore, hafter⟩ := hothers t' ht
      funext m'
      by_cases hm : m' = m
      · subst hm
        simp [State.held, hbefore, hafter]
      · simp [State.held, hm]
    rw [hheld]
    change Clean exec ok may waits _ (Function.update s.program t rest t')
    rw [Function.update_of_ne ht]
    exact h t'

theorem step (h : Disciplined exec ok may waits s) (hallowed : Allowed exec ok may waits s e)
    (hs : step exec s e = .ok s') : Disciplined exec ok may waits s' := by
  cases e with
  | call t program =>
    cases hs
    exact h.start hallowed
  | run t choice =>
    have hclean := h t
    unfold Locks.step at hs
    cases hprogram : s.program t with
    | nil =>
      simp only [hprogram] at hs
      cases hs
      exact h
    | cons instr rest =>
      rw [hprogram] at hclean
      cases hclean with
      | @lock _ m _ hfree hrest =>
        simp only [hprogram] at hs
        cases howner : s.owner m with
        | some _ =>
          simp only [howner] at hs
          cases hs
          exact h
        | none =>
          simp only [howner] at hs
          cases hs
          refine h.own (fun t' ht => ⟨by simp [howner], fun heq => ht (Option.some.inj heq).symm⟩) ?_
          simpa using hrest
      | @wait _ m _ _ hheld =>
        have howner : s.owner m = some t := of_decide_eq_true hheld
        simp only [hprogram, howner] at hs
        cases hs
        exact h
      | @unlock _ m _ hheld hrest =>
        simp only [hprogram] at hs
        cases hs
        have howner : s.owner m = some t := of_decide_eq_true hheld
        refine h.own (fun t' ht => ⟨?_, by simp⟩) (by simpa using hrest)
        rw [howner]
        exact fun heq => ht (Option.some.inj heq).symm
      | @act _ a _ _ hmore hspawned =>
        simp only [hprogram] at hs
        obtain ⟨o, ho, hs⟩ := Machine.bind_eq_ok.mp hs
        have hok := hallowed a rest hprogram
        cases o with
        | none =>
          cases hs
          exact h
        | some o =>
          cases hs
          have hprogrammed : Disciplined exec ok may waits
              { s with data := o.data, program := Function.update s.program t (o.more ++ rest) } :=
            h.program (hmore s t choice o hok ho)
          exact hprogrammed.spawn fun t' program => hspawned s t choice o t' program hok ho

end Disciplined

end Locks
