import Mathlib.Data.List.Basic

/-!
# Draining a queue in batches

The elements of a queue are handed out in batches of at most `size` from its front.
A batch that is delivered leaves the queue, one that is refused stays in it, one that
is discarded leaves it, and after a refused or a discarded batch no other is tried.
-/

namespace Batch

variable {α : Type}

inductive Attempt (α : Type)
  | delivered (batch : List α)
  | refused (batch : List α)
  | discarded (batch : List α)
  deriving DecidableEq

namespace Attempt

def batch : Attempt α → List α
  | delivered batch | refused batch | discarded batch => batch

/-- The elements that the attempt delivered. -/
def deliveredPart : Attempt α → List α
  | delivered batch => batch
  | refused _ | discarded _ => []

/-- The elements that the attempt lost. -/
def discardedPart : Attempt α → List α
  | discarded batch => batch
  | delivered _ | refused _ => []

def Delivers : Attempt α → Prop
  | delivered _ => True
  | refused _ | discarded _ => False

end Attempt

/-- What was delivered, in order. -/
def delivered (attempts : List (Attempt α)) : List α := attempts.flatMap Attempt.deliveredPart

def discarded (attempts : List (Attempt α)) : List α := attempts.flatMap Attempt.discardedPart

/-- What left the queue, in order. -/
def taken (attempts : List (Attempt α)) : List α :=
  attempts.flatMap fun a => a.deliveredPart ++ a.discardedPart

/-- `Drain size queue attempts rest`: the attempts take the queue to `rest`. -/
inductive Drain (size : Nat) : List α → List (Attempt α) → List α → Prop
  | stop (queue) : Drain size queue [] queue
  | refuse {queue} : queue ≠ [] → Drain size queue [.refused (queue.take size)] queue
  | discard {queue} : queue ≠ [] →
      Drain size queue [.discarded (queue.take size)] (queue.drop size)
  | deliver {queue attempts rest} : queue ≠ [] → Drain size (queue.drop size) attempts rest →
      Drain size queue (.delivered (queue.take size) :: attempts) rest

namespace Drain

variable {size : Nat} {queue rest : List α} {attempts : List (Attempt α)}

/-- Nothing is lost but what was discarded, nothing is duplicated, and the order is kept. -/
theorem conserved (h : Drain size queue attempts rest) :
    queue = delivered attempts ++ discarded attempts ++ rest := by
  induction h with
  | stop queue => simp [delivered, discarded]
  | refuse _ => simp [delivered, discarded, Attempt.deliveredPart, Attempt.discardedPart]
  | discard _ =>
    simp [delivered, discarded, Attempt.deliveredPart, Attempt.discardedPart]
  | @deliver queue attempts rest _ _ ih =>
    have hdelivered : delivered (.delivered (queue.take size) :: attempts) =
        queue.take size ++ delivered attempts := rfl
    have hdiscarded : discarded (.delivered (queue.take size) :: attempts) = discarded attempts :=
      rfl
    rw [hdelivered, hdiscarded, List.append_assoc, List.append_assoc, ← List.append_assoc _ _ rest,
      ← ih, List.take_append_drop]

theorem taken_append (h : Drain size queue attempts rest) : queue = taken attempts ++ rest := by
  induction h with
  | stop queue => rfl
  | refuse _ => simp [taken, Attempt.deliveredPart, Attempt.discardedPart]
  | discard _ => simp [taken, Attempt.deliveredPart, Attempt.discardedPart]
  | @deliver queue attempts rest _ _ ih =>
    have htaken : taken (.delivered (queue.take size) :: attempts) =
        queue.take size ++ taken attempts := by
      simp [taken, Attempt.deliveredPart, Attempt.discardedPart]
    rw [htaken, List.append_assoc, ← ih, List.take_append_drop]

/-- Each batch has an element, and no more than it may have. -/
theorem bounded (hsize : 0 < size) (h : Drain size queue attempts rest) :
    ∀ a ∈ attempts, a.batch ≠ [] ∧ a.batch.length ≤ size := by
  have htake : ∀ queue : List α, queue ≠ [] → queue.take size ≠ [] ∧ (queue.take size).length ≤ size :=
    fun queue hne => ⟨by simp [hne, Nat.ne_of_gt hsize], List.length_take_le size queue⟩
  induction h with
  | stop queue => simp
  | refuse hne | discard hne => simpa [Attempt.batch] using htake _ hne
  | deliver hne _ ih =>
    rw [List.forall_mem_cons]
    exact ⟨htake _ hne, ih⟩

/-- Only the last attempt may fail. -/
theorem delivers (h : Drain size queue attempts rest) : ∀ a ∈ attempts.dropLast, a.Delivers := by
  induction h with
  | stop queue => simp
  | refuse _ | discard _ => simp
  | @deliver queue attempts rest _ _ ih =>
    cases attempts with
    | nil => simp
    | cons b attempts =>
      rw [List.dropLast_cons_cons, List.forall_mem_cons]
      exact ⟨trivial, ih⟩

/-- A refused batch is still there, at the front. -/
theorem refused_kept (h : Drain size queue attempts rest) {batch : List α}
    (hbatch : .refused batch ∈ attempts) : batch = rest.take size := by
  induction h with
  | stop queue => simp at hbatch
  | refuse _ => simpa using hbatch
  | discard _ => simp at hbatch
  | deliver _ _ ih => exact ih (by simpa using hbatch)

theorem discarded_length (h : Drain size queue attempts rest) : (discarded attempts).length ≤ size := by
  induction h with
  | stop queue | refuse _ => simp [discarded, Attempt.discardedPart]
  | discard _ =>
    simp only [discarded, Attempt.discardedPart, List.flatMap_cons, List.flatMap_nil, List.append_nil]
    exact List.length_take_le ..
  | deliver _ _ ih => simpa [discarded, Attempt.discardedPart] using ih

theorem of_no_attempts (h : Drain size queue [] rest) : rest = queue := by
  cases h
  rfl

theorem of_nil (h : Drain size [] attempts rest) : attempts = [] ∧ rest = [] := by
  cases h with
  | stop => exact ⟨rfl, rfl⟩
  | refuse hne | discard hne | deliver hne _ => exact absurd rfl hne

end Drain

end Batch
