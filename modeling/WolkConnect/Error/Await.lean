import WolkConnect.Error.Accounting

/-!
# Waiting for a message

`obtainOrAwaitMessageForDevice` for one device, one critical section at a time, while
messages arrive for any devices. Nobody else takes messages of the device.
-/

namespace WolkConnect

/-- Where the call is. -/
inductive AwaitPhase
  /-- Before the cache is looked at. -/
  | check
  /-- `awaitMessage`, before the messages are counted. -/
  | count
  /-- In `wait_for`. -/
  | wait
  /-- After the time-out, before the messages are counted for the last time. -/
  | recount
  /-- `awaitMessage` has returned true. -/
  | take
  | done (result : Option ErrorMessage)
  deriving DecidableEq

inductive AwaitEvent
  | messageReceived (errorMessage : ErrorMessage)
  /-- The call takes its next step. In `wait_for`, it evaluates the predicate. -/
  | advance
  /-- The time has run out. The predicate is evaluated once more. -/
  | timeOut
  deriving DecidableEq

/-- `seen` tells whether a message for the device was cached at some moment between the first step
and the time-out. `early` and `late` tell whether one was added between the first look at the cache
and the count, and after the count. -/
structure AwaitSystem where
  svc : ErrorService
  phase : AwaitPhase
  start : Nat
  seen : Bool
  early : Bool
  late : Bool

namespace AwaitPhase

/-- Between the first step and the time-out. -/
def waits : AwaitPhase → Bool
  | .count | .wait => true
  | .check | .recount | .take | .done _ => false

/-- Between the two counts. -/
def counts : AwaitPhase → Bool
  | .wait | .recount => true
  | .check | .count | .take | .done _ => false

end AwaitPhase

namespace AwaitSystem

variable (deviceKey : String) (sys : AwaitSystem)

def create (svc : ErrorService) : AwaitSystem := ⟨svc, .check, 0, false, false, false⟩

def peek : Nat := sys.svc.peekMessagesForDevice deviceKey

def messageReceived (errorMessage : ErrorMessage) : AwaitSystem :=
  let svc := sys.svc.messageReceived errorMessage
  let count := svc.peekMessagesForDevice deviceKey
  let added := decide (sys.peek deviceKey < count)
  { sys with
    svc := svc
    seen := sys.seen || (sys.phase.waits && decide (0 < count))
    early := sys.early || (decide (sys.phase = .count) && added)
    late := sys.late || (sys.phase.counts && added) }

def advance : AwaitSystem :=
  let obtained := sys.svc.obtainFirstMessageForDevice deviceKey
  match sys.phase with
  | .check =>
    match obtained.1 with
    | some message => { sys with svc := obtained.2, phase := .done (some message), seen := true }
    | none => { sys with svc := obtained.2, phase := .count }
  | .count => { sys with phase := .wait, start := sys.peek deviceKey }
  -- `m_working` is never cleared, so that the count alone ends the wait.
  | .wait => { sys with phase := if sys.peek deviceKey ≠ sys.start then .take else .wait }
  | .recount =>
    { sys with phase := if sys.peek deviceKey ≠ sys.start then .take else .done none }
  | .take => { sys with svc := obtained.2, phase := .done obtained.1 }
  | .done _ => sys

def timeOut : AwaitSystem :=
  match sys.phase with
  | .wait => { sys with phase := if sys.peek deviceKey ≠ sys.start then .take else .recount }
  | .check | .count | .recount | .take | .done _ => sys

def step (sys : AwaitSystem) : AwaitEvent → Except Empty AwaitSystem
  | .messageReceived errorMessage => .ok (sys.messageReceived deviceKey errorMessage)
  | .advance => .ok (sys.advance deviceKey)
  | .timeOut => .ok (sys.timeOut deviceKey)

/-- What is known in each phase. -/
def Tracked : Prop :=
  let count := sys.peek deviceKey
  match sys.phase with
  | .check => sys.early = false ∧ sys.late = false ∧ sys.seen = false
  | .count => sys.late = false ∧ (sys.early = true ↔ 0 < count) ∧ (sys.seen = true ↔ 0 < count)
  | .wait => sys.start ≤ count ∧ (sys.late = true ↔ sys.start < count) ∧
      (sys.early = true ↔ 0 < sys.start) ∧ (sys.seen = true ↔ 0 < count)
  | .recount => sys.start ≤ count ∧ (sys.late = true ↔ sys.start < count) ∧
      (sys.early = true ↔ 0 < sys.start) ∧ (sys.seen = true ↔ 0 < sys.start)
  | .take => sys.late = true ∧ 0 < count
  | .done none => (sys.seen = true ↔ sys.early = true) ∧ sys.late = false
  | .done (some _) => sys.early = false ∨ sys.late = true

variable {deviceKey sys} {sys' : AwaitSystem} {es : List AwaitEvent}

theorem peek_le_messageReceived (svc : ErrorService) (m : ErrorMessage) (d : String) :
    svc.peekMessagesForDevice d ≤ (svc.messageReceived m).peekMessagesForDevice d := by
  unfold ErrorService.peekMessagesForDevice
  rw [ErrorService.messagesOf_messageReceived]
  split_ifs with hd
  · unfold OrderedMap.emplace
    split_ifs with htime
    · exact le_refl _
    · rw [Option.not_isSome_iff_eq_none] at htime
      unfold OrderedMap.size
      rw [(OrderedMap.perm_insert htime m).length_eq, List.length_append]
      exact Nat.le_add_right _ _
  · exact le_refl _

/-- The first message is obtained exactly when the count says that there is one. -/
theorem obtainFirst_cases (svc : ErrorService) (d : String) :
    (svc.peekMessagesForDevice d = 0 ∧ svc.obtainFirstMessageForDevice d = (none, svc)) ∨
      (0 < svc.peekMessagesForDevice d ∧
        ∃ m svc', svc.obtainFirstMessageForDevice d = (some m, svc')) := by
  unfold ErrorService.obtainFirstMessageForDevice
  rcases ErrorService.obtainMessageForDevice_cases svc .first d with
    ⟨heq, hcached⟩ | ⟨time, m, svc', heq, hentry, -⟩
  · have hlength := congrArg List.length hcached
    rw [ErrorService.cachedFor, List.length_map] at hlength
    exact .inl ⟨hlength, heq⟩
  · have hmem := ErrorService.MessagePosition.entry_mem hentry
    exact .inr ⟨List.length_pos_of_mem hmem, m, svc', heq⟩

theorem Tracked.messageReceived (h : sys.Tracked deviceKey) (m : ErrorMessage) :
    (sys.messageReceived deviceKey m).Tracked deviceKey := by
  have hle : sys.peek deviceKey ≤ (sys.messageReceived deviceKey m).peek deviceKey :=
    peek_le_messageReceived sys.svc m deviceKey
  have hphase : (sys.messageReceived deviceKey m).phase = sys.phase := rfl
  unfold Tracked at h ⊢
  rw [hphase]
  generalize hcount : (sys.messageReceived deviceKey m).peek deviceKey = count at hle ⊢
  have hcount' : (sys.svc.messageReceived m).peekMessagesForDevice deviceKey = count := hcount
  cases hp : sys.phase with
  | check =>
    rw [hp] at h
    simpa [AwaitSystem.messageReceived, hp, AwaitPhase.counts, AwaitPhase.waits] using h
  | count =>
    rw [hp] at h
    obtain ⟨hlate, hearly, hseen⟩ := h
    simp only [AwaitSystem.messageReceived, hp, AwaitPhase.counts, AwaitPhase.waits, hcount', hlate,
      Bool.or_eq_true, hearly, hseen]
    simp
    omega
  | wait | recount =>
    rw [hp] at h
    obtain ⟨hstart, hlate, hearly, hseen⟩ := h
    simp only [AwaitSystem.messageReceived, hp, AwaitPhase.counts, AwaitPhase.waits, hcount',
      Bool.or_eq_true, hlate, hearly, hseen]
    simp
    omega
  | take =>
    rw [hp] at h
    obtain ⟨hlate, hpos⟩ := h
    exact ⟨by simp [AwaitSystem.messageReceived, hlate], by omega⟩
  | done result =>
    rw [hp] at h
    cases result with
    | none => simpa [AwaitSystem.messageReceived, hp, AwaitPhase.counts, AwaitPhase.waits] using h
    | some message =>
      simpa [AwaitSystem.messageReceived, hp, AwaitPhase.counts, AwaitPhase.waits] using h

theorem late_of_changed (hstart : sys.start ≤ sys.peek deviceKey)
    (hlate : sys.late = true ↔ sys.start < sys.peek deviceKey) (hne : sys.peek deviceKey ≠ sys.start) :
    sys.late = true ∧ 0 < sys.peek deviceKey := by
  have hlt : sys.start < sys.peek deviceKey := lt_of_le_of_ne hstart (Ne.symm hne)
  exact ⟨hlate.mpr hlt, Nat.zero_lt_of_lt hlt⟩

theorem Tracked.advance (h : sys.Tracked deviceKey) : (sys.advance deviceKey).Tracked deviceKey := by
  unfold Tracked at h
  unfold AwaitSystem.advance
  cases hp : sys.phase with
  | check =>
    rw [hp] at h
    obtain ⟨hearly, hlate, hseen⟩ := h
    rcases obtainFirst_cases sys.svc deviceKey with ⟨hzero, heq⟩ | ⟨-, m, svc', heq⟩
    · rw [heq]
      have hpeek : sys.peek deviceKey = 0 := hzero
      unfold Tracked
      simp [hearly, hlate, hseen, peek] at hpeek ⊢
      exact hpeek
    · rw [heq]
      exact .inl hearly
  | count =>
    rw [hp] at h
    obtain ⟨hlate, hearly, hseen⟩ := h
    unfold Tracked
    simp [hlate, hearly, hseen, peek]
  | wait =>
    rw [hp] at h
    obtain ⟨hstart, hlate, hearly, hseen⟩ := h
    dsimp only
    split_ifs with hne
    · exact late_of_changed hstart hlate hne
    · exact ⟨hstart, hlate, hearly, hseen⟩
  | recount =>
    rw [hp] at h
    obtain ⟨hstart, hlate, hearly, hseen⟩ := h
    dsimp only
    split_ifs with hne
    · exact late_of_changed hstart hlate hne
    · refine ⟨hseen.trans hearly.symm, ?_⟩
      rw [← Bool.not_eq_true, hlate]
      omega
  | take =>
    rw [hp] at h
    obtain ⟨hlate, hpos⟩ := h
    rcases obtainFirst_cases sys.svc deviceKey with ⟨hzero, -⟩ | ⟨-, m, svc', heq⟩
    · exact absurd hzero hpos.ne'
    · rw [heq]
      exact .inr hlate
  | done result =>
    unfold Tracked
    rw [hp] at h ⊢
    exact h

theorem Tracked.timeOut (h : sys.Tracked deviceKey) : (sys.timeOut deviceKey).Tracked deviceKey := by
  unfold AwaitSystem.timeOut
  cases hp : sys.phase with
  | wait =>
    unfold Tracked at h
    rw [hp] at h
    obtain ⟨hstart, hlate, hearly, hseen⟩ := h
    dsimp only
    split_ifs with hne
    · exact late_of_changed hstart hlate hne
    · refine ⟨hstart, hlate, hearly, hseen.trans ?_⟩
      rw [not_not] at hne
      rw [hne]
  | check | count | recount | take | done => exact h

theorem Tracked.step (h : sys.Tracked deviceKey) {e : AwaitEvent} (hs : sys.step deviceKey e = .ok sys') :
    sys'.Tracked deviceKey := by
  cases e with
  | messageReceived m => cases hs; exact h.messageReceived m
  | advance => cases hs; exact h.advance
  | timeOut => cases hs; exact h.timeOut

/-- **No message is missed.** The call returns nothing only if no message for the device was cached
between its first step and the time-out, except in exactly this case: a message came after the first
look and before the count, and none with a new arrival time after the count. -/
theorem await_misses_nothing {svc : ErrorService} {result : Option ErrorMessage}
    (hrun : Machine.Run (step deviceKey) (fun _ _ => True) (create svc) es sys)
    (hdone : sys.phase = .done result) :
    (result = none → sys.seen = false) ↔ sys.early = false ∨ sys.late = true := by
  have hinit : (create svc).Tracked deviceKey := ⟨rfl, rfl, rfl⟩
  have htracked : sys.Tracked deviceKey :=
    hrun.invariant (Tracked deviceKey) hinit fun _ _ _ h _ hs => h.step hs
  unfold Tracked at htracked
  rw [hdone] at htracked
  cases result with
  | none =>
    obtain ⟨hseen, hlate⟩ := htracked
    simp only [forall_const, hlate, Bool.false_eq_true, or_false]
    rw [← Bool.not_eq_true, ← Bool.not_eq_true, hseen]
  | some message => exact ⟨fun _ => htracked, fun _ h => by cases h⟩

/-! ## Runs -/

/-- A message of another device, and then one that ends the wait. -/
theorem await_misses_nothing_sample : ∃ sys : AwaitSystem,
    sys.phase = .done (some ⟨"d", "text", 7⟩) ∧
      (some (ErrorMessage.mk "d" "text" 7) = none → sys.seen = false) := by
  obtain ⟨sys, hrun, hsys⟩ := Machine.Run.exists_of_check (step "d") (fun _ _ => True)
    (create ⟨500, .empty⟩) [.advance, .messageReceived ⟨"e", "other", 6⟩, .advance,
      .messageReceived ⟨"d", "text", 7⟩, .advance, .advance]
    (fun sys => (sys.phase, sys.early)) (.done (some ⟨"d", "text", 7⟩), false) (by decide +kernel)
  obtain ⟨hphase, hearly⟩ := Prod.mk.inj hsys
  exact ⟨sys, hphase, (await_misses_nothing hrun hphase).mpr (.inl hearly)⟩

/-- A message comes between the first look and the count. It is in the cache all the time, and the
call returns nothing. -/
theorem message_missed : ∃ sys : AwaitSystem,
    Machine.Run (step "d") (fun _ _ => True) (create ⟨500, .empty⟩)
      [.advance, .messageReceived ⟨"d", "text", 7⟩, .advance, .timeOut, .advance] sys ∧
    sys.phase = .done none ∧ ¬ (none = (none : Option ErrorMessage) → sys.seen = false) := by
  obtain ⟨sys, hrun, hsys⟩ := Machine.Run.exists_of_check (step "d") (fun _ _ => True)
    (create ⟨500, .empty⟩)
    [.advance, .messageReceived ⟨"d", "text", 7⟩, .advance, .timeOut, .advance]
    (fun sys => (sys.phase, sys.seen)) (.done none, true) (by decide +kernel)
  obtain ⟨hphase, hseen⟩ := Prod.mk.inj hsys
  refine ⟨sys, hrun, hphase, fun h => ?_⟩
  rw [h rfl] at hseen
  cases hseen

end AwaitSystem

end WolkConnect
