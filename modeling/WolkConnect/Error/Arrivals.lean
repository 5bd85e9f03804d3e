import WolkConnect.Error.Accounting

/-!
# Waiting while messages come and go

`awaitMessage` for one device, one critical section at a time, while messages arrive, the timer
evicts and other threads obtain. It compares two counts.
-/

namespace WolkConnect

namespace ErrorService

variable (svc : ErrorService)

/-- What the loop of `timerRuntime` does to a device: the first messages are erased. -/
def evict (deviceKey : String) (count : Nat) : ErrorService :=
  match svc.cached.find? deviceKey with
  | none => svc
  | some messages =>
    { svc with cached := svc.cached.insert deviceKey (messages.eraseBefore count) }

/-- From wherever it starts, the loop erases first messages, if it is defined. -/
theorem clearMessages_erases {now : TimePoint} {i : Nat} {messages messages' : DeviceErrorMessages}
    (h : svc.clearMessages now i messages = .ok messages') :
    ∃ count, messages' = messages.eraseBefore count := by
  induction i generalizing messages with
  | zero =>
    cases h
    exact ⟨0, rfl⟩
  | succ i ih =>
    obtain ⟨entry, -, h⟩ := Machine.bind_eq_ok.mp h
    obtain ⟨count, rfl⟩ := ih h
    split_ifs
    · refine ⟨i + 1 + count, OrderedMap.ext ?_⟩
      exact List.drop_drop
    · exact ⟨count, rfl⟩

theorem clearDevice_evicts {now : TimePoint} {cached cached' : ErrorMessageCache} {deviceKey : String}
    (h : svc.clearDevice now cached deviceKey = .ok cached') : ∃ count,
      ({ svc with cached := cached' } : ErrorService) =
        ({ svc with cached := cached } : ErrorService).evict deviceKey count := by
  unfold clearDevice at h
  unfold evict
  cases hfind : cached.find? deviceKey with
  | none =>
    rw [hfind] at h
    cases h
    exact ⟨0, rfl⟩
  | some messages =>
    rw [hfind] at h
    obtain ⟨messages', hclear, h⟩ := Machine.bind_eq_ok.mp h
    obtain ⟨count, rfl⟩ := svc.clearMessages_erases hclear
    cases h
    exact ⟨count, rfl⟩

/-- A run of the timer that is defined evicts messages, device by device. -/
theorem timerRuntime_evicts {now : TimePoint} {svc' : ErrorService} (h : svc.timerRuntime now = .ok svc') :
    ∃ evictions : List (String × Nat), svc' = evictions.foldl (fun svc e => svc.evict e.1 e.2) svc := by
  have hdevices : ∀ (keys : List String) (cached cached' : ErrorMessageCache),
      keys.foldlM (svc.clearDevice now) cached = .ok cached' → ∃ evictions : List (String × Nat),
        ({ svc with cached := cached' } : ErrorService) =
          evictions.foldl (fun svc e => svc.evict e.1 e.2) { svc with cached := cached } := by
    intro keys
    induction keys with
    | nil =>
      intro cached cached' h
      cases h
      exact ⟨[], rfl⟩
    | cons d keys ih =>
      intro cached cached' h
      rw [List.foldlM_cons] at h
      obtain ⟨next, hclear, h⟩ := Machine.bind_eq_ok.mp h
      obtain ⟨count, hevicts⟩ := svc.clearDevice_evicts hclear
      obtain ⟨evictions, hrest⟩ := ih next cached' h
      exact ⟨(d, count) :: evictions, by rw [hrest, hevicts, List.foldl_cons]⟩
  obtain ⟨cached, hcached, h⟩ := Machine.bind_eq_ok.mp h
  cases h
  exact hdevices _ _ _ hcached

/-- The message is put into the cache. -/
def Inserts (deviceKey : String) (m : ErrorMessage) : Prop :=
  m.deviceKey = deviceKey ∧ (svc.messagesOf deviceKey).find? m.arrivalTime = none

instance (deviceKey : String) (m : ErrorMessage) : Decidable (svc.Inserts deviceKey m) :=
  inferInstanceAs (Decidable (_ ∧ _))

variable {svc} {d d' : String}

theorem peek_messageReceived (m : ErrorMessage) :
    (svc.messageReceived m).peekMessagesForDevice d =
      svc.peekMessagesForDevice d + if svc.Inserts d m then 1 else 0 := by
  unfold peekMessagesForDevice
  rw [messagesOf_messageReceived]
  by_cases hd : m.deviceKey = d
  · rw [if_pos hd]
    unfold OrderedMap.emplace
    by_cases hfree : (svc.messagesOf d).find? m.arrivalTime = none
    · rw [if_neg (by simp [hfree]), if_pos ⟨hd, hfree⟩]
      unfold OrderedMap.size
      rw [(OrderedMap.perm_insert hfree m).length_eq, List.length_append, List.length_singleton]
    · rw [if_pos (Option.isSome_iff_ne_none.mpr hfree), if_neg fun h => hfree h.2, Nat.add_zero]
  · rw [if_neg hd, if_neg fun h => hd h.1, Nat.add_zero]

theorem peek_obtainMessage (position : MessagePosition) :
    svc.peekMessagesForDevice d =
      (svc.obtainMessageForDevice position d').2.peekMessagesForDevice d +
        if d' = d ∧ (svc.obtainMessageForDevice position d').1.isSome = true then 1 else 0 := by
  rcases obtainMessageForDevice_cases svc position d' with
    ⟨heq, -⟩ | ⟨time, m, svc', heq, hentry, hmap⟩
  · simp [heq]
  · unfold peekMessagesForDevice
    rw [heq, hmap]
    by_cases hd : d' = d
    · subst hd
      have hfind := OrderedMap.find?_eq_some.mpr (MessagePosition.entry_mem hentry)
      rw [if_pos rfl, if_pos ⟨rfl, rfl⟩]
      unfold OrderedMap.size
      rw [(OrderedMap.perm_erase hfind).length_eq, List.length_cons]
    · rw [if_neg hd, if_neg fun h => hd h.1, Nat.add_zero]

theorem peek_evict (count : Nat) :
    svc.peekMessagesForDevice d = (svc.evict d' count).peekMessagesForDevice d +
      if d' = d then min count (svc.peekMessagesForDevice d) else 0 := by
  unfold evict
  cases hcached : svc.cached.find? d' with
  | none =>
    by_cases hd : d' = d
    · subst hd
      simp [peekMessagesForDevice, messagesOf, hcached, OrderedMap.empty, OrderedMap.size]
    · rw [if_neg hd, Nat.add_zero]
  | some messages =>
    unfold peekMessagesForDevice messagesOf
    dsimp only
    rw [OrderedMap.find?_insert]
    by_cases hd : d' = d
    · subst hd
      simp [hcached, OrderedMap.eraseBefore, OrderedMap.size]
      omega
    · rw [if_neg hd, if_neg hd, Nat.add_zero]

end ErrorService

/-- Where the call is. -/
inductive ArrivalPhase
  /-- Before the messages are counted. -/
  | count
  /-- In `wait_for`. -/
  | wait
  /-- After the time-out, before the messages are counted for the last time. -/
  | recount
  | done (result : Bool)
  deriving DecidableEq

inductive ArrivalEvent
  | messageReceived (errorMessage : ErrorMessage)
  | obtainMessage (position : ErrorService.MessagePosition) (deviceKey : String)
  | evict (deviceKey : String) (count : Nat)
  /-- The call takes its next step. In `wait_for`, it is woken up and evaluates the predicate. -/
  | advance
  /-- The time has run out. The predicate is evaluated once more. -/
  | timeOut

/-- `inserted` and `removed` count the messages for the device that came into the cache and that left it
between the first count and the last. -/
structure ArrivalSystem where
  svc : ErrorService
  phase : ArrivalPhase
  start : Nat
  inserted : Nat
  removed : Nat

/-- Between the two counts. -/
def ArrivalPhase.counts : ArrivalPhase → Bool
  | .wait | .recount => true
  | .count | .done _ => false

namespace ArrivalSystem

variable (deviceKey : String) (sys : ArrivalSystem)

def create (svc : ErrorService) : ArrivalSystem := ⟨svc, .count, 0, 0, 0⟩

def peek : Nat := sys.svc.peekMessagesForDevice deviceKey

/-- The cache changes, and between the two counts this is taken down. -/
def change (svc : ErrorService) (inserted removed : Nat) : ArrivalSystem :=
  if sys.phase.counts then
    { sys with svc := svc, inserted := sys.inserted + inserted, removed := sys.removed + removed }
  else { sys with svc := svc }

def messageReceived (m : ErrorMessage) : ArrivalSystem :=
  sys.change (sys.svc.messageReceived m) (if sys.svc.Inserts deviceKey m then 1 else 0) 0

def obtainMessage (position : ErrorService.MessagePosition) (d : String) : ArrivalSystem :=
  let obtained := sys.svc.obtainMessageForDevice position d
  sys.change obtained.2 0 (if d = deviceKey ∧ obtained.1.isSome = true then 1 else 0)

def evict (d : String) (count : Nat) : ArrivalSystem :=
  sys.change (sys.svc.evict d count) 0
    (if d = deviceKey then min count (sys.peek deviceKey) else 0)

def different : Bool := decide (sys.peek deviceKey ≠ sys.start)

def advance : ArrivalSystem :=
  match sys.phase with
  | .count => { sys with phase := .wait, start := sys.peek deviceKey }
  -- `m_working` is never cleared, so that the count alone ends the wait.
  | .wait => { sys with phase := if sys.different deviceKey then .done true else .wait }
  | .recount => { sys with phase := .done (sys.different deviceKey) }
  | .done _ => sys

def timeOut : ArrivalSystem :=
  match sys.phase with
  | .wait => { sys with phase := if sys.different deviceKey then .done true else .recount }
  | .count | .recount | .done _ => sys

def step (sys : ArrivalSystem) : ArrivalEvent → Except Empty ArrivalSystem
  | .messageReceived m => .ok (sys.messageReceived deviceKey m)
  | .obtainMessage position d => .ok (sys.obtainMessage deviceKey position d)
  | .evict d count => .ok (sys.evict deviceKey d count)
  | .advance => .ok (sys.advance deviceKey)
  | .timeOut => .ok (sys.timeOut deviceKey)

/-- Nothing is removed when nothing comes, and not as much as has come. -/
def Unmasked : Prop :=
  (sys.inserted = 0 → sys.removed = 0) ∧ (0 < sys.inserted → sys.inserted ≠ sys.removed)

/-- What the counts say in each phase. -/
def Balanced : Prop :=
  match sys.phase with
  | .count => sys.inserted = 0 ∧ sys.removed = 0
  | .wait | .recount => sys.peek deviceKey + sys.removed = sys.start + sys.inserted
  | .done result => result = true ↔ sys.inserted ≠ sys.removed

variable {deviceKey sys} {sys' : ArrivalSystem} {es : List ArrivalEvent}

theorem Balanced.change (h : sys.Balanced deviceKey) {svc : ErrorService} {inserted removed : Nat}
    (hpeek : svc.peekMessagesForDevice deviceKey + removed = sys.peek deviceKey + inserted) :
    (sys.change svc inserted removed).Balanced deviceKey := by
  unfold Balanced at h ⊢
  unfold ArrivalSystem.change
  cases hphase : sys.phase with
  | count | done => simpa [hphase, ArrivalPhase.counts] using h
  | wait | recount =>
    rw [hphase] at h
    simp only [ArrivalPhase.counts, if_true, peek] at h hpeek ⊢
    omega

/-- The counts differ exactly when more or less has come than was removed. -/
theorem different_iff (h : sys.peek deviceKey + sys.removed = sys.start + sys.inserted) :
    sys.different deviceKey = true ↔ sys.inserted ≠ sys.removed := by
  unfold different
  rw [decide_eq_true_iff]
  omega

theorem Balanced.advance (h : sys.Balanced deviceKey) : (sys.advance deviceKey).Balanced deviceKey := by
  unfold Balanced at h
  unfold ArrivalSystem.advance
  cases hphase : sys.phase with
  | count =>
    rw [hphase] at h
    obtain ⟨hinserted, hremoved⟩ := h
    change sys.peek deviceKey + sys.removed = sys.peek deviceKey + sys.inserted
    rw [hinserted, hremoved]
  | wait =>
    rw [hphase] at h
    dsimp only
    split_ifs with hdifferent
    · exact iff_of_true rfl ((different_iff h).mp hdifferent)
    · exact h
  | recount =>
    rw [hphase] at h
    exact different_iff h
  | done result =>
    unfold Balanced
    rw [hphase] at h ⊢
    exact h

theorem Balanced.timeOut (h : sys.Balanced deviceKey) : (sys.timeOut deviceKey).Balanced deviceKey := by
  unfold ArrivalSystem.timeOut
  cases hphase : sys.phase with
  | wait =>
    unfold Balanced at h
    rw [hphase] at h
    dsimp only
    split_ifs with hdifferent
    · exact iff_of_true rfl ((different_iff h).mp hdifferent)
    · exact h
  | count | recount | done => exact h

theorem Balanced.step (h : sys.Balanced deviceKey) {e : ArrivalEvent}
    (hs : sys.step deviceKey e = .ok sys') : sys'.Balanced deviceKey := by
  cases e with
  | messageReceived m =>
    cases hs
    exact h.change (ErrorService.peek_messageReceived m)
  | obtainMessage position d =>
    cases hs
    exact h.change (ErrorService.peek_obtainMessage position).symm
  | evict d count =>
    cases hs
    exact h.change (ErrorService.peek_evict count).symm
  | advance => cases hs; exact h.advance
  | timeOut => cases hs; exact h.timeOut

/-- **Arrivals are reported.** The call returns true exactly when a message for the device came into the
cache during the wait, in the calls in which no removals hide it or are taken for it, and in no others. -/
theorem await_reports_iff {svc : ErrorService} {result : Bool}
    (hrun : Machine.Run (step deviceKey) (fun _ _ => True) (create svc) es sys)
    (hdone : sys.phase = .done result) :
    (result = true ↔ 0 < sys.inserted) ↔ sys.Unmasked := by
  have hinit : (create svc).Balanced deviceKey := ⟨rfl, rfl⟩
  have hbalanced : sys.Balanced deviceKey :=
    hrun.invariant (Balanced deviceKey) hinit fun _ _ _ h _ hs => h.step hs
  unfold Balanced at hbalanced
  rw [hdone] at hbalanced
  have hresult : result = true ↔ sys.inserted ≠ sys.removed := hbalanced
  unfold Unmasked
  rw [hresult]
  omega

/-! ## Runs -/

/-- Two messages come and one of them is obtained. -/
theorem await_reports_iff_two : ∃ sys : ArrivalSystem,
    sys.phase = .done true ∧ (true = true ↔ 0 < sys.inserted) := by
  obtain ⟨sys, hrun, hsys⟩ := Machine.Run.exists_of_check (step "d") (fun _ _ => True)
    (create ⟨500, .empty⟩) [.advance, .advance, .messageReceived ⟨"d", "text", 7⟩,
      .messageReceived ⟨"d", "text", 8⟩, .obtainMessage .first "d", .advance]
    (fun sys => (sys.phase, sys.inserted, sys.removed)) (.done true, 2, 1) (by decide +kernel)
  simp only [Prod.mk.injEq] at hsys
  obtain ⟨hphase, hinserted, hremoved⟩ := hsys
  refine ⟨sys, hphase, (await_reports_iff hrun hphase).mpr ⟨?_, ?_⟩⟩
  · omega
  · omega

/-- Another thread obtains a message, and the call returns true. A message comes and is evicted, and
the call returns false. -/
theorem removals_counted :
    (∃ sys : ArrivalSystem, Machine.Run (step "d") (fun _ _ => True)
        (create (ErrorService.mk 500 .empty |>.messageReceived ⟨"d", "text", 7⟩))
        [.advance, .advance, .obtainMessage .first "d", .timeOut] sys ∧
      sys.phase = .done true ∧ ¬ (true = true ↔ 0 < sys.inserted)) ∧
    ∃ sys : ArrivalSystem, Machine.Run (step "d") (fun _ _ => True) (create ⟨500, .empty⟩)
        [.advance, .advance, .messageReceived ⟨"d", "text", 7⟩, .evict "d" 1, .timeOut, .advance]
        sys ∧
      sys.phase = .done false ∧ ¬ (false = true ↔ 0 < sys.inserted) := by
  constructor
  · obtain ⟨sys, hrun, hsys⟩ := Machine.Run.exists_of_check (step "d") (fun _ _ => True)
      (create (ErrorService.mk 500 .empty |>.messageReceived ⟨"d", "text", 7⟩))
      [.advance, .advance, .obtainMessage .first "d", .timeOut]
      (fun sys => (sys.phase, sys.inserted)) (.done true, 0) (by decide +kernel)
    obtain ⟨hphase, hinserted⟩ := Prod.mk.inj hsys
    exact ⟨sys, hrun, hphase, by simp [hinserted]⟩
  · obtain ⟨sys, hrun, hsys⟩ := Machine.Run.exists_of_check (step "d") (fun _ _ => True)
      (create ⟨500, .empty⟩)
      [.advance, .advance, .messageReceived ⟨"d", "text", 7⟩, .evict "d" 1, .timeOut, .advance]
      (fun sys => (sys.phase, sys.inserted)) (.done false, 1) (by decide +kernel)
    obtain ⟨hphase, hinserted⟩ := Prod.mk.inj hsys
    exact ⟨sys, hrun, hphase, by simp [hinserted]⟩

end ArrivalSystem

end WolkConnect
