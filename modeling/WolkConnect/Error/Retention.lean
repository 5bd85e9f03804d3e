import WolkConnect.Error.Model

/-!
# What the timer retains

The loop starts at the position after the last message, and reads the message there.
-/

namespace WolkConnect.ErrorService

variable {svc svc' : ErrorService} {now : TimePoint} {cached : ErrorMessageCache}
  {messages : DeviceErrorMessages} {d : String}

/-- Each device keeps the messages that have not expired, and no others. -/
structure RetainsExactly (now : TimePoint) (svc svc' : ErrorService) : Prop where
  devices : ∀ d, svc'.cached.find? d = none ↔ svc.cached.find? d = none
  messages : ∀ d messages messages', svc.cached.find? d = some messages →
    svc'.cached.find? d = some messages' → ∀ time message,
      messages'.find? time = some message ↔
        messages.find? time = some message ∧ svc.expired now time = false

theorem dereference_size (messages : DeviceErrorMessages) : dereference messages messages.size = .error .dereferencedEnd := by
  simp [dereference, OrderedMap.size]

/-- The loop is defined for a device without messages only. -/
theorem clearMessages_eq_ok (messages' : DeviceErrorMessages) :
    svc.clearMessages now messages.size messages = .ok messages' ↔
      messages.size = 0 ∧ messages' = messages := by
  cases hsize : messages.size with
  | zero =>
    simp only [clearMessages, Except.ok.injEq, true_and]
    exact eq_comm
  | succ n =>
    have hread := dereference_size messages
    rw [hsize] at hread
    simp [clearMessages, hread, bind, Except.bind]

theorem clearDevice_eq_ok {cached' : ErrorMessageCache} :
    svc.clearDevice now cached d = .ok cached' ↔
      (∀ messages, cached.find? d = some messages → messages.size = 0) ∧ cached' = cached := by
  unfold clearDevice
  cases hd : cached.find? d with
  | none =>
    simp only [Except.ok.injEq, reduceCtorEq, false_implies, implies_true, true_and]
    exact eq_comm
  | some messages =>
    simp only [Option.some.injEq, forall_eq']
    cases hclear : svc.clearMessages now messages.size messages with
    | error f =>
      simp only [bind, Except.bind, reduceCtorEq, false_iff, not_and]
      intro hsize
      rw [(clearMessages_eq_ok messages).mpr ⟨hsize, rfl⟩] at hclear
      cases hclear
    | ok messages' =>
      obtain ⟨hsize, rfl⟩ := (clearMessages_eq_ok _).mp hclear
      simp only [bind, Except.bind, Except.ok.injEq, hsize, true_and]
      rw [OrderedMap.insert_of_find? hd]
      exact eq_comm

theorem foldlM_clearDevice_eq_ok {keys : List String} {cached' : ErrorMessageCache} :
    keys.foldlM (svc.clearDevice now) cached = .ok cached' ↔
      (∀ d ∈ keys, ∀ messages, cached.find? d = some messages → messages.size = 0) ∧
        cached' = cached := by
  induction keys with
  | nil =>
    simp only [List.foldlM_nil, pure, Except.pure, Except.ok.injEq, List.not_mem_nil,
      false_implies, implies_true, true_and]
    exact eq_comm
  | cons d keys ih =>
    rw [List.foldlM_cons, List.forall_mem_cons]
    cases hclear : svc.clearDevice now cached d with
    | error f =>
      simp only [bind, Except.bind, reduceCtorEq, false_iff, not_and, and_imp]
      intro hd
      rw [clearDevice_eq_ok.mpr ⟨hd, rfl⟩] at hclear
      cases hclear
    | ok next =>
      obtain ⟨hd, rfl⟩ := clearDevice_eq_ok.mp hclear
      simp only [bind, Except.bind, ih]
      tauto

/-- The timer gets through its run when there is nothing to look at. -/
theorem timerRuntime_eq_ok : svc.timerRuntime now = .ok svc' ↔
    (∀ d messages, svc.cached.find? d = some messages → messages.size = 0) ∧ svc' = svc := by
  have hkeys : (∀ d ∈ svc.cached.keys, ∀ messages, svc.cached.find? d = some messages →
      messages.size = 0) ↔
      ∀ d messages, svc.cached.find? d = some messages → messages.size = 0 := by
    refine ⟨fun h d messages hd => h d ?_ messages hd, fun h d _ => h d⟩
    rw [OrderedMap.mem_keys, hd]
    rfl
  unfold timerRuntime
  cases hfold : svc.cached.keys.foldlM (svc.clearDevice now) svc.cached with
  | error f =>
    simp only [bind, Except.bind, reduceCtorEq, false_iff, not_and]
    intro hempty
    rw [foldlM_clearDevice_eq_ok.mpr ⟨hkeys.mpr hempty, rfl⟩] at hfold
    cases hfold
  | ok cached =>
    obtain ⟨hempty, rfl⟩ := foldlM_clearDevice_eq_ok.mp hfold
    simp only [bind, Except.bind, Except.ok.injEq]
    exact ⟨fun h => ⟨hkeys.mp hempty, h.symm⟩, fun h => h.2.symm⟩

theorem find?_of_size {κ ν : Type} [LinearOrder κ] {m : OrderedMap κ ν} (h : m.size = 0) (k : κ) :
    m.find? k = none := by
  have hnil : m.entries = [] := List.length_eq_zero_iff.mp h
  simp [OrderedMap.find?, hnil, OrderedMap.lookup]

/-- **Exact retention.** One run of the timer is defined and retains exactly the messages that
have not expired, if and only if no device has a message at all. -/
theorem timer_retains_exactly (svc : ErrorService) (now : TimePoint) :
    (∃ svc', svc.timerRuntime now = .ok svc' ∧ RetainsExactly now svc svc') ↔
      ∀ d messages, svc.cached.find? d = some messages → messages.size = 0 := by
  constructor
  · rintro ⟨svc', hrun, -⟩
    exact (timerRuntime_eq_ok.mp hrun).1
  · intro hempty
    refine ⟨svc, timerRuntime_eq_ok.mpr ⟨hempty, rfl⟩, fun d => Iff.rfl, ?_⟩
    intro d messages messages' hd hd' time message
    rw [hd] at hd'
    cases hd'
    simp [find?_of_size (hempty d messages hd)]

/-- One message, however fresh, and the timer reads past it. -/
theorem timer_reads_past_end :
    ¬ ∃ svc', (ErrorService.mk 500 .empty |>.messageReceived ⟨"d", "text", 0⟩).timerRuntime 1 =
        .ok svc' ∧
      RetainsExactly 1 (ErrorService.mk 500 .empty |>.messageReceived ⟨"d", "text", 0⟩) svc' := by
  rintro ⟨svc', hrun, -⟩
  have hfault : (ErrorService.mk 500 .empty |>.messageReceived ⟨"d", "text", 0⟩).timerRuntime 1 =
      .error .dereferencedEnd := rfl
  rw [hfault] at hrun
  cases hrun

end WolkConnect.ErrorService
