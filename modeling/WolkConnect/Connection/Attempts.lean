import WolkConnect.Connection.Final

/-!
# Attempts to connect when connections get lost

The lambda that `WolkBuilder.cpp` gives to `onConnectionLost` connects again. Each call of
`connect` and each lost connection makes one attempt, which comes back until it succeeds.
-/

namespace WolkConnect

def ConnectionCommand.isAttempt : ConnectionCommand → Bool
  | .tryConnect _ _ => true
  | .disconnect _ | .publish | .connectionStatusListener => false

def ConnectionCommand.isDisconnect : ConnectionCommand → Bool
  | .disconnect _ => true
  | .tryConnect _ _ | .publish | .connectionStatusListener => false

/-- An attempt that this call asked for. -/
def ConnectionCommand.isAttemptOf (number : Nat) : ConnectionCommand → Bool
  | .tryConnect call _ => call = number
  | .disconnect _ | .publish | .connectionStatusListener => false

/-- It succeeded. -/
def ConnectionAction.connectsFor (number : Nat) : ConnectionAction → Bool
  | .connect call _ success => success && call = number
  | .disconnect _ | .flush | .connectionStatus _ => false

section
variable (call number : Nat) (firstTime success : Bool)

@[simp] theorem isAttemptOf_tryConnect :
    (ConnectionCommand.tryConnect call firstTime).isAttemptOf number = decide (call = number) := rfl

@[simp] theorem isAttemptOf_disconnect : (ConnectionCommand.disconnect call).isAttemptOf number = false :=
  rfl

@[simp] theorem isAttemptOf_publish : ConnectionCommand.publish.isAttemptOf number = false := rfl

@[simp] theorem isAttemptOf_connectionStatusListener :
    ConnectionCommand.connectionStatusListener.isAttemptOf number = false := rfl

@[simp] theorem connectsFor_connect : (ConnectionAction.connect call firstTime success).connectsFor number =
    (success && decide (call = number)) := rfl

@[simp] theorem connectsFor_disconnect : (ConnectionAction.disconnect call).connectsFor number = false := rfl

@[simp] theorem connectsFor_flush : ConnectionAction.flush.connectsFor number = false := rfl

end

/-- What happens to an interface: the events of its users, and a connection that gets lost. -/
inductive LinkEvent
  | event (e : ConnectionEvent)
  | connectionLost
  deriving DecidableEq

namespace WolkInterface

variable (w : WolkInterface)

/-- Like `connect`, it pushes a first attempt. -/
def onConnectionLost : WolkInterface := w.notifyDisconnected.connect

def linkStep (w : WolkInterface) : LinkEvent → Except Empty WolkInterface
  | .event e => w.step e
  | .connectionLost => .ok w.onConnectionLost

/-- The attempts of a call that are queued. -/
def attempts (call : Nat) : Nat := w.commandBuffer.countP (·.isAttemptOf call)

/-- Those that have succeeded. -/
def successes (call : Nat) : Nat := w.actions.countP (·.connectsFor call)

/-- The connection is there, or an attempt is queued. -/
def Trying : Prop := w.connected = true ∨ ∃ command ∈ w.commandBuffer, command.isAttempt = true

/-- The event does not execute the command of a `disconnect`. -/
def SparesConnection (w : WolkInterface) : LinkEvent → Prop
  | .event (.execute _) => ∀ command ∈ w.commandBuffer.head?, command.isDisconnect = false
  | .event _ | .connectionLost => True

instance (w : WolkInterface) : (e : LinkEvent) → Decidable (w.SparesConnection e)
  | .event (.execute _) => inferInstanceAs (Decidable (∀ command ∈ w.commandBuffer.head?, _))
  | .event .connect | .event .disconnect | .event .publish
  | .event (.setConnectionStatusListener _) | .connectionLost => isTrue trivial

variable {w} {w' : WolkInterface} {es : List LinkEvent} {e : LinkEvent}

theorem countP_notification (call : Nat) : w.notification.countP (·.isAttemptOf call) = 0 := by
  unfold notification
  split_ifs <;> rfl

theorem countP_attemptLeaves (number : Nat) (success : Bool) (call : Nat) :
    (w.attemptLeaves number success).countP (·.isAttemptOf call) =
      if success = false ∧ number = call then 1 else 0 := by
  unfold attemptLeaves
  cases success with
  | true =>
    rw [if_pos rfl, List.countP_append, countP_notification]
    rfl
  | false => simp [List.countP_singleton]

/-- Every call of `connect`, those of `onConnectionLost` among them, has one attempt, which is queued or
has succeeded. -/
structure Counted (w : WolkInterface) : Prop where
  below : ∀ c ∈ w.calls, c.number < w.calls.length
  balanced : ∀ call, w.attempts call + w.successes call = if .connect call ∈ w.calls then 1 else 0

theorem counted_create : create.Counted := ⟨nofun, fun _ => rfl⟩

/-- The attempts change places, and there is no new call. -/
theorem Counted.same (h : w.Counted) (hcalls : w'.calls = w.calls)
    (hcount : ∀ call, w'.attempts call + w'.successes call = w.attempts call + w.successes call) :
    w'.Counted where
  below := hcalls ▸ h.below
  balanced call := by rw [hcount, hcalls, h.balanced]

/-- The calls are numbered in their order. -/
theorem Counted.below_call (h : w.Counted) {call : ConnectionCall} (hnumber : call.number = w.calls.length) :
    ∀ c ∈ w.calls ++ [call], c.number < (w.calls ++ [call]).length := by
  intro c hc
  rw [List.length_append, List.length_singleton]
  rcases List.mem_append.mp hc with hc | hc
  · exact Nat.lt_succ_of_lt (h.below c hc)
  · rw [List.mem_singleton.mp hc, hnumber]
    exact Nat.lt_succ_self _

theorem Counted.connect (h : w.Counted) : w.connect.Counted where
  below := h.below_call rfl
  balanced call := by
    have hbalanced := h.balanced call
    have hfresh : .connect w.calls.length ∉ w.calls := fun hmem => Nat.lt_irrefl _ (h.below _ hmem)
    have hattempts : w.connect.attempts call =
        w.attempts call + if w.calls.length = call then 1 else 0 := by
      change (w.commandBuffer ++ [ConnectionCommand.tryConnect w.calls.length true]).countP _ = _
      rw [List.countP_append, List.countP_singleton]
      simp [attempts]
    change _ + w.successes call = if .connect call ∈ w.calls ++ [.connect w.calls.length] then 1 else 0
    rw [hattempts, Nat.add_right_comm, hbalanced]
    by_cases hcall : w.calls.length = call
    · rw [← hcall, if_neg hfresh, if_pos rfl, if_pos (List.mem_append_right _ List.mem_cons_self)]
    · simp [hcall, Ne.symm hcall]

theorem Counted.disconnect (h : w.Counted) : w.disconnect.Counted where
  below := h.below_call rfl
  balanced call := by
    change (w.commandBuffer ++ [ConnectionCommand.disconnect w.calls.length]).countP _ +
      w.successes call = if .connect call ∈ w.calls ++ [.disconnect w.calls.length] then 1 else 0
    rw [List.countP_append]
    simpa [attempts] using h.balanced call

theorem Counted.execute (h : w.Counted) {command : ConnectionCommand} {rest : List ConnectionCommand}
    (hbuffer : w.commandBuffer = command :: rest) (success : Bool) :
    (({ w with commandBuffer := rest } : WolkInterface).executeCommand success command).Counted := by
  have hattempts : ∀ call, w.attempts call =
      rest.countP (·.isAttemptOf call) + if command.isAttemptOf call then 1 else 0 := by
    intro call
    rw [attempts, hbuffer, List.countP_cons]
  cases command with
  | tryConnect number firstTime =>
    rw [executeCommand_tryConnect]
    refine h.same rfl fun call => ?_
    rw [hattempts]
    simp only [attempts, successes, List.countP_append, countP_attemptLeaves, List.countP_singleton,
      connectsFor_connect, isAttemptOf_tryConnect, decide_eq_true_eq]
    cases success <;> by_cases hcall : number = call <;> simp [hcall]
    omega
  | disconnect number =>
    rw [executeCommand_disconnect]
    refine h.same rfl fun call => ?_
    rw [hattempts]
    simp only [attempts, successes, List.countP_append, countP_notification]
    simp
  | publish =>
    refine h.same rfl fun call => ?_
    rw [hattempts]
    simp [executeCommand, act, attempts, successes]
  | connectionStatusListener =>
    rw [executeCommand_connectionStatusListener]
    refine h.same rfl fun call => ?_
    have htold : ({ w with commandBuffer := rest } : WolkInterface).told.countP
        (·.connectsFor call) = 0 := by
      unfold told
      split_ifs <;> rfl
    rw [hattempts]
    simp only [attempts, successes, List.countP_append, htold]
    simp

theorem Counted.step (h : w.Counted) (hs : w.linkStep e = .ok w') : w'.Counted := by
  cases e with
  | connectionLost =>
    cases hs
    have hnotified : w.notifyDisconnected.Counted := by
      unfold notifyDisconnected
      rw [notifyConnectionStatusListener_eq]
      refine h.same rfl fun call => ?_
      change (w.commandBuffer ++ w.notification).countP _ + w.successes call = _
      rw [List.countP_append, countP_notification]
      rfl
    exact hnotified.connect
  | event e =>
    cases e with
    | connect => cases hs; exact h.connect
    | disconnect => cases hs; exact h.disconnect
    | publish =>
      cases hs
      refine h.same rfl fun call => ?_
      change (w.commandBuffer ++ [ConnectionCommand.publish]).countP _ + w.successes call = _
      rw [List.countP_append]
      rfl
    | setConnectionStatusListener listener => cases hs; exact h.same rfl fun _ => rfl
    | execute success =>
      obtain ⟨-, rfl⟩ | ⟨command, rest, hbuffer, rfl⟩ := step_execute hs
      · exact h
      · exact h.execute hbuffer success

/-- What is queued stays queued, and `m_connected` is kept. -/
theorem Trying.grow (h : w.Trying) (hconnected : w'.connected = w.connected)
    {more : List ConnectionCommand} (hbuffer : w'.commandBuffer = w.commandBuffer ++ more) :
    w'.Trying := by
  rcases h with h | ⟨command, hmem, hattempt⟩
  · exact .inl (hconnected.trans h)
  · exact .inr ⟨command, hbuffer ▸ List.mem_append_left _ hmem, hattempt⟩

/-- The first command is taken out, and it is no attempt. -/
theorem Trying.pop (h : w.Trying) {command : ConnectionCommand} {rest : List ConnectionCommand}
    (hbuffer : w.commandBuffer = command :: rest) (hcommand : command.isAttempt = false) :
    ({ w with commandBuffer := rest } : WolkInterface).Trying := by
  rcases h with h | ⟨other, hmem, hattempt⟩
  · exact .inl h
  · rw [hbuffer, List.mem_cons] at hmem
    rcases hmem with rfl | hmem
    · rw [hcommand] at hattempt
      cases hattempt
    · exact .inr ⟨other, hmem, hattempt⟩

theorem trying_connect (w : WolkInterface) : w.connect.Trying :=
  .inr ⟨_, List.mem_append_right _ List.mem_cons_self, rfl⟩

theorem Trying.step (h : w.Trying) (hok : w.SparesConnection e) (hs : w.linkStep e = .ok w') :
    w'.Trying := by
  cases e with
  | connectionLost =>
    cases hs
    exact trying_connect _
  | event e =>
    cases e with
    | connect =>
      cases hs
      exact trying_connect w
    | disconnect | publish =>
      cases hs
      exact h.grow rfl rfl
    | setConnectionStatusListener listener =>
      cases hs
      exact h
    | execute success =>
      obtain ⟨-, rfl⟩ | ⟨command, rest, hbuffer, rfl⟩ := step_execute hs
      · exact h
      cases command with
      | tryConnect call firstTime =>
        rw [executeCommand_tryConnect]
        cases success with
        | true => exact .inl rfl
        | false => exact .inr ⟨.tryConnect call false, List.mem_append_right _ List.mem_cons_self, rfl⟩
      | disconnect call =>
        have hspared : ConnectionCommand.isDisconnect (.disconnect call) = false :=
          hok _ (by rw [hbuffer]; rfl)
        cases hspared
      | publish => exact h.pop hbuffer rfl
      | connectionStatusListener =>
        rw [executeCommand_connectionStatusListener]
        exact h.pop hbuffer rfl

/-! ## Executing what is queued -/

/-- The first `n` commands have an attempt among them, unless the connection is there, and no
`disconnect`. -/
structure WillConnect (n : Nat) (w : WolkInterface) : Prop where
  length : n ≤ w.commandBuffer.length
  trying : w.connected = true ∨ ∃ command ∈ w.commandBuffer.take n, command.isAttempt = true
  spared : ∀ command ∈ w.commandBuffer.take n, command.isDisconnect = false

/-- An executed command that does not disconnect leaves one less to do. -/
theorem WillConnect.execute {n : Nat} (h : w.WillConnect (n + 1)) :
    ∃ w', w.linkStep (.event (.execute true)) = .ok w' ∧ w'.WillConnect n := by
  obtain ⟨command, rest, hbuffer⟩ :=
    List.exists_cons_of_length_pos (Nat.lt_of_lt_of_le (Nat.succ_pos n) h.length)
  have hlength := h.length
  have htrying := h.trying
  have hspared := h.spared
  rw [hbuffer, List.take_succ_cons] at htrying hspared
  rw [hbuffer, List.length_cons] at hlength
  have hstep : w.linkStep (.event (.execute true)) =
      .ok (({ w with commandBuffer := rest } : WolkInterface).executeCommand true command) := by
    simp only [linkStep, WolkInterface.step, hbuffer]
  have hlater : ∀ {more : List ConnectionCommand}, (rest ++ more).take n = rest.take n :=
    List.take_append_of_le_length (by omega)
  refine ⟨_, hstep, ?_⟩
  cases command with
  | tryConnect call firstTime =>
    rw [executeCommand_tryConnect]
    refine ⟨?_, .inl rfl, fun command hmem => ?_⟩
    · change n ≤ (rest ++ _).length
      rw [List.length_append]
      omega
    · rw [hlater] at hmem
      exact hspared command (List.mem_cons_of_mem _ hmem)
  | disconnect call => cases hspared _ List.mem_cons_self
  | publish | connectionStatusListener =>
    have hkept : ({ w with commandBuffer := rest } : WolkInterface).WillConnect n := by
      refine ⟨Nat.le_of_succ_le_succ hlength, htrying.imp_right ?_, fun command hmem =>
        hspared command (List.mem_cons_of_mem _ hmem)⟩
      rintro ⟨command, hmem, hattempt⟩
      rcases List.mem_cons.mp hmem with rfl | hmem
      · cases hattempt
      · exact ⟨command, hmem, hattempt⟩
    first
      | rw [executeCommand_connectionStatusListener]; exact ⟨hkept.length, hkept.trying, hkept.spared⟩
      | exact ⟨hkept.length, hkept.trying, hkept.spared⟩

theorem WillConnect.run {n : Nat} (h : w.WillConnect n) :
    ∃ t, Machine.Run linkStep (fun _ _ => True) w
      (List.replicate n (.event (.execute true))) t ∧ t.connected = true := by
  induction n generalizing w with
  | zero =>
    refine ⟨w, .nil, h.trying.resolve_right ?_⟩
    rintro ⟨command, hmem, -⟩
    cases hmem
  | succ n ih =>
    obtain ⟨w', hstep, hnext⟩ := h.execute
    obtain ⟨t, hrun, ht⟩ := ih hnext
    have hone : Machine.Run linkStep (fun _ _ => True) w [.event (.execute true)] w' :=
      .snoc .nil trivial hstep
    exact ⟨t, hone.append hrun, ht⟩

/-- **Connecting again.** The attempt that a call of `connect` or a lost connection asked for is queued or
has succeeded, once for each call. After such an event, and until the command of a `disconnect` is
executed, the connection is there or an attempt is queued. Where no such command is queued either,
executing all that is queued, with attempts that succeed, connects. -/
theorem connects_again (hrun : Machine.Run linkStep (fun _ _ => True) create es w) :
    (∀ call, w.attempts call + w.successes call = if .connect call ∈ w.calls then 1 else 0) ∧
    ∀ {e : LinkEvent} {w' : WolkInterface}, (e = .event .connect ∨ e = .connectionLost) →
      w.linkStep e = .ok w' → ∀ {es' : List LinkEvent} {t : WolkInterface},
      Machine.Run linkStep SparesConnection w' es' t → t.Trying ∧
        ((∀ command ∈ t.commandBuffer, command.isDisconnect = false) →
          ∃ u, Machine.Run linkStep (fun _ _ => True) t
            (List.replicate t.commandBuffer.length (.event (.execute true))) u ∧ u.connected = true) := by
  have hcounted : w.Counted := hrun.invariant Counted counted_create fun _ _ _ h _ hs => h.step hs
  refine ⟨hcounted.balanced, fun {e w'} he hs {es' t} hrun' => ?_⟩
  have hstart : w'.Trying := by
    rcases he with rfl | rfl <;> cases hs <;> exact trying_connect _
  have htrying : t.Trying := hrun'.invariant Trying hstart fun _ _ _ h hok hs => h.step hok hs
  refine ⟨htrying, fun hspared => ?_⟩
  have hwill : t.WillConnect t.commandBuffer.length := by
    refine ⟨Nat.le_refl _, ?_, ?_⟩
    · rw [List.take_length]
      exact htrying
    · rw [List.take_length]
      exact hspared
  exact hwill.run

/-- A first attempt succeeds, the connection gets lost, and an attempt fails. -/
theorem connects_again_lost : ∃ w t : WolkInterface,
    Machine.Run linkStep (fun _ _ => True) create [.event .connect, .event (.execute true)] w ∧
    Machine.Run linkStep SparesConnection w.onConnectionLost
      [.event (.execute true), .event (.execute false)] t ∧
    (∀ call, t.attempts call + t.successes call = if .connect call ∈ t.calls then 1 else 0) ∧ t.Trying ∧
    ∃ u, Machine.Run linkStep (fun _ _ => True) t
      (List.replicate t.commandBuffer.length (.event (.execute true))) u ∧ u.connected = true := by
  obtain ⟨w, hrun, hw⟩ := Machine.Run.exists_of_check linkStep (fun _ _ => True) create
    [.event .connect, .event (.execute true)] id
    ⟨true, false, [.publish], [.connect 0], [.connect 0 true true]⟩ rfl
  obtain ⟨t, hrun', ht⟩ := Machine.Run.exists_of_check linkStep SparesConnection w.onConnectionLost
    [.event (.execute true), .event (.execute false)] commandBuffer [.tryConnect 1 false]
    (by rw [show w = _ from hw]; rfl)
  obtain ⟨htrying, hconnect⟩ := (connects_again hrun).2 (.inr rfl) rfl hrun'
  have hlost : Machine.Run linkStep (fun _ _ => True) w [.connectionLost] w.onConnectionLost :=
    .snoc .nil trivial rfl
  have hall := (hrun.append hlost).append (hrun'.mono fun _ _ _ => trivial)
  exact ⟨w, t, hrun, hrun', (connects_again hall).1, htrying, hconnect (by rw [ht]; decide)⟩

end WolkInterface

end WolkConnect
