import WolkConnect.Connection.Final
import WolkConnect.Lib.LateNotices

/-!
# What the connection listener is told

A change of `m_connected` queues a command for the listener, and the command reads
`m_connected` when it is executed.
-/

namespace WolkConnect

/-- What `notifyConnected` and `notifyDisconnected` assigned to `m_connected`. -/
def ConnectionAction.assigned : ConnectionAction → Option Bool
  | .connect _ _ true => some true
  | .disconnect _ => some false
  | .connect _ _ false | .flush | .connectionStatus _ => none

def ConnectionAction.heard : ConnectionAction → Option Bool
  | .connectionStatus connected => some connected
  | .connect _ _ _ | .disconnect _ | .flush => none

namespace WolkInterface

variable (w : WolkInterface)

def assigned : List Bool := w.actions.filterMap ConnectionAction.assigned

def heard : List Bool := w.actions.filterMap ConnectionAction.heard

/-- The commands for the listener that wait. -/
def pendingNotices : Nat := w.commandBuffer.count .connectionStatusListener

/-- What the event assigns to `m_connected`, if anything. -/
def assigns : ConnectionEvent → Option Bool
  | .execute success =>
    match w.commandBuffer with
    | .tryConnect _ _ :: _ => if success then some true else none
    | .disconnect _ :: _ => some false
    | _ => none
  | .connect | .disconnect | .publish | .setConnectionStatusListener _ => none

/-- A listener is set before the first `connect`, and is not taken away. -/
def Listening (w : WolkInterface) : ConnectionEvent → Prop
  | .connect => w.connectionStatusListener = true
  | .setConnectionStatusListener listener => listener = true
  | .disconnect | .publish | .execute _ => True

/-- When `m_connected` is assigned, the listener is set, and no command for it waits unless the value
stays the same. -/
def Audible (w : WolkInterface) (e : ConnectionEvent) : Prop :=
  ∀ v, w.assigns e = some v → w.connectionStatusListener = true ∧
    (w.pendingNotices = 0 ∨ v = w.connected)

instance (w : WolkInterface) : (e : ConnectionEvent) → Decidable (w.Listening e)
  | .connect | .setConnectionStatusListener _ => inferInstanceAs (Decidable (_ = true))
  | .disconnect | .publish | .execute _ => isTrue trivial

instance (w : WolkInterface) (e : ConnectionEvent) : Decidable (w.Audible e) :=
  match h : w.assigns e with
  | none => isTrue fun v hv => by rw [h] at hv; cases hv
  | some v => decidable_of_iff (w.connectionStatusListener = true ∧
      (w.pendingNotices = 0 ∨ v = w.connected))
    ⟨fun hv u hu => by rw [h] at hu; cases hu; exact hv, fun hv => hv v h⟩

def notices : LateNotices Bool := ⟨w.connected, w.pendingNotices, w.assigned, w.heard⟩

variable {w} {w' : WolkInterface} {es : List ConnectionEvent} {e : ConnectionEvent}

/-! ## What a step does -/

/-- A step assigns, delivers a notice to the listener, or does neither. -/
inductive NoticeStep (w w' : WolkInterface) : Option Bool → Prop
  | quiet : w'.notices = w.notices → NoticeStep w w' none
  | assign {v : Bool} : w'.notices = w.notices.assign w.connectionStatusListener v →
      NoticeStep w w' (some v)
  | deliver : 0 < w.pendingNotices → w'.notices = w.notices.deliver w.connectionStatusListener →
      NoticeStep w w' none

theorem notices_addToCommandBuffer {command : ConnectionCommand}
    (h : command ≠ .connectionStatusListener) : (w.addToCommandBuffer command).notices = w.notices := by
  have hcount : (w.commandBuffer ++ [command]).count .connectionStatusListener = w.pendingNotices := by
    rw [List.count_append, List.count_singleton, pendingNotices]
    simp [h]
  unfold notices pendingNotices
  exact congrArg (fun n => LateNotices.mk w.connected n w.assigned w.heard) hcount

theorem notices_act (action : ConnectionAction) (h : action.assigned = none) (h' : action.heard = none) :
    (w.act action).notices = w.notices := by
  simp [notices, act, assigned, heard, pendingNotices, h, h', List.filterMap_append]

/-- `m_connected` is assigned after the action, and the listener's command comes last. -/
theorem notices_assign (action : ConnectionAction) {v : Bool} (h : action.assigned = some v)
    (h' : action.heard = none) :
    ({ w.act action with connected := v } : WolkInterface).notifyConnectionStatusListener.notices =
      w.notices.assign w.connectionStatusListener v := by
  unfold notifyConnectionStatusListener
  cases hlistener : w.connectionStatusListener <;>
    simp [act, hlistener, notices, LateNotices.assign, assigned, heard, pendingNotices, h, h',
      List.filterMap_append, addToCommandBuffer]

theorem notices_popped {command : ConnectionCommand} {rest : List ConnectionCommand}
    (hbuffer : w.commandBuffer = command :: rest) (h : command ≠ .connectionStatusListener) :
    ({ w with commandBuffer := rest } : WolkInterface).notices = w.notices := by
  have hcount : rest.count .connectionStatusListener = w.pendingNotices := by
    rw [pendingNotices, hbuffer, List.count_cons]
    simp [h]
  exact congrArg (fun n => LateNotices.mk w.connected n w.assigned w.heard) hcount

theorem notices_delivered {rest : List ConnectionCommand} (success : Bool)
    (hbuffer : w.commandBuffer = .connectionStatusListener :: rest) :
    (({ w with commandBuffer := rest } : WolkInterface).executeCommand success
      .connectionStatusListener).notices = w.notices.deliver w.connectionStatusListener := by
  simp only [executeCommand]
  cases hlistener : w.connectionStatusListener <;>
    simp [act, notices, LateNotices.deliver, assigned, heard, pendingNotices, hbuffer,
      ConnectionAction.assigned, ConnectionAction.heard, List.filterMap_append]

theorem executeCommand_notices (success : Bool) {command : ConnectionCommand}
    {rest : List ConnectionCommand} (hbuffer : w.commandBuffer = command :: rest) :
    NoticeStep w (({ w with commandBuffer := rest } : WolkInterface).executeCommand success command)
      (w.assigns (.execute success)) := by
  have hpopped := notices_popped hbuffer
  unfold assigns
  rw [hbuffer]
  cases command with
  | tryConnect call firstTime =>
    have hpopped := hpopped (by simp)
    cases success with
    | true =>
      refine .assign ?_
      change (WolkInterface.addToCommandBuffer _ .publish).notices = _
      rw [notices_addToCommandBuffer (by simp),
        notices_assign (.connect call firstTime true) rfl rfl, hpopped]
    | false =>
      refine .quiet ?_
      change (WolkInterface.addToCommandBuffer _ (.tryConnect call false)).notices = _
      rw [notices_addToCommandBuffer (by simp),
        notices_act (.connect call firstTime false) rfl rfl, hpopped]
  | disconnect call =>
    have hpopped := hpopped (by simp)
    refine .assign ?_
    change (WolkInterface.notifyConnectionStatusListener _).notices = _
    rw [notices_assign (.disconnect call) rfl rfl, hpopped]
  | publish =>
    have hpopped := hpopped (by simp)
    exact .quiet ((notices_act .flush rfl rfl).trans hpopped)
  | connectionStatusListener =>
    refine .deliver ?_ (notices_delivered success hbuffer)
    rw [pendingNotices, hbuffer, List.count_cons_self]
    exact Nat.succ_pos _

theorem step_notices (hs : w.step e = .ok w') : NoticeStep w w' (w.assigns e) := by
  cases e with
  | connect =>
    cases hs
    exact .quiet (@notices_addToCommandBuffer w (.tryConnect _ true) (by simp))
  | disconnect =>
    cases hs
    exact .quiet (@notices_addToCommandBuffer w (.disconnect _) (by simp))
  | publish =>
    cases hs
    exact .quiet (@notices_addToCommandBuffer w .publish (by simp))
  | setConnectionStatusListener listener => cases hs; exact .quiet rfl
  | execute success =>
    obtain ⟨hbuffer, rfl⟩ | ⟨command, rest, hbuffer, rfl⟩ := step_execute hs
    · simp only [assigns, hbuffer]
      exact .quiet rfl
    · exact executeCommand_notices success hbuffer

theorem executeCommand_listener (success : Bool) (command : ConnectionCommand) :
    (w.executeCommand success command).connectionStatusListener = w.connectionStatusListener := by
  cases command with
  | tryConnect call firstTime => rw [executeCommand_tryConnect]
  | disconnect call => rw [executeCommand_disconnect]
  | publish => rfl
  | connectionStatusListener => rw [executeCommand_connectionStatusListener]

/-- A listener that was set stays. -/
theorem step_listener (hs : w.step e = .ok w') (hok : w.Listening e)
    (h : w.connectionStatusListener = true) : w'.connectionStatusListener = true := by
  cases e with
  | connect | disconnect | publish => cases hs; exact h
  | setConnectionStatusListener listener => cases hs; exact hok
  | execute success =>
    obtain ⟨-, rfl⟩ | ⟨command, rest, -, rfl⟩ := step_execute hs
    · exact h
    · rw [executeCommand_listener]
      exact h

/-! ## What the listener has heard -/

/-- The listener is up to date, and is there for what waits for it. -/
structure Heard (w : WolkInterface) : Prop where
  upToDate : w.notices.UpToDate
  listener : 0 < w.pendingNotices → w.connectionStatusListener = true

theorem Heard.step (h : w.Heard) (hlistening : w.Listening e) (haudible : w.Audible e)
    (hs : w.step e = .ok w') : w'.Heard := by
  have hkept := step_listener hs hlistening
  have hnotices := step_notices hs
  unfold Audible at haudible
  generalize w.assigns e = assigned at hnotices haudible
  cases hnotices with
  | quiet heq =>
    have hpending : w'.pendingNotices = w.pendingNotices := congrArg LateNotices.pending heq
    exact ⟨heq ▸ h.upToDate, fun hpos => hkept (h.listener (hpending ▸ hpos))⟩
  | @assign v heq =>
    obtain ⟨hlistener, hv⟩ := haudible v rfl
    rw [hlistener] at heq
    exact ⟨heq ▸ h.upToDate.assign hv, fun _ => hkept hlistener⟩
  | deliver hpending heq =>
    have hlistener := h.listener hpending
    rw [hlistener] at heq
    exact ⟨heq ▸ h.upToDate.deliver hpending, fun _ => hkept hlistener⟩

theorem Heard.lost (h : w.Heard) (haudible : ¬ w.Audible e) (hs : w.step e = .ok w') :
    w'.notices.Lost := by
  have hnotices := step_notices hs
  unfold Audible at haudible
  push Not at haudible
  obtain ⟨v, hassigns, hv⟩ := haudible
  rw [hassigns] at hnotices
  cases hnotices with
  | assign heq =>
    rw [heq]
    refine h.upToDate.lost ?_
    cases hlistener : w.connectionStatusListener with
    | false => exact .inl rfl
    | true => exact .inr (hv hlistener)

theorem lost_step (h : w.notices.Lost) (hs : w.step e = .ok w') : w'.notices.Lost := by
  have hnotices := step_notices hs
  generalize w.assigns e = assigned at hnotices
  cases hnotices with
  | quiet heq => exact heq ▸ h
  | assign heq => exact heq ▸ h.assign _ _
  | deliver hpending heq => exact heq ▸ h.deliver hpending _

theorem heard_create : create.Heard := ⟨rfl, fun h => absurd h (Nat.lt_irrefl 0)⟩

/-- `m_connected` has the value that was assigned last. -/
theorem connected_eq_last {ok : WolkInterface → ConnectionEvent → Prop}
    (h : Machine.Run step ok create es w) : w.connected = w.assigned.getLast?.getD false := by
  refine h.invariant (fun w => w.notices.current = w.notices.assigned.getLast?.getD false) rfl ?_
  intro s e t hs _ hstep
  have hnotices := step_notices hstep
  generalize s.assigns e = assigned at hnotices
  cases hnotices with
  | quiet heq => exact heq ▸ hs
  | assign heq => simp [heq, LateNotices.assign]
  | deliver _ heq => rw [heq]; exact hs

/-- **The listener sees every transition.** It does as long as `m_connected` changes only while no
command for the listener waits, and, of the runs at whose end none waits, in no others. -/
theorem listener_sees_transitions (hrun : Machine.Run step Listening create es w) :
    (Machine.Run step (fun w e => w.Listening e ∧ w.Audible e) create es w →
      w.heard <+: w.assigned) ∧
    (w.pendingNotices = 0 → (w.heard = w.assigned ↔
      Machine.Run step (fun w e => w.Listening e ∧ w.Audible e) create es w)) := by
  refine ⟨fun hmeets => ?_, fun hpending => ?_⟩
  · have hheard := hmeets.invariant Heard heard_create fun _ _ _ h hok hs => h.step hok.1 hok.2 hs
    exact hheard.upToDate.isPrefix
  · refine hrun.iff_meets Heard (fun w => w.notices.Lost) heard_create ?_ ?_ ?_ ?_ ?_
    · exact fun _ _ _ h hok hs => h.step hok.1 hok.2 hs
    · exact fun _ _ _ h hok hbreak hs => h.lost (fun haudible => hbreak ⟨hok, haudible⟩) hs
    · exact fun _ _ _ h _ hs => lost_step h hs
    · exact fun h => h.upToDate.heard_eq hpending
    · exact fun h => h.heard_ne hpending

/-- The command for the listener comes before that of the disconnect. -/
theorem listener_sees_transitions_spaced : ∃ w : WolkInterface, w.heard = w.assigned ∧
    w.assigned = [true, false] := by
  obtain ⟨w, hrun, hw⟩ := Machine.Run.exists_of_check step (fun w e => w.Listening e ∧ w.Audible e)
    create [.setConnectionStatusListener true, .connect, .execute true, .execute true, .disconnect,
      .execute true, .execute true, .execute true]
    (fun w => (w.pendingNotices, w.assigned)) (0, [true, false]) (by decide +kernel)
  obtain ⟨hpending, hassigned⟩ := Prod.mk.inj hw
  exact ⟨w, ((listener_sees_transitions (hrun.mono fun _ _ h => h.1)).2 hpending).mpr hrun,
    hassigned⟩

/-- The user connects and disconnects. The listener is told twice that there is no connection. -/
theorem listener_misses_connection : ∃ w : WolkInterface,
    Machine.Run step Listening create
      [.setConnectionStatusListener true, .connect, .disconnect, .execute true, .execute true,
        .execute true, .execute true, .execute true] w ∧
    w.commandBuffer = [] ∧ w.heard ≠ w.assigned ∧ w.heard = [false, false] := by
  obtain ⟨w, hrun, hw⟩ := Machine.Run.exists_of_check step Listening create
    [.setConnectionStatusListener true, .connect, .disconnect, .execute true, .execute true,
      .execute true, .execute true, .execute true]
    (fun w => (w.commandBuffer, w.heard, w.assigned)) ([], [false, false], [true, false])
    (by decide +kernel)
  obtain ⟨hbuffer, hlists⟩ := Prod.mk.inj hw
  obtain ⟨hheard, hassigned⟩ := Prod.mk.inj hlists
  exact ⟨w, hrun, hbuffer, by rw [hheard, hassigned]; decide, hheard⟩

end WolkInterface

end WolkConnect
