import Mathlib.Data.List.Induction
import Mathlib.Tactic.Push
import WolkConnect.Connection.Model

/-!
# A disconnect is final

An attempt to connect that fails goes back into the buffer, behind the commands of
the calls that were made meanwhile.
-/

namespace WolkConnect

def ConnectionCommand.issued : ConnectionCommand → Option ConnectionCall
  | .tryConnect call true => some (.connect call)
  | .disconnect call => some (.disconnect call)
  | .tryConnect _ false | .publish | .connectionStatusListener => none

def ConnectionAction.issued : ConnectionAction → Option ConnectionCall
  | .connect call true _ => some (.connect call)
  | .disconnect call => some (.disconnect call)
  | .connect _ false _ | .flush | .connectionStatus _ => none

/-- Of the commands that connect, the first is a repeated attempt. -/
def retryFirst : List ConnectionCommand → Bool
  | [] => false
  | .tryConnect _ firstTime :: _ => !firstTime
  | .disconnect _ :: rest | .publish :: rest | .connectionStatusListener :: rest => retryFirst rest

/-- After the command of a disconnect, no attempt is made before the command of a later connect. -/
def Final (actions : List ConnectionAction) : Prop :=
  ∀ earlier call between call' firstTime success later,
    actions = earlier ++ .disconnect call :: (between ++ .connect call' firstTime success :: later) →
    ∃ n s, .connect n true s ∈ between ++ [.connect call' firstTime success] ∧ call < n

/-- There is a disconnect, and no call of `connect` was executed after it. -/
def quiet (actions : List ConnectionAction) : Bool :=
  actions.foldl (fun q action =>
    match action with
    | .disconnect _ => true
    | .connect _ true _ => false
    | .connect _ false _ | .flush | .connectionStatus _ => q) false

/-- No repeated attempt was made while all was quiet. -/
def Undisturbed (actions : List ConnectionAction) : Prop :=
  ∀ earlier n s later, actions = earlier ++ .connect n false s :: later → quiet earlier = false

section Actions

variable {actions : List ConnectionAction}

theorem quiet_of_between {earlier between : List ConnectionAction} {call : Nat}
    (h : ∀ n s, .connect n true s ∉ between) :
    quiet (earlier ++ .disconnect call :: between) = true := by
  induction between using List.reverseRecOn with
  | nil => simp [quiet]
  | append_singleton between a ih =>
    have hrest := ih fun n s hmem => h n s (List.mem_append_left _ hmem)
    have hlast : ∀ n s, a ≠ .connect n true s :=
      fun n s ha => h n s (ha ▸ List.mem_append_right _ List.mem_cons_self)
    unfold quiet at hrest ⊢
    rw [← List.cons_append, ← List.append_assoc, List.foldl_append, hrest]
    match a, hlast with
    | .connect n true s, hlast => exact absurd rfl (hlast n s)
    | .connect _ false _, _ | .disconnect _, _ | .flush, _ | .connectionStatus _, _ => rfl

theorem exists_disconnect_of_quiet (h : quiet actions = true) :
    ∃ earlier call between, actions = earlier ++ .disconnect call :: between ∧
      ∀ n s, .connect n true s ∉ between := by
  induction actions using List.reverseRecOn with
  | nil => cases h
  | append_singleton actions a ih =>
    have hkeep : (∀ n s, a ≠ .connect n true s) → quiet actions = true →
        ∃ earlier call between, actions ++ [a] = earlier ++ .disconnect call :: between ∧
          ∀ n s, .connect n true s ∉ between := by
      intro ha hq
      obtain ⟨earlier, call, between, rfl, hbetween⟩ := ih hq
      refine ⟨earlier, call, between ++ [a], by simp, fun n s hmem => ?_⟩
      rcases List.mem_append.mp hmem with hmem | hmem
      · exact hbetween n s hmem
      · exact ha n s (List.mem_singleton.mp hmem).symm
    simp only [quiet, List.foldl_append, List.foldl_cons, List.foldl_nil] at h
    match a, h, hkeep with
    | .disconnect call, _, _ => exact ⟨actions, call, [], rfl, fun _ _ => List.not_mem_nil⟩
    | .connect _ true _, h, _ => cases h
    | .connect _ false _, h, hkeep => exact hkeep (by simp) h
    | .flush, h, hkeep => exact hkeep (by simp) h
    | .connectionStatus _, h, hkeep => exact hkeep (by simp) h

theorem Undisturbed.append (h : Undisturbed actions) {a : ConnectionAction}
    (ha : ∀ n s, a = .connect n false s → quiet actions = false) : Undisturbed (actions ++ [a]) := by
  intro earlier n s later heq
  rcases List.eq_nil_or_concat later with rfl | ⟨later, a', rfl⟩
  · obtain ⟨rfl, hlast⟩ := List.append_inj' heq rfl
    exact ha n s (List.cons.inj hlast).1
  · rw [List.concat_eq_append, ← List.cons_append, ← List.append_assoc] at heq
    exact h earlier n s later (List.append_inj' heq rfl).1

theorem Undisturbed.of_append {actions' : List ConnectionAction} (h : Undisturbed (actions ++ actions')) :
    Undisturbed actions := by
  intro earlier n s later heq
  exact h earlier n s (later ++ actions') (by rw [heq, List.append_assoc, List.cons_append])

theorem Final.undisturbed (h : Final actions) : Undisturbed actions := by
  intro earlier n s later heq
  rw [← Bool.not_eq_true]
  intro hquiet
  obtain ⟨before, call, between, rfl, hbetween⟩ := exists_disconnect_of_quiet hquiet
  obtain ⟨n', s', hmem, -⟩ := h before call between n false s later (by simp [heq])
  rcases List.mem_append.mp hmem with hmem | hmem
  · exact hbetween n' s' hmem
  · simp at hmem

/-- When the calls were executed in their order, what comes between is of a later call. -/
theorem Undisturbed.final (h : Undisturbed actions)
    (horder : (actions.filterMap ConnectionAction.issued).Pairwise fun a b => a.number < b.number) :
    Final actions := by
  intro earlier call between call' firstTime success later heq
  have hex : ∃ n s, .connect n true s ∈ between ++ [.connect call' firstTime success] := by
    by_contra hnone
    push Not at hnone
    have hquiet : quiet (earlier ++ .disconnect call :: between) = true :=
      quiet_of_between fun n s hmem => hnone n s (List.mem_append_left _ hmem)
    cases firstTime with
    | true => exact hnone call' success (List.mem_append_right _ List.mem_cons_self)
    | false =>
      have hloud := h (earlier ++ .disconnect call :: between) call' success later (by simp [heq])
      rw [hquiet] at hloud
      cases hloud
  obtain ⟨n, s, hmem⟩ := hex
  refine ⟨n, s, hmem, ?_⟩
  have hissued : ConnectionCall.connect n ∈
      (between ++ .connect call' firstTime success :: later).filterMap ConnectionAction.issued := by
    refine List.mem_filterMap.mpr ⟨.connect n true s, ?_, rfl⟩
    rw [List.mem_append, List.mem_singleton] at hmem
    rw [List.mem_append, List.mem_cons]
    exact hmem.imp_right .inl
  rw [heq, List.filterMap_append, List.filterMap_cons_some (rfl : ConnectionAction.issued _ = _)] at horder
  have htail := (List.pairwise_append.mp horder).2.1
  exact (List.pairwise_cons.mp htail).1 _ hissued

end Actions

theorem retryFirst_append {commands new : List ConnectionCommand} (h : retryFirst new = false) :
    retryFirst (commands ++ new) = retryFirst commands := by
  induction commands with
  | nil => exact h
  | cons command commands ih => cases command <;> simp [retryFirst, ih]

namespace WolkInterface

variable (w : WolkInterface)

/-- When the command of a disconnect is executed, no repeated attempt waits behind it before the next
command of a connect. -/
def NoRetryLeft (w : WolkInterface) : ConnectionEvent → Prop
  | .execute _ =>
    match w.commandBuffer with
    | .disconnect _ :: rest => retryFirst rest = false
    | _ => True
  | .connect | .disconnect | .publish | .setConnectionStatusListener _ => True

instance (w : WolkInterface) : (e : ConnectionEvent) → Decidable (w.NoRetryLeft e)
  | .execute _ =>
    have : Decidable (match w.commandBuffer with
        | .disconnect _ :: rest => retryFirst rest = false
        | _ => True) :=
      match w.commandBuffer with
      | .disconnect _ :: _ => inferInstanceAs (Decidable (_ = false))
      | [] | .tryConnect _ _ :: _ | .publish :: _ | .connectionStatusListener :: _ => isTrue trivial
    this
  | .connect | .disconnect | .publish | .setConnectionStatusListener _ => isTrue trivial

/-- The calls are executed, or wait to be, in the order of their numbers. -/
structure InOrder (w : WolkInterface) : Prop where
  fifo : w.actions.filterMap ConnectionAction.issued ++
    w.commandBuffer.filterMap ConnectionCommand.issued = w.calls
  numbered : w.calls.map ConnectionCall.number = List.range w.calls.length

/-! ## What a command does -/

/-- What the listener is told waits in the buffer. -/
def notification : List ConnectionCommand :=
  if w.connectionStatusListener then [.connectionStatusListener] else []

theorem notifyConnectionStatusListener_eq : w.notifyConnectionStatusListener =
    { w with commandBuffer := w.commandBuffer ++ w.notification } := by
  unfold notifyConnectionStatusListener notification
  split_ifs
  · rfl
  · rw [List.append_nil]

theorem notification_issued : w.notification.filterMap ConnectionCommand.issued = [] := by
  unfold notification
  split_ifs <;> rfl

theorem notification_retryFirst : retryFirst w.notification = false := by
  unfold notification
  split_ifs <;> rfl

/-- What an executed attempt leaves in the buffer. -/
def attemptLeaves (call : Nat) (success : Bool) : List ConnectionCommand :=
  if success then w.notification ++ [.publish] else [.tryConnect call false]

theorem executeCommand_tryConnect (call : Nat) (firstTime success : Bool) :
    w.executeCommand success (.tryConnect call firstTime) =
      { w with
        connected := success || w.connected
        commandBuffer := w.commandBuffer ++ w.attemptLeaves call success
        actions := w.actions ++ [.connect call firstTime success] } := by
  unfold executeCommand attemptLeaves
  cases success with
  | true =>
    dsimp only
    rw [if_pos rfl, if_pos rfl, notifyConnected, notifyConnectionStatusListener_eq, publish,
      addToCommandBuffer]
    dsimp only
    rw [List.append_assoc]
    rfl
  | false => rfl

theorem attemptLeaves_issued (call : Nat) (success : Bool) :
    (w.attemptLeaves call success).filterMap ConnectionCommand.issued = [] := by
  unfold attemptLeaves
  split_ifs
  · rw [List.filterMap_append, notification_issued]
    rfl
  · rfl

theorem executeCommand_disconnect (call : Nat) (success : Bool) :
    w.executeCommand success (.disconnect call) =
      { w with
        connected := false
        commandBuffer := w.commandBuffer ++ w.notification
        actions := w.actions ++ [.disconnect call] } := by
  unfold executeCommand notifyDisconnected
  dsimp only
  rw [notifyConnectionStatusListener_eq]
  rfl

/-- What the listener's command does: it tells of the status. -/
def told : List ConnectionAction :=
  if w.connectionStatusListener then [.connectionStatus w.connected] else []

theorem executeCommand_connectionStatusListener (success : Bool) :
    w.executeCommand success .connectionStatusListener = { w with actions := w.actions ++ w.told } := by
  change (if w.connectionStatusListener then w.act (.connectionStatus w.connected) else w) = _
  unfold told
  split_ifs
  · rfl
  · rw [List.append_nil]

variable {w} {w' : WolkInterface} {es : List ConnectionEvent}

theorem step_execute {success : Bool} (hs : w.step (.execute success) = .ok w') :
    w.commandBuffer = [] ∧ w' = w ∨ ∃ command rest, w.commandBuffer = command :: rest ∧
      w' = ({ w with commandBuffer := rest } : WolkInterface).executeCommand success command := by
  unfold step at hs
  cases hbuffer : w.commandBuffer with
  | nil =>
    rw [hbuffer] at hs
    exact .inl ⟨rfl, (Except.ok.inj hs).symm⟩
  | cons command rest =>
    rw [hbuffer] at hs
    exact .inr ⟨command, rest, rfl, (Except.ok.inj hs).symm⟩

theorem InOrder.ordered (h : w.InOrder) :
    (w.actions.filterMap ConnectionAction.issued).Pairwise fun a b => a.number < b.number := by
  have hrange : (w.calls.map ConnectionCall.number).Pairwise (· < ·) := by
    rw [h.numbered]
    exact List.pairwise_lt_range
  rw [List.pairwise_map, ← h.fifo, List.pairwise_append] at hrange
  exact hrange.1

/-! ## What a step does -/

theorem InOrder.call (h : w.InOrder) {call : ConnectionCall} {command : ConnectionCommand}
    (hnumber : call.number = w.calls.length) (hissued : command.issued = some call) :
    ({ w.addToCommandBuffer command with calls := w.calls ++ [call] } : WolkInterface).InOrder := by
  constructor
  · change List.filterMap _ w.actions ++ List.filterMap _ (w.commandBuffer ++ [command]) =
      w.calls ++ [call]
    rw [List.filterMap_append, ← List.append_assoc, h.fifo, List.filterMap_cons_some hissued]
    rfl
  · simp [h.numbered, hnumber, List.range_succ]

/-- What was issued with a command that is executed has been acted on. -/
theorem InOrder.execute {command : ConnectionCommand} {rest : List ConnectionCommand} (h : w.InOrder)
    (hbuffer : w.commandBuffer = command :: rest) {acted : List ConnectionAction}
    {new : List ConnectionCommand} (hactions : w'.actions = w.actions ++ acted)
    (hnew : w'.commandBuffer = rest ++ new) (hcalls : w'.calls = w.calls)
    (hacted : acted.filterMap ConnectionAction.issued = command.issued.toList)
    (hissued : new.filterMap ConnectionCommand.issued = []) : w'.InOrder := by
  have hfifo := h.fifo
  rw [hbuffer, List.filterMap_cons] at hfifo
  refine ⟨?_, hcalls ▸ h.numbered⟩
  rw [hactions, hnew, hcalls, ← hfifo, List.filterMap_append, List.filterMap_append, hacted, hissued,
    List.append_nil, List.append_assoc]
  cases command.issued <;> rfl

theorem InOrder.step (h : w.InOrder) {e : ConnectionEvent} (hs : w.step e = .ok w') : w'.InOrder := by
  cases e with
  | connect =>
    cases hs
    exact @InOrder.call w h (.connect w.calls.length) _ rfl rfl
  | disconnect =>
    cases hs
    exact @InOrder.call w h (.disconnect w.calls.length) _ rfl rfl
  | publish =>
    cases hs
    refine ⟨?_, h.numbered⟩
    change List.filterMap _ w.actions ++ List.filterMap _ (w.commandBuffer ++ [.publish]) = w.calls
    rw [List.filterMap_append, ← List.append_assoc, h.fifo]
    exact List.append_nil _
  | setConnectionStatusListener listener =>
    cases hs
    exact ⟨h.fifo, h.numbered⟩
  | execute success =>
    obtain ⟨-, rfl⟩ | ⟨command, rest, hbuffer, rfl⟩ := step_execute hs
    · exact h
    cases command with
    | tryConnect call firstTime =>
      rw [executeCommand_tryConnect]
      refine h.execute hbuffer rfl rfl rfl ?_ (attemptLeaves_issued _ call success)
      cases firstTime <;> rfl
    | disconnect call =>
      rw [executeCommand_disconnect]
      exact h.execute hbuffer rfl rfl rfl rfl (notification_issued _)
    | publish => exact h.execute hbuffer rfl (List.append_nil rest).symm rfl rfl rfl
    | connectionStatusListener =>
      rw [executeCommand_connectionStatusListener]
      refine h.execute hbuffer rfl (List.append_nil rest).symm rfl ?_ rfl
      unfold told
      split_ifs <;> rfl

/-- While all is quiet, the next attempt is that of a call, and the instance is disconnected. -/
structure Settled (w : WolkInterface) : Prop where
  order : w.InOrder
  quiet : quiet w.actions = true → retryFirst w.commandBuffer = false ∧ w.connected = false
  undisturbed : Undisturbed w.actions

/-- A repeated attempt was made while all was quiet, or is the next one. -/
def Restless (w : WolkInterface) : Prop :=
  ¬ Undisturbed w.actions ∨ WolkConnect.quiet w.actions = true ∧ retryFirst w.commandBuffer = true

theorem quiet_append_told : WolkConnect.quiet (w.actions ++ w.told) = WolkConnect.quiet w.actions := by
  unfold told
  split_ifs
  · simp [WolkConnect.quiet]
  · rw [List.append_nil]

theorem Settled.step (h : w.Settled) {e : ConnectionEvent} (hok : w.NoRetryLeft e)
    (hs : w.step e = .ok w') : w'.Settled := by
  have horder := h.order.step hs
  -- A step that makes no attempt adds to the buffer what is no repeated attempt.
  have hadd : ∀ command, retryFirst [command] = false →
      w'.actions = w.actions → w'.connected = w.connected →
      w'.commandBuffer = w.commandBuffer ++ [command] → w'.Settled := by
    intro command hcommand hactions hconnected hbuffer
    refine ⟨horder, ?_, hactions ▸ h.undisturbed⟩
    rw [hactions, hconnected, hbuffer, retryFirst_append hcommand]
    exact h.quiet
  cases e with
  | connect => cases hs; exact hadd _ rfl rfl rfl rfl
  | disconnect => cases hs; exact hadd _ rfl rfl rfl rfl
  | publish => cases hs; exact hadd _ rfl rfl rfl rfl
  | setConnectionStatusListener listener => cases hs; exact ⟨horder, h.quiet, h.undisturbed⟩
  | execute success =>
    obtain ⟨-, rfl⟩ | ⟨command, rest, hbuffer, rfl⟩ := step_execute hs
    · exact h
    unfold NoRetryLeft at hok
    have hquiet := h.quiet
    rw [hbuffer] at hok hquiet
    cases command with
    | tryConnect call firstTime =>
      rw [executeCommand_tryConnect] at horder ⊢
      have hloud : firstTime = false → WolkConnect.quiet w.actions = false := by
        rintro rfl
        rw [← Bool.not_eq_true]
        intro hq
        cases (hquiet hq).1
      refine ⟨horder, fun hq => ?_, h.undisturbed.append fun n s ha => hloud (by cases ha; rfl)⟩
      unfold WolkConnect.quiet at hq hloud
      rw [List.foldl_append] at hq
      cases firstTime with
      | true => cases hq
      | false => cases (hloud rfl).symm.trans hq
    | disconnect call =>
      rw [executeCommand_disconnect] at horder ⊢
      refine ⟨horder, fun _ => ⟨?_, rfl⟩, h.undisturbed.append fun n s ha => by cases ha⟩
      rw [retryFirst_append (notification_retryFirst _)]
      exact hok
    | publish =>
      refine ⟨horder, fun hq => hquiet ?_, h.undisturbed.append fun n s ha => by cases ha⟩
      simpa [WolkInterface.executeCommand, act, WolkConnect.quiet] using hq
    | connectionStatusListener =>
      rw [executeCommand_connectionStatusListener] at horder ⊢
      refine ⟨horder, fun hq => ?_, ?_⟩
      · rw [@quiet_append_told { w with commandBuffer := rest }] at hq
        exact hquiet hq
      · unfold told
        split_ifs
        · exact h.undisturbed.append fun n s ha => by cases ha
        · rw [List.append_nil]
          exact h.undisturbed

theorem restless_of_break {e : ConnectionEvent} (hok : ¬ w.NoRetryLeft e) (hs : w.step e = .ok w') :
    w'.Restless := by
  cases e with
  | connect | disconnect | publish | setConnectionStatusListener => exact absurd trivial hok
  | execute success =>
    unfold WolkInterface.step at hs
    unfold NoRetryLeft at hok
    dsimp only at hok
    split at hok
    · rename_i call rest hbuffer
      rw [hbuffer] at hs
      cases hs
      rw [executeCommand_disconnect]
      refine .inr ⟨?_, ?_⟩
      · simp [WolkConnect.quiet]
      · rw [retryFirst_append (notification_retryFirst _)]
        exact Bool.not_eq_false _ ▸ hok
    · exact absurd trivial hok

theorem Restless.step (h : w.Restless) {e : ConnectionEvent} (hs : w.step e = .ok w') : w'.Restless := by
  have hadd : ∀ command, retryFirst [command] = false → w'.actions = w.actions →
      w'.commandBuffer = w.commandBuffer ++ [command] → w'.Restless := by
    intro command hcommand hactions hbuffer
    unfold Restless
    rw [hactions, hbuffer, retryFirst_append hcommand]
    exact h
  cases e with
  | connect => cases hs; exact hadd _ rfl rfl rfl
  | disconnect => cases hs; exact hadd _ rfl rfl rfl
  | publish => cases hs; exact hadd _ rfl rfl rfl
  | setConnectionStatusListener listener => cases hs; exact h
  | execute success =>
    obtain ⟨-, rfl⟩ | ⟨command, rest, hbuffer, rfl⟩ := step_execute hs
    · exact h
    unfold Restless at h
    rw [hbuffer] at h
    cases command with
    | tryConnect call firstTime =>
      rw [executeCommand_tryConnect]
      refine .inl fun hundisturbed => ?_
      rcases h with h | ⟨hquiet, hretry⟩
      · exact h hundisturbed.of_append
      · cases firstTime with
        | true => cases hretry
        | false =>
          have hloud := hundisturbed w.actions call success [] rfl
          rw [hquiet] at hloud
          cases hloud
    | disconnect call =>
      rw [executeCommand_disconnect]
      refine h.imp (fun h hundisturbed => h hundisturbed.of_append) fun h => ⟨?_, ?_⟩
      · simp [WolkConnect.quiet]
      · rw [retryFirst_append (notification_retryFirst _)]
        exact h.2
    | publish =>
      refine h.imp (fun h hundisturbed => h hundisturbed.of_append) fun h => ⟨?_, h.2⟩
      simpa [WolkInterface.executeCommand, act, WolkConnect.quiet] using h.1
    | connectionStatusListener =>
      rw [executeCommand_connectionStatusListener]
      refine h.imp (fun h hundisturbed => h hundisturbed.of_append) fun h => ⟨?_, h.2⟩
      rw [@quiet_append_told { w with commandBuffer := rest }]
      exact h.1

theorem settled_create : create.Settled where
  order := ⟨rfl, rfl⟩
  quiet h := by cases h
  undisturbed earlier n s later h := absurd h.symm
    (List.append_ne_nil_of_right_ne_nil _ (List.cons_ne_nil _ _))

/-- The calls of any run are executed in their order. -/
theorem inOrder_of_run {ok : WolkInterface → ConnectionEvent → Prop}
    (h : Machine.Run step ok create es w) : w.InOrder :=
  h.invariant InOrder settled_create.order fun _ _ _ h _ hs => h.step hs

/-- When everything has been executed and the last call was a disconnect, all is quiet. -/
theorem quiet_of_last (h : w.InOrder) (hbuffer : w.commandBuffer = []) {number : Nat}
    (hlast : w.calls.getLast? = some (.disconnect number)) : WolkConnect.quiet w.actions = true := by
  have hfifo := h.fifo
  rw [hbuffer, List.filterMap_nil, List.append_nil] at hfifo
  rw [← hfifo] at hlast
  generalize w.actions = actions at hlast
  induction actions using List.reverseRecOn with
  | nil => cases hlast
  | append_singleton actions a ih =>
    rw [List.filterMap_append] at hlast
    unfold WolkConnect.quiet at ih ⊢
    rw [List.foldl_append]
    match a, hlast with
    | .disconnect _, _ => rfl
    | .connect _ true _, hlast => simp [ConnectionAction.issued] at hlast
    | .connect _ false _, hlast => exact ih (by simpa [ConnectionAction.issued] using hlast)
    | .flush, hlast => exact ih (by simpa [ConnectionAction.issued] using hlast)
    | .connectionStatus _, hlast => exact ih (by simpa [ConnectionAction.issued] using hlast)

/-- No attempt follows a disconnect before a later connect, and after a last disconnect the instance
is disconnected. -/
def DisconnectIsFinal (w : WolkInterface) : Prop :=
  Final w.actions ∧
    ∀ number, w.calls.getLast? = some (.disconnect number) → w.commandBuffer = [] → w.connected = false

/-- **A disconnect is final.** It is in every run in which no repeated attempt is left behind the
command of a disconnect, and, of the runs at whose end all commands have been executed, in no
others. -/
theorem disconnect_is_final (hrun : Machine.Run step (fun _ _ => True) create es w) :
    (Machine.Run step NoRetryLeft create es w → w.DisconnectIsFinal) ∧
      (w.commandBuffer = [] →
        (w.DisconnectIsFinal ↔ Machine.Run step NoRetryLeft create es w)) := by
  have hsettled : w.Settled → w.DisconnectIsFinal := by
    intro h
    refine ⟨h.undisturbed.final h.order.ordered, fun number hlast hbuffer => ?_⟩
    exact (h.quiet (quiet_of_last h.order hbuffer hlast)).2
  refine ⟨fun hmeets => hsettled ?_, fun hbuffer => ?_⟩
  · exact hmeets.invariant Settled settled_create fun _ _ _ h hok hs => h.step hok hs
  · refine hrun.iff_meets Settled Restless settled_create (fun _ _ _ h hok hs => h.step hok hs)
      (fun _ _ _ _ _ hok hs => restless_of_break hok hs) (fun _ _ _ h _ hs => h.step hs) hsettled ?_
    rintro (h | ⟨-, h⟩) hfinal
    · exact h hfinal.1.undisturbed
    · rw [hbuffer] at h
      cases h

/-! ## Runs -/

/-- The first attempt fails, the second succeeds, and then the user disconnects. -/
theorem disconnect_is_final_sample : ∃ w : WolkInterface, w.DisconnectIsFinal ∧
    w.actions = [.connect 0 true false, .connect 0 false true, .flush, .disconnect 1] := by
  obtain ⟨w, hrun, hactions⟩ := Machine.Run.exists_of_check step NoRetryLeft create
    [.connect, .execute false, .execute true, .disconnect, .execute true, .execute true]
    actions [.connect 0 true false, .connect 0 false true, .flush, .disconnect 1] (by decide +kernel)
  exact ⟨w, (disconnect_is_final (hrun.mono fun _ _ _ => trivial)).1 hrun, hactions⟩

/-- The user disconnects while an attempt is being made. It fails, comes back behind the command of the
disconnect, and connects. -/
theorem connected_after_disconnect : ∃ w : WolkInterface,
    Machine.Run step (fun _ _ => True) create
      [.connect, .disconnect, .execute false, .execute true, .execute true, .execute true] w ∧
    w.commandBuffer = [] ∧ ¬ w.DisconnectIsFinal := by
  obtain ⟨w, hrun, hw⟩ := Machine.Run.exists_of_check step (fun _ _ => True) create
    [.connect, .disconnect, .execute false, .execute true, .execute true, .execute true]
    (fun w => (w.commandBuffer, w.calls, w.connected)) ([], [.connect 0, .disconnect 1], true)
    (by decide +kernel)
  obtain ⟨hbuffer, hcalls, hconnected⟩ := Prod.mk.injEq .. ▸ (Prod.mk.injEq .. ▸ hw)
  refine ⟨w, hrun, hbuffer, fun hfinal => ?_⟩
  have hoff := hfinal.2 1 (by rw [hcalls]; rfl) hbuffer
  rw [hconnected] at hoff
  cases hoff

end WolkInterface

end WolkConnect
