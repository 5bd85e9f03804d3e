import WolkConnect.Data.System

/-!
# Responses and the registration of callbacks

`synchronizeParameters` and `detailsSynchronizationAsync` in two steps each: the
request goes out, and the callback is registered. Messages are handled in between.
-/

namespace WolkConnect

inductive RequestEvent
  /-- `synchronizeParameters` up to the lock. -/
  | publish (deviceKey : String) (parameters : List ParameterName)
  | subscribe (call : Call)
  /-- `detailsSynchronizationAsync` up to the lock. -/
  | addMessage (deviceKey : String)
  | pushCallback (call : Call)
  | giveUp (call : Call)
  | receive (deviceKey : String) (message : DataService.Inbound)
  | runCommand

/-- `subscribing` and `pushing` are the calls between their two steps, `parametersSent` and
`detailsSent` those whose requests are out and not answered, in order, and `answers` the callbacks
that the responses are for, with what they bring. -/
structure RequestSystem extends DataSystem where
  subscribing : List Call
  pushing : List Call
  parametersSent : List Call
  detailsSent : List Call
  answers : List (DataCommand Call)

namespace RequestSystem

variable (ctx : DataContext) (sys : RequestSystem)

def create (persistence : Persistence) : RequestSystem := ⟨.create persistence, [], [], [], [], []⟩

def publish (deviceKey : String) (parameters : List ParameterName) : RequestSystem :=
  let call := sys.nextCall deviceKey parameters
  let sent := sys.svc.send ctx deviceKey (.synchronizeParameters parameters)
  if sent.1 = .published then
    { sys with
      svc := sent.2
      calls := sys.calls ++ [call]
      subscribing := sys.subscribing ++ [call]
      parametersSent := sys.parametersSent ++ [call] }
  else { sys with svc := sent.2 }

def subscribe (call : Call) : RequestSystem :=
  if call ∈ sys.subscribing then
    { sys with
      svc := sys.svc.subscribe call.parameters call
      subscribing := sys.subscribing.erase call }
  else sys

def addMessage (deviceKey : String) : RequestSystem :=
  let call := sys.nextCall deviceKey []
  if ctx.makeOutboundMessage sys.svc.sends.length deviceKey .detailsSynchronizationRequest then
    { sys with
      svc := sys.svc.addMessage deviceKey
      calls := sys.calls ++ [call]
      pushing := sys.pushing ++ [call]
      detailsSent := sys.detailsSent ++ [call] }
  else
    { sys with
      svc := { sys.svc with sends :=
        sys.svc.sends ++ [⟨deviceKey, .detailsSynchronizationRequest, .unserialisable⟩] } }

def pushCallback (call : Call) : RequestSystem :=
  if call ∈ sys.pushing then
    { sys with svc := sys.svc.pushCallback call, pushing := sys.pushing.erase call }
  else sys

/-- The call that a message of the device answers: the oldest that its device made and that waits for
what the message brings. -/
def answered (deviceKey : String) (message : DataService.Inbound) : Option Call :=
  if deviceKey = "" then none
  else
    match message with
    | .parameterSync values =>
      sys.parametersSent.find? fun call => call.deviceKey = deviceKey ∧ call.awaits values
    | .detailsSynchronizationResponse _ =>
      sys.detailsSent.find? fun call => call.deviceKey = deviceKey
    | .feedValues _ | .other => none

/-- The callback of the call with what the message brings. -/
def answer (call : Call) (deviceKey : String) : DataService.Inbound → List (DataCommand Call)
  | .parameterSync values => [.parameters call deviceKey values]
  | .detailsSynchronizationResponse message =>
    [.details call deviceKey message.feeds message.attributes]
  | .feedValues _ | .other => []

def receive (deviceKey : String) (message : DataService.Inbound) : RequestSystem :=
  let svc := sys.svc.messageReceived ctx deviceKey message
  match sys.answered deviceKey message with
  | none => { sys with svc := svc }
  | some call =>
    { sys with
      svc := svc
      parametersSent := sys.parametersSent.erase call
      detailsSent := sys.detailsSent.erase call
      answers := sys.answers ++ answer call deviceKey message }

def step (sys : RequestSystem) : RequestEvent → Except Empty RequestSystem
  | .publish deviceKey parameters => .ok (sys.publish ctx deviceKey parameters)
  | .subscribe call => .ok (sys.subscribe call)
  | .addMessage deviceKey => .ok (sys.addMessage ctx deviceKey)
  | .pushCallback call => .ok (sys.pushCallback call)
  | .giveUp call => .ok { sys with detailsSent := sys.detailsSent.erase call }
  | .receive deviceKey message => .ok (sys.receive ctx deviceKey message)
  | .runCommand => .ok { sys with toDataSystem := sys.runCommand }

/-- When a response comes, the call that it answers has registered its callback, and no callback that
was registered before waits for it too. -/
def Registered (sys : RequestSystem) : RequestEvent → Prop
  | .receive deviceKey message => ∀ call ∈ sys.answered deviceKey message,
    match message with
    | .parameterSync values => ∃ e ∈ sys.svc.parameterSubscriptions.entries, e.2.callback = call ∧
        ∀ f ∈ sys.svc.parameterSubscriptions.entries, f.1 < e.1 → f.2.awaits values = false
    | .detailsSynchronizationResponse _ => sys.svc.detailsCallbacks.head? = some call
    | .feedValues _ | .other => True
  | .publish _ _ | .subscribe _ | .addMessage _ | .pushCallback _ | .giveUp _ | .runCommand => True

instance (sys : RequestSystem) : (e : RequestEvent) → Decidable (sys.Registered e)
  | .receive _ (.parameterSync _) => inferInstanceAs (Decidable (∀ call ∈ _, ∃ e ∈ _, _))
  | .receive _ (.detailsSynchronizationResponse _) =>
    inferInstanceAs (Decidable (∀ call ∈ _, _ = some call))
  | .receive _ (.feedValues _) | .receive _ .other => isTrue fun _ _ => trivial
  | .publish _ _ | .subscribe _ | .addMessage _ | .pushCallback _ | .giveUp _ | .runCommand =>
    isTrue trivial

variable {ctx sys} {sys' : RequestSystem}

/-- The two steps of a call, one after the other, are the call. -/
theorem publish_subscribe (ctx : DataContext) (sys : RequestSystem) (d : String)
    (parameters : List ParameterName)
    (hsent : (sys.svc.synchronizeParameters ctx d parameters
      (some (sys.nextCall d parameters))).1 = true) :
    ((sys.publish ctx d parameters).subscribe (sys.nextCall d parameters)).svc =
      (sys.svc.synchronizeParameters ctx d parameters (some (sys.nextCall d parameters))).2 := by
  rcases DataService.synchronizeParameters_cases ctx sys.svc d parameters
    (some (sys.nextCall d parameters)) with ⟨call, hcall, -, hsvc⟩ | ⟨hnone | hrefused, -⟩
  · have hpublished : (sys.svc.send ctx d (.synchronizeParameters parameters)).1 = .published := by
      by_contra hrefused
      rw [DataService.synchronizeParameters, if_neg hrefused] at hsent
      exact Bool.false_ne_true hsent
    rw [hsvc, RequestSystem.publish, if_pos hpublished, RequestSystem.subscribe,
      if_pos (List.mem_append_right _ List.mem_cons_self)]
    rw [← Option.some.inj hcall]
    rfl
  · exact absurd hnone (Option.some_ne_none _)
  · rw [hsent] at hrefused
    exact absurd hrefused.symm Bool.false_ne_true

theorem addMessage_pushCallback (ctx : DataContext) (sys : RequestSystem) (d : String)
    (hsent : (sys.svc.detailsSynchronizationAsync ctx d (some (sys.nextCall d []))).1 = true) :
    ((sys.addMessage ctx d).pushCallback (sys.nextCall d [])).svc =
      (sys.svc.detailsSynchronizationAsync ctx d (some (sys.nextCall d []))).2 := by
  have hmade : ctx.makeOutboundMessage sys.svc.sends.length d .detailsSynchronizationRequest := by
    by_contra hmade
    rw [DataService.detailsSynchronizationAsync, if_neg hmade] at hsent
    exact Bool.false_ne_true hsent
  rw [DataService.detailsSynchronizationAsync, if_pos hmade, RequestSystem.addMessage,
    if_pos hmade, RequestSystem.pushCallback,
    if_pos (List.mem_append_right _ List.mem_cons_self)]

/-- Subscriptions have the names of their calls, and the answers have been queued. -/
structure Answering (sys : RequestSystem) : Prop where
  names : ∀ k s, sys.svc.parameterSubscriptions.find? k = some s →
    s.parameters = s.callback.parameters
  answered : sys.answers.Sublist sys.commands

theorem Answering.congr (h : sys.Answering) (hanswers : sys'.answers = sys.answers)
    (hcommands : sys'.commands = sys.commands)
    (hmap : sys'.svc.parameterSubscriptions = sys.svc.parameterSubscriptions) : sys'.Answering where
  names := hmap ▸ h.names
  answered := hanswers ▸ hcommands ▸ h.answered

theorem Answering.subscribe (h : sys.Answering) (call : Call) : (sys.subscribe call).Answering := by
  unfold RequestSystem.subscribe
  split_ifs
  · refine ⟨fun k s hs => ?_, h.answered⟩
    rcases DataService.find?_subscribe hs with hs | ⟨-, -, rfl⟩
    · exact h.names k s hs
    · rfl
  · exact h

/-- The answer is queued as soon as the response is handled. -/
theorem Answering.commandBuffer (h : sys.Answering) {d : String} {message : DataService.Inbound}
    (hok : sys.Registered (.receive d message)) {call : Call} (hcall : sys.answered d message = some call) :
    (sys.svc.messageReceived ctx d message).commandBuffer =
      sys.svc.commandBuffer ++ answer call d message := by
  have hcondition := hok call hcall
  unfold RequestSystem.answered at hcall
  split_ifs at hcall with hd
  cases message with
  | parameterSync values =>
    obtain ⟨⟨k, s⟩, hmem, rfl, hfirst⟩ := hcondition
    have hs := OrderedMap.find?_eq_some.mpr hmem
    have hawaits : s.awaits values = true := by
      have hfound := List.find?_some (p := _) hcall
      rw [Call.awaits, ← h.names k s hs] at hfound
      exact (of_decide_eq_true hfound).2
    have hfind : sys.svc.findSubscription values = some (k, s) :=
      DataService.findSubscription_eq_some.mpr
        ⟨hs, hawaits, fun j t hlt ht => hfirst (j, t) (OrderedMap.find?_eq_some.mp ht) hlt⟩
    rcases DataService.messageReceived_parameterSync ctx sys.svc hd values with
      ⟨k', s', hfind', hsvc⟩ | ⟨hnone, -⟩
    · rw [hfind] at hfind'
      cases hfind'
      rw [hsvc]
      rfl
    · rw [hfind] at hnone
      cases hnone
  | detailsSynchronizationResponse response =>
    rcases DataService.messageReceived_details ctx sys.svc hd response with
      ⟨c, rest, hqueue, hsvc⟩ | ⟨hqueue, -⟩
    · dsimp only at hcondition
      rw [hqueue] at hcondition
      cases hcondition
      rw [hsvc]
      rfl
    · dsimp only at hcondition
      rw [hqueue] at hcondition
      cases hcondition
  | feedValues readings => cases hcall
  | other => cases hcall

theorem messageReceived_subscriptions (ctx : DataContext) (svc : DataService Call) (d : String)
    (message : DataService.Inbound) {k : Nat} {s : ParameterSubscription Call}
    (h : (svc.messageReceived ctx d message).parameterSubscriptions.find? k = some s) :
    svc.parameterSubscriptions.find? k = some s := by
  rcases DataService.messageReceived_cases ctx svc d message with
    ⟨_, j, _, -, -, hsvc⟩ | ⟨_, _, _, -, -, hsvc⟩ | ⟨_, hsvc⟩
  · rw [hsvc, OrderedMap.find?_erase] at h
    split_ifs at h
    exact h
  · rw [hsvc] at h
    exact h
  · rw [hsvc] at h
    exact h

theorem commandBuffer_grows (ctx : DataContext) (svc : DataService Call) (d : String)
    (message : DataService.Inbound) :
    svc.commandBuffer <+: (svc.messageReceived ctx d message).commandBuffer := by
  rcases DataService.messageReceived_cases ctx svc d message with
    ⟨values, _, s, -, -, hsvc⟩ | ⟨response, c, _, -, -, hsvc⟩ | ⟨_, hsvc⟩
  · rw [hsvc]
    exact List.prefix_append _ _
  · rw [hsvc]
    exact List.prefix_append _ _
  · exact hsvc ▸ List.prefix_rfl

theorem Answering.receive (h : sys.Answering) {d : String} {message : DataService.Inbound}
    (hok : sys.Registered (.receive d message)) : (sys.receive ctx d message).Answering := by
  have hnames : ∀ k s, (sys.svc.messageReceived ctx d message).parameterSubscriptions.find? k = some s →
      s.parameters = s.callback.parameters :=
    fun k s hs => h.names k s (messageReceived_subscriptions ctx sys.svc d message hs)
  unfold RequestSystem.receive
  rcases Option.eq_none_or_eq_some (sys.answered d message) with hnone | ⟨call, hcall⟩
  · rw [hnone]
    refine ⟨hnames, h.answered.trans ?_⟩
    exact (List.Sublist.refl sys.executed).append
      (commandBuffer_grows ctx sys.svc d message).sublist
  · rw [hcall]
    refine ⟨hnames, ?_⟩
    have hbuffer : (sys.svc.messageReceived ctx d message).commandBuffer = _ :=
      h.commandBuffer hok hcall
    rw [DataSystem.commands, hbuffer, ← List.append_assoc]
    exact h.answered.append (.refl _)

theorem Answering.publish (h : sys.Answering) (d : String) (parameters : List ParameterName) :
    (sys.publish ctx d parameters).Answering := by
  unfold RequestSystem.publish
  dsimp only
  split_ifs <;> exact h.congr rfl rfl rfl

theorem Answering.addMessage (h : sys.Answering) (d : String) : (sys.addMessage ctx d).Answering := by
  unfold RequestSystem.addMessage
  dsimp only
  split_ifs <;> exact h.congr rfl rfl rfl

theorem Answering.pushCallback (h : sys.Answering) (call : Call) :
    (sys.pushCallback call).Answering := by
  unfold RequestSystem.pushCallback
  split_ifs <;> exact h.congr rfl rfl rfl

theorem Answering.runCommand (h : sys.Answering) :
    Answering { sys with toDataSystem := sys.runCommand } := by
  refine h.congr rfl sys.commands_runCommand ?_
  unfold DataSystem.runCommand
  split <;> rfl

theorem Answering.step {e : RequestEvent} (h : sys.Answering) (hok : sys.Registered e)
    (hstep : sys.step ctx e = .ok sys') : sys'.Answering := by
  cases e with
  | publish d parameters =>
    cases hstep
    exact h.publish d parameters
  | subscribe call =>
    cases hstep
    exact h.subscribe call
  | addMessage d =>
    cases hstep
    exact h.addMessage d
  | pushCallback call =>
    cases hstep
    exact h.pushCallback call
  | giveUp call =>
    cases hstep
    exact h.congr rfl rfl rfl
  | receive d message =>
    cases hstep
    exact h.receive hok
  | runCommand =>
    cases hstep
    exact h.runCommand

theorem answering_create (persistence : Persistence) : (create persistence).Answering where
  names k s h := by
    simp [create, DataSystem.create, DataService.create, OrderedMap.find?_empty] at h
  answered := .refl _

/-- **Responses find their callback.** In every run in which a call has registered its callback, before
any other that waits for the same, by the time its response comes, the responses queue the callbacks
of the calls that they answer, in order and with their values. -/
theorem responses_queue_callbacks {persistence : Persistence} {es : List RequestEvent}
    (hrun : Machine.Run (step ctx) Registered (create persistence) es sys) :
    sys.answers.Sublist sys.commands := by
  have hinv : sys.Answering :=
    hrun.invariant Answering (answering_create _) fun _ _ _ h hok hs => h.step hok hs
  exact hinv.answered

theorem responses_queue_callbacks_sample : ∃ sys : RequestSystem,
    sys.answers.Sublist sys.commands ∧
      sys.answers =
        [.parameters ⟨0, "a", [.firmwareUpdateRepository]⟩ "a" [(.firmwareUpdateRepository, "u")],
        .details ⟨1, "b", []⟩ "b" ["T"] []] := by
  obtain ⟨sys, hrun, hanswers⟩ := Machine.Run.exists_of_check (step reliable) Registered
    (create .empty) [.publish "a" [.firmwareUpdateRepository], .addMessage "b",
      .subscribe ⟨0, "a", [.firmwareUpdateRepository]⟩, .pushCallback ⟨1, "b", []⟩,
      .receive "a" (.parameterSync [(.firmwareUpdateRepository, "u")]), .runCommand,
      .receive "b" (.detailsSynchronizationResponse ⟨["T"], []⟩)] (fun sys => sys.answers)
    [.parameters ⟨0, "a", [.firmwareUpdateRepository]⟩ "a" [(.firmwareUpdateRepository, "u")],
      .details ⟨1, "b", []⟩ "b" ["T"] []] (by decide +kernel)
  exact ⟨sys, responses_queue_callbacks hrun, hanswers⟩

/-- The values come after the request has been published and before the callback is subscribed. -/
theorem response_overtakes : ∃ sys : RequestSystem,
    Machine.Run (step reliable) (fun _ _ => True) (create .empty)
      [.publish "a" [.firmwareUpdateRepository],
        .receive "a" (.parameterSync [(.firmwareUpdateRepository, "u")]),
        .subscribe ⟨0, "a", [.firmwareUpdateRepository]⟩] sys ∧
      ¬ sys.answers.Sublist sys.commands := by
  obtain ⟨sys, hrun, hlists⟩ := Machine.Run.exists_of_check (step reliable) (fun _ _ => True)
    (create .empty) [.publish "a" [.firmwareUpdateRepository],
      .receive "a" (.parameterSync [(.firmwareUpdateRepository, "u")]),
      .subscribe ⟨0, "a", [.firmwareUpdateRepository]⟩] (fun sys => (sys.answers, sys.commands))
    ([.parameters ⟨0, "a", [.firmwareUpdateRepository]⟩ "a" [(.firmwareUpdateRepository, "u")]], [])
    (by decide +kernel)
  refine ⟨sys, hrun, fun h => ?_⟩
  obtain ⟨hanswers, hcommands⟩ := Prod.mk.inj hlists
  rw [hanswers, hcommands, List.sublist_nil] at h
  exact List.cons_ne_nil _ _ h

end RequestSystem

end WolkConnect
