import WolkConnect.Lib.Run
import WolkConnect.Data.Model

/-!
# Requests that wait for their responses

A callback is known by the call that it was given to. What one handled message does
to the waiting callbacks is said once here, for the systems built over the service.
-/

namespace WolkConnect

/-- A call with a callback, in the order of the calls. `parameters` are the names it asked for. -/
structure Call where
  serial : Nat
  deviceKey : String
  parameters : List ParameterName
  deriving DecidableEq

/-- Whether the values are those that the call asked for. -/
def Call.awaits (call : Call) (values : List Parameter) : Bool :=
  (ParameterSubscription.mk call.parameters call).awaits values

def DataCommand.callback {ρ : Type} : DataCommand ρ → ρ
  | parameters callback _ _ | details callback _ _ _ => callback

namespace DataService

variable {ρ : Type} {ctx : DataContext} {svc : DataService ρ} {d : String}

theorem checkIfSubscriptionIsWaiting_none {values : List Parameter}
    (h : svc.findSubscription values = none) :
    svc.checkIfSubscriptionIsWaiting d values = (false, svc) := by
  rw [checkIfSubscriptionIsWaiting, h]

theorem checkIfSubscriptionIsWaiting_some {values : List Parameter} {k : Nat}
    {s : ParameterSubscription ρ} (h : svc.findSubscription values = some (k, s)) :
    svc.checkIfSubscriptionIsWaiting d values = (true,
      { svc with
        parameterSubscriptions := svc.parameterSubscriptions.erase k
        commandBuffer := svc.commandBuffer ++ [.parameters s.callback d values] }) := by
  rw [checkIfSubscriptionIsWaiting, h]
  rfl

theorem messageReceived_parameterSync (ctx : DataContext) (svc : DataService ρ) (hd : d ≠ "")
    (values : List Parameter) :
    (∃ k subscription, svc.findSubscription values = some (k, subscription) ∧
      svc.messageReceived ctx d (.parameterSync values) =
        { svc with
          parameterSubscriptions := svc.parameterSubscriptions.erase k
          commandBuffer := svc.commandBuffer ++ [.parameters subscription.callback d values] }) ∨
    (svc.findSubscription values = none ∧
      svc.messageReceived ctx d (.parameterSync values) =
        { svc with
          handled := svc.handled ++
            if ctx.parameterSyncHandler then [.parameterSync d values] else [] }) := by
  simp only [messageReceived, if_neg hd]
  rcases Option.eq_none_or_eq_some (svc.findSubscription values) with hnone | ⟨⟨k, s⟩, hsome⟩
  · rw [checkIfSubscriptionIsWaiting_none hnone]
    refine Or.inr ⟨hnone, ?_⟩
    cases ctx.parameterSyncHandler <;> simp
  · rw [checkIfSubscriptionIsWaiting_some hsome]
    exact Or.inl ⟨k, s, hsome, rfl⟩

theorem messageReceived_details (ctx : DataContext) (svc : DataService ρ) (hd : d ≠ "")
    (message : DetailsSynchronizationResponseMessage) :
    (∃ callback rest, svc.detailsCallbacks = callback :: rest ∧
      svc.messageReceived ctx d (.detailsSynchronizationResponse message) =
        { svc with
          detailsCallbacks := rest
          commandBuffer :=
            svc.commandBuffer ++ [.details callback d message.feeds message.attributes] }) ∨
    (svc.detailsCallbacks = [] ∧
      svc.messageReceived ctx d (.detailsSynchronizationResponse message) =
        { svc with
          handled := svc.handled ++
            if ctx.detailsSyncHandler then [.detailsSync d message.feeds message.attributes]
            else [] }) := by
  simp only [messageReceived, if_neg hd]
  by_cases hnil : svc.detailsCallbacks = []
  · have hcheck : svc.checkIfCallbackIsWaiting d message = (false, svc) := by
      rw [checkIfCallbackIsWaiting, hnil]
    rw [hcheck]
    refine Or.inr ⟨hnil, ?_⟩
    cases ctx.detailsSyncHandler <;> simp
  · obtain ⟨callback, rest, hcons⟩ := List.exists_cons_of_ne_nil hnil
    have hcheck : svc.checkIfCallbackIsWaiting d message = (true,
        { svc with
          detailsCallbacks := rest
          commandBuffer :=
            svc.commandBuffer ++ [.details callback d message.feeds message.attributes] }) := by
      rw [checkIfCallbackIsWaiting, hcons]
      rfl
    rw [hcheck]
    exact Or.inl ⟨callback, rest, hcons, rfl⟩

/-- What a handled message does: it answers a subscription or a callback that waits for details, or
nothing but the handlers hears of it. -/
theorem messageReceived_cases (ctx : DataContext) (svc : DataService ρ) (d : String)
    (message : Inbound) :
    (∃ values k subscription, message = .parameterSync values ∧
      svc.findSubscription values = some (k, subscription) ∧
      svc.messageReceived ctx d message =
        { svc with
          parameterSubscriptions := svc.parameterSubscriptions.erase k
          commandBuffer := svc.commandBuffer ++ [.parameters subscription.callback d values] }) ∨
    (∃ response callback rest, message = .detailsSynchronizationResponse response ∧
      svc.detailsCallbacks = callback :: rest ∧
      svc.messageReceived ctx d message =
        { svc with
          detailsCallbacks := rest
          commandBuffer :=
            svc.commandBuffer ++ [.details callback d response.feeds response.attributes] }) ∨
    ∃ handled, svc.messageReceived ctx d message = { svc with handled := handled } := by
  by_cases hd : d = ""
  · exact Or.inr (Or.inr ⟨svc.handled, if_pos hd⟩)
  cases message with
  | parameterSync values =>
    rcases messageReceived_parameterSync ctx svc hd values with ⟨k, s, hfind, hsvc⟩ | ⟨-, hsvc⟩
    · exact Or.inl ⟨values, k, s, rfl, hfind, hsvc⟩
    · exact Or.inr (Or.inr ⟨_, hsvc⟩)
  | detailsSynchronizationResponse response =>
    rcases messageReceived_details ctx svc hd response with ⟨c, rest, hqueue, hsvc⟩ | ⟨-, hsvc⟩
    · exact Or.inr (Or.inl ⟨response, c, rest, rfl, hqueue, hsvc⟩)
    · exact Or.inr (Or.inr ⟨_, hsvc⟩)
  | feedValues readings =>
    refine Or.inr (Or.inr ?_)
    simp only [messageReceived, if_neg hd]
    split_ifs
    · exact ⟨_, rfl⟩
    · exact ⟨svc.handled, rfl⟩
  | other => exact Or.inr (Or.inr ⟨svc.handled, if_neg hd⟩)

theorem findSubscription_eq_some {values : List Parameter} {k : Nat} {s : ParameterSubscription ρ} :
    svc.findSubscription values = some (k, s) ↔
      svc.parameterSubscriptions.find? k = some s ∧ s.awaits values = true ∧
        ∀ j t, j < k → svc.parameterSubscriptions.find? j = some t → t.awaits values = false :=
  OrderedMap.find?_entries_iff

/-- A call of `synchronizeParameters` that succeeds with a callback subscribes it. -/
theorem synchronizeParameters_cases (ctx : DataContext) (svc : DataService ρ) (d : String)
    (parameters : List ParameterName) (callback : Option ρ) :
    (∃ c, callback = some c ∧ (svc.synchronizeParameters ctx d parameters callback).1 = true ∧
      (svc.synchronizeParameters ctx d parameters callback).2 =
        (svc.send ctx d (.synchronizeParameters parameters)).2.subscribe parameters c) ∨
    ((callback = none ∨ (svc.synchronizeParameters ctx d parameters callback).1 = false) ∧
      (svc.synchronizeParameters ctx d parameters callback).2 =
        (svc.send ctx d (.synchronizeParameters parameters)).2) := by
  unfold synchronizeParameters
  by_cases hsent : (svc.send ctx d (.synchronizeParameters parameters)).1 = .published
  · simp only [if_pos hsent]
    cases callback with
    | none => exact Or.inr ⟨Or.inl rfl, rfl⟩
    | some c => exact Or.inl ⟨c, rfl, rfl, rfl⟩
  · simp only [if_neg hsent]
    exact Or.inr ⟨Or.inr trivial, trivial⟩

theorem find?_subscribe {parameters : List ParameterName} {callback : ρ}
    {k : Nat} {s : ParameterSubscription ρ}
    (h : (svc.subscribe parameters callback).parameterSubscriptions.find? k = some s) :
    svc.parameterSubscriptions.find? k = some s ∨
      svc.parameterSubscriptions.find? k = none ∧ k = svc.iterator ∧ s = ⟨parameters, callback⟩ := by
  simp only [subscribe] at h
  by_cases hfree : svc.parameterSubscriptions.find? svc.iterator = none
  · rw [OrderedMap.find?_emplace_of_none _ _ hfree] at h
    split_ifs at h with hk
    · exact Or.inr ⟨hk ▸ hfree, hk.symm, (Option.some.inj h).symm⟩
    · exact Or.inl h
  · rw [OrderedMap.emplace, if_pos (Option.isSome_iff_ne_none.mpr hfree)] at h
    exact Or.inl h

end DataService

/-! ## The calls and the commands of a system -/

/-- `calls` are the calls that were made with a callback and got their request out, and `executed`
the commands that have been run. -/
structure DataSystem where
  svc : DataService Call
  calls : List Call
  executed : List (DataCommand Call)

namespace DataSystem

variable (sys : DataSystem)

def create (persistence : Persistence) : DataSystem := ⟨.create persistence, [], []⟩

/-- All commands that have been queued. -/
def commands : List (DataCommand Call) := sys.executed ++ sys.svc.commandBuffer

/-- The command buffer runs its first command. -/
def runCommand : DataSystem :=
  match sys.svc.commandBuffer with
  | [] => sys
  | command :: rest =>
    { sys with
      svc := { sys.svc with commandBuffer := rest }
      executed := sys.executed ++ [command] }

theorem commands_runCommand : sys.runCommand.commands = sys.commands := by
  unfold runCommand commands
  cases h : sys.svc.commandBuffer with
  | nil => simp [h]
  | cons command rest => simp

/-- The name of the next call. -/
def nextCall (deviceKey : String) (parameters : List ParameterName) : Call :=
  ⟨sys.calls.length, deviceKey, parameters⟩

end DataSystem

end WolkConnect
