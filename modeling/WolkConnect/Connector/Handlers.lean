import WolkConnect.Connector.Devices

/-!
# Who hears of feed updates and parameters

The data service hears a message in one thread, and the command buffer hands it to the handler
that the builder was given. Of the two setters for a handler, the last call counts.
-/

namespace WolkConnect

namespace HandlerSetting

variable {η : Type}

def handler : HandlerSetting η → Option η
  | .lambda f => f
  | .provider p => p

/-- The object behind a provider may be gone by the time it is called. -/
def isProvider : HandlerSetting η → Bool
  | .lambda _ => false
  | .provider _ => true

end HandlerSetting

/-- The handler of a builder after calls of its setters. -/
def Handler.configured {η : Type} (settings : List (HandlerSetting η)) : Handler η :=
  settings.foldl Handler.set .unset

/-- Who is given in the last call of a setter. -/
def lastHandler {η : Type} (settings : List (HandlerSetting η)) : Option η :=
  settings.getLast?.bind HandlerSetting.handler

/-- The last call of a setter gave a provider. -/
def lastIsProvider {η : Type} (settings : List (HandlerSetting η)) : Bool :=
  settings.getLast?.any HandlerSetting.isProvider

/-- Who is called: the last one that was set, or nobody once it has expired. -/
theorem Handler.target_configured {η : Type} (settings : List (HandlerSetting η)) (expired : Bool) :
    ((Handler.configured settings).expireIf expired).target =
      if expired && lastIsProvider settings then none else lastHandler settings := by
  rcases List.eq_nil_or_concat settings with rfl | ⟨init, setting, rfl⟩
  · cases expired <;> rfl
  · rw [List.concat_eq_append, configured, List.foldl_append, lastHandler, lastIsProvider,
      List.getLast?_append, List.getLast?_singleton]
    cases setting with
    | lambda lambda => cases expired <;> rfl
    | provider provider => cases provider <;> cases expired <;> rfl

/-- The event after which the provider of the handler for a call is gone. -/
def HandlerCall.expiry {ρ φ : Type} {type : WolkInterfaceType} : HandlerCall → WolkClientEvent ρ φ type
  | .feedUpdate _ _ => .feedUpdateHandlerExpired
  | .parameterSync _ _ | .detailsSync _ _ _ => .parameterHandlerExpired

namespace Connector

variable {ρ φ η : Type} {type : WolkInterfaceType} {ctx : ConnectorContext φ}
  {w w' init : Connector ρ φ η type} {es : List (WolkClientEvent ρ φ type)}

/-- The calls of handlers that an event leads to: feed updates are heard of, and parameters for which no
subscription waits, unless the message has no device key. -/
def heard (w : Connector ρ φ η type) : WolkClientEvent ρ φ type → List HandlerCall
  | .messageReceived d (.feedValues readings) => if d = "" then [] else [.feedUpdate d readings]
  | .messageReceived d (.parameterSync values) =>
    if d = "" ∨ (w.dataService.findSubscription values).isSome then [] else [.parameterSync d values]
  | _ => []

def heardIn (ctx : ConnectorContext φ) (init : Connector ρ φ η type)
    (es : List (WolkClientEvent ρ φ type)) : List HandlerCall :=
  Machine.gathered (step ctx) heard init es

/-- The calls that wait. -/
def waitingCalls (w : Connector ρ φ η type) : List HandlerCall :=
  w.commandBuffer.flatMap ConnectorCommand.handlerCalls

theorem notification_handlerCalls (w : Connector ρ φ η type) :
    w.notification.flatMap ConnectorCommand.handlerCalls = [] := by
  unfold notification
  split_ifs <;> rfl

theorem hears_forwarded (svc : DataService ρ) (d : String) (message : DataService.Inbound) :
    ((svc.hears d message).flatMap HandlerCall.command).flatMap
      (ConnectorCommand.handlerCalls : ConnectorCommand ρ φ → _) =
        match message with
        | .feedValues readings => if d = "" then [] else [.feedUpdate d readings]
        | .parameterSync values =>
          if d = "" ∨ (svc.findSubscription values).isSome then [] else [.parameterSync d values]
        | _ => [] := by
  cases message with
  | feedValues readings =>
    change ((ite (d = "") _ _ : List HandlerCall).flatMap HandlerCall.command).flatMap _ =
      ite (d = "") _ _
    split_ifs <;> rfl
  | parameterSync values =>
    change ((ite (d = "" ∨ _) _ _ : List HandlerCall).flatMap HandlerCall.command).flatMap _ =
      ite (d = "" ∨ _) _ _
    split_ifs <;> rfl
  | detailsSynchronizationResponse response =>
    unfold DataService.hears
    split_ifs <;> rfl
  | other => rfl

theorem eventWork_handlerCalls (w : Connector ρ φ η type) (e : WolkClientEvent ρ φ type) :
    (w.eventWork e).commands.flatMap ConnectorCommand.handlerCalls = w.heard e := by
  cases e with
  | link e =>
    cases e with
    | connectionLost =>
      change (w.notification ++ _).flatMap ConnectorCommand.handlerCalls = []
      rw [List.flatMap_append, notification_handlerCalls]
      rfl
    | event e => cases e <;> rfl
  | messageReceived d message =>
    refine (hears_forwarded w.dataService d message).trans ?_
    cases message <;> rfl
  | multi | addDevice =>
    change (ite _ _ _ : Work ρ φ η).commands.flatMap _ = []
    split_ifs <;> rfl
  | _ => rfl

theorem commandWork_handlerCalls (w : Connector ρ φ η type) (success : Bool)
    (command : ConnectorCommand ρ φ) :
    (w.commandWork success command).commands.flatMap ConnectorCommand.handlerCalls = [] ∧
      (w.commandWork success command).handed.map Prod.snd = command.handlerCalls := by
  cases command with
  | connection command =>
    cases command with
    | tryConnect call firstTime =>
      cases success with
      | true =>
        refine ⟨?_, rfl⟩
        change (w.notification ++ _).flatMap ConnectorCommand.handlerCalls = []
        rw [List.flatMap_append, notification_handlerCalls]
        rfl
      | false => exact ⟨rfl, rfl⟩
    | disconnect call => exact ⟨notification_handlerCalls w, rfl⟩
    | publish | connectionStatusListener => exact ⟨rfl, rfl⟩
  | _ => exact ⟨rfl, rfl⟩

theorem eventWork_handed (w : Connector ρ φ η type) (e : WolkClientEvent ρ φ type) :
    (w.eventWork e).handed = [] := by
  cases e with
  | link e =>
    cases e with
    | connectionLost => rfl
    | event e => cases e <;> rfl
  | multi | addDevice =>
    change (ite _ _ _ : Work ρ φ η).handed = []
    split_ifs <;> rfl
  | _ => rfl

/-- What was handed on, and then what waits to be. -/
def handlerCalls (w : Connector ρ φ η type) : List HandlerCall :=
  w.handed.map Prod.snd ++ w.waitingCalls

theorem handlerCalls_after (ctx : ConnectorContext φ) (w : Connector ρ φ η type)
    (e : WolkClientEvent ρ φ type) : (w.after ctx e).handlerCalls = w.handlerCalls ++ w.heard e := by
  rcases after_cases ctx w e with ⟨success, command, rest, rfl, hbuffer, hdoes⟩ | hdoes
  · obtain ⟨hpushed, hhanded⟩ :=
      commandWork_handlerCalls ({ w with commandBuffer := rest } : Connector ρ φ η type) success command
    have hheard : w.heard (.link (.event (.execute success))) = [] := rfl
    rw [handlerCalls, waitingCalls, hdoes.handed, hdoes.commandBuffer, List.map_append,
      List.flatMap_append, hhanded, hpushed, hheard, handlerCalls, waitingCalls, hbuffer,
      List.flatMap_cons]
    simp only [List.append_nil, List.append_assoc]
  · rw [handlerCalls, waitingCalls, hdoes.handed, hdoes.commandBuffer, eventWork_handed,
      List.flatMap_append, List.append_nil, handlerCalls, waitingCalls, eventWork_handlerCalls,
      List.append_assoc]

/-! ## Runs -/

/-- Who a call is handed to: the last handler that was set, or nobody if it was a provider that has
expired. -/
def HandedTo (settings : List (HandlerSetting η)) (expired : Prop) (who : Option η) : Prop :=
  who = lastHandler settings ∨ who = none ∧ lastIsProvider settings = true ∧ expired

theorem HandedTo.mono {settings : List (HandlerSetting η)} {expired expired' : Prop} {who : Option η}
    (h : HandedTo settings expired who) (hle : expired → expired') : HandedTo settings expired' who :=
  h.imp_right fun ⟨hwho, hprovider, hexpired⟩ => ⟨hwho, hprovider, hle hexpired⟩

/-- How a handler is by now. -/
def Reaches (settings : List (HandlerSetting η)) (expired : Prop) (handler : Handler η) : Prop :=
  ∃ gone : Bool, (gone = true → expired) ∧ handler = (Handler.configured settings).expireIf gone

theorem Reaches.target {settings : List (HandlerSetting η)} {expired : Prop} {handler : Handler η}
    (h : Reaches settings expired handler) : HandedTo settings expired handler.target := by
  obtain ⟨gone, hgone, rfl⟩ := h
  rw [HandedTo, Handler.target_configured]
  split_ifs with hlost
  · rw [Bool.and_eq_true] at hlost
    exact .inr ⟨rfl, hlost.2, hgone hlost.1⟩
  · exact .inl rfl

theorem Reaches.expireIf {settings : List (HandlerSetting η)} {expired expired' : Prop}
    {handler : Handler η} (h : Reaches settings expired handler) {now : Bool}
    (hle : expired → expired') (hnow : now = true → expired') :
    Reaches settings expired' (handler.expireIf now) := by
  obtain ⟨gone, hgone, rfl⟩ := h
  refine ⟨gone || now, fun h => ?_, Handler.expireIf_expireIf _ _ _⟩
  rcases Bool.or_eq_true_iff.mp h with h | h
  · exact hle (hgone h)
  · exact hnow h

/-- The calls of the setters for the handler of a call. -/
def settingsFor (settings settings' : List (HandlerSetting η)) : HandlerCall → List (HandlerSetting η)
  | .feedUpdate _ _ => settings
  | .parameterSync _ _ | .detailsSync _ _ _ => settings'

/-- The handlers by now, and who was called so far. -/
structure Hearing (settings settings' : List (HandlerSetting η)) (es : List (WolkClientEvent ρ φ type))
    (w : Connector ρ φ η type) : Prop where
  feedUpdate : Reaches settings (.feedUpdateHandlerExpired ∈ es) w.feedUpdateHandler
  parameter : Reaches settings' (.parameterHandlerExpired ∈ es) w.parameterHandler
  handed : ∀ entry ∈ w.handed,
    HandedTo (settingsFor settings settings' entry.2) (entry.2.expiry ∈ es) entry.1

variable {settings settings' : List (HandlerSetting η)}

theorem commandWork_handed (h : Hearing settings settings' es w) (success : Bool)
    (command : ConnectorCommand ρ φ) : ∀ entry ∈ (w.commandWork success command).handed,
      HandedTo (settingsFor settings settings' entry.2) (entry.2.expiry ∈ es) entry.1 := by
  intro entry hentry
  cases command with
  | connection command =>
    cases command with
    | tryConnect call firstTime => cases success <;> cases hentry
    | _ => cases hentry
  | data => cases hentry
  | feedUpdate d readings =>
    rw [List.mem_singleton.mp hentry]
    exact h.feedUpdate.target
  | parameterSync d values =>
    rw [List.mem_singleton.mp hentry]
    exact h.parameter.target

theorem eventWork_expired (w : Connector ρ φ η type) (e : WolkClientEvent ρ φ type) :
    ((w.eventWork e).feedUpdateExpired = true → e = .feedUpdateHandlerExpired) ∧
      ((w.eventWork e).parameterExpired = true → e = .parameterHandlerExpired) := by
  cases e with
  | link e =>
    cases e with
    | connectionLost => exact ⟨Bool.noConfusion, Bool.noConfusion⟩
    | event e => cases e <;> exact ⟨Bool.noConfusion, Bool.noConfusion⟩
  | feedUpdateHandlerExpired => exact ⟨fun _ => rfl, Bool.noConfusion⟩
  | parameterHandlerExpired => exact ⟨Bool.noConfusion, fun _ => rfl⟩
  | multi | addDevice =>
    change ((ite _ _ _ : Work ρ φ η).feedUpdateExpired = true → _) ∧
      ((ite _ _ _ : Work ρ φ η).parameterExpired = true → _)
    split_ifs <;> exact ⟨nofun, nofun⟩
  | _ => exact ⟨Bool.noConfusion, Bool.noConfusion⟩

theorem commandWork_expired (w : Connector ρ φ η type) (success : Bool)
    (command : ConnectorCommand ρ φ) : (w.commandWork success command).feedUpdateExpired = false ∧
      (w.commandWork success command).parameterExpired = false := by
  cases command with
  | connection command =>
    cases command with
    | tryConnect call firstTime => cases success <;> exact ⟨rfl, rfl⟩
    | _ => exact ⟨rfl, rfl⟩
  | _ => exact ⟨rfl, rfl⟩

theorem Hearing.does {work : Work ρ φ η} (h : Hearing settings settings' es w)
    {e : WolkClientEvent ρ φ type} (hdoes : Does ctx w w' work)
    (hexpired : (work.feedUpdateExpired = true → e = .feedUpdateHandlerExpired) ∧
      (work.parameterExpired = true → e = .parameterHandlerExpired))
    (hhanded : ∀ entry ∈ work.handed,
      HandedTo (settingsFor settings settings' entry.2) (entry.2.expiry ∈ es) entry.1) :
    Hearing settings settings' (es ++ [e]) w' where
  feedUpdate := by
    rw [hdoes.feedUpdateHandler]
    refine h.feedUpdate.expireIf (List.mem_append_left _) fun hnow => ?_
    rw [hexpired.1 hnow]
    exact List.mem_append_right _ List.mem_cons_self
  parameter := by
    rw [hdoes.parameterHandler]
    refine h.parameter.expireIf (List.mem_append_left _) fun hnow => ?_
    rw [hexpired.2 hnow]
    exact List.mem_append_right _ List.mem_cons_self
  handed entry hentry := by
    rw [hdoes.handed, List.mem_append] at hentry
    exact (hentry.elim (h.handed entry) (hhanded entry)).mono (List.mem_append_left _)

theorem Hearing.step (h : Hearing settings settings' es w) (ctx : ConnectorContext φ)
    (e : WolkClientEvent ρ φ type) : Hearing settings settings' (es ++ [e]) (w.after ctx e) := by
  rcases after_cases ctx w e with ⟨success, command, rest, -, -, hdoes⟩ | hdoes
  · have hrest : Hearing settings settings' es ({ w with commandBuffer := rest } : Connector ρ φ η type) :=
      ⟨h.feedUpdate, h.parameter, h.handed⟩
    obtain ⟨hfeed, hparameter⟩ :=
      commandWork_expired ({ w with commandBuffer := rest } : Connector ρ φ η type) success command
    refine hrest.does hdoes ⟨fun hnow => ?_, fun hnow => ?_⟩ (commandWork_handed hrest success command)
    · rw [hfeed] at hnow
      cases hnow
    · rw [hparameter] at hnow
      cases hnow
  · refine h.does hdoes (eventWork_expired w e) ?_
    rw [eventWork_handed]
    simp

/-- **Who hears what.** The feed updates that come in for a device, and the parameters for one that no
subscription waits for, are handed on once and in order, or wait for it. Each goes to the handler that the
builder was given last, and it is dropped only where that is a provider that has expired, or nobody. -/
theorem handlers_called {services : ConnectorServices ρ} {devices : type.Devices}
    (hrun : Machine.Run (step ctx) (fun _ _ => True)
      (build ctx services (.configured settings) (.configured settings') devices) es w) :
    heardIn ctx (build ctx services (.configured settings) (.configured settings') devices) es =
        w.handed.map Prod.snd ++ w.waitingCalls ∧
      ∀ entry ∈ w.handed,
        HandedTo (settingsFor settings settings' entry.2) (entry.2.expiry ∈ es) entry.1 := by
  have hbuilt := does_build ctx services (.configured settings) (.configured settings') devices
  constructor
  · have htotal := hrun.gathers handlerCalls fun s e t _ hs => by
      cases hs
      exact handlerCalls_after ctx s e
    have hnone : (build ctx services (.configured settings) (.configured settings') devices :
        Connector ρ φ η type).handlerCalls = [] := by
      rw [handlerCalls, waitingCalls, hbuilt.handed, hbuilt.commandBuffer]
      rfl
    rw [hnone, List.nil_append] at htotal
    exact htotal.symm
  · have hinit : Hearing settings settings' [] (build ctx services (.configured settings)
        (.configured settings') devices : Connector ρ φ η type) :=
      ⟨⟨false, Bool.noConfusion, hbuilt.feedUpdateHandler⟩,
        ⟨false, Bool.noConfusion, hbuilt.parameterHandler⟩, by rw [hbuilt.handed]; simp [create, Work.performs]⟩
    refine (hrun.history (Hearing settings settings') hinit fun es s e t h _ hs => ?_).handed
    cases hs
    exact h.step ctx e

/-- A provider that was set after a lambda hears of the first update, but is gone by the second. -/
theorem handlers_called_expired : ∃ w : Connector Unit Empty String .singleDevice,
    w.handed = [(some "provider", .feedUpdate "D" [(1, [])]), (none, .feedUpdate "D" [(2, [])])] ∧
    heardIn reliably (build reliably ⟨false, false, none⟩
        (.configured [.lambda (some "lambda"), .provider (some "provider")]) (.configured [])
        ⟨"D", "P"⟩ : Connector Unit Empty String .singleDevice)
      [.messageReceived "D" (.feedValues [(1, [])]), .link (.event (.execute true)),
        .feedUpdateHandlerExpired, .messageReceived "D" (.feedValues [(2, [])]),
        .link (.event (.execute true))] = w.handed.map Prod.snd ++ w.waitingCalls ∧
    ∀ entry ∈ w.handed, HandedTo
      (settingsFor [.lambda (some "lambda"), .provider (some "provider")] [] entry.2)
      (entry.2.expiry ∈ [.messageReceived "D" (.feedValues [(1, [])]), .link (.event (.execute true)),
        .feedUpdateHandlerExpired, .messageReceived "D" (.feedValues [(2, [])]),
        (.link (.event (.execute true)) : WolkClientEvent Unit Empty .singleDevice)]) entry.1 := by
  obtain ⟨w, hrun, hhanded⟩ := Machine.Run.exists_of_check (step reliably) (fun _ _ => True)
    (build reliably ⟨false, false, none⟩
      (.configured [.lambda (some "lambda"), .provider (some "provider")]) (.configured [])
      ⟨"D", "P"⟩ : Connector Unit Empty String .singleDevice)
    [.messageReceived "D" (.feedValues [(1, [])]), .link (.event (.execute true)),
      .feedUpdateHandlerExpired, .messageReceived "D" (.feedValues [(2, [])]),
      .link (.event (.execute true))] handed
    [(some "provider", .feedUpdate "D" [(1, [])]), (none, .feedUpdate "D" [(2, [])])]
    (by decide +kernel)
  exact ⟨w, hhanded, handlers_called hrun⟩

end Connector

end WolkConnect
