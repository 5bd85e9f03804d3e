import WolkConnect.Connector.Model

/-!
# What a step of a connector does

Each command and each call, with the calls that it makes of the data service, the commands
that it pushes, the messages about feeds that it sends, and what it hands on.
-/

namespace WolkConnect

def FeedSend.request {φ : Type} (send : FeedSend φ) : String × FeedMessage φ :=
  (send.deviceKey, send.message)

/-- The general handlers that the service calls for a message, all three being set. -/
def DataService.hears {ρ : Type} (svc : DataService ρ) (d : String) :
    DataService.Inbound → List HandlerCall
  | .feedValues readings => if d = "" then [] else [.feedUpdate d readings]
  | .parameterSync values =>
    if d = "" ∨ (svc.findSubscription values).isSome then [] else [.parameterSync d values]
  | .detailsSynchronizationResponse response =>
    if d = "" ∨ svc.detailsCallbacks ≠ [] then []
    else [.detailsSync d response.feeds response.attributes]
  | .other => []

/-- Messages call the general handlers. The other calls do not. -/
theorem DataService.handled_messageReceived {ρ φ : Type} (ctx : ConnectorContext φ)
    (svc : DataService ρ) (d : String) (message : DataService.Inbound) :
    (svc.messageReceived ctx.built d message).handled = svc.handled ++ svc.hears d message := by
  by_cases hd : d = ""
  · subst hd
    unfold messageReceived
    cases message <;> simp [hears]
  cases message with
  | feedValues readings =>
    unfold messageReceived
    rw [if_neg hd, hears, if_neg hd]
    rfl
  | parameterSync values =>
    rcases messageReceived_parameterSync ctx.built svc hd values with
      ⟨k, subscription, hfind, hsvc⟩ | ⟨hfind, hsvc⟩
    · rw [hsvc, hears, if_pos (.inr (by rw [hfind]; rfl)), List.append_nil]
    · have hnone : ¬ (d = "" ∨ (svc.findSubscription values).isSome = true) := by simp [hd, hfind]
      rw [hsvc, hears, if_neg hnone]
      rfl
  | detailsSynchronizationResponse response =>
    rcases messageReceived_details ctx.built svc hd response with
      ⟨callback, rest, hqueue, hsvc⟩ | ⟨hqueue, hsvc⟩
    · rw [hsvc, hears, if_pos (.inr (by simp [hqueue])), List.append_nil]
    · have hnone : ¬ (d = "" ∨ svc.detailsCallbacks ≠ []) := by simp [hd, hqueue]
      rw [hsvc, hears, if_neg hnone]
      rfl
  | other =>
    unfold messageReceived
    rw [if_neg hd, hears, List.append_nil]

namespace DataRequest

variable {ρ φ : Type}

/-- The call of the data service. -/
def operations (d : String) : DataRequest ρ φ → List (DataOperation ρ)
  | .addReading reading => [.addReading d reading]
  | .addReadings readings => [.addReadings d readings]
  | .synchronizeParameters parameters callback => [.synchronizeParameters d parameters callback]
  | .obtainDetails callback => [.detailsSynchronizationAsync d callback]
  | .addAttribute entry => [.addAttribute d entry]
  | .updateParameter parameter => [.updateParameter d parameter]
  | .pullFeedValues | .pullParameters | .registerFeed _ | .registerFeeds _ | .removeFeed _
  | .removeFeeds _ => []

/-- The message about feeds. -/
def messages (d : String) : DataRequest ρ φ → List (String × FeedMessage φ)
  | .pullFeedValues => [(d, .pullFeedValues)]
  | .pullParameters => [(d, .parametersPull)]
  | .registerFeed feed => [(d, .feedRegistration [feed])]
  | .registerFeeds feeds => [(d, .feedRegistration feeds)]
  | .removeFeed reference => [(d, .feedRemoval [reference])]
  | .removeFeeds references => [(d, .feedRemoval references)]
  | .addReading _ | .addReadings _ | .synchronizeParameters _ _ | .obtainDetails _
  | .addAttribute _ | .updateParameter _ => []

/-- What is taken for any device. -/
def isReading : DataRequest ρ φ → Bool
  | .addReading _ | .addReadings _ => true
  | _ => false

end DataRequest

def DataClientCall.request {ρ φ : Type} : DataClientCall φ → DataRequest ρ φ
  | .addReadingValue reference value rtc currentRtc =>
    .addReading ⟨reference, [value], Connector.orCurrentRtc rtc currentRtc⟩
  | .addReadingValues reference values rtc currentRtc =>
    .addReading ⟨reference, values, Connector.orCurrentRtc rtc currentRtc⟩
  | .addReading reading => .addReading reading
  | .addReadings readings => .addReadings readings
  | .pullFeedValues => .pullFeedValues
  | .pullParameters => .pullParameters
  | .registerFeed feed => .registerFeed feed
  | .registerFeeds feeds => .registerFeeds feeds
  | .removeFeed reference => .removeFeed reference
  | .removeFeeds references => .removeFeeds references
  | .addAttribute entry => .addAttribute entry
  | .updateParameter parameter => .updateParameter parameter

theorem WolkSingle.call_eq {ρ φ η : Type} (w : Connector ρ φ η .singleDevice)
    (call : DataClientCall φ) : WolkSingle.call w call = WolkSingle.request w call.request := by
  cases call <;> rfl

theorem WolkMulti.call_eq {ρ φ η : Type} (w : Connector ρ φ η .multiDevice) (d : String)
    (call : DataClientCall φ) : WolkMulti.call w d call =
      if (call.request : DataRequest ρ φ).isReading ∨ WolkMulti.isDeviceInList w d then
        WolkMulti.requestUnchecked w d call.request
      else w := by
  cases call <;>
  first
    | exact (if_pos (.inl rfl)).symm
    | exact if_congr (or_iff_right Bool.false_ne_true).symm rfl rfl

theorem WolkMulti.isDeviceInList_iff {ρ φ η : Type} {w : Connector ρ φ η .multiDevice} {d : String} :
    WolkMulti.isDeviceInList w d = true ↔ d ∈ w.devices.map Device.key := by
  simp [WolkMulti.isDeviceInList]

namespace ConnectorCommand

variable {ρ φ : Type}

def requests : ConnectorCommand ρ φ → List (String × DataRequest ρ φ)
  | .data d request => [(d, request)]
  | .connection _ | .feedUpdate _ _ | .parameterSync _ _ => []

def handlerCalls : ConnectorCommand ρ φ → List HandlerCall
  | .feedUpdate d readings => [.feedUpdate d readings]
  | .parameterSync d values => [.parameterSync d values]
  | .connection _ | .data _ _ => []

def connections : ConnectorCommand ρ φ → List ConnectionCommand
  | .connection command => [command]
  | .data _ _ | .feedUpdate _ _ | .parameterSync _ _ => []

end ConnectorCommand

/-- The command that a call of a general handler becomes. -/
def HandlerCall.command {ρ φ : Type} : HandlerCall → List (ConnectorCommand ρ φ)
  | .feedUpdate d readings => [.feedUpdate d readings]
  | .parameterSync d values => [.parameterSync d values]
  | .detailsSync _ _ _ => []

/-- What is done, and what is left to do. `devices` are the keys of devices that are added, and the flags
say whose provider expires. -/
structure Work (ρ φ η : Type) where
  operations : List (DataOperation ρ) := []
  commands : List (ConnectorCommand ρ φ) := []
  messages : List (String × FeedMessage φ) := []
  handed : List (Option η × HandlerCall) := []
  devices : List String := []
  feedUpdateExpired : Bool := false
  parameterExpired : Bool := false

namespace Work

variable {ρ φ η : Type}

def none : Work ρ φ η := {}

def performs (operations : List (DataOperation ρ)) : Work ρ φ η := { operations := operations }

def pushes (commands : List (ConnectorCommand ρ φ)) : Work ρ φ η := { commands := commands }

def append (a b : Work ρ φ η) : Work ρ φ η where
  operations := a.operations ++ b.operations
  commands := a.commands ++ b.commands
  messages := a.messages ++ b.messages
  handed := a.handed ++ b.handed
  devices := a.devices ++ b.devices
  feedUpdateExpired := a.feedUpdateExpired || b.feedUpdateExpired
  parameterExpired := a.parameterExpired || b.parameterExpired

end Work

/-- The handler after a step in which its provider may expire. -/
def Handler.expireIf {η : Type} (handler : Handler η) (expired : Bool) : Handler η :=
  if expired then handler.expire else handler

theorem Handler.expireIf_expireIf {η : Type} (handler : Handler η) (expired expired' : Bool) :
    (handler.expireIf expired).expireIf expired' = handler.expireIf (expired || expired') := by
  cases expired <;> cases expired' <;> rfl

namespace Connector

variable {ρ φ η : Type} {type : WolkInterfaceType} {ctx : ConnectorContext φ}
  {w w' w'' : Connector ρ φ η type} {work work' : Work ρ φ η}

/-- All of a connector that work is about. -/
def tracked (w : Connector ρ φ η type) : DataService ρ × List (DataOperation ρ) ×
    List (ConnectorCommand ρ φ) × FeedSends φ × List (Option η × HandlerCall) × List String ×
    ConnectorServices ρ × Handler η × Handler η :=
  (w.dataService, w.performed, w.commandBuffer, w.feeds, w.handed, type.keys w.devices, w.services,
    w.feedUpdateHandler, w.parameterHandler)

/-- From `w` to `w'`, exactly this is done. -/
structure Does (ctx : ConnectorContext φ) (w w' : Connector ρ φ η type) (work : Work ρ φ η) :
    Prop where
  dataService : w'.dataService = work.operations.foldl (DataService.perform ctx.built) w.dataService
  performed : w'.performed = w.performed ++ work.operations
  commandBuffer : w'.commandBuffer = w.commandBuffer ++ work.commands
  feeds : w'.feeds.sends.map FeedSend.request = w.feeds.sends.map FeedSend.request ++ work.messages
  handed : w'.handed = w.handed ++ work.handed
  devices : type.keys w'.devices = type.keys w.devices ++ work.devices
  services : w'.services = w.services
  feedUpdateHandler : w'.feedUpdateHandler = w.feedUpdateHandler.expireIf work.feedUpdateExpired
  parameterHandler : w'.parameterHandler = w.parameterHandler.expireIf work.parameterExpired

theorem Does.trans (h : Does ctx w w' work) (h' : Does ctx w' w'' work') :
    Does ctx w w'' (work.append work') where
  dataService := by rw [h'.dataService, h.dataService, Work.append, List.foldl_append]
  performed := by rw [h'.performed, h.performed, Work.append, List.append_assoc]
  commandBuffer := by rw [h'.commandBuffer, h.commandBuffer, Work.append, List.append_assoc]
  feeds := by rw [h'.feeds, h.feeds, Work.append, List.append_assoc]
  handed := by rw [h'.handed, h.handed, Work.append, List.append_assoc]
  devices := by rw [h'.devices, h.devices, Work.append, List.append_assoc]
  services := h'.services.trans h.services
  feedUpdateHandler := by
    rw [h'.feedUpdateHandler, h.feedUpdateHandler, Handler.expireIf_expireIf, Work.append]
  parameterHandler := by
    rw [h'.parameterHandler, h.parameterHandler, Handler.expireIf_expireIf, Work.append]

/-- Nothing is done where only the rest changes. -/
theorem Does.none (h : w'.tracked = w.tracked) : Does ctx w w' .none := by
  simp only [tracked, Prod.mk.injEq] at h
  obtain ⟨hdata, hperformed, hbuffer, hfeeds, hhanded, hdevices, hservices, hfeed, hparameter⟩ := h
  refine ⟨hdata, ?_, ?_, ?_, ?_, ?_, hservices, hfeed, hparameter⟩
  · rw [hperformed]
    exact (List.append_nil _).symm
  · rw [hbuffer]
    exact (List.append_nil _).symm
  · rw [hfeeds]
    exact (List.append_nil _).symm
  · rw [hhanded]
    exact (List.append_nil _).symm
  · rw [hdevices]
    exact (List.append_nil _).symm

theorem does_perform (ctx : ConnectorContext φ) (w : Connector ρ φ η type) (op : DataOperation ρ) :
    Does ctx w (w.perform ctx op) (.performs [op]) :=
  ⟨rfl, rfl, (List.append_nil _).symm, (List.append_nil _).symm, (List.append_nil _).symm,
    (List.append_nil _).symm, rfl, rfl, rfl⟩

theorem does_addToCommandBuffer (ctx : ConnectorContext φ) (w : Connector ρ φ η type)
    (command : ConnectorCommand ρ φ) : Does ctx w (w.addToCommandBuffer command) (.pushes [command]) :=
  ⟨rfl, (List.append_nil _).symm, rfl, (List.append_nil _).symm, (List.append_nil _).symm,
    (List.append_nil _).symm, rfl, rfl, rfl⟩

theorem does_send (ctx : ConnectorContext φ) (w : Connector ρ φ η type) (d : String)
    (message : FeedMessage φ) :
    Does ctx w { w with feeds := w.feeds.send ctx.feeds d message } { messages := [(d, message)] } :=
  ⟨rfl, (List.append_nil _).symm, (List.append_nil _).symm, by
    rw [FeedSends.send, List.map_append]
    rfl, (List.append_nil _).symm, (List.append_nil _).symm, rfl, rfl, rfl⟩

theorem does_executeRequest (ctx : ConnectorContext φ) (w : Connector ρ φ η type) (d : String)
    (request : DataRequest ρ φ) :
    Does ctx w (w.executeRequest ctx d request)
      { operations := request.operations d, messages := request.messages d } := by
  cases request with
  | addReading | addReadings | synchronizeParameters | obtainDetails | addAttribute
  | updateParameter => exact does_perform ctx w _
  | pullFeedValues | pullParameters | registerFeed | registerFeeds | removeFeed | removeFeeds =>
    exact does_send ctx w d _

theorem does_hand (ctx : ConnectorContext φ) (w : Connector ρ φ η type) (handler : Handler η)
    (call : HandlerCall) :
    Does ctx w (w.hand handler call) { handed := [(handler.target, call)] } :=
  ⟨rfl, (List.append_nil _).symm, (List.append_nil _).symm, (List.append_nil _).symm, rfl,
    (List.append_nil _).symm, rfl, rfl, rfl⟩

/-- The notification that is pushed when somebody listens. -/
def notification (w : Connector ρ φ η type) : List (ConnectorCommand ρ φ) :=
  if w.connectionStatusListener then [.connection .connectionStatusListener] else []

theorem does_notifyConnectionStatusListener (ctx : ConnectorContext φ) (w : Connector ρ φ η type) :
    Does ctx w w.notifyConnectionStatusListener (.pushes w.notification) := by
  unfold notifyConnectionStatusListener notification
  split_ifs
  · exact does_addToCommandBuffer ctx w _
  · exact .none rfl

/-- The request that `obtainParametersAndAnnounce` makes for a device. -/
def announcement (services : ConnectorServices ρ) (d : String) : List (DataOperation ρ) :=
  ((services.firmwareUpdate.bind FirmwareModule.parametersCallback).map fun callback =>
    DataOperation.synchronizeParameters d
      [.firmwareUpdateRepository, .firmwareUpdateCheckTime] (some callback)).toList

theorem does_obtainParametersAndAnnounce (ctx : ConnectorContext φ) (w : Connector ρ φ η type)
    (d : String) :
    Does ctx w (w.obtainParametersAndAnnounce ctx d) (.performs (announcement w.services d)) := by
  unfold obtainParametersAndAnnounce announcement
  cases w.services.firmwareUpdate.bind FirmwareModule.parametersCallback with
  | none => exact .none rfl
  | some callback => exact does_perform ctx w _

/-- A loop over device keys does for one key after the other what its body does. -/
theorem does_foldl {body : Connector ρ φ η type → String → Connector ρ φ η type}
    {operations : ConnectorServices ρ → String → List (DataOperation ρ)}
    (hbody : ∀ w key, Does ctx w (body w key) (.performs (operations w.services key)))
    (keys : List String) (w : Connector ρ φ η type) :
    Does ctx w (keys.foldl body w) (.performs (keys.flatMap (operations w.services))) := by
  induction keys generalizing w with
  | nil => exact .none rfl
  | cons key keys ih =>
    have hrest := ih (body w key)
    rw [(hbody w key).services] at hrest
    exact (hbody w key).trans hrest

theorem does_handle (ctx : ConnectorContext φ) (w : Connector ρ φ η type) (calls : List HandlerCall) :
    Does ctx w (calls.foldl handle w) (.pushes (calls.flatMap HandlerCall.command)) := by
  induction calls generalizing w with
  | nil => exact .none rfl
  | cons call calls ih =>
    have hone : Does ctx w (w.handle call) (.pushes call.command) := by
      cases call with
      | feedUpdate | parameterSync => exact does_addToCommandBuffer ctx w _
      | detailsSync => exact .none rfl
    exact hone.trans (ih (w.handle call))

theorem does_messageReceived (ctx : ConnectorContext φ) (w : Connector ρ φ η type) (d : String)
    (message : DataService.Inbound) :
    Does ctx w (w.messageReceived ctx d message)
      { operations := [.messageReceived d message]
        commands := (w.dataService.hears d message).flatMap HandlerCall.command } := by
  have hhandled : ((w.perform ctx (.messageReceived d message)).dataService.handled.drop
      w.dataService.handled.length) = w.dataService.hears d message := by
    change ((w.dataService.messageReceived ctx.built d message).handled.drop _) = _
    rw [DataService.handled_messageReceived, List.drop_left]
  have h := (does_perform ctx w (.messageReceived d message)).trans
    (does_handle ctx _ (w.dataService.hears d message))
  rw [← hhandled] at h ⊢
  exact h

/-! ## Commands -/

/-- The work of the command that is executed, which is out of the buffer by then. -/
def commandWork (w : Connector ρ φ η type) (success : Bool) : ConnectorCommand ρ φ → Work ρ φ η
  | .connection (.tryConnect call _) =>
    if success then
      { operations := (type.keys w.devices).flatMap (announcement w.services)
        commands := w.notification ++ [.connection .publish] }
    else .pushes [.connection (.tryConnect call false)]
  | .connection (.disconnect _) => .pushes w.notification
  | .connection .publish => .performs [.publishAttributes, .publishReadings, .publishParameters]
  | .connection .connectionStatusListener => .none
  | .data d request => { operations := request.operations d, messages := request.messages d }
  | .feedUpdate d readings => { handed := [(w.feedUpdateHandler.target, .feedUpdate d readings)] }
  | .parameterSync d values => { handed := [(w.parameterHandler.target, .parameterSync d values)] }

theorem does_notifyConnected (ctx : ConnectorContext φ) (w : Connector ρ φ η type) :
    Does ctx w (w.notifyConnected ctx)
      { operations := (type.keys w.devices).flatMap (announcement w.services)
        commands := w.notification ++ [.connection .publish] } := by
  let w₁ : Connector ρ φ η type := { w with connected := true }
  let w₂ := w₁.notifyConnectionStatusListener.publish
  have hpushed : Does ctx w w₂ (.pushes (w.notification ++ [.connection .publish])) :=
    ((Does.none rfl : Does ctx w w₁ .none).trans
      (does_notifyConnectionStatusListener ctx w₁)).trans (does_addToCommandBuffer ctx _ _)
  have hkeys : type.keys w₂.devices = type.keys w.devices :=
    hpushed.devices.trans (List.append_nil _)
  have hannounced := does_foldl (does_obtainParametersAndAnnounce ctx) (type.keys w₂.devices) w₂
  have h : Does ctx w (w.notifyConnected ctx) _ := hpushed.trans hannounced
  rw [hpushed.services, hkeys, Work.append, Work.pushes, Work.performs, List.append_nil] at h
  exact h

theorem does_executeCommand (ctx : ConnectorContext φ) (w : Connector ρ φ η type) (success : Bool)
    (command : ConnectorCommand ρ φ) :
    Does ctx w (w.executeCommand ctx success command) (w.commandWork success command) := by
  have hact : ∀ action, Does ctx w (w.act action) .none := fun _ => .none rfl
  cases command with
  | data d request => exact does_executeRequest ctx w d request
  | feedUpdate | parameterSync => exact does_hand ctx w _ _
  | connection command =>
    cases command with
    | tryConnect call firstTime =>
      cases success with
      | true => exact (hact _).trans (does_notifyConnected ctx _)
      | false => exact (hact _).trans (does_addToCommandBuffer ctx _ _)
    | disconnect call =>
      have hgone : Does ctx w ({ w.act (.disconnect call) with connected := false }) .none :=
        .none rfl
      exact hgone.trans (does_notifyConnectionStatusListener ctx _)
    | publish =>
      exact (((hact .flush).trans (does_perform ctx _ _)).trans (does_perform ctx _ _)).trans
        (does_perform ctx _ _)
    | connectionStatusListener =>
      change Does ctx w (if w.connectionStatusListener then _ else _) _
      split_ifs
      · exact hact _
      · exact .none rfl

/-! ## Events -/

def fileManagementReports (services : ConnectorServices ρ) (d : String) : List (DataOperation ρ) :=
  [.updateParameter d (.fileTransferPlatformEnabled, Wolk.flagText services.fileTransferEnabled),
    .updateParameter d (.fileTransferUrlEnabled, Wolk.flagText services.fileTransferUrlEnabled)]

def firmwareUpdateReports (services : ConnectorServices ρ) (d : String) : List (DataOperation ρ) :=
  [.updateParameter d (.firmwareUpdateEnabled, Wolk.flagText services.firmwareUpdate.isSome),
    .updateParameter d (.firmwareVersion,
      match services.firmwareUpdate with
      | some firmware => firmware.getVersionForDevice d
      | none => "")]

/-- The calls of the data service when a device is added to the list. -/
def additions (w : Connector ρ φ η type) (d : String) : List (DataOperation ρ) :=
  fileManagementReports w.services d ++ firmwareUpdateReports w.services d ++
    if w.connected then .publishParametersOf d :: announcement w.services d else []

/-- The work of an event other than executing a command. -/
def eventWork {type : WolkInterfaceType} (w : Connector ρ φ η type) (e : WolkClientEvent ρ φ type) :
    Work ρ φ η :=
  match type, w, e with
  | _, w, .link (.event .connect) => .pushes [.connection (.tryConnect w.calls.length true)]
  | _, w, .link (.event .disconnect) => .pushes [.connection (.disconnect w.calls.length)]
  | _, _, .link (.event .publish) => .pushes [.connection .publish]
  | _, _, .link (.event (.setConnectionStatusListener _)) => .none
  | _, _, .link (.event (.execute _)) => .none
  | _, w, .link .connectionLost =>
    .pushes (w.notification ++ [.connection (.tryConnect w.calls.length true)])
  | _, w, .messageReceived d message =>
    { operations := [.messageReceived d message]
      commands := (w.dataService.hears d message).flatMap HandlerCall.command }
  | _, _, .runCommand => .performs [.runCommand]
  | _, _, .feedUpdateHandlerExpired => { feedUpdateExpired := true }
  | _, _, .parameterHandlerExpired => { parameterExpired := true }
  | _, w, .single call => .pushes [.data w.devices.key call.request]
  | _, w, .synchronizeParameters parameters callback =>
    .pushes [.data w.devices.key (.synchronizeParameters parameters callback)]
  | _, w, .obtainDetails callback => .pushes [.data w.devices.key (.obtainDetails callback)]
  | _, w, .multi d call =>
    if (call.request : DataRequest ρ φ).isReading ∨ WolkMulti.isDeviceInList w d then
      .pushes [.data d call.request]
    else .none
  | _, w, .addDevice device =>
    if WolkMulti.isDeviceInList w device.key then .none
    else { operations := w.additions device.key, devices := [device.key] }

theorem does_connect (ctx : ConnectorContext φ) (w : Connector ρ φ η type) :
    Does ctx w w.connect (.pushes [.connection (.tryConnect w.calls.length true)]) :=
  ⟨rfl, (List.append_nil _).symm, rfl, (List.append_nil _).symm, (List.append_nil _).symm,
    (List.append_nil _).symm, rfl, rfl, rfl⟩

theorem does_disconnect (ctx : ConnectorContext φ) (w : Connector ρ φ η type) :
    Does ctx w w.disconnect (.pushes [.connection (.disconnect w.calls.length)]) :=
  ⟨rfl, (List.append_nil _).symm, rfl, (List.append_nil _).symm, (List.append_nil _).symm,
    (List.append_nil _).symm, rfl, rfl, rfl⟩

theorem does_onConnectionLost (ctx : ConnectorContext φ) (w : Connector ρ φ η type) :
    Does ctx w w.onConnectionLost
      (.pushes (w.notification ++ [.connection (.tryConnect w.calls.length true)])) := by
  have hgone : Does ctx w { w with connected := false } .none := .none rfl
  have hcalls : w.notifyDisconnected.calls = w.calls := by
    unfold notifyDisconnected notifyConnectionStatusListener
    split_ifs <;> rfl
  have hconnect := does_connect ctx w.notifyDisconnected
  rw [hcalls] at hconnect
  exact (hgone.trans (does_notifyConnectionStatusListener ctx _)).trans hconnect

theorem does_reportFileManagement (ctx : ConnectorContext φ) (w : Connector ρ φ η type) (d : String) :
    Does ctx w (w.reportFileManagementParametersForDevice ctx d)
      (.performs (fileManagementReports w.services d)) :=
  (does_perform ctx w _).trans (does_perform ctx _ _)

theorem does_reportFirmwareUpdate (ctx : ConnectorContext φ) (w : Connector ρ φ η type) (d : String) :
    Does ctx w (w.reportFirmwareUpdateParametersForDevice ctx d)
      (.performs (firmwareUpdateReports w.services d)) :=
  (does_perform ctx w _).trans (does_perform ctx _ _)

theorem does_addDevice (ctx : ConnectorContext φ) (w : Connector ρ φ η .multiDevice) {device : Device}
    (hlist : WolkMulti.isDeviceInList w device.key ≠ true) :
    Does ctx w (WolkMulti.addDevice ctx w device)
      { operations := w.additions device.key, devices := [device.key] } := by
  let w₁ : Connector ρ φ η .multiDevice := { w with devices := w.devices ++ [device] }
  have hadded : Does ctx w w₁ { devices := [device.key] } :=
    ⟨rfl, (List.append_nil _).symm, (List.append_nil _).symm, (List.append_nil _).symm,
      (List.append_nil _).symm, List.map_append, rfl, rfl, rfl⟩
  have hreports := (hadded.trans (does_reportFileManagement ctx w₁ device.key)).trans
    (does_reportFirmwareUpdate ctx _ device.key)
  unfold WolkMulti.addDevice
  rw [if_neg hlist]
  by_cases hconnected : w.connected = true
  · have hpublish := hreports.trans (does_perform ctx _ (.publishParametersOf device.key))
    have hannounce := hpublish.trans (does_obtainParametersAndAnnounce ctx _ device.key)
    rw [additions, if_pos hconnected]
    change Does ctx w (if w.connected = true then _ else _) _
    rw [if_pos hconnected]
    simp only [Work.append, Work.performs, List.nil_append, List.append_assoc,
      List.singleton_append] at hannounce
    exact hannounce
  · rw [additions, if_neg hconnected, List.append_nil]
    change Does ctx w (if w.connected = true then _ else _) _
    rw [if_neg hconnected]
    exact hreports

/-- A step executes the first command, or it is an event with its own work. -/
theorem after_cases (ctx : ConnectorContext φ) (w : Connector ρ φ η type)
    (e : WolkClientEvent ρ φ type) :
    (∃ success command rest, e = .link (.event (.execute success)) ∧
      w.commandBuffer = command :: rest ∧
      Does ctx { w with commandBuffer := rest } (w.after ctx e)
        (({ w with commandBuffer := rest } : Connector ρ φ η type).commandWork success command)) ∨
    Does ctx w (w.after ctx e) (w.eventWork e) := by
  cases e with
  | link e =>
    cases e with
    | connectionLost => exact .inr (does_onConnectionLost ctx w)
    | event e =>
      cases e with
      | connect => exact .inr (does_connect ctx w)
      | disconnect => exact .inr (does_disconnect ctx w)
      | publish => exact .inr (does_addToCommandBuffer ctx w _)
      | setConnectionStatusListener listener => exact .inr (.none rfl)
      | execute success =>
        change _ ∨ Does ctx w (w.execute ctx success) .none
        unfold execute
        cases hbuffer : w.commandBuffer with
        | nil => exact .inr (.none rfl)
        | cons command rest =>
          refine .inl ⟨success, command, rest, rfl, rfl, ?_⟩
          change Does ctx _ (w.execute ctx success) _
          unfold execute
          rw [hbuffer]
          exact does_executeCommand ctx _ success command
  | messageReceived d message => exact .inr (does_messageReceived ctx w d message)
  | runCommand => exact .inr (does_perform ctx w _)
  | feedUpdateHandlerExpired | parameterHandlerExpired =>
    exact .inr ⟨rfl, (List.append_nil _).symm, (List.append_nil _).symm, (List.append_nil _).symm,
      (List.append_nil _).symm, (List.append_nil _).symm, rfl, rfl, rfl⟩
  | single call =>
    refine .inr ?_
    change Does ctx w (WolkSingle.call w call) _
    rw [WolkSingle.call_eq]
    exact does_addToCommandBuffer ctx w _
  | synchronizeParameters | obtainDetails => exact .inr (does_addToCommandBuffer ctx w _)
  | multi d call =>
    refine .inr ?_
    change Does ctx w (WolkMulti.call w d call) (if _ then _ else _)
    rw [WolkMulti.call_eq]
    split_ifs
    · exact does_addToCommandBuffer ctx w _
    · exact .none rfl
  | addDevice device =>
    refine .inr ?_
    change Does ctx w (WolkMulti.addDevice ctx w device) (if _ then _ else _)
    split_ifs with hlist
    · unfold WolkMulti.addDevice
      rw [if_pos hlist]
      exact .none rfl
    · exact does_addDevice ctx w hlist

/-! ## Building -/

/-- The reports of the builder, device by device. -/
def reports (services : ConnectorServices ρ) (keys : List String) : List (DataOperation ρ) :=
  keys.flatMap (fileManagementReports services) ++ keys.flatMap (firmwareUpdateReports services)

theorem does_build (ctx : ConnectorContext φ) (services : ConnectorServices ρ)
    (feedUpdateHandler parameterHandler : Handler η) (devices : type.Devices) :
    Does ctx (create services feedUpdateHandler parameterHandler devices)
      (build ctx services feedUpdateHandler parameterHandler devices)
      (.performs (reports services (type.keys devices))) := by
  have hfiles := does_foldl (does_reportFileManagement ctx) (type.keys devices)
    (create services feedUpdateHandler parameterHandler devices)
  have hfirmware := does_foldl (does_reportFirmwareUpdate ctx) (type.keys devices)
    ((type.keys devices).foldl (fun w key => w.reportFileManagementParametersForDevice ctx key)
      (create services feedUpdateHandler parameterHandler devices))
  rw [hfiles.services] at hfirmware
  exact hfiles.trans hfirmware

end Connector

end WolkConnect
