import WolkConnect.Connector.Requests
import WolkConnect.Data.Addressed

/-!
# The devices of a connector

What a connector sends, other than readings, is for devices that are in its list.
-/

namespace WolkConnect

/-- The device keys that the event names have no delimiter in them. -/
def WolkClientEvent.PlainKeys {ρ φ : Type} {type : WolkInterfaceType} :
    WolkClientEvent ρ φ type → Prop
  | .multi d _ => Plain d
  | .addDevice device => Plain device.key
  | _ => True

instance {ρ φ : Type} {type : WolkInterfaceType} :
    (e : WolkClientEvent ρ φ type) → Decidable e.PlainKeys
  | .multi d _ => inferInstanceAs (Decidable (Plain d))
  | .addDevice device => inferInstanceAs (Decidable (Plain device.key))
  | .link _ | .messageReceived _ _ | .runCommand | .feedUpdateHandlerExpired
  | .parameterHandlerExpired | .single _ | .synchronizeParameters _ _ | .obtainDetails _ =>
    isTrue trivial

/-- `R` holds of the devices for which readings are put into the store, and `P` of those for which
anything else is. -/
def DataOperation.Keeps {ρ : Type} (R P : String → Prop) (op : DataOperation ρ) : Prop :=
  (∀ key ∈ op.readingKeys, R key) ∧ ∀ key ∈ op.otherKeys, P key

def DataRequest.Keeps {ρ φ : Type} (R P : String → Prop) (request : String × DataRequest ρ φ) : Prop :=
  if request.2.isReading then R request.1 else P request.1

theorem DataRequest.keeps_operations {ρ φ : Type} {R P : String → Prop} {d : String}
    {request : DataRequest ρ φ} (h : DataRequest.Keeps R P (d, request)) :
    ∀ op ∈ request.operations d, op.Keeps R P := by
  intro op hop
  have hnone : ∀ {Q : String → Prop}, ∀ key ∈ ([] : List String), Q key := by simp
  have hone : ∀ {Q : String → Prop}, Q d → ∀ key ∈ [d], Q key := by simp
  cases request with
  | addReading | addReadings =>
    rw [List.mem_singleton.mp hop]
    exact ⟨hone h, hnone⟩
  | synchronizeParameters | obtainDetails | addAttribute | updateParameter =>
    rw [List.mem_singleton.mp hop]
    exact ⟨hnone, hone h⟩
  | _ => cases hop

theorem DataRequest.keeps_messages {ρ φ : Type} {R P : String → Prop} {d : String}
    {request : DataRequest ρ φ} (h : DataRequest.Keeps R P (d, request)) :
    ∀ message ∈ request.messages d, P message.1 := by
  intro message hmessage
  cases request with
  | pullFeedValues | pullParameters | registerFeed | registerFeeds | removeFeed | removeFeeds =>
    rw [List.mem_singleton.mp hmessage]
    exact h
  | _ => cases hmessage

namespace Connector

variable {ρ φ η : Type} {type : WolkInterfaceType} {ctx : ConnectorContext φ}
  {w w' init : Connector ρ φ η type} {es : List (WolkClientEvent ρ φ type)} {R P : String → Prop}
  {success : Bool}

/-- The devices of a connector, its requests that wait, and the calls that its data service got keep
to these devices. -/
structure Within (R P : String → Prop) (w : Connector ρ φ η type) : Prop where
  devices : ∀ key ∈ type.keys w.devices, P key
  waiting : ∀ request ∈ w.waiting, DataRequest.Keeps R P request
  performed : ∀ op ∈ w.performed, op.Keeps R P
  feeds : ∀ send ∈ w.feeds.sends.map FeedSend.request, P send.1

/-- The work of a step does so too. -/
structure WorkWithin (R P : String → Prop) (work : Work ρ φ η) : Prop where
  devices : ∀ key ∈ work.devices, P key
  requests : ∀ request ∈ work.commands.flatMap ConnectorCommand.requests,
    DataRequest.Keeps R P request
  operations : ∀ op ∈ work.operations, op.Keeps R P
  messages : ∀ message ∈ work.messages, P message.1

theorem Within.does {work : Work ρ φ η} (h : Within R P w) (hdoes : Does ctx w w' work)
    (hwork : WorkWithin R P work) : Within R P w' where
  devices key hkey := by
    rw [hdoes.devices, List.mem_append] at hkey
    exact hkey.elim (h.devices key) (hwork.devices key)
  waiting request hrequest := by
    rw [Connector.waiting, hdoes.commandBuffer, List.flatMap_append, List.mem_append] at hrequest
    exact hrequest.elim (h.waiting request) (hwork.requests request)
  performed op hop := by
    rw [hdoes.performed, List.mem_append] at hop
    exact hop.elim (h.performed op) (hwork.operations op)
  feeds send hsend := by
    rw [hdoes.feeds, List.mem_append] at hsend
    exact hsend.elim (h.feeds send) (hwork.messages send)

theorem keeps_announcement {services : ConnectorServices ρ} {d : String} (hd : P d) :
    ∀ op ∈ announcement services d, op.Keeps R P := by
  intro op hop
  unfold announcement at hop
  cases hcallback : services.firmwareUpdate.bind FirmwareModule.parametersCallback with
  | none =>
    rw [hcallback] at hop
    cases hop
  | some callback =>
    rw [hcallback] at hop
    rw [List.mem_singleton.mp hop]
    exact ⟨by simp [DataOperation.readingKeys], by simpa [DataOperation.otherKeys] using hd⟩

theorem keeps_reports {services : ConnectorServices ρ} {d : String} (hd : P d) :
    ∀ op ∈ fileManagementReports services d ++ firmwareUpdateReports services d,
      op.Keeps R P := by
  have hkeeps : ∀ parameter, (DataOperation.updateParameter d parameter : DataOperation ρ).Keeps R P :=
    fun _ => ⟨by simp [DataOperation.readingKeys], by simpa [DataOperation.otherKeys] using hd⟩
  simp only [fileManagementReports, firmwareUpdateReports, List.cons_append, List.nil_append,
    List.forall_mem_cons, hkeeps, true_and]
  simp

/-- Executing a command keeps to the devices that it is for, and to those of the connector. -/
theorem commandWork_within {command : ConnectorCommand ρ φ}
    (hdevices : ∀ key ∈ type.keys w.devices, P key)
    (hcommand : ∀ request ∈ command.requests, DataRequest.Keeps R P request) :
    WorkWithin R P (w.commandWork success command) := by
  have hrequests : ∀ request ∈ (w.commandWork success command).commands.flatMap
      ConnectorCommand.requests, DataRequest.Keeps R P request := by
    rw [commandWork_requests]
    simp
  cases command with
  | connection command =>
    cases command with
    | tryConnect call firstTime =>
      cases success with
      | true =>
        refine ⟨by simp [commandWork], hrequests, fun op hop => ?_, by simp [commandWork]⟩
        obtain ⟨d, hd, hop⟩ := List.mem_flatMap.mp hop
        exact keeps_announcement (hdevices d hd) op hop
      | false =>
        exact ⟨by simp [commandWork, Work.pushes], hrequests, by simp [commandWork, Work.pushes],
          by simp [commandWork, Work.pushes]⟩
    | disconnect =>
      exact ⟨by simp [commandWork, Work.pushes], hrequests, by simp [commandWork, Work.pushes],
        by simp [commandWork, Work.pushes]⟩
    | connectionStatusListener =>
      exact ⟨by simp [commandWork, Work.none], hrequests, by simp [commandWork, Work.none],
        by simp [commandWork, Work.none]⟩
    | publish =>
      refine ⟨by simp [commandWork, Work.performs], hrequests, ?_, by simp [commandWork, Work.performs]⟩
      simp [commandWork, Work.performs, DataOperation.Keeps, DataOperation.readingKeys,
        DataOperation.otherKeys]
  | data d request =>
    have hkeeps := hcommand (d, request) List.mem_cons_self
    exact ⟨by simp [commandWork], hrequests, DataRequest.keeps_operations hkeeps,
      DataRequest.keeps_messages hkeeps⟩
  | feedUpdate | parameterSync =>
    exact ⟨by simp [commandWork], hrequests, by simp [commandWork], by simp [commandWork]⟩

theorem eventWork_within (e : WolkClientEvent ρ φ type)
    (hasked : ∀ request ∈ e.asked w, DataRequest.Keeps R P request)
    (hadded : ∀ key ∈ (w.eventWork e).devices, P key) : WorkWithin R P (w.eventWork e) := by
  refine ⟨hadded, by rwa [eventWork_requests], fun op hop => ?_, by
    rw [(eventWork_silent w e).2]
    simp⟩
  have hnone : ∀ {op : DataOperation ρ}, op.readingKeys = [] → op.otherKeys = [] → op.Keeps R P := by
    intro op hreading hother
    simp [DataOperation.Keeps, hreading, hother]
  cases e with
  | link e =>
    cases e with
    | connectionLost => cases hop
    | event e => cases e <;> cases hop
  | messageReceived | runCommand =>
    rw [List.mem_singleton.mp hop]
    exact hnone rfl rfl
  | multi d call =>
    change op ∈ (ite _ _ _ : Work ρ φ η).operations at hop
    split_ifs at hop <;> cases hop
  | addDevice device =>
    change op ∈ (ite _ _ _ : Work ρ φ η).operations at hop
    change ∀ key ∈ (ite _ _ _ : Work ρ φ η).devices, P key at hadded
    split_ifs at hop hadded with hlist
    · cases hop
    · have hdevice : P device.key := hadded device.key List.mem_cons_self
      rcases List.mem_append.mp hop with hop | hop
      · exact keeps_reports hdevice op hop
      · split_ifs at hop
        · rcases List.mem_cons.mp hop with rfl | hop
          · exact hnone rfl rfl
          · exact keeps_announcement hdevice op hop
        · cases hop
  | _ => cases hop

theorem Within.step (h : Within R P w) (ctx : ConnectorContext φ) (e : WolkClientEvent ρ φ type)
    (hasked : ∀ request ∈ e.asked w, DataRequest.Keeps R P request)
    (hadded : ∀ key ∈ (w.eventWork e).devices, P key) : Within R P (w.after ctx e) := by
  rcases after_cases ctx w e with ⟨success, command, rest, -, hbuffer, hdoes⟩ | hdoes
  · have hwaiting : w.waiting = command.requests ++ rest.flatMap ConnectorCommand.requests := by
      rw [Connector.waiting, hbuffer, List.flatMap_cons]
    have hrest : Within R P ({ w with commandBuffer := rest } : Connector ρ φ η type) := by
      refine ⟨h.devices, fun request hrequest => h.waiting request ?_, h.performed, h.feeds⟩
      rw [hwaiting]
      exact List.mem_append_right _ hrequest
    refine hrest.does hdoes (commandWork_within h.devices fun request hrequest => ?_)
    refine h.waiting request ?_
    rw [hwaiting]
    exact List.mem_append_left _ hrequest
  · exact h.does hdoes (eventWork_within e hasked hadded)

theorem Within.mono {R' P' : String → Prop} (h : Within R P w) (hR : ∀ key, R key → R' key)
    (hP : ∀ key, P key → P' key) : Within R' P' w where
  devices key hkey := hP key (h.devices key hkey)
  waiting request hrequest := by
    have hkeeps := h.waiting request hrequest
    unfold DataRequest.Keeps at hkeeps ⊢
    split_ifs at hkeeps ⊢
    · exact hR _ hkeeps
    · exact hP _ hkeeps
  performed op hop :=
    ⟨fun key hkey => hR key ((h.performed op hop).1 key hkey),
      fun key hkey => hP key ((h.performed op hop).2 key hkey)⟩
  feeds send hsend := hP _ (h.feeds send hsend)

/-! ## Device keys without delimiters -/

theorem keeps_same {Q : String → Prop} {request : String × DataRequest ρ φ} (h : Q request.1) :
    DataRequest.Keeps Q Q request := by
  unfold DataRequest.Keeps
  split_ifs <;> exact h

/-- The requests and the devices of an event are for devices that it names, or for the connector's. -/
theorem plain_event {e : WolkClientEvent ρ φ type} (he : e.PlainKeys)
    (hdevices : ∀ key ∈ type.keys w.devices, Plain key) :
    (∀ request ∈ e.asked w, DataRequest.Keeps Plain Plain request) ∧
      ∀ key ∈ (w.eventWork e).devices, Plain key := by
  have hown : ∀ {devices : Device}, (∀ key ∈ WolkInterfaceType.singleDevice.keys devices, Plain key) →
      ∀ request : DataRequest ρ φ, ∀ r ∈ [(devices.key, request)], DataRequest.Keeps Plain Plain r := by
    intro devices h request r hr
    rw [List.mem_singleton.mp hr]
    exact keeps_same (h _ List.mem_cons_self)
  cases e with
  | link e =>
    cases e with
    | connectionLost => exact ⟨fun _ h => (by cases h), fun _ h => (by cases h)⟩
    | event e => cases e <;> exact ⟨fun _ h => (by cases h), fun _ h => (by cases h)⟩
  | single | synchronizeParameters | obtainDetails =>
    exact ⟨hown hdevices _, fun _ h => (by cases h)⟩
  | multi d call =>
    refine ⟨fun request hrequest => ?_, fun key hkey => ?_⟩
    · change request ∈ ite _ _ _ at hrequest
      split_ifs at hrequest
      · rw [List.mem_singleton.mp hrequest]
        exact keeps_same he
      · cases hrequest
    · change key ∈ (ite _ _ _ : Work ρ φ η).devices at hkey
      split_ifs at hkey <;> cases hkey
  | addDevice device =>
    refine ⟨fun _ h => (by cases h), fun key hkey => ?_⟩
    change key ∈ (ite _ _ _ : Work ρ φ η).devices at hkey
    split_ifs at hkey
    · cases hkey
    · rw [List.mem_singleton.mp hkey]
      exact he
  | _ => exact ⟨fun _ h => (by cases h), fun _ h => (by cases h)⟩

theorem within_plain (hinit : Within Plain Plain init)
    (hrun : Machine.Run (step ctx) (fun _ e => e.PlainKeys) init es w) : Within Plain Plain w := by
  refine hrun.invariant (Within Plain Plain) hinit ?_
  rintro s e t h he hs
  cases hs
  obtain ⟨hasked, hadded⟩ := plain_event he h.devices
  exact h.step ctx e hasked hadded

section
variable (ctx) (services : ConnectorServices ρ) (feedUpdateHandler parameterHandler : Handler η)
  {devices : type.Devices}

theorem within_build (hdevices : ∀ key ∈ type.keys devices, P key) :
    Within R P (build ctx services feedUpdateHandler parameterHandler devices :
      Connector ρ φ η type) := by
  have hcreate : Within R P (create services feedUpdateHandler parameterHandler devices :
      Connector ρ φ η type) := ⟨hdevices, by simp [Connector.waiting, create], by simp [create],
        by simp [create]⟩
  refine hcreate.does (does_build ctx services feedUpdateHandler parameterHandler devices)
    ⟨by simp [Work.performs], by simp [Work.performs], fun op hop => ?_, by simp [Work.performs]⟩
  rcases List.mem_append.mp hop with hop | hop
  · obtain ⟨d, hd, hop⟩ := List.mem_flatMap.mp hop
    exact keeps_reports (hdevices d hd) op (List.mem_append_left _ hop)
  · obtain ⟨d, hd, hop⟩ := List.mem_flatMap.mp hop
    exact keeps_reports (hdevices d hd) op (List.mem_append_right _ hop)

end

/-! ## Devices in the list -/

theorem commandWork_devices (w : Connector ρ φ η type) (success : Bool)
    (command : ConnectorCommand ρ φ) : (w.commandWork success command).devices = [] := by
  cases command with
  | connection command =>
    cases command with
    | tryConnect call firstTime => cases success <;> rfl
    | _ => rfl
  | _ => rfl

/-- Devices are only ever added. -/
theorem devices_after (ctx : ConnectorContext φ) (w : Connector ρ φ η type)
    (e : WolkClientEvent ρ φ type) :
    type.keys (w.after ctx e).devices = type.keys w.devices ++ (w.eventWork e).devices := by
  rcases after_cases ctx w e with ⟨success, command, rest, rfl, hbuffer, hdoes⟩ | hdoes
  · rw [hdoes.devices, commandWork_devices]
    rfl
  · exact hdoes.devices

/-- Requests other than for readings are taken for devices of the list only. -/
theorem asked_listed (w : Connector ρ φ η type) (e : WolkClientEvent ρ φ type) :
    ∀ request ∈ e.asked w,
      DataRequest.Keeps (fun _ => True) (fun key => key ∈ type.keys w.devices) request := by
  have hkeeps : ∀ {request : String × DataRequest ρ φ}, request.2.isReading = true ∨
      request.1 ∈ type.keys w.devices →
        DataRequest.Keeps (fun _ => True) (fun key => key ∈ type.keys w.devices) request := by
    intro request h
    unfold DataRequest.Keeps
    split_ifs with hreading
    · trivial
    · exact h.resolve_left hreading
  intro request hrequest
  cases e with
  | single | synchronizeParameters | obtainDetails =>
    rw [List.mem_singleton.mp hrequest]
    exact hkeeps (.inr List.mem_cons_self)
  | multi d call =>
    change request ∈ ite _ _ _ at hrequest
    split_ifs at hrequest with htaken
    · rw [List.mem_singleton.mp hrequest]
      exact hkeeps (htaken.imp_right WolkMulti.isDeviceInList_iff.mp)
    · cases hrequest
  | _ => cases hrequest

theorem within_listed {ok : Connector ρ φ η type → WolkClientEvent ρ φ type → Prop}
    (hinit : Within (fun _ => True) (fun key => key ∈ type.keys init.devices) init)
    (hrun : Machine.Run (step ctx) ok init es w) :
    Within (fun _ => True) (fun key => key ∈ type.keys w.devices) w := by
  refine hrun.invariant (fun w => Within (fun _ => True) (fun key => key ∈ type.keys w.devices) w)
    hinit ?_
  rintro s e t h - hs
  cases hs
  have hkept : ∀ key, key ∈ type.keys s.devices → key ∈ type.keys (s.after ctx e).devices :=
    fun key hkey => by
      rw [devices_after]
      exact List.mem_append_left _ hkey
  refine (h.mono (fun _ _ => trivial) hkept).step ctx e (fun request hrequest => ?_) fun key hkey => ?_
  · have hlisted := asked_listed s e request hrequest
    unfold DataRequest.Keeps at hlisted ⊢
    split_ifs at hlisted ⊢
    · trivial
    · exact hkept _ hlisted
  · rw [devices_after]
    exact List.mem_append_right _ hkey

/-- Every message is made and published. -/
def reliably : ConnectorContext Empty := ⟨reliable, ⟨fun _ _ _ => true, fun _ _ _ => true⟩⟩

/-- A connector without optional services, built for one device. -/
def oneDevice : Connector Unit Empty Unit .multiDevice :=
  build reliably ⟨false, false, none⟩ .unset .unset [⟨"D", ""⟩]

theorem plain_oneDevice :
    ∀ key ∈ WolkInterfaceType.multiDevice.keys [⟨"D", ""⟩], Plain key := by decide

end Connector

end WolkConnect
