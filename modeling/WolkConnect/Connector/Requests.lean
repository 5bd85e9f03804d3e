import WolkConnect.Connector.Work
import WolkConnect.Data.Flush

/-!
# What becomes of the requests

A request that a user makes of a connector waits in the command buffer and is then executed,
in the order in which the requests were made. With the ledger of the data service, every
reading is accounted for from the call to the message.
-/

namespace WolkConnect

/-- The parameters that a connector reports about itself. -/
def Connector.reported : List ParameterName :=
  [.fileTransferPlatformEnabled, .fileTransferUrlEnabled, .firmwareUpdateEnabled, .firmwareVersion]

/-- A call that a connector makes without being asked. -/
def DataOperation.own {ρ : Type} : DataOperation ρ → Bool
  | .updateParameter _ parameter => decide (parameter.1 ∈ Connector.reported)
  | .addReading _ _ | .addReadings _ _ | .addAttribute _ _ | .detailsSynchronizationAsync _ _ => false
  | .synchronizeParameters _ _ _ | .publishReadings | .publishReadingsOf _ | .publishAttributes
  | .publishAttributesOf _ | .publishParameters | .publishParametersOf _ | .messageReceived _ _
  | .runCommand => true

/-- The calls that users asked for. -/
def DataOperation.ofUsers {ρ : Type} (ops : List (DataOperation ρ)) : List (DataOperation ρ) :=
  ops.filter fun op => !op.own

namespace DataOperation

variable {ρ β : Type}

theorem ofUsers_append (ops ops' : List (DataOperation ρ)) :
    ofUsers (ops ++ ops') = ofUsers ops ++ ofUsers ops' := List.filter_append ..

theorem ofUsers_eq_nil {ops : List (DataOperation ρ)} (h : ∀ op ∈ ops, op.own = true) :
    ofUsers ops = [] := by
  rw [ofUsers, List.filter_eq_nil_iff]
  intro op hop
  simp [h op hop]

/-- What no call of a connector's own has comes from the calls that users asked for. -/
theorem flatMap_ofUsers {f : DataOperation ρ → List β} (hf : ∀ op, op.own = true → f op = [])
    (ops : List (DataOperation ρ)) : (ofUsers ops).flatMap f = ops.flatMap f := by
  induction ops with
  | nil => rfl
  | cons op ops ih =>
    rw [ofUsers, List.filter_cons, List.flatMap_cons, ← ih]
    cases hown : op.own with
    | true => simp [hf op hown, ofUsers]
    | false => simp [ofUsers]

theorem readings_own (op : DataOperation ρ) (h : op.own = true) : op.readings = [] := by
  cases op <;> first | rfl | cases h

end DataOperation

namespace DataRequest

variable {ρ φ : Type}

/-- The readings in a request, each with its device. -/
def readings (d : String) : DataRequest ρ φ → List (String × Reading)
  | .addReading reading => [(d, reading)]
  | .addReadings readings => readings.map fun reading => (d, reading)
  | _ => []

theorem operations_readings (d : String) (request : DataRequest ρ φ) :
    (request.operations d).flatMap DataOperation.readings = request.readings d := by
  cases request <;> first | rfl | exact List.flatMap_singleton _ _

end DataRequest

/-- The requests that an event pushes. -/
def WolkClientEvent.asked {ρ φ η : Type} {type : WolkInterfaceType} (w : Connector ρ φ η type)
    (e : WolkClientEvent ρ φ type) : List (String × DataRequest ρ φ) :=
  match type, w, e with
  | _, w, .single call => [(w.devices.key, call.request)]
  | _, w, .synchronizeParameters parameters callback =>
    [(w.devices.key, .synchronizeParameters parameters callback)]
  | _, w, .obtainDetails callback => [(w.devices.key, .obtainDetails callback)]
  | _, w, .multi d call =>
    if (call.request : DataRequest ρ φ).isReading ∨ WolkMulti.isDeviceInList w d then
      [(d, call.request)]
    else []
  | _, _, .link _ | _, _, .messageReceived _ _ | _, _, .runCommand | _, _, .feedUpdateHandlerExpired
  | _, _, .parameterHandlerExpired | _, _, .addDevice _ => []

namespace Connector

variable {ρ φ η : Type} {type : WolkInterfaceType} {ctx : ConnectorContext φ}
  {w w' init : Connector ρ φ η type} {es : List (WolkClientEvent ρ φ type)}

/-- The requests that wait. -/
def waiting (w : Connector ρ φ η type) : List (String × DataRequest ρ φ) :=
  w.commandBuffer.flatMap ConnectorCommand.requests

theorem command_requests (calls : List HandlerCall) :
    (calls.flatMap HandlerCall.command).flatMap
      (ConnectorCommand.requests : ConnectorCommand ρ φ → _) = [] := by
  rw [List.flatMap_assoc, List.flatMap_eq_nil_iff]
  intro call _
  cases call <;> rfl

theorem notification_requests (w : Connector ρ φ η type) :
    w.notification.flatMap ConnectorCommand.requests = [] := by
  unfold notification
  split_ifs <;> rfl

theorem eventWork_requests (w : Connector ρ φ η type) (e : WolkClientEvent ρ φ type) :
    (w.eventWork e).commands.flatMap ConnectorCommand.requests = e.asked w := by
  cases e with
  | link e =>
    cases e with
    | connectionLost =>
      change (w.notification ++ _).flatMap ConnectorCommand.requests = []
      rw [List.flatMap_append, notification_requests]
      rfl
    | event e => cases e <;> rfl
  | messageReceived d message => exact command_requests _
  | multi d call =>
    change (ite _ _ _ : Work ρ φ η).commands.flatMap _ = ite _ _ _
    split_ifs <;> rfl
  | addDevice device =>
    change (ite _ _ _ : Work ρ φ η).commands.flatMap _ = []
    split_ifs <;> rfl
  | _ => rfl

/-- Executing a command pushes no requests. -/
theorem commandWork_requests (w : Connector ρ φ η type) (success : Bool)
    (command : ConnectorCommand ρ φ) :
    (w.commandWork success command).commands.flatMap ConnectorCommand.requests = [] := by
  cases command with
  | connection command =>
    cases command with
    | tryConnect call firstTime =>
      cases success with
      | true =>
        change (w.notification ++ _).flatMap ConnectorCommand.requests = []
        rw [List.flatMap_append, notification_requests]
        rfl
      | false => rfl
    | disconnect call => exact notification_requests w
    | publish | connectionStatusListener => rfl
  | _ => rfl

theorem announcement_own (services : ConnectorServices ρ) (d : String) :
    ∀ op ∈ announcement services d, op.own = true := by
  intro op hop
  obtain ⟨callback, -, rfl⟩ := Option.map_eq_some_iff.mp (Option.mem_toList.mp hop)
  rfl

theorem reports_own (services : ConnectorServices ρ) (d : String) :
    ∀ op ∈ fileManagementReports services d ++ firmwareUpdateReports services d, op.own = true := by
  simp [fileManagementReports, firmwareUpdateReports, DataOperation.own, reported]

/-- What events other than the execution of a command do is a connector's own, and they send no
messages about feeds. -/
theorem eventWork_silent (w : Connector ρ φ η type) (e : WolkClientEvent ρ φ type) :
    (∀ op ∈ (w.eventWork e).operations, op.own = true) ∧ (w.eventWork e).messages = [] := by
  have hnone : ∀ op ∈ ([] : List (DataOperation ρ)), op.own = true := by simp
  cases e with
  | link e =>
    cases e with
    | connectionLost => exact ⟨hnone, rfl⟩
    | event e => cases e <;> exact ⟨hnone, rfl⟩
  | messageReceived | runCommand => exact ⟨List.forall_mem_singleton.mpr rfl, rfl⟩
  | multi d call =>
    change (∀ op ∈ (ite _ _ _ : Work ρ φ η).operations, _) ∧ (ite _ _ _ : Work ρ φ η).messages = []
    split_ifs <;> exact ⟨hnone, rfl⟩
  | addDevice device =>
    change (∀ op ∈ (ite _ _ _ : Work ρ φ η).operations, _) ∧ (ite _ _ _ : Work ρ φ η).messages = []
    split_ifs with hlist
    · exact ⟨hnone, rfl⟩
    · refine ⟨fun op hop => ?_, rfl⟩
      rcases List.mem_append.mp hop with hop | hop
      · exact reports_own w.services device.key op hop
      · split_ifs at hop
        · rcases List.mem_cons.mp hop with rfl | hop
          · rfl
          · exact announcement_own w.services device.key op hop
        · cases hop
  | _ => exact ⟨hnone, rfl⟩

/-- What a command does for its requests. -/
theorem commandWork_request (w : Connector ρ φ η type) (success : Bool)
    (command : ConnectorCommand ρ φ) :
    DataOperation.ofUsers (w.commandWork success command).operations =
        DataOperation.ofUsers (command.requests.flatMap fun request =>
          request.2.operations request.1) ∧
      (w.commandWork success command).messages =
        command.requests.flatMap fun request => request.2.messages request.1 := by
  cases command with
  | connection command =>
    cases command with
    | tryConnect call firstTime =>
      cases success with
      | true =>
        refine ⟨DataOperation.ofUsers_eq_nil fun op hop => ?_, rfl⟩
        obtain ⟨d, -, hop⟩ := List.mem_flatMap.mp hop
        exact announcement_own w.services d op hop
      | false => exact ⟨rfl, rfl⟩
    | _ => exact ⟨rfl, rfl⟩
  | data d request =>
    refine ⟨congrArg DataOperation.ofUsers (List.flatMap_singleton _ _).symm, ?_⟩
    exact (List.flatMap_singleton _ _).symm
  | _ => exact ⟨rfl, rfl⟩

/-! ## Runs -/

/-- Of what was asked, this much was executed: the data service got the calls, and the messages about
feeds were sent. The rest waits. -/
structure Executes (asked executed : List (String × DataRequest ρ φ)) (w : Connector ρ φ η type) :
    Prop where
  order : asked = executed ++ w.waiting
  operations : DataOperation.ofUsers w.performed =
    DataOperation.ofUsers (executed.flatMap fun request => request.2.operations request.1)
  messages : w.feeds.sends.map FeedSend.request =
    executed.flatMap fun request => request.2.messages request.1

theorem Executes.step {asked executed : List (String × DataRequest ρ φ)}
    (h : Executes asked executed w) (ctx : ConnectorContext φ) (e : WolkClientEvent ρ φ type) :
    ∃ executed', Executes (asked ++ e.asked w) executed' (w.after ctx e) := by
  rcases after_cases ctx w e with ⟨success, command, rest, rfl, hbuffer, hdoes⟩ | hdoes
  · obtain ⟨hoperations, hmessages⟩ :=
      commandWork_request { w with commandBuffer := rest } success command
    refine ⟨executed ++ command.requests, ?_, ?_, ?_⟩
    · have hwaiting : w.waiting = command.requests ++ rest.flatMap ConnectorCommand.requests := by
        rw [waiting, hbuffer, List.flatMap_cons]
      rw [waiting, hdoes.commandBuffer, List.flatMap_append, commandWork_requests, List.append_nil,
        h.order, hwaiting, ← List.append_assoc]
      exact List.append_nil _
    · rw [hdoes.performed, List.flatMap_append, DataOperation.ofUsers_append,
        DataOperation.ofUsers_append, hoperations, h.operations]
    · rw [hdoes.feeds, List.flatMap_append, hmessages, ← h.messages]
  · obtain ⟨hown, hmessages⟩ := eventWork_silent w e
    refine ⟨executed, ?_, ?_, ?_⟩
    · rw [waiting, hdoes.commandBuffer, List.flatMap_append, eventWork_requests, h.order, waiting,
        List.append_assoc]
    · rw [hdoes.performed, DataOperation.ofUsers_append, DataOperation.ofUsers_eq_nil hown,
        List.append_nil, h.operations]
    · rw [hdoes.feeds, hmessages, List.append_nil, h.messages]

/-- What no call of a connector's own has, the data service got with the requests. -/
theorem Executes.flatMap {β : Type} {asked executed : List (String × DataRequest ρ φ)}
    (h : Executes asked executed w) {f : DataOperation ρ → List β}
    (hf : ∀ op, op.own = true → f op = []) :
    w.performed.flatMap f = executed.flatMap fun request => (request.2.operations request.1).flatMap f := by
  rw [← DataOperation.flatMap_ofUsers hf, h.operations, DataOperation.flatMap_ofUsers hf,
    List.flatMap_assoc]

theorem Executes.readings {asked executed : List (String × DataRequest ρ φ)}
    (h : Executes asked executed w) : w.performed.flatMap DataOperation.readings =
      executed.flatMap fun request => request.2.readings request.1 := by
  rw [h.flatMap DataOperation.readings_own]
  exact congrArg executed.flatMap (funext fun request => request.2.operations_readings request.1)

/-- What users asked for in a run. -/
def askedIn (ctx : ConnectorContext φ) (init : Connector ρ φ η type)
    (es : List (WolkClientEvent ρ φ type)) : List (String × DataRequest ρ φ) :=
  Machine.gathered (step ctx) (fun w e => e.asked w) init es

theorem executes_run {executed : List (String × DataRequest ρ φ)} (hinit : Executes [] executed init)
    (hrun : Machine.Run (step ctx) (fun _ _ => True) init es w) :
    ∃ executed, Executes (askedIn ctx init es) executed w := by
  induction hrun with
  | nil => exact ⟨executed, hinit⟩
  | @snoc es s e t hrun _ hs ih =>
    cases hs
    obtain ⟨executed, h⟩ := ih
    obtain ⟨executed', h'⟩ := h.step ctx e
    refine ⟨executed', ?_⟩
    rw [askedIn, hrun.gathered_append, Machine.gathered]
    simp only [step, Machine.gathered, List.append_nil]
    exact h'

/-- The data service is what the calls that it got have made of it. -/
theorem Does.performed_eq {work : Work ρ φ η} (hdoes : Does ctx w w' work)
    (h : w.dataService = .performed ctx.built w.performed) :
    w'.dataService = .performed ctx.built w'.performed := by
  rw [hdoes.dataService, hdoes.performed, h, DataService.performed, DataService.performed,
    List.foldl_append]

theorem dataService_run (hinit : init.dataService = .performed ctx.built init.performed)
    (hrun : Machine.Run (step ctx) (fun _ _ => True) init es w) :
    w.dataService = .performed ctx.built w.performed := by
  refine hrun.invariant (fun w => w.dataService = .performed ctx.built w.performed) hinit ?_
  rintro s e t h - hs
  cases hs
  rcases after_cases ctx s e with ⟨success, command, rest, -, -, hdoes⟩ | hdoes
  · exact hdoes.performed_eq h
  · exact hdoes.performed_eq h

section
variable (ctx) (services : ConnectorServices ρ) (feedUpdateHandler parameterHandler : Handler η)
  (devices : type.Devices)

theorem build_dataService :
    (build ctx services feedUpdateHandler parameterHandler devices : Connector ρ φ η type).dataService =
      .performed ctx.built
        (build ctx services feedUpdateHandler parameterHandler devices : Connector ρ φ η type).performed :=
  (does_build ctx services feedUpdateHandler parameterHandler devices).performed_eq rfl

theorem executes_build : Executes [] []
    (build ctx services feedUpdateHandler parameterHandler devices : Connector ρ φ η type) := by
  have hdoes := does_build ctx services feedUpdateHandler parameterHandler devices
  refine ⟨?_, ?_, hdoes.feeds⟩
  · rw [waiting, hdoes.commandBuffer]
    rfl
  · rw [hdoes.performed]
    change DataOperation.ofUsers (reports services (type.keys devices)) = []
    refine DataOperation.ofUsers_eq_nil fun op hop => ?_
    rcases List.mem_append.mp hop with hop | hop
    · obtain ⟨d, -, hop⟩ := List.mem_flatMap.mp hop
      exact reports_own services d op (List.mem_append_left _ hop)
    · obtain ⟨d, -, hop⟩ := List.mem_flatMap.mp hop
      exact reports_own services d op (List.mem_append_right _ hop)

end

end Connector

end WolkConnect
