import WolkConnect.Connector.Devices

/-!
# The connection of a connector

A connector shares one command buffer between its connection and its data. What the connection
does is what it would do with a command buffer of its own, whatever comes between its commands.
-/

namespace WolkConnect

namespace Connector

variable {ρ φ η : Type} {type : WolkInterfaceType} {ctx : ConnectorContext φ}
  {w w' init : Connector ρ φ η type} {es : List (WolkClientEvent ρ φ type)}

/-- The part about the connection, with the commands of the buffer that are about it. -/
def interface (w : Connector ρ φ η type) : WolkInterface where
  connected := w.connected
  connectionStatusListener := w.connectionStatusListener
  commandBuffer := w.commandBuffer.flatMap ConnectorCommand.connections
  calls := w.calls
  actions := w.actions

/-- The event as it concerns the connection: executing a command does where the command does. -/
def linkEvent (w : Connector ρ φ η type) : WolkClientEvent ρ φ type → Option LinkEvent
  | .link (.event (.execute success)) =>
    match w.commandBuffer with
    | .connection _ :: _ => some (.event (.execute success))
    | _ => none
  | .link e => some e
  | _ => none

theorem interface_addToCommandBuffer (w : Connector ρ φ η type) (command : ConnectionCommand) :
    (w.addToCommandBuffer (.connection command)).interface =
      w.interface.addToCommandBuffer command := by
  simp only [interface, addToCommandBuffer, WolkInterface.addToCommandBuffer, List.flatMap_append,
    List.flatMap_singleton, ConnectorCommand.connections]

theorem interface_push {command : ConnectorCommand ρ φ} (h : command.connections = []) :
    (w.addToCommandBuffer command).interface = w.interface := by
  simp only [interface, addToCommandBuffer, List.flatMap_append, List.flatMap_singleton, h,
    List.append_nil]

theorem interface_connect (w : Connector ρ φ η type) :
    w.connect.interface = w.interface.connect := by
  simp only [interface, connect, tryConnect, addToCommandBuffer, WolkInterface.connect,
    WolkInterface.tryConnect, WolkInterface.addToCommandBuffer, List.flatMap_append,
    List.flatMap_singleton, ConnectorCommand.connections]

theorem interface_disconnect (w : Connector ρ φ η type) :
    w.disconnect.interface = w.interface.disconnect := by
  simp only [interface, disconnect, addToCommandBuffer, WolkInterface.disconnect,
    WolkInterface.addToCommandBuffer, List.flatMap_append, List.flatMap_singleton,
    ConnectorCommand.connections]

theorem interface_notifyConnectionStatusListener (w : Connector ρ φ η type) :
    w.notifyConnectionStatusListener.interface = w.interface.notifyConnectionStatusListener := by
  unfold notifyConnectionStatusListener WolkInterface.notifyConnectionStatusListener
  have hsame : w.interface.connectionStatusListener = w.connectionStatusListener := rfl
  rw [hsame]
  split_ifs
  · exact interface_addToCommandBuffer w _
  · rfl

theorem interface_notifyDisconnected (w : Connector ρ φ η type) :
    w.notifyDisconnected.interface = w.interface.notifyDisconnected :=
  interface_notifyConnectionStatusListener _

/-- What is asked of the data service is nothing to the connection. -/
theorem interface_obtainParametersAndAnnounce (ctx : ConnectorContext φ) (w : Connector ρ φ η type)
    (d : String) : (w.obtainParametersAndAnnounce ctx d).interface = w.interface := by
  unfold obtainParametersAndAnnounce
  split <;> rfl

theorem interface_notifyConnected (ctx : ConnectorContext φ) (w : Connector ρ φ η type) :
    (w.notifyConnected ctx).interface = w.interface.notifyConnected := by
  let w₁ : Connector ρ φ η type := { w with connected := true }
  let w₂ := w₁.notifyConnectionStatusListener.publish
  have hkeys : ∀ keys : List String,
      (keys.foldl (fun w key => w.obtainParametersAndAnnounce ctx key) w₂).interface =
        w₂.interface := by
    intro keys
    refine List.foldlRecOn (motive := fun w : Connector ρ φ η type => w.interface = w₂.interface)
      keys _ rfl ?_
    intro w hw key _
    rw [interface_obtainParametersAndAnnounce, hw]
  have hpublished : w₂.interface = w₁.interface.notifyConnectionStatusListener.publish := by
    rw [← interface_notifyConnectionStatusListener]
    exact interface_addToCommandBuffer _ _
  exact (hkeys _).trans hpublished

theorem interface_handle (w : Connector ρ φ η type) (calls : List HandlerCall) :
    (calls.foldl handle w).interface = w.interface := by
  refine List.foldlRecOn (motive := fun w' : Connector ρ φ η type => w'.interface = w.interface)
    calls _ rfl ?_
  intro w' hw call _
  cases call with
  | feedUpdate | parameterSync => exact (interface_push rfl).trans hw
  | detailsSync => exact hw

theorem interface_executeRequest (ctx : ConnectorContext φ) (w : Connector ρ φ η type) (d : String)
    (request : DataRequest ρ φ) : (w.executeRequest ctx d request).interface = w.interface := by
  cases request <;> rfl

theorem interface_executeConnection (ctx : ConnectorContext φ) (w : Connector ρ φ η type)
    (success : Bool) (command : ConnectionCommand) :
    (w.executeConnection ctx success command).interface =
      w.interface.executeCommand success command := by
  cases command with
  | tryConnect call firstTime =>
    cases success with
    | true => exact interface_notifyConnected ctx _
    | false => exact interface_addToCommandBuffer _ _
  | disconnect call => exact interface_notifyDisconnected _
  | publish => rfl
  | connectionStatusListener =>
    unfold executeConnection WolkInterface.executeCommand
    have hsame : w.interface.connectionStatusListener = w.connectionStatusListener := rfl
    rw [hsame]
    split_ifs <;> rfl

/-- An event that is about the connection is one for the connection alone, and the others are none. -/
theorem interface_after (ctx : ConnectorContext φ) (w : Connector ρ φ η type)
    (e : WolkClientEvent ρ φ type) :
    match w.linkEvent e with
    | some e' => w.interface.linkStep e' = .ok (w.after ctx e).interface
    | none => (w.after ctx e).interface = w.interface := by
  cases e with
  | link e =>
    cases e with
    | connectionLost =>
      refine congrArg Except.ok ?_
      change w.interface.notifyDisconnected.connect = w.notifyDisconnected.connect.interface
      rw [interface_connect, interface_notifyDisconnected]
    | event e =>
      cases e with
      | connect => exact congrArg Except.ok (interface_connect w).symm
      | disconnect => exact congrArg Except.ok (interface_disconnect w).symm
      | publish => exact congrArg Except.ok (interface_addToCommandBuffer w _).symm
      | setConnectionStatusListener listener => rfl
      | execute success =>
        have hafter : w.after ctx (.link (.event (.execute success))) = w.execute ctx success := rfl
        rw [hafter]
        unfold linkEvent execute
        cases hbuffer : w.commandBuffer with
        | nil => rfl
        | cons command rest =>
          have hrest : ∀ {c : ConnectorCommand ρ φ}, c = command → c.connections = [] →
              ({ w with commandBuffer := rest } : Connector ρ φ η type).interface = w.interface := by
            rintro c rfl hnone
            simp only [interface, hbuffer, List.flatMap_cons, hnone, List.nil_append]
          cases command with
          | connection command =>
            have hfirst : w.interface.commandBuffer =
                command :: rest.flatMap ConnectorCommand.connections := by
              change w.commandBuffer.flatMap ConnectorCommand.connections = _
              rw [hbuffer]
              rfl
            simp only [WolkInterface.linkStep, WolkInterface.step, hfirst]
            refine congrArg Except.ok ?_
            exact (interface_executeConnection ctx
              ({ w with commandBuffer := rest } : Connector ρ φ η type) success command).symm
          | data d request => exact (interface_executeRequest ctx _ d request).trans (hrest rfl rfl)
          | feedUpdate | parameterSync => exact hrest rfl rfl
  | messageReceived d message => exact interface_handle _ _
  | runCommand | feedUpdateHandlerExpired | parameterHandlerExpired => rfl
  | single call =>
    change (WolkSingle.call w call).interface = w.interface
    rw [WolkSingle.call_eq]
    exact interface_push rfl
  | synchronizeParameters | obtainDetails => exact interface_push rfl
  | multi d call =>
    change (WolkMulti.call w d call).interface = w.interface
    rw [WolkMulti.call_eq]
    split_ifs
    · exact interface_push rfl
    · rfl
  | addDevice device =>
    change (WolkMulti.addDevice ctx w device).interface = w.interface
    unfold WolkMulti.addDevice
    split_ifs with hlisted
    · rfl
    · by_cases hconnected : w.connected = true
      · refine (congrArg interface (if_pos hconnected)).trans ?_
        exact interface_obtainParametersAndAnnounce ctx _ _
      · refine (congrArg interface (if_neg hconnected)).trans ?_
        rfl

/-- **The connection on its own.** Over any run of a connector, what its connection does is a run of
the connection alone, with the events that concern it: the data that goes through the same command
buffer changes nothing. -/
theorem interface_run {services : ConnectorServices ρ} {feedUpdateHandler parameterHandler : Handler η}
    {devices : type.Devices} (hrun : Machine.Run (step ctx) (fun _ _ => True)
      (build ctx services feedUpdateHandler parameterHandler devices) es w) :
    Machine.Run WolkInterface.linkStep (fun _ _ => True) .create
      (Machine.kept (step ctx) linkEvent
        (build ctx services feedUpdateHandler parameterHandler devices) es) w.interface := by
  have hinit : (build ctx services feedUpdateHandler parameterHandler devices :
      Connector ρ φ η type).interface = WolkInterface.create := by
    refine List.foldlRecOn
      (motive := fun w : Connector ρ φ η type => w.interface = WolkInterface.create) _ _ ?_
      fun w hw _ _ => hw
    exact List.foldlRecOn
      (motive := fun w : Connector ρ φ η type => w.interface = WolkInterface.create) _ _ rfl
      fun w hw _ _ => hw
  have hprojected : ∃ t, Machine.Run WolkInterface.linkStep (fun _ _ => True) WolkInterface.create
      (Machine.kept (step ctx) linkEvent
        (build ctx services feedUpdateHandler parameterHandler devices) es) t ∧ t = w.interface := by
    refine hrun.project linkEvent (fun w t => t = w.interface) hinit.symm ?_ ?_
    · intro w e w' t ht _ hstep hnone
      cases hstep
      have hafter := interface_after ctx w e
      rw [hnone] at hafter
      rw [ht, hafter]
    · intro w e w' t e' ht _ hstep hsome
      cases hstep
      have hafter := interface_after ctx w e
      rw [hsome] at hafter
      exact ⟨trivial, _, ht ▸ hafter, rfl⟩
  obtain ⟨t, hkept, rfl⟩ := hprojected
  exact hkept

/-- Of two commands that are executed one is about a reading, and one connects. -/
theorem interface_run_reading : ∃ w : Connector Unit Empty Unit .multiDevice,
    Machine.Run WolkInterface.linkStep (fun _ _ => True) .create
      [.event .connect, .event (.execute true)] w.interface ∧
    w.interface.actions = [.connect 0 true true] ∧ w.interface.commandBuffer = [.publish] := by
  obtain ⟨w, hrun, hw⟩ := Machine.Run.exists_of_check (step reliably) (fun _ _ => True) oneDevice
    [.multi "D" (.addReadingValue "T" "1" 7 8), .link (.event .connect),
      .link (.event (.execute true)), .link (.event (.execute true))]
    (fun w => (w.interface.actions, w.interface.commandBuffer))
    ([.connect 0 true true], [.publish]) (by decide +kernel)
  obtain ⟨hactions, hbuffer⟩ := Prod.mk.inj hw
  exact ⟨w, interface_run hrun, hactions, hbuffer⟩

end Connector

end WolkConnect
