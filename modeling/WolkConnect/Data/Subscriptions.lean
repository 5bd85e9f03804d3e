import WolkConnect.Data.System

/-!
# Parameters go to the device that asked

Any calls of `synchronizeParameters` and any messages with parameters, in any order.
Subscriptions are told apart by their names only.
-/

namespace WolkConnect

inductive ParameterEvent
  | synchronizeParameters (deviceKey : String) (parameters : List ParameterName) (callback : Bool)
  | receive (deviceKey : String) (values : List Parameter)
  | runCommand

namespace DataSystem

variable (ctx : DataContext) (sys : DataSystem)

def synchronizeParameters (deviceKey : String) (parameters : List ParameterName) (callback : Bool) :
    DataSystem :=
  let call := sys.nextCall deviceKey parameters
  let r := sys.svc.synchronizeParameters ctx deviceKey parameters
    (if callback then some call else none)
  { sys with svc := r.2, calls := if r.1 ∧ callback then sys.calls ++ [call] else sys.calls }

def parameterStep (sys : DataSystem) : ParameterEvent → Except Empty DataSystem
  | .synchronizeParameters deviceKey parameters callback =>
    .ok (sys.synchronizeParameters ctx deviceKey parameters callback)
  | .receive deviceKey values =>
    .ok { sys with svc := sys.svc.messageReceived ctx deviceKey (.parameterSync values) }
  | .runCommand => .ok sys.runCommand

/-- A call for the device that the values answer, whose callback has not been queued. -/
def Outstanding (deviceKey : String) (values : List Parameter) : Prop :=
  ∃ c ∈ sys.calls, c.deviceKey = deviceKey ∧ c.awaits values = true ∧
    ∀ command ∈ sys.commands, command.callback ≠ c

/-- When a device sends values that a subscription of another device waits for, a subscription of its
own that waits for them comes before that one. -/
def OwnFirst (sys : DataSystem) : ParameterEvent → Prop
  | .receive deviceKey values => deviceKey ≠ "" →
    ∀ e ∈ sys.svc.parameterSubscriptions.entries, e.2.awaits values = true →
      e.2.callback.deviceKey ≠ deviceKey →
        ∃ f ∈ sys.svc.parameterSubscriptions.entries, f.1 < e.1 ∧ f.2.awaits values = true ∧
          f.2.callback.deviceKey = deviceKey
  | .synchronizeParameters _ _ _ | .runCommand => True

instance (sys : DataSystem) : (e : ParameterEvent) → Decidable (sys.OwnFirst e)
  | .receive _ _ => inferInstanceAs (Decidable (_ → ∀ e ∈ _, _ → _ → ∃ f ∈ _, _))
  | .synchronizeParameters _ _ _ | .runCommand => inferInstanceAs (Decidable True)

/-- Subscriptions are of calls whose callbacks have not been queued, each of another call, and what
has been queued is for the device of the call. -/
structure Subscribed (sys : DataSystem) : Prop where
  numbered : ∀ c ∈ sys.calls, c.serial < sys.calls.length
  made : ∀ command ∈ sys.commands, command.callback ∈ sys.calls
  own : ∀ c d values, .parameters c d values ∈ sys.commands → c.deviceKey = d
  waiting : ∀ k s, sys.svc.parameterSubscriptions.find? k = some s →
    s.callback ∈ sys.calls ∧ s.parameters = s.callback.parameters ∧
      ∀ command ∈ sys.commands, command.callback ≠ s.callback
  distinct : ∀ j k s t, sys.svc.parameterSubscriptions.find? j = some s →
    sys.svc.parameterSubscriptions.find? k = some t → s.callback = t.callback → j = k

variable {ctx sys} {sys' : DataSystem}

theorem Subscribed.congr (h : sys.Subscribed) (hcalls : sys'.calls = sys.calls)
    (hcommands : sys'.commands = sys.commands)
    (hmap : sys'.svc.parameterSubscriptions = sys.svc.parameterSubscriptions) : sys'.Subscribed where
  numbered := by rw [hcalls]; exact h.numbered
  made := by rw [hcalls, hcommands]; exact h.made
  own := by rw [hcommands]; exact h.own
  waiting := by rw [hcalls, hcommands, hmap]; exact h.waiting
  distinct := by rw [hmap]; exact h.distinct

/-- One call more, which has subscribed at `key` or not at all. -/
theorem Subscribed.call (h : sys.Subscribed) {c : Call} (key : Nat)
    (hserial : c.serial = sys.calls.length) (hcalls : sys'.calls = sys.calls ++ [c])
    (hcommands : sys'.commands = sys.commands)
    (hmap : ∀ k s, sys'.svc.parameterSubscriptions.find? k = some s →
      sys.svc.parameterSubscriptions.find? k = some s ∨ k = key ∧ s = ⟨c.parameters, c⟩) :
    sys'.Subscribed := by
  have hfresh : c ∉ sys.calls := fun hmem => Nat.lt_irrefl _ (hserial ▸ h.numbered _ hmem)
  refine ⟨?_, ?_, hcommands ▸ h.own, ?_, ?_⟩
  · intro c' hc'
    rw [hcalls, List.mem_append, List.mem_singleton] at hc'
    rw [hcalls, List.length_append, List.length_singleton]
    rcases hc' with hc' | rfl
    · exact Nat.lt_succ_of_lt (h.numbered c' hc')
    · omega
  · intro command hcommand
    rw [hcalls]
    exact List.mem_append_left _ (h.made command (hcommands ▸ hcommand))
  · intro k s hs
    rw [hcalls, hcommands]
    rcases hmap k s hs with hs | ⟨-, rfl⟩
    · obtain ⟨hmem, hrest⟩ := h.waiting k s hs
      exact ⟨List.mem_append_left _ hmem, hrest⟩
    · refine ⟨List.mem_append_right _ List.mem_cons_self, rfl, fun command hcommand heq => ?_⟩
      have hmade := h.made command hcommand
      rw [heq] at hmade
      exact hfresh hmade
  · intro j k s t hs ht hst
    rcases hmap j s hs with hs | ⟨rfl, rfl⟩
    · rcases hmap k t ht with ht | ⟨rfl, rfl⟩
      · exact h.distinct j k s t hs ht hst
      · exact absurd ((congrArg (· ∈ sys.calls) hst).mp (h.waiting j s hs).1) hfresh
    · rcases hmap k t ht with ht | ⟨rfl, -⟩
      · exact absurd ((congrArg (· ∈ sys.calls) hst).mpr (h.waiting k t ht).1) hfresh
      · rfl

theorem Subscribed.synchronize (h : sys.Subscribed) (d : String) (parameters : List ParameterName)
    (callback : Bool) : (sys.synchronizeParameters ctx d parameters callback).Subscribed := by
  have hbuffer : ∀ {svc svc' : DataService Call}, svc = svc' →
      sys.executed ++ svc.commandBuffer = sys.executed ++ svc'.commandBuffer := fun h => by rw [h]
  rcases DataService.synchronizeParameters_cases ctx sys.svc d parameters
      (if callback then some (sys.nextCall d parameters) else none) with
    ⟨c, hc, htrue, hsvc⟩ | ⟨hfalse, hsvc⟩
  · have hcommands := hbuffer hsvc
    cases callback with
    | false => cases hc
    | true =>
      cases hc
      refine h.call sys.svc.iterator (c := sys.nextCall d parameters) rfl
        (if_pos ⟨htrue, rfl⟩) hcommands fun k s hs => ?_
      rw [show (sys.synchronizeParameters ctx d parameters true).svc = _ from hsvc] at hs
      exact (DataService.find?_subscribe hs).imp_right fun hnew => hnew.2
  · have hcommands := hbuffer hsvc
    have hmap := congrArg DataService.parameterSubscriptions hsvc
    refine h.congr (if_neg ?_) hcommands hmap
    rintro ⟨htrue, rfl⟩
    rcases hfalse with hfalse | hfalse
    · cases hfalse
    · cases htrue.symm.trans hfalse

/-- The first subscription that waits for the values is of the device that sent them. -/
theorem OwnFirst.callback {d : String} {values : List Parameter} (hfirst : sys.OwnFirst (.receive d values))
    (hd : d ≠ "") {k : Nat} {s : ParameterSubscription Call} (h : sys.svc.findSubscription values = some (k, s)) :
    s.callback.deviceKey = d := by
  obtain ⟨hs, hawaits, hnone⟩ := DataService.findSubscription_eq_some.mp h
  by_contra hne
  obtain ⟨⟨j, t⟩, ht, hlt, hawaits', -⟩ :=
    hfirst hd (k, s) (OrderedMap.find?_eq_some.mp hs) hawaits hne
  rw [hnone j t hlt (OrderedMap.find?_eq_some.mpr ht)] at hawaits'
  cases hawaits'

theorem Subscribed.receive (h : sys.Subscribed) {d : String} {values : List Parameter}
    (hfirst : sys.OwnFirst (.receive d values)) :
    Subscribed { sys with svc := sys.svc.messageReceived ctx d (.parameterSync values) } := by
  by_cases hd : d = ""
  · have hnone : sys.svc.messageReceived ctx d (.parameterSync values) = sys.svc := by
      simp [DataService.messageReceived, hd]
    rw [hnone]
    exact h
  rcases DataService.messageReceived_parameterSync ctx sys.svc hd values with
    ⟨k, s, hfind, hsvc⟩ | ⟨-, hsvc⟩
  · rw [hsvc]
    have hs := (DataService.findSubscription_eq_some.mp hfind).1
    obtain ⟨hmem, -, hunused⟩ := h.waiting k s hs
    have hmap : ∀ j t, (sys.svc.parameterSubscriptions.erase k).find? j = some t →
        j ≠ k ∧ sys.svc.parameterSubscriptions.find? j = some t := by
      intro j t ht
      rw [OrderedMap.find?_erase] at ht
      split_ifs at ht with hjk
      exact ⟨Ne.symm hjk, ht⟩
    have hcommands : ∀ command, command ∈ sys.executed ++
          (sys.svc.commandBuffer ++ [DataCommand.parameters s.callback d values]) ↔
        command ∈ sys.commands ∨ command = .parameters s.callback d values := by
      simp [commands, or_assoc]
    refine ⟨h.numbered, fun command hcommand => ?_, fun c d' values' hcommand => ?_,
      fun j t ht => ?_, fun i j t u ht hu => ?_⟩
    · rcases (hcommands command).mp hcommand with hcommand | rfl
      · exact h.made command hcommand
      · exact hmem
    · rcases (hcommands _).mp hcommand with hcommand | heq
      · exact h.own c d' values' hcommand
      · cases heq
        exact hfirst.callback hd hfind
    · obtain ⟨hjk, ht⟩ := hmap j t ht
      obtain ⟨hmem', hnames, hunused'⟩ := h.waiting j t ht
      refine ⟨hmem', hnames, fun command hcommand => ?_⟩
      rcases (hcommands command).mp hcommand with hcommand | rfl
      · exact hunused' command hcommand
      · exact fun heq => hjk (h.distinct j k t s ht hs heq.symm)
    · exact h.distinct i j t u (hmap i t ht).2 (hmap j u hu).2
  · rw [hsvc]
    exact h.congr rfl rfl rfl

theorem Subscribed.step (h : sys.Subscribed) {e : ParameterEvent} (hfirst : sys.OwnFirst e)
    (hstep : sys.parameterStep ctx e = .ok sys') : sys'.Subscribed := by
  cases e with
  | synchronizeParameters d parameters callback =>
    cases hstep
    exact h.synchronize d parameters callback
  | receive d values =>
    cases hstep
    exact h.receive hfirst
  | runCommand =>
    cases hstep
    refine h.congr ?_ sys.commands_runCommand ?_ <;>
    · unfold runCommand
      split <;> rfl

theorem subscribed_create (persistence : Persistence) : (create persistence).Subscribed where
  numbered _ h := absurd h List.not_mem_nil
  made _ h := absurd h List.not_mem_nil
  own _ _ _ h := absurd h List.not_mem_nil
  waiting k s h := by cases h
  distinct j k s t h := by cases h

/-- **Parameters reach the asker.** In every run in which the devices' own subscriptions come first,
what a callback receives was sent by the device of its call, and values that no outstanding call of
their device waits for go to the general handler with the key of that device. -/
theorem parameters_reach_asker {persistence : Persistence} {es : List ParameterEvent}
    (hrun : Machine.Run (parameterStep ctx) OwnFirst (create persistence) es sys) :
    (∀ c d values, .parameters c d values ∈ sys.commands → c ∈ sys.calls ∧ c.deviceKey = d) ∧
      ∀ d values, d ≠ "" → sys.OwnFirst (.receive d values) → ¬ sys.Outstanding d values →
        sys.svc.messageReceived ctx d (.parameterSync values) =
          { sys.svc with
            handled := sys.svc.handled ++
              if ctx.parameterSyncHandler then [.parameterSync d values] else [] } := by
  have hinv : sys.Subscribed :=
    hrun.invariant Subscribed (subscribed_create _) fun _ _ _ h hok hs => h.step hok hs
  refine ⟨fun c d values hcommand => ⟨hinv.made _ hcommand, hinv.own c d values hcommand⟩, ?_⟩
  intro d values hd hfirst hnone
  rcases DataService.messageReceived_parameterSync ctx sys.svc hd values with
    ⟨k, s, hfind, -⟩ | ⟨-, hsvc⟩
  · obtain ⟨hs, hawaits, -⟩ := DataService.findSubscription_eq_some.mp hfind
    obtain ⟨hmem, hnames, hunused⟩ := hinv.waiting k s hs
    refine absurd ⟨s.callback, hmem, hfirst.callback hd hfind, ?_, hunused⟩ hnone
    rw [Call.awaits, ← hnames]
    exact hawaits
  · exact hsvc

/-! ## Runs -/

/-- Two devices ask for the same parameter, and the answers come in the order of the calls. -/
theorem parameters_reach_asker_sample : ∃ sys : DataSystem,
    (∀ c d values, .parameters c d values ∈ sys.commands → c ∈ sys.calls ∧ c.deviceKey = d) ∧
      sys.commands =
        [.parameters ⟨0, "a", [.firmwareUpdateRepository]⟩ "a" [(.firmwareUpdateRepository, "u")],
        .parameters ⟨1, "b", [.firmwareUpdateRepository]⟩ "b" [(.firmwareUpdateRepository, "v")]] := by
  obtain ⟨sys, hrun, hcommands⟩ := Machine.Run.exists_of_check (parameterStep reliable) OwnFirst
    (create .empty) [.synchronizeParameters "a" [.firmwareUpdateRepository] true,
      .synchronizeParameters "b" [.firmwareUpdateRepository] true,
      .receive "a" [(.firmwareUpdateRepository, "u")], .runCommand, .receive "b" [(.firmwareUpdateRepository, "v")]] commands
    [.parameters ⟨0, "a", [.firmwareUpdateRepository]⟩ "a" [(.firmwareUpdateRepository, "u")],
      .parameters ⟨1, "b", [.firmwareUpdateRepository]⟩ "b" [(.firmwareUpdateRepository, "v")]]
    (by decide +kernel)
  exact ⟨sys, (parameters_reach_asker hrun).1, hcommands⟩

/-- The second device is the first to be answered, and the callback of the first gets its values. -/
theorem parameters_reach_another : ∃ sys : DataSystem,
    Machine.Run (parameterStep reliable) (fun _ _ => True) (create .empty)
      [.synchronizeParameters "a" [.firmwareUpdateRepository] true,
        .synchronizeParameters "b" [.firmwareUpdateRepository] true, .receive "b" [(.firmwareUpdateRepository, "v")]] sys ∧
      ¬ ∀ c d values, .parameters c d values ∈ sys.commands → c ∈ sys.calls ∧ c.deviceKey = d := by
  obtain ⟨sys, hrun, hcommands⟩ := Machine.Run.exists_of_check (parameterStep reliable)
    (fun _ _ => True) (create .empty) [.synchronizeParameters "a" [.firmwareUpdateRepository] true,
      .synchronizeParameters "b" [.firmwareUpdateRepository] true,
      .receive "b" [(.firmwareUpdateRepository, "v")]] commands
    [.parameters ⟨0, "a", [.firmwareUpdateRepository]⟩ "b" [(.firmwareUpdateRepository, "v")]]
    (by decide +kernel)
  refine ⟨sys, hrun, fun h => ?_⟩
  have hdevice := (h ⟨0, "a", [.firmwareUpdateRepository]⟩ "b" [(.firmwareUpdateRepository, "v")]
    (by simp [hcommands])).2
  revert hdevice
  decide

end DataSystem

end WolkConnect
