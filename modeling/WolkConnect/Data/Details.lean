import WolkConnect.Data.System

/-!
# Details go to the request they answer

Any calls of `detailsSynchronizationAsync`, any requests that the retry handler gives
up and any responses, in any order. All callbacks wait in one queue.
-/

namespace WolkConnect

inductive DetailsEvent
  | detailsSynchronizationAsync (deviceKey : String)
  /-- The retry handler has invoked `onFail` for the request of the call. -/
  | giveUp (call : Call)
  | receive (deviceKey : String) (message : DetailsSynchronizationResponseMessage)
  | runCommand

/-- `live` are the calls whose requests are neither answered nor given up, in order, and `answers`
are the callbacks that the responses are for, with what they bring. -/
structure DetailsSystem extends DataSystem where
  live : List Call
  givenUp : List Call
  answers : List (DataCommand Call)

namespace DetailsSystem

variable (ctx : DataContext) (sys : DetailsSystem)

def create (persistence : Persistence) : DetailsSystem := ⟨.create persistence, [], [], []⟩

def request (deviceKey : String) : DetailsSystem :=
  let call := sys.nextCall deviceKey []
  let r := sys.svc.detailsSynchronizationAsync ctx deviceKey (some call)
  if r.1 then
    { sys with svc := r.2, calls := sys.calls ++ [call], live := sys.live ++ [call] }
  else { sys with svc := r.2 }

def giveUp (call : Call) : DetailsSystem :=
  if call ∈ sys.live then
    { sys with live := sys.live.erase call, givenUp := sys.givenUp ++ [call] }
  else sys

/-- The oldest call for the device that waits for its response. -/
def oldest (deviceKey : String) : Option Call :=
  if deviceKey = "" then none else sys.live.find? fun call => call.deviceKey = deviceKey

def receive (deviceKey : String) (message : DetailsSynchronizationResponseMessage) : DetailsSystem :=
  let svc := sys.svc.messageReceived ctx deviceKey (.detailsSynchronizationResponse message)
  match sys.oldest deviceKey with
  | none => { sys with svc := svc }
  | some call =>
    { sys with
      svc := svc
      live := sys.live.erase call
      answers := sys.answers ++ [.details call deviceKey message.feeds message.attributes] }

def step (sys : DetailsSystem) : DetailsEvent → Except Empty DetailsSystem
  | .detailsSynchronizationAsync deviceKey => .ok (sys.request ctx deviceKey)
  | .giveUp call => .ok (sys.giveUp call)
  | .receive deviceKey message => .ok (sys.receive ctx deviceKey message)
  | .runCommand => .ok { sys with toDataSystem := sys.runCommand }

/-- When a device sends a response, the callback that has waited longest is of a request of that
device which was not given up. -/
def FrontIsLive (sys : DetailsSystem) : DetailsEvent → Prop
  | .receive deviceKey _ => deviceKey ≠ "" → ∀ call ∈ sys.svc.detailsCallbacks.head?,
      call.deviceKey = deviceKey ∧ call ∉ sys.givenUp
  | .detailsSynchronizationAsync _ | .giveUp _ | .runCommand => True

instance (sys : DetailsSystem) : (e : DetailsEvent) → Decidable (sys.FrontIsLive e)
  | .receive _ _ => inferInstanceAs (Decidable (_ → ∀ call ∈ _, _))
  | .detailsSynchronizationAsync _ | .giveUp _ | .runCommand => inferInstanceAs (Decidable True)

/-- The callbacks that wait are those of the live calls and of calls that were given up. -/
structure Queued (sys : DetailsSystem) : Prop where
  numbered : ∀ c ∈ sys.calls, c.serial < sys.calls.length
  waiting : ∀ c ∈ sys.svc.detailsCallbacks, c ∈ sys.calls
  made : ∀ command ∈ sys.commands, command.callback ∈ sys.calls
  nodup : sys.svc.detailsCallbacks.Nodup
  unused : ∀ c ∈ sys.svc.detailsCallbacks, ∀ command ∈ sys.commands, command.callback ≠ c
  live : sys.live.Sublist sys.svc.detailsCallbacks
  fate : ∀ c ∈ sys.svc.detailsCallbacks, c ∈ sys.live ∨ c ∈ sys.givenUp
  answered : sys.commands = sys.answers
  given : ∀ c ∈ sys.givenUp, c ∈ sys.calls ∧ ∀ command ∈ sys.commands, command.callback ≠ c

variable {ctx sys}

theorem queued_create (persistence : Persistence) : (create persistence).Queued where
  numbered _ h := absurd h List.not_mem_nil
  waiting _ h := absurd h List.not_mem_nil
  made _ h := absurd h List.not_mem_nil
  nodup := .nil
  unused _ h := absurd h List.not_mem_nil
  live := .slnil
  fate _ h := absurd h List.not_mem_nil
  answered := rfl
  given _ h := absurd h List.not_mem_nil

theorem Queued.request (h : sys.Queued) (d : String) : (sys.request ctx d).Queued := by
  have hfresh : sys.nextCall d [] ∉ sys.calls := fun hmem => Nat.lt_irrefl _ (h.numbered _ hmem)
  unfold DetailsSystem.request DataService.detailsSynchronizationAsync
  by_cases hmade : ctx.makeOutboundMessage sys.svc.sends.length d .detailsSynchronizationRequest = true
  · simp only [if_pos hmade, if_true]
    refine ⟨?_, ?_, ?_, ?_, ?_, h.live.append (.refl _), ?_, h.answered, ?_⟩
    · intro c hc
      rw [List.length_append, List.length_singleton]
      rcases List.mem_append.mp hc with hc | hc
      · exact Nat.lt_succ_of_lt (h.numbered c hc)
      · rw [List.mem_singleton.mp hc]
        exact Nat.lt_succ_self _
    · intro c hc
      rcases List.mem_append.mp hc with hc | hc
      · exact List.mem_append_left _ (h.waiting c hc)
      · exact List.mem_append_right _ hc
    · exact fun command hcommand => List.mem_append_left _ (h.made command hcommand)
    · refine List.nodup_append.mpr ⟨h.nodup, List.pairwise_singleton _ _, fun c hc c' hc' heq => ?_⟩
      rw [heq, List.mem_singleton.mp hc'] at hc
      exact hfresh (h.waiting _ hc)
    · intro c hc command hcommand heq
      rcases List.mem_append.mp hc with hc | hc
      · exact h.unused c hc command hcommand heq
      · rw [List.mem_singleton.mp hc] at heq
        exact hfresh (heq ▸ h.made command hcommand)
    · intro c hc
      rcases List.mem_append.mp hc with hc | hc
      · exact (h.fate c hc).imp_left (List.mem_append_left _)
      · exact Or.inl (List.mem_append_right _ hc)
    · exact fun c hc => (h.given c hc).imp_left (List.mem_append_left _)
  · simp only [if_neg hmade, Bool.false_eq_true, if_false]
    exact ⟨h.numbered, h.waiting, h.made, h.nodup, h.unused, h.live, h.fate, h.answered, h.given⟩

theorem Queued.giveUp (h : sys.Queued) (call : Call) : (sys.giveUp call).Queued := by
  unfold DetailsSystem.giveUp
  split_ifs with hlive
  · refine ⟨h.numbered, h.waiting, h.made, h.nodup, h.unused, ?_, fun c hc => ?_, h.answered,
      fun c hc => ?_⟩
    · exact List.erase_sublist.trans h.live
    · by_cases heq : c = call
      · exact Or.inr (heq ▸ List.mem_append_right _ List.mem_cons_self)
      · refine (h.fate c hc).imp (fun hmem => ?_) (List.mem_append_left _)
        exact (List.mem_erase_of_ne heq).mpr hmem
    · rcases List.mem_append.mp hc with hc | hc
      · exact h.given c hc
      · rw [List.mem_singleton.mp hc]
        have hwaits := h.live.subset hlive
        exact ⟨h.waiting call hwaits, h.unused call hwaits⟩
  · exact h

/-- The callback in front is of the oldest live call of the device. -/
theorem Queued.oldest_front (h : sys.Queued) {d : String} (hd : d ≠ "") {c : Call} {rest : List Call}
    (hqueue : sys.svc.detailsCallbacks = c :: rest) (hdevice : c.deviceKey = d)
    (hkept : c ∉ sys.givenUp) :
    sys.oldest d = some c ∧ (sys.live.erase c).Sublist rest := by
  have hnodup := h.nodup
  have hlive := h.live
  have hmem := (h.fate c (hqueue ▸ List.mem_cons_self)).resolve_right hkept
  rw [hqueue, List.nodup_cons] at hnodup
  rw [hqueue, List.sublist_cons_iff] at hlive
  rcases hlive with hlive | ⟨live, heq, hlive⟩
  · exact absurd (hlive.subset hmem) hnodup.1
  · rw [DetailsSystem.oldest, if_neg hd, heq, List.erase_cons_head]
    exact ⟨List.find?_cons_of_pos (by simpa using hdevice), hlive⟩

theorem Queued.oldest_nil (h : sys.Queued) {d : String} (hqueue : sys.svc.detailsCallbacks = []) :
    sys.oldest d = none := by
  have hlive := h.live
  rw [hqueue, List.sublist_nil] at hlive
  rw [DetailsSystem.oldest, hlive]
  split_ifs <;> rfl

theorem Queued.receive (h : sys.Queued) {d : String} {message : DetailsSynchronizationResponseMessage}
    (hfront : sys.FrontIsLive (.receive d message)) : (sys.receive ctx d message).Queued := by
  unfold DetailsSystem.receive
  by_cases hd : d = ""
  · have hnone : sys.svc.messageReceived ctx d (.detailsSynchronizationResponse message) = sys.svc := by
      simp [DataService.messageReceived, hd]
    rw [hnone, DetailsSystem.oldest, if_pos hd]
    exact h
  rcases DataService.messageReceived_details ctx sys.svc hd message with
    ⟨c, rest, hqueue, hsvc⟩ | ⟨hqueue, hsvc⟩
  · obtain ⟨hdevice, hkept⟩ := hfront hd c (by rw [hqueue]; rfl)
    obtain ⟨holdest, hlive⟩ := h.oldest_front hd hqueue hdevice hkept
    have hmem : c ∈ sys.svc.detailsCallbacks := hqueue ▸ List.mem_cons_self
    have hrest : ∀ c' ∈ rest, c' ∈ sys.svc.detailsCallbacks :=
      fun c' hc' => hqueue ▸ List.mem_cons_of_mem c hc'
    have hnodup := h.nodup
    rw [hqueue, List.nodup_cons] at hnodup
    have hcommands : ∀ command, command ∈ sys.executed ++ (sys.svc.commandBuffer ++
          [DataCommand.details c d message.feeds message.attributes]) ↔
        command ∈ sys.commands ∨ command = .details c d message.feeds message.attributes := by
      simp [DataSystem.commands, or_assoc]
    rw [hsvc, holdest]
    refine ⟨h.numbered, fun c' hc' => h.waiting c' (hrest c' hc'), fun command hcommand => ?_,
      hnodup.2, fun c' hc' command hcommand => ?_, hlive, fun c' hc' => ?_, ?_, fun c' hc' => ?_⟩
    · rcases (hcommands command).mp hcommand with hcommand | rfl
      · exact h.made command hcommand
      · exact h.waiting c hmem
    · rcases (hcommands command).mp hcommand with hcommand | rfl
      · exact h.unused c' (hrest c' hc') command hcommand
      · exact fun heq : c = c' => hnodup.1 (heq ▸ hc')
    · refine (h.fate c' (hrest c' hc')).imp_left fun hmem' => ?_
      exact (List.mem_erase_of_ne (ne_of_mem_of_not_mem hc' hnodup.1)).mpr hmem'
    · rw [← h.answered]
      exact (List.append_assoc _ _ _).symm
    · refine ⟨(h.given c' hc').1, fun command hcommand => ?_⟩
      rcases (hcommands command).mp hcommand with hcommand | rfl
      · exact (h.given c' hc').2 command hcommand
      · exact fun heq : c = c' => hkept (heq ▸ hc')
  · rw [hsvc, h.oldest_nil hqueue]
    exact ⟨h.numbered, h.waiting, h.made, h.nodup, h.unused, h.live, h.fate, h.answered, h.given⟩

theorem Queued.runCommand (h : sys.Queued) : Queued { sys with toDataSystem := sys.runCommand } := by
  have hcommands := sys.toDataSystem.commands_runCommand
  have hcalls : sys.runCommand.calls = sys.calls := by
    unfold DataSystem.runCommand
    split <;> rfl
  have hqueue : sys.runCommand.svc.detailsCallbacks = sys.svc.detailsCallbacks := by
    unfold DataSystem.runCommand
    split <;> rfl
  constructor
  · exact hcalls ▸ h.numbered
  · exact hcalls ▸ hqueue ▸ h.waiting
  · exact hcalls ▸ hcommands ▸ h.made
  · exact hqueue ▸ h.nodup
  · exact hqueue ▸ hcommands ▸ h.unused
  · exact hqueue ▸ h.live
  · exact hqueue ▸ h.fate
  · exact hcommands ▸ h.answered
  · exact hcalls ▸ hcommands ▸ h.given

theorem Queued.step {sys' : DetailsSystem} {e : DetailsEvent} (h : sys.Queued)
    (hfront : sys.FrontIsLive e) (hstep : sys.step ctx e = .ok sys') : sys'.Queued := by
  cases e with
  | detailsSynchronizationAsync d =>
    cases hstep
    exact h.request d
  | giveUp call =>
    cases hstep
    exact h.giveUp call
  | receive d message =>
    cases hstep
    exact h.receive hfront
  | runCommand =>
    cases hstep
    exact h.runCommand

/-- **Details reach their request.** In every run in which the callback in front is of a live request
of the device whenever that device answers, the callbacks that are queued are those of the oldest
live calls, and none of a request that was given up. -/
theorem details_answer_oldest {persistence : Persistence} {es : List DetailsEvent}
    (hrun : Machine.Run (step ctx) FrontIsLive (create persistence) es sys) :
    sys.commands = sys.answers ∧
      ∀ c ∈ sys.givenUp, ∀ command ∈ sys.commands, command.callback ≠ c := by
  have hinv : sys.Queued :=
    hrun.invariant Queued (queued_create _) fun _ _ _ h hok hs => h.step hok hs
  exact ⟨hinv.answered, fun c hc => (hinv.given c hc).2⟩

theorem details_answer_oldest_sample : ∃ sys : DetailsSystem,
    (sys.commands = sys.answers ∧
      ∀ c ∈ sys.givenUp, ∀ command ∈ sys.commands, command.callback ≠ c) ∧
      sys.commands = [.details ⟨0, "a", []⟩ "a" ["T"] [], .details ⟨1, "b", []⟩ "b" [] ["x"]] := by
  obtain ⟨sys, hrun, hcommands⟩ := Machine.Run.exists_of_check (step reliable) FrontIsLive
    (create .empty) [.detailsSynchronizationAsync "a", .detailsSynchronizationAsync "b",
      .receive "a" ⟨["T"], []⟩, .runCommand, .receive "b" ⟨[], ["x"]⟩] (fun sys => sys.commands)
    [.details ⟨0, "a", []⟩ "a" ["T"] [], .details ⟨1, "b", []⟩ "b" [] ["x"]] (by decide +kernel)
  exact ⟨sys, details_answer_oldest hrun, hcommands⟩

/-- A request is given up, and its callback gets the response to the next one. -/
theorem details_reach_given_up : ∃ sys : DetailsSystem,
    Machine.Run (step reliable) (fun _ _ => True) (create .empty)
      [.detailsSynchronizationAsync "a", .giveUp ⟨0, "a", []⟩, .detailsSynchronizationAsync "a",
        .receive "a" ⟨["T"], []⟩] sys ∧
      ¬ (sys.commands = sys.answers ∧
        ∀ c ∈ sys.givenUp, ∀ command ∈ sys.commands, command.callback ≠ c) := by
  obtain ⟨sys, hrun, hlists⟩ := Machine.Run.exists_of_check (step reliable) (fun _ _ => True)
    (create .empty) [.detailsSynchronizationAsync "a", .giveUp ⟨0, "a", []⟩,
      .detailsSynchronizationAsync "a", .receive "a" ⟨["T"], []⟩]
    (fun sys => (sys.commands, sys.answers))
    ([.details ⟨0, "a", []⟩ "a" ["T"] []], [.details ⟨1, "a", []⟩ "a" ["T"] []]) (by decide +kernel)
  refine ⟨sys, hrun, fun h => ?_⟩
  obtain ⟨hcommands, hanswers⟩ := Prod.mk.inj hlists
  have hsame := h.1
  rw [hcommands, hanswers] at hsame
  revert hsame
  decide

end DetailsSystem

end WolkConnect
