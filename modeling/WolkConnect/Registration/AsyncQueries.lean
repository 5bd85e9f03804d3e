import WolkConnect.Lib.Run
import WolkConnect.Registration.Queries
import Mathlib.Data.List.Nodup

/-!
# Asynchronous queries

Any calls of `obtainDevicesAsync`, and one response of the platform for each request.
A callback is a number, that of its call.
-/

namespace WolkConnect

inductive QueryEvent (M : Type)
  | obtainDevicesAsync (ctx : DeviceQueryContext M) (deviceKey : String) (query : DeviceQuery)
      (callback : Bool)
  /-- The platform answers the request of a call. -/
  | respond (call : Nat) (devices : List RegisteredDeviceInformation)
  | runCommand

/-- `calls` has the queries of the calls that returned true, and `answers` the devices with which the
platform has answered them. -/
structure QuerySystem where
  svc : DeviceQueries Nat
  calls : List DeviceQuery
  unanswered : List Nat
  answers : List (Nat × List RegisteredDeviceInformation)
  invoked : List (Nat × List RegisteredDeviceInformation)

namespace QuerySystem

variable {M : Type} (sys : QuerySystem)

def create : QuerySystem := ⟨⟨.empty, []⟩, [], [], [], []⟩

def obtainDevicesAsync (ctx : DeviceQueryContext M) (deviceKey : String) (query : DeviceQuery)
    (callback : Bool) : QuerySystem :=
  let r := sys.svc.obtainDevicesAsync ctx deviceKey query
    (if callback then some sys.calls.length else none)
  if r.1 then
    { sys with
      svc := r.2
      calls := sys.calls ++ [query]
      unanswered := sys.unanswered ++ [sys.calls.length] }
  else { sys with svc := r.2 }

def respond (call : Nat) (devices : List RegisteredDeviceInformation) : QuerySystem :=
  match sys.calls[call]? with
  | none => sys
  | some query =>
    if call ∈ sys.unanswered then
      { sys with
        svc := (sys.svc.handleRegisteredDevicesResponse (some (query.response devices))).2
        unanswered := sys.unanswered.erase call
        answers := sys.answers ++ [(call, devices)] }
    else sys

def runCommand : QuerySystem :=
  match sys.svc.commandBuffer with
  | [] => sys
  | command :: rest =>
    { sys with svc := { sys.svc with commandBuffer := rest }, invoked := sys.invoked ++ [command] }

def step (sys : QuerySystem) : QueryEvent M → Except Empty QuerySystem
  | .obtainDevicesAsync ctx deviceKey query callback =>
    .ok (sys.obtainDevicesAsync ctx deviceKey query callback)
  | .respond call devices => .ok (sys.respond call devices)
  | .runCommand => .ok sys.runCommand

/-- The callbacks that have been invoked or are in the command buffer. -/
def queued : List (Nat × List RegisteredDeviceInformation) := sys.invoked ++ sys.svc.commandBuffer

/-- The platform has answered everything, and the command buffer is empty. -/
structure Complete : Prop where
  answered : sys.unanswered = []
  executed : sys.svc.commandBuffer = []

/-- Each callback was invoked once, with the devices of its own response. -/
def AnsweredOnce : Prop :=
  ∀ call < sys.calls.length, ∃ devices, (call, devices) ∈ sys.answers ∧
    sys.invoked.filter (fun a => a.1 = call) = [(call, devices)]

/-- A request that goes out has a key that none before it had. -/
def FreshQuery (sys : QuerySystem) : QueryEvent M → Prop
  | .obtainDevicesAsync ctx deviceKey query callback =>
    callback = true → DeviceQueries.publishRequest ctx deviceKey query = true →
      ∀ earlier ∈ sys.calls, earlier.data ≠ query.data
  | .respond _ _ | .runCommand => True

instance (sys : QuerySystem) : (e : QueryEvent M) → Decidable (sys.FreshQuery e)
  | .obtainDevicesAsync _ _ _ _ => inferInstanceAs (Decidable (_ → _ → ∀ _ ∈ _, _ ≠ _))
  | .respond _ _ | .runCommand => isTrue trivial

/-- Every call is answered or not, and its key is in the map, perhaps with an earlier callback. -/
structure Numbered : Prop where
  numbers : (sys.answers.map Prod.fst ++ sys.unanswered).Perm (List.range sys.calls.length)
  kept : ∀ query ∈ sys.calls, sys.svc.deviceRegistrationResponses.find? query.data ≠ none
  owned : ∀ key e, sys.svc.deviceRegistrationResponses.find? key = some e →
    ∃ call query, e.1 = some call ∧ sys.calls[call]? = some query ∧ query.data = key

/-- The callback of each call waits under its key, and what was answered has been queued. -/
structure Answering : Prop where
  numbered : sys.Numbered
  stored : ∀ call query, sys.calls[call]? = some query →
    ∃ response, sys.svc.deviceRegistrationResponses.find? query.data = some (some call, response)
  queued : sys.queued = sys.answers

/-- A callback is not in the map, and was not invoked. -/
def Deaf : Prop :=
  ∃ call < sys.calls.length,
    (∀ key e, sys.svc.deviceRegistrationResponses.find? key = some e → e.1 ≠ some call) ∧
      ∀ a ∈ sys.queued, a.1 ≠ call

variable {sys} {sys' : QuerySystem} {es : List (QueryEvent M)}

/-- A call returns false and changes nothing, or its key is in the map afterwards. -/
theorem obtainDevicesAsync_cases (sys : QuerySystem) (ctx : DeviceQueryContext M) (deviceKey : String)
    (query : DeviceQuery) (callback : Bool) :
    (sys.obtainDevicesAsync ctx deviceKey query callback = sys ∧
      ¬ (callback = true ∧ DeviceQueries.publishRequest ctx deviceKey query = true)) ∨
    (callback = true ∧ DeviceQueries.publishRequest ctx deviceKey query = true ∧
      sys.obtainDevicesAsync ctx deviceKey query callback =
        { sys with
          svc := sys.svc.emplace query.data (some sys.calls.length)
          calls := sys.calls ++ [query]
          unanswered := sys.unanswered ++ [sys.calls.length] }) := by
  unfold obtainDevicesAsync DeviceQueries.obtainDevicesAsync
  cases callback with
  | false => exact .inl ⟨rfl, fun h => Bool.false_ne_true h.1⟩
  | true =>
    by_cases hpublished : DeviceQueries.publishRequest ctx deviceKey query = true
    · exact .inr ⟨rfl, hpublished, by simp [hpublished]⟩
    · exact .inl ⟨by simp [hpublished], fun h => hpublished h.2⟩

theorem respond_cases (sys : QuerySystem) (call : Nat) (devices : List RegisteredDeviceInformation) :
    sys.respond call devices = sys ∨
      ∃ query, sys.calls[call]? = some query ∧ call ∈ sys.unanswered ∧
        sys.respond call devices =
          { sys with
            svc := (sys.svc.handleRegisteredDevicesResponse (some (query.response devices))).2
            unanswered := sys.unanswered.erase call
            answers := sys.answers ++ [(call, devices)] } := by
  unfold respond
  cases hcall : sys.calls[call]? with
  | none => exact .inl rfl
  | some query =>
    dsimp only
    split_ifs with hmem
    · exact .inr ⟨query, rfl, hmem, rfl⟩
    · exact .inl rfl

theorem runCommand_cases (sys : QuerySystem) :
    sys.runCommand = sys ∨ ∃ command rest, sys.svc.commandBuffer = command :: rest ∧
      sys.runCommand = { sys with
        svc := { sys.svc with commandBuffer := rest }, invoked := sys.invoked ++ [command] } := by
  unfold runCommand
  cases hbuffer : sys.svc.commandBuffer with
  | nil => exact .inl rfl
  | cons command rest => exact .inr ⟨command, rest, rfl, rfl⟩

theorem runCommand_queued (sys : QuerySystem) : sys.runCommand.queued = sys.queued := by
  rcases sys.runCommand_cases with heq | ⟨command, rest, hbuffer, heq⟩
  · rw [heq]
  · rw [heq]
    simp [queued, hbuffer]

theorem handle_cases (svc : DeviceQueries Nat) (message : RegisteredDevicesResponseMessage)
    (hasync : ∀ e, svc.deviceRegistrationResponses.find? message.query = some e → e.1 ≠ none) :
    ((svc.handleRegisteredDevicesResponse (some message)).2 = svc ∧
      svc.deviceRegistrationResponses.find? message.query = none) ∨
    ∃ call response,
      svc.deviceRegistrationResponses.find? message.query = some (some call, response) ∧
      (svc.handleRegisteredDevicesResponse (some message)).2 =
        { svc with commandBuffer := svc.commandBuffer ++ [(call, message.matchingDevices)] } := by
  unfold DeviceQueries.handleRegisteredDevicesResponse
  dsimp only
  cases hfind : svc.deviceRegistrationResponses.find? message.query with
  | none => exact .inl ⟨rfl, rfl⟩
  | some e =>
    obtain ⟨_ | call, response⟩ := e
    · exact absurd rfl (hasync _ hfind)
    · exact .inr ⟨call, response, rfl, rfl⟩

theorem Numbered.async (h : sys.Numbered) (key : DeviceQueryData) :
    ∀ e, sys.svc.deviceRegistrationResponses.find? key = some e → e.1 ≠ none := by
  intro e he
  obtain ⟨call, -, hcall, -⟩ := h.owned key e he
  rw [hcall]
  exact Option.some_ne_none call

theorem Numbered.answered_lt (h : sys.Numbered) {a : Nat × List RegisteredDeviceInformation}
    (ha : a ∈ sys.answers) : a.1 < sys.calls.length :=
  List.mem_range.mp (h.numbers.subset (List.mem_append_left _ (List.mem_map_of_mem ha)))

theorem Numbered.step (h : sys.Numbered) {e : QueryEvent M} (hs : sys.step e = .ok sys') :
    sys'.Numbered := by
  cases e with
  | obtainDevicesAsync ctx deviceKey query callback =>
    cases hs
    rcases sys.obtainDevicesAsync_cases ctx deviceKey query callback with ⟨heq, -⟩ | ⟨-, -, heq⟩
    · rw [heq]
      exact h
    · rw [heq]
      refine ⟨?_, fun query' hquery' => ?_, fun key e he => ?_⟩
      · rw [List.length_append, List.length_singleton, List.range_succ, ← List.append_assoc]
        exact h.numbers.append_right _
      · change (OrderedMap.emplace _ query.data _).find? query'.data ≠ none
        rw [OrderedMap.find?_emplace]
        split_ifs with hq
        · exact Option.some_ne_none _
        · refine h.kept query' ((List.mem_append.mp hquery').resolve_right fun hnew => ?_)
          exact hq (congrArg DeviceQuery.data (List.mem_singleton.mp hnew).symm)
      · rcases OrderedMap.find?_emplace_eq_some he with he | ⟨-, rfl, rfl⟩
        · obtain ⟨call, query', hcall, hquery, hdata⟩ := h.owned key e he
          refine ⟨call, query', hcall, ?_, hdata⟩
          exact List.getElem?_append_left (List.getElem?_eq_some_iff.mp hquery).1 ▸ hquery
        · exact ⟨sys.calls.length, query, rfl, by simp, rfl⟩
  | respond call devices =>
    cases hs
    rcases sys.respond_cases call devices with heq | ⟨query, -, hmem, heq⟩
    · rw [heq]
      exact h
    · rw [heq]
      have hnumbers : ((sys.answers ++ [(call, devices)]).map Prod.fst ++ sys.unanswered.erase call).Perm
          (List.range sys.calls.length) := by
        refine .trans ?_ h.numbers
        rw [List.map_append, List.append_assoc]
        exact (List.perm_cons_erase hmem).symm.append_left _
      rcases handle_cases sys.svc (query.response devices) (h.async _) with
        ⟨hsvc, -⟩ | ⟨call', response, -, hsvc⟩
      · rw [hsvc]
        exact ⟨hnumbers, h.kept, h.owned⟩
      · rw [hsvc]
        exact ⟨hnumbers, h.kept, h.owned⟩
  | runCommand =>
    cases hs
    rcases sys.runCommand_cases with heq | ⟨command, rest, -, heq⟩
    · rw [heq]
      exact h
    · rw [heq]
      exact ⟨h.numbers, h.kept, h.owned⟩

theorem Answering.step (h : sys.Answering) {e : QueryEvent M} (hok : sys.FreshQuery e)
    (hs : sys.step e = .ok sys') : sys'.Answering := by
  have hnumbered := h.numbered.step hs
  cases e with
  | obtainDevicesAsync ctx deviceKey query callback =>
    cases hs
    rcases sys.obtainDevicesAsync_cases ctx deviceKey query callback with
      ⟨heq, -⟩ | ⟨hcallback, hpublished, heq⟩
    · rw [heq]
      exact h
    · have hfresh := hok hcallback hpublished
      rw [heq] at hnumbered ⊢
      have hfree : sys.svc.deviceRegistrationResponses.find? query.data = none := by
        by_contra hsome
        obtain ⟨e, he⟩ := Option.ne_none_iff_exists'.mp hsome
        obtain ⟨call, query', -, hquery, hdata⟩ := h.numbered.owned query.data e he
        exact hfresh query' (List.mem_of_getElem? hquery) hdata
      refine ⟨hnumbered, fun call query' hcall => ?_, h.queued⟩
      change ∃ response, (OrderedMap.emplace _ query.data _).find? query'.data = _
      rw [OrderedMap.find?_emplace_of_none _ _ hfree]
      rw [List.getElem?_append] at hcall
      split_ifs at hcall with hlt
      · rw [if_neg (hfresh query' (List.mem_of_getElem? hcall)).symm]
        exact h.stored call query' hcall
      · rw [List.getElem?_singleton] at hcall
        split_ifs at hcall with hzero
        cases hcall
        rw [if_pos rfl]
        exact ⟨none, by rw [show call = sys.calls.length by omega]⟩
  | respond call devices =>
    cases hs
    rcases sys.respond_cases call devices with heq | ⟨query, hcall, -, heq⟩
    · rw [heq]
      exact h
    · rw [heq] at hnumbered ⊢
      obtain ⟨response, hstored⟩ := h.stored call query hcall
      have hquery : (query.response devices).query = query.data := query.response_query devices
      rcases handle_cases sys.svc (query.response devices) (h.numbered.async _) with
        ⟨-, hnone⟩ | ⟨call', response', hfind, hsvc⟩
      · rw [hquery, hstored] at hnone
        cases hnone
      · rw [hquery, hstored] at hfind
        cases hfind
        rw [hsvc] at hnumbered ⊢
        refine ⟨hnumbered, h.stored, ?_⟩
        change sys.invoked ++ (sys.svc.commandBuffer ++ [(call, devices)]) = _
        rw [← List.append_assoc]
        exact congrArg (· ++ [(call, devices)]) h.queued
  | runCommand =>
    cases hs
    have hqueued := (runCommand_queued sys).trans h.queued
    rcases sys.runCommand_cases with heq | ⟨command, rest, -, heq⟩
    · rw [heq]
      exact h
    · rw [heq] at hnumbered hqueued ⊢
      exact ⟨hnumbered, h.stored, hqueued⟩

/-- The callback of a request whose key was there before is deaf. -/
theorem deaf_of_break (h : sys.Answering) {e : QueryEvent M} (hok : ¬ sys.FreshQuery e)
    (hs : sys.step e = .ok sys') : sys'.Deaf := by
  cases e with
  | obtainDevicesAsync ctx deviceKey query callback =>
    cases hs
    have hbad : ¬ ∀ earlier ∈ sys.calls, earlier.data ≠ query.data := fun hfresh =>
      hok fun _ _ => hfresh
    rcases sys.obtainDevicesAsync_cases ctx deviceKey query callback with ⟨-, hrefused⟩ | ⟨-, -, heq⟩
    · exact absurd (fun hcallback hpublished => absurd ⟨hcallback, hpublished⟩ hrefused) hok
    · rw [heq]
      refine ⟨sys.calls.length, by simp, fun key e he hcall => ?_, fun a ha heq => ?_⟩
      · rcases OrderedMap.find?_emplace_eq_some he with he | ⟨hfree, rfl, -⟩
        · obtain ⟨call, query', hcall', hquery, -⟩ := h.numbered.owned key e he
          rw [hcall] at hcall'
          cases hcall'
          simp at hquery
        · refine hbad fun earlier hmem hdata => ?_
          exact h.numbered.kept earlier hmem (hdata ▸ hfree)
      · have hlt := h.numbered.answered_lt (h.queued ▸ ha)
        omega
  | respond call devices => exact absurd trivial hok
  | runCommand => exact absurd trivial hok

theorem Deaf.step (h : sys.Deaf) (hnumbered : sys.Numbered) {e : QueryEvent M}
    (hs : sys.step e = .ok sys') : sys'.Deaf := by
  obtain ⟨call, hlt, hunfound, hunqueued⟩ := h
  cases e with
  | obtainDevicesAsync ctx deviceKey query callback =>
    cases hs
    rcases sys.obtainDevicesAsync_cases ctx deviceKey query callback with ⟨heq, -⟩ | ⟨-, -, heq⟩
    · rw [heq]
      exact ⟨call, hlt, hunfound, hunqueued⟩
    · rw [heq]
      refine ⟨call, by simp; omega, fun key e he hcall => ?_, hunqueued⟩
      rcases OrderedMap.find?_emplace_eq_some he with he | ⟨-, -, rfl⟩
      · exact hunfound key e he hcall
      · exact absurd (Option.some.inj hcall) hlt.ne'
  | respond call' devices =>
    cases hs
    rcases sys.respond_cases call' devices with heq | ⟨query, -, -, heq⟩
    · rw [heq]
      exact ⟨call, hlt, hunfound, hunqueued⟩
    · rw [heq]
      rcases handle_cases sys.svc (query.response devices) (hnumbered.async _) with
        ⟨hsvc, -⟩ | ⟨call'', response, hfind, hsvc⟩
      · rw [hsvc]
        exact ⟨call, hlt, hunfound, hunqueued⟩
      · rw [hsvc]
        refine ⟨call, hlt, hunfound, fun a ha => ?_⟩
        change a ∈ sys.invoked ++ (sys.svc.commandBuffer ++ [_]) at ha
        rw [← List.append_assoc, List.mem_append, List.mem_singleton] at ha
        rcases ha with ha | rfl
        · exact hunqueued a ha
        · rintro rfl
          exact hunfound _ _ hfind rfl
  | runCommand =>
    cases hs
    have hqueued := runCommand_queued sys
    rcases sys.runCommand_cases with heq | ⟨command, rest, -, heq⟩
    · rw [heq]
      exact ⟨call, hlt, hunfound, hunqueued⟩
    · rw [heq] at hqueued ⊢
      exact ⟨call, hlt, hunfound, hqueued ▸ hunqueued⟩

theorem numbered_create : create.Numbered where
  numbers := .refl _
  kept query h := absurd h List.not_mem_nil
  owned query e h := by cases h

theorem answering_create : create.Answering where
  numbered := numbered_create
  stored call query h := by cases h
  queued := rfl

/-- Of things that have the numbers below `n`, one has the number `i`. -/
theorem exists_of_perm_range {β : Type} {l : List (Nat × β)} {n i : Nat}
    (h : (l.map Prod.fst).Perm (List.range n)) (hi : i < n) :
    ∃ b, (i, b) ∈ l ∧ l.filter (fun a => a.1 = i) = [(i, b)] := by
  have hcount : (l.map Prod.fst).count i = 1 := by
    rw [h.count_eq]
    exact List.count_eq_one_of_mem List.nodup_range (List.mem_range.mpr hi)
  have hlength : (l.filter fun a => a.1 = i).length = 1 := by
    rw [← hcount, List.count, List.countP_map, List.countP_eq_length_filter]
    congr 2
  obtain ⟨a, ha⟩ := List.length_eq_one_iff.mp hlength
  have hmem : a ∈ l.filter fun a => a.1 = i := ha ▸ List.mem_singleton_self a
  obtain ⟨hl, hfst⟩ := List.mem_filter.mp hmem
  rw [decide_eq_true_eq] at hfst
  subst hfst
  exact ⟨a.2, hl, ha⟩

theorem Answering.answeredOnce (h : sys.Answering) (hdone : sys.Complete) : sys.AnsweredOnce := by
  intro call hlt
  have hinvoked : sys.invoked = sys.answers := by
    rw [← h.queued, QuerySystem.queued, hdone.executed, List.append_nil]
  have hnumbers := h.numbered.numbers
  rw [hdone.answered, List.append_nil] at hnumbers
  rw [hinvoked]
  exact exists_of_perm_range hnumbers hlt

theorem Deaf.not_answeredOnce (h : sys.Deaf) : ¬ sys.AnsweredOnce := by
  obtain ⟨call, hlt, -, hunqueued⟩ := h
  intro honce
  obtain ⟨devices, -, hfilter⟩ := honce call hlt
  have hmem : (call, devices) ∈ sys.invoked.filter fun a => a.1 = call :=
    hfilter ▸ List.mem_singleton_self _
  have hqueued : (call, devices) ∈ sys.queued :=
    List.mem_append_left _ (List.mem_filter.mp hmem).1
  exact hunqueued _ hqueued rfl

/-- A query stays in the map for good. -/
theorem Numbered.size_eq_zero (h : sys.Numbered) :
    sys.svc.deviceRegistrationResponses.size = 0 ↔ sys.calls = [] := by
  constructor
  · intro hsize
    rw [List.eq_nil_iff_forall_not_mem]
    intro query hquery
    obtain ⟨e, he⟩ := Option.ne_none_iff_exists'.mp (h.kept query hquery)
    have hmem := OrderedMap.find?_eq_some.mp he
    rw [List.length_eq_zero_iff.mp hsize] at hmem
    exact List.not_mem_nil hmem
  · intro hcalls
    refine List.length_eq_zero_iff.mpr (List.eq_nil_iff_forall_not_mem.mpr ?_)
    rintro ⟨key, e⟩ he
    obtain ⟨call, query, -, hquery, -⟩ := h.owned key e (OrderedMap.find?_eq_some.mpr he)
    rw [hcalls] at hquery
    cases hquery

/-- **Queries and their callbacks.** When everything has been answered and executed, the map is empty
if no request went out at all, and never otherwise. Each callback was invoked once, with the devices
of its own response, after exactly the runs in which the requests have keys that differ. -/
theorem queries_answered_once (hrun : Machine.Run step (fun _ _ => True) create es sys)
    (hdone : sys.Complete) :
    (sys.AnsweredOnce ∧ sys.svc.deviceRegistrationResponses.size = 0 ↔ sys.calls = []) ∧
      (sys.AnsweredOnce ↔ Machine.Run step FreshQuery create es sys) := by
  have hnumbered : sys.Numbered :=
    hrun.invariant Numbered numbered_create fun _ _ _ h _ hs => h.step hs
  constructor
  · rw [hnumbered.size_eq_zero]
    refine ⟨And.right, fun hcalls => ⟨fun call hlt => ?_, hcalls⟩⟩
    rw [hcalls] at hlt
    cases hlt
  · refine hrun.iff_meets Answering (fun s => s.Numbered ∧ s.Deaf) answering_create
      (fun _ _ _ h hok hs => h.step hok hs) ?_ ?_ (fun h => h.answeredOnce hdone)
      fun h => h.2.not_answeredOnce
    · exact fun _ _ _ h _ hok hs => ⟨h.numbered.step hs, deaf_of_break h hok hs⟩
    · exact fun _ _ _ h _ hs => ⟨h.1.step hs, h.2.step h.1 hs⟩

/-! ## Runs -/

/-- Two requests that differ in the type, answered in the other order. -/
theorem queries_answered_once_sample : ∃ sys : QuerySystem, sys.AnsweredOnce ∧
    sys.invoked = [(1, [⟨"key", "b", ""⟩]), (0, [])] := by
  obtain ⟨sys, hrun, hsys⟩ := Machine.Run.exists_of_check step FreshQuery create
    [.obtainDevicesAsync .working "d" ⟨5000000, "a", ""⟩ true,
      .obtainDevicesAsync .working "d" ⟨5000000, "b", ""⟩ true,
      .respond 1 [⟨"key", "b", ""⟩], .respond 0 [], .runCommand, .runCommand]
    (fun sys => (sys.unanswered, sys.svc.commandBuffer, sys.invoked))
    ([], [], [(1, [⟨"key", "b", ""⟩]), (0, [])]) (by decide +kernel)
  obtain ⟨hanswered, hexecuted, hinvoked⟩ := Prod.mk.injEq .. ▸ (Prod.mk.injEq .. ▸ hsys)
  have honce := (queries_answered_once (hrun.mono fun _ _ _ => trivial) ⟨hanswered, hexecuted⟩).2
  exact ⟨sys, honce.mpr hrun, hinvoked⟩

/-- The same query twice: the first callback is invoked with both responses. -/
theorem query_repeated : ∃ sys : QuerySystem,
    Machine.Run step (fun _ _ => True) create
      [.obtainDevicesAsync .working "d" ⟨5000000, "a", ""⟩ true,
        .obtainDevicesAsync .working "d" ⟨5000000, "a", ""⟩ true,
        .respond 0 [], .respond 1 [], .runCommand, .runCommand] sys ∧
      sys.Complete ∧
      ¬ (sys.AnsweredOnce ∧ sys.svc.deviceRegistrationResponses.size = 0) := by
  obtain ⟨sys, hrun, hsys⟩ := Machine.Run.exists_of_check step (fun _ _ => True) create
    [.obtainDevicesAsync .working "d" ⟨5000000, "a", ""⟩ true,
      .obtainDevicesAsync .working "d" ⟨5000000, "a", ""⟩ true,
      .respond 0 [], .respond 1 [], .runCommand, .runCommand]
    (fun sys => (sys.unanswered, sys.svc.commandBuffer, sys.svc.deviceRegistrationResponses.size))
    ([], [], 1) (by decide +kernel)
  obtain ⟨hanswered, hexecuted, hsize⟩ := Prod.mk.injEq .. ▸ (Prod.mk.injEq .. ▸ hsys)
  refine ⟨sys, hrun, ⟨hanswered, hexecuted⟩, fun h => ?_⟩
  rw [hsize] at h
  cases h.2

end QuerySystem

end WolkConnect
