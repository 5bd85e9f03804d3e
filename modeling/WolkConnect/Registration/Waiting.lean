import WolkConnect.Lib.Run
import WolkConnect.Registration.Queries

/-!
# Callers that wait for devices

Any number of calls of `obtainDevices`, step by step. They all wait on one condition
variable, and a response that is handled wakes one of them.
-/

namespace WolkConnect

inductive CallerPhase
  /-- The query is in the map, and the call has not begun to wait. -/
  | inserted
  | waiting
  /-- The wait is over. -/
  | woken
  | returned (devices : Option (List RegisteredDeviceInformation))
  deriving DecidableEq

/-- `handled` is the last response to the query that was handled since the query went into the map,
and `stopFirst` tells whether `stop` was called while there was none. -/
structure Caller where
  query : DeviceQueryData
  phase : CallerPhase
  timedOut : Bool
  handled : Option RegisteredDevicesResponseMessage
  stopFirst : Bool

inductive WaitEvent (M : Type)
  /-- `obtainDevices` up to the wait. -/
  | obtainDevices (ctx : DeviceQueryContext M) (deviceKey : String) (query : DeviceQuery)
  | wait (caller : Nat)
  /-- A response is handled. `notify_one` picks this caller, if it waits. -/
  | respond (message : RegisteredDevicesResponseMessage) (notified : Nat)
  /-- The wait of a caller ends for no reason. -/
  | wake (caller : Nat)
  | timeOut (caller : Nat)
  | stop
  /-- `obtainDevices` after the wait. -/
  | recheck (caller : Nat)

def CallerPhase.pending : CallerPhase → Bool
  | .returned _ => false
  | .inserted | .waiting | .woken => true

namespace Caller

variable (c : Caller)

/-- The call has not returned. -/
def pending : Bool := c.phase.pending

/-- A call goes from one phase to the next. -/
def pass (before after : CallerPhase) : Caller :=
  if c.phase = before then { c with phase := after } else c

def startWait : Caller := c.pass .inserted .waiting

/-- A notification ends the wait. -/
def notify : Caller := c.pass .waiting .woken

def expire : Caller :=
  ({ c with timedOut := c.timedOut || decide (c.phase = .waiting) } : Caller).notify

def hear (message : RegisteredDevicesResponseMessage) : Caller :=
  if c.pending ∧ c.query = message.query then { c with handled := some message } else c

def finish (response : Option RegisteredDevicesResponseMessage) : Caller :=
  { c with phase := .returned (response.map RegisteredDevicesResponseMessage.matchingDevices) }

def stop : Caller :=
  if c.pending then ({ c with stopFirst := c.stopFirst || c.handled.isNone } : Caller).notify else c

/-- What the claim of a caller on its response comes to. -/
structure Served : Prop where
  nothing : c.phase = .returned none → c.timedOut = true ∨ c.stopFirst = true
  devices : ∀ devices, c.phase = .returned (some devices) →
    ∃ message, c.handled = some message ∧ message.query = c.query ∧ message.matchingDevices = devices

end Caller

/-! ## What the steps of others leave alone -/

/-- What the map of queries has to do with. -/
structure CallerKey where
  query : DeviceQueryData
  handled : Option RegisteredDevicesResponseMessage
  pending : Bool

namespace CallerKey

variable (k : CallerKey) (message : RegisteredDevicesResponseMessage)

def hear : CallerKey :=
  if k.pending = true ∧ k.query = message.query then { k with handled := some message } else k

@[simp] theorem query_hear : (k.hear message).query = k.query := by
  unfold hear
  split_ifs <;> rfl

@[simp] theorem pending_hear : (k.hear message).pending = k.pending := by
  unfold hear
  split_ifs <;> rfl

end CallerKey

namespace Caller

variable {c : Caller}

def key (c : Caller) : CallerKey := ⟨c.query, c.handled, c.pending⟩

/-- A step that is not the last of a call: a call that has returned stays as it is. -/
structure Underway (f : Caller → Caller) : Prop where
  returned : ∀ c : Caller, c.pending = false → f c = c
  pending : ∀ c : Caller, c.pending = true → (f c).pending = true

theorem pending_of_woken (h : c.phase = .woken) : c.pending = true := by
  unfold Caller.pending
  rw [h]
  rfl

theorem key_pass (c : Caller) {before after : CallerPhase} (h : after.pending = before.pending) :
    (c.pass before after).key = c.key := by
  unfold pass
  split_ifs with hphase
  · unfold key Caller.pending
    rw [hphase, h]
  · rfl

theorem key_startWait (c : Caller) : c.startWait.key = c.key := key_pass c rfl

theorem key_notify (c : Caller) : c.notify.key = c.key := key_pass c rfl

theorem key_hear (c : Caller) (message : RegisteredDevicesResponseMessage) :
    (c.hear message).key = c.key.hear message := by
  unfold hear CallerKey.hear key
  split_ifs <;> rfl

theorem key_expire (c : Caller) : c.expire.key = c.key := key_notify _

theorem key_stop (c : Caller) : c.stop.key = c.key := by
  unfold stop
  split_ifs
  · exact key_notify _
  · rfl

theorem underway_pass {before after : CallerPhase} (hbefore : before.pending = true)
    (hafter : after.pending = true) : Underway (pass · before after) := by
  constructor <;> intro c hc <;> unfold pass <;> split_ifs with hphase
  · rw [Caller.pending, hphase, hbefore] at hc
    cases hc
  · rfl
  · exact hafter
  · exact hc

theorem underway_expire : Underway expire where
  returned c hc := by
    have hphase : decide (c.phase = .waiting) = false := by
      rw [decide_eq_false_iff_not]
      intro hphase
      rw [Caller.pending, hphase] at hc
      cases hc
    unfold expire
    rw [hphase, Bool.or_false]
    exact (underway_pass rfl rfl).returned c hc
  pending c hc := (underway_pass rfl rfl).pending _ hc

theorem underway_hear (message : RegisteredDevicesResponseMessage) : Underway (hear · message) := by
  constructor <;> intro c hc <;> unfold hear <;> split_ifs with hphase
  · rw [hc] at hphase
    cases hphase.1
  · rfl
  · exact hc
  · exact hc

theorem underway_stop : Underway stop where
  returned c hc := by unfold stop; rw [hc]; rfl
  pending c hc := by
    unfold stop
    rw [if_pos hc]
    exact (underway_pass rfl rfl).pending _ hc

theorem underway_startWait : Underway startWait := underway_pass rfl rfl

theorem underway_notify : Underway notify := underway_pass rfl rfl

/-- A call that has returned stays as it is, and any other is under way still. -/
def GoesOn (c c' : Caller) : Prop :=
  (c.pending = false → c' = c) ∧ (c.pending = true → c'.pending = true)

theorem served_of_pending (h : c.pending = true) : c.Served := by
  unfold Caller.pending at h
  constructor
  · intro hphase
    rw [hphase] at h
    cases h
  · intro devices hphase
    rw [hphase] at h
    cases h

theorem Served.goesOn {c' : Caller} (h : c.Served) (hgo : c.GoesOn c') : c'.Served := by
  cases hc : c.pending with
  | false => exact (hgo.1 hc).symm ▸ h
  | true => exact served_of_pending (hgo.2 hc)

/-- A call that is over returned nothing, and neither of its excuses holds. -/
def Deserted (c : Caller) : Prop :=
  c.phase = .returned none ∧ c.timedOut = false ∧ c.stopFirst = false

theorem Deserted.not_served (h : c.Deserted) : ¬ c.Served := by
  intro hserved
  rcases hserved.nothing h.1 with hout | hstop
  · rw [h.2.1] at hout
    cases hout
  · rw [h.2.2] at hstop
    cases hstop

theorem Deserted.not_pending (h : c.Deserted) : c.pending = false := by
  unfold Caller.pending
  rw [h.1]
  rfl

/-- All calls go on. -/
structure AllGoOn (callers callers' : List Caller) : Prop where
  come : ∀ c' ∈ callers', ∃ c ∈ callers, c.GoesOn c'
  stay : ∀ c ∈ callers, c.pending = false → c ∈ callers'

variable {callers callers' callers'' : List Caller} {f : Caller → Caller}

theorem AllGoOn.refl (callers : List Caller) : AllGoOn callers callers :=
  ⟨fun c hc => ⟨c, hc, fun _ => rfl, id⟩, fun _ hc _ => hc⟩

theorem AllGoOn.trans (h : AllGoOn callers callers') (h' : AllGoOn callers' callers'') :
    AllGoOn callers callers'' where
  come c'' hc'' := by
    obtain ⟨c', hc', hgo'⟩ := h'.come c'' hc''
    obtain ⟨c, hc, hgo⟩ := h.come c' hc'
    refine ⟨c, hc, fun hreturned => ?_, fun hpending => hgo'.2 (hgo.2 hpending)⟩
    obtain rfl := hgo.1 hreturned
    exact hgo'.1 hreturned
  stay c hc hreturned := h'.stay c (h.stay c hc hreturned) hreturned

theorem Underway.map (hf : Underway f) (callers : List Caller) : AllGoOn callers (callers.map f) where
  come c' hc' := by
    obtain ⟨c, hc, rfl⟩ := List.mem_map.mp hc'
    exact ⟨c, hc, hf.returned c, hf.pending c⟩
  stay c hc hreturned := List.mem_map.mpr ⟨c, hc, hf.returned c hreturned⟩

theorem Underway.modify (hf : Underway f) (callers : List Caller) (i : Nat) :
    AllGoOn callers (callers.modify i f) where
  come c' hc' := by
    obtain ⟨j, hj⟩ := List.mem_iff_getElem?.mp hc'
    rw [List.getElem?_modify] at hj
    obtain ⟨c, hc, rfl⟩ := Option.map_eq_some_iff.mp hj
    split_ifs
    · exact ⟨c, List.mem_of_getElem? hc, hf.returned c, hf.pending c⟩
    · exact ⟨c, List.mem_of_getElem? hc, fun _ => rfl, id⟩
  stay c hc hreturned := by
    obtain ⟨j, hj⟩ := List.mem_iff_getElem?.mp hc
    refine List.mem_of_getElem? (i := j) ?_
    rw [List.getElem?_modify, hj]
    split_ifs
    · exact congrArg some (hf.returned c hreturned)
    · rfl

end Caller

/-- Calls of `obtainDevices` only, so that no query has a callback. -/
structure WaitSystem where
  svc : DeviceQueries Empty
  callers : List Caller
  exitCondition : Bool

namespace WaitSystem

variable {M : Type} (sys : WaitSystem)

def create : WaitSystem := ⟨⟨.empty, []⟩, [], false⟩

def obtainDevices (ctx : DeviceQueryContext M) (deviceKey : String) (query : DeviceQuery) :
    WaitSystem :=
  let sent := sys.svc.sendQuery ctx deviceKey query
  if sent.1 then
    { sys with
      svc := sent.2
      callers := sys.callers ++ [⟨query.data, .inserted, false, none, sys.exitCondition⟩] }
  else { sys with svc := sent.2 }

/-- A caller takes a step on its own. -/
def modify (f : Caller → Caller) (caller : Nat) : WaitSystem :=
  { sys with callers := sys.callers.modify caller f }

/-- The caller that `notify_one` wakes: the one that was picked, or another that waits. -/
def notifyOne (notified : Nat) : Nat :=
  if (sys.callers[notified]?.map Caller.phase) = some .waiting then notified
  else sys.callers.findIdx fun c => c.phase = .waiting

def respond (message : RegisteredDevicesResponseMessage) (notified : Nat) : WaitSystem :=
  let handled := sys.svc.handleRegisteredDevicesResponse (some message)
  let heard := { sys with svc := handled.2, callers := sys.callers.map fun c => c.hear message }
  if handled.1 then heard.modify Caller.notify (heard.notifyOne notified) else heard

def stop : WaitSystem := { sys with callers := sys.callers.map Caller.stop, exitCondition := true }

def recheck (caller : Nat) : WaitSystem :=
  match sys.callers[caller]? with
  | none => sys
  | some c =>
    if c.phase = .woken then
      let taken := sys.svc.takeResponse c.query
      { sys with svc := taken.2, callers := sys.callers.set caller (c.finish taken.1) }
    else sys

def step (sys : WaitSystem) : WaitEvent M → Except Empty WaitSystem
  | .obtainDevices ctx deviceKey query => .ok (sys.obtainDevices ctx deviceKey query)
  | .wait caller => .ok (sys.modify Caller.startWait caller)
  | .respond message notified => .ok (sys.respond message notified)
  | .wake caller => .ok (sys.modify Caller.notify caller)
  | .timeOut caller => .ok (sys.modify Caller.expire caller)
  | .stop => .ok sys.stop
  | .recheck caller => .ok (sys.recheck caller)

def keys : List CallerKey := sys.callers.map Caller.key

/-- The queries of calls that have not returned differ. -/
def Distinct (sys : WaitSystem) : WaitEvent M → Prop
  | .obtainDevices _ _ query => ∀ c ∈ sys.callers, c.pending = true → c.query ≠ query.data
  | .wait _ | .respond _ _ | .wake _ | .timeOut _ | .stop | .recheck _ => True

/-- And a caller that was woken before its time gets to its last look when its response has been
handled, or after a stop. -/
def NotEarly (sys : WaitSystem) (e : WaitEvent M) : Prop :=
  sys.Distinct e ∧
    match e with
    | .recheck caller => ∀ c ∈ sys.callers[caller]?, c.phase = .woken →
        c.timedOut = true ∨ c.stopFirst = true ∨ c.handled ≠ none
    | .obtainDevices _ _ _ | .wait _ | .respond _ _ | .wake _ | .timeOut _ | .stop => True

instance (sys : WaitSystem) : (e : WaitEvent M) → Decidable (sys.Distinct e)
  | .obtainDevices _ _ _ => inferInstanceAs (Decidable (∀ c ∈ _, _ → _ ≠ _))
  | .wait _ | .respond _ _ | .wake _ | .timeOut _ | .stop | .recheck _ => isTrue trivial

instance (sys : WaitSystem) : (e : WaitEvent M) → Decidable (sys.NotEarly e)
  | .recheck _ => inferInstanceAs (Decidable (_ ∧ ∀ _ ∈ _, _ → _ ∨ _ ∨ _))
  | .obtainDevices _ _ _ | .wait _ | .respond _ _ | .wake _ | .timeOut _ | .stop =>
    inferInstanceAs (Decidable (_ ∧ True))

/-- The query of a call that has not returned is in the map, with the response that was handled. -/
structure Stored (sys : WaitSystem) : Prop where
  stored : ∀ k ∈ sys.keys, k.pending = true →
    sys.svc.deviceRegistrationResponses.find? k.query = some (none, k.handled)
  distinct : ∀ (i j : Nat) k k', sys.keys[i]? = some k → sys.keys[j]? = some k' →
    k.pending = true → k'.pending = true → k.query = k'.query → i = j
  owned : ∀ query e, sys.svc.deviceRegistrationResponses.find? query = some e →
    ∃ k ∈ sys.keys, k.pending = true ∧ k.query = query
  matching : ∀ k ∈ sys.keys, ∀ message, k.handled = some message → message.query = k.query

variable {sys} {sys' : WaitSystem} {es : List (WaitEvent M)}

theorem Stored.congr (h : sys.Stored) (hsvc : sys'.svc = sys.svc) (hkeys : sys'.keys = sys.keys) :
    sys'.Stored where
  stored := by rw [hsvc, hkeys]; exact h.stored
  distinct := by rw [hkeys]; exact h.distinct
  owned := by rw [hsvc, hkeys]; exact h.owned
  matching := by rw [hkeys]; exact h.matching

theorem keys_modify (sys : WaitSystem) {f : Caller → Caller} (hf : ∀ c, (f c).key = c.key) (i : Nat) :
    (sys.modify f i).keys = sys.keys :=
  Machine.map_modify hf sys.callers i

theorem Stored.obtainDevices (h : sys.Stored) (ctx : DeviceQueryContext M) (deviceKey : String)
    {query : DeviceQuery}
    (hdistinct : ∀ c ∈ sys.callers, c.pending = true → c.query ≠ query.data) :
    (sys.obtainDevices ctx deviceKey query).Stored := by
  unfold WaitSystem.obtainDevices DeviceQueries.sendQuery
  by_cases hsent : DeviceQueries.publishRequest ctx deviceKey query = true
  · simp only [if_pos hsent, if_true]
    have hfree : sys.svc.deviceRegistrationResponses.find? query.data = none := by
      by_contra hsome
      obtain ⟨e, he⟩ := Option.ne_none_iff_exists'.mp hsome
      obtain ⟨k, hk, hpending, hquery⟩ := h.owned query.data e he
      obtain ⟨c, hc, rfl⟩ := List.mem_map.mp hk
      exact hdistinct c hc hpending hquery
    have hother : ∀ k ∈ sys.keys, k.pending = true → k.query ≠ query.data := by
      intro k hk hpending
      obtain ⟨c, hc, rfl⟩ := List.mem_map.mp hk
      exact hdistinct c hc hpending
    have hkeys : (WaitSystem.mk (sys.svc.emplace query.data none)
        (sys.callers ++ [⟨query.data, .inserted, false, none, sys.exitCondition⟩])
        sys.exitCondition).keys = sys.keys ++ [⟨query.data, none, true⟩] := List.map_append
    have hfind : ∀ query', (sys.svc.emplace query.data none).deviceRegistrationResponses.find? query' =
        if query.data = query' then some (none, none)
        else sys.svc.deviceRegistrationResponses.find? query' :=
      OrderedMap.find?_emplace_of_none _ _ hfree
    refine ⟨?_, ?_, ?_, ?_⟩ <;> rw [hkeys]
    · intro k hk hpending
      rw [hfind]
      rcases List.mem_append.mp hk with hold | hnew
      · rw [if_neg (hother k hold hpending).symm]
        exact h.stored k hold hpending
      · rw [List.mem_singleton.mp hnew, if_pos rfl]
    · intro i j k k' hi hj hpending hpending' hquery
      refine Machine.unrelated_append
        (P := fun k k' => k.pending = true ∧ k'.pending = true ∧ k.query = k'.query)
        (fun i j k k' hi hj hP => h.distinct i j k k' hi hj hP.1 hP.2.1 hP.2.2) (fun k hk => ?_)
        i j hi hj ⟨hpending, hpending', hquery⟩
      exact ⟨fun hP => hother k hk hP.1 hP.2.2, fun hP => hother k hk hP.2.1 hP.2.2.symm⟩
    · intro query' e he
      rw [hfind] at he
      split_ifs at he with hquery
      · exact ⟨_, List.mem_append_right _ List.mem_cons_self, rfl, hquery⟩
      · obtain ⟨k, hk, hrest⟩ := h.owned query' e he
        exact ⟨k, List.mem_append_left _ hk, hrest⟩
    · intro k hk message hhandled
      rcases List.mem_append.mp hk with hold | hnew
      · exact h.matching k hold message hhandled
      · rw [List.mem_singleton.mp hnew] at hhandled
        cases hhandled
  · simp only [if_neg hsent, Bool.false_eq_true, if_false]
    exact h

theorem keys_hear (sys : WaitSystem) (message : RegisteredDevicesResponseMessage) :
    (sys.callers.map fun c => c.hear message).map Caller.key =
      sys.keys.map fun k => k.hear message := by
  unfold keys
  rw [List.map_map, List.map_map]
  exact List.map_congr_left fun c _ => c.key_hear message

/-- A response goes to the call whose query it answers, and to no other. -/
theorem Stored.hear (h : sys.Stored) (message : RegisteredDevicesResponseMessage) :
    Stored { sys with
      svc := (sys.svc.handleRegisteredDevicesResponse (some message)).2
      callers := sys.callers.map fun c => c.hear message } := by
  unfold DeviceQueries.handleRegisteredDevicesResponse
  dsimp only
  cases hfind : sys.svc.deviceRegistrationResponses.find? message.query with
  | none =>
    refine h.congr rfl ((sys.keys_hear message).trans ?_)
    refine (List.map_congr_left fun k hk => ?_).trans (List.map_id _)
    refine if_neg fun ⟨hpending, hquery⟩ => ?_
    have hstored := h.stored k hk hpending
    rw [hquery, hfind] at hstored
    cases hstored
  | some e =>
    obtain ⟨_ | callback, response⟩ := e
    · dsimp only
      refine ⟨fun k' hk' hpending => ?_, fun i j k k' hi hj => ?_, fun query e he => ?_,
        fun k' hk' message' hhandled => ?_⟩
      · rw [WaitSystem.keys, keys_hear] at hk'
        obtain ⟨k, hk, rfl⟩ := List.mem_map.mp hk'
        rw [CallerKey.pending_hear] at hpending
        rw [CallerKey.query_hear, OrderedMap.find?_insert]
        unfold CallerKey.hear
        by_cases heq : message.query = k.query
        · rw [if_pos heq, if_pos ⟨hpending, heq.symm⟩]
        · rw [if_neg heq, if_neg fun hboth => heq hboth.2.symm]
          exact h.stored k hk hpending
      · rw [WaitSystem.keys, keys_hear, List.getElem?_map] at hi hj
        obtain ⟨b, hb, rfl⟩ := Option.map_eq_some_iff.mp hi
        obtain ⟨b', hb', rfl⟩ := Option.map_eq_some_iff.mp hj
        simp only [CallerKey.pending_hear, CallerKey.query_hear]
        exact h.distinct i j b b' hb hb'
      · have hold : ∃ k ∈ sys.keys, k.pending = true ∧ k.query = query := by
          rw [OrderedMap.find?_insert] at he
          split_ifs at he with hquery
          · exact hquery ▸ h.owned message.query _ hfind
          · exact h.owned query e he
        obtain ⟨k, hk, hpending, hquery⟩ := hold
        rw [WaitSystem.keys, keys_hear]
        exact ⟨k.hear message, List.mem_map_of_mem hk, by simpa using hpending, by simpa using hquery⟩
      · rw [WaitSystem.keys, keys_hear] at hk'
        obtain ⟨k, hk, rfl⟩ := List.mem_map.mp hk'
        rw [CallerKey.query_hear]
        unfold CallerKey.hear at hhandled
        split_ifs at hhandled with hboth
        · cases hhandled
          exact hboth.2.symm
        · exact h.matching k hk message' hhandled
    · exact callback.elim

theorem keys_finish (sys : WaitSystem) (i : Nat) (c : Caller) :
    let keys' := (sys.callers.set i (c.finish c.handled)).map Caller.key
    (∀ (j : Nat) k, keys'[j]? = some k →
      k = (c.finish c.handled).key ∨ i ≠ j ∧ sys.keys[j]? = some k) ∧
    ∀ (j : Nat) k, i ≠ j → sys.keys[j]? = some k → keys'[j]? = some k := by
  unfold keys
  simp only [List.getElem?_map, List.getElem?_set]
  constructor
  · intro j k hk
    split_ifs at hk with hij hlt
    · exact .inl (Option.some.inj hk).symm
    · cases hk
    · exact .inr ⟨hij, hk⟩
  · intro j k hij hk
    rw [if_neg hij]
    exact hk

/-- The last step of a call: it returns what was handled for it. -/
theorem Stored.recheck_cases (h : sys.Stored) (i : Nat) :
    sys.recheck i = sys ∧ (∀ c ∈ sys.callers[i]?, c.phase ≠ .woken) ∨
      ∃ c, sys.callers[i]? = some c ∧ c.phase = .woken ∧
        sys.recheck i = { sys with
          svc := { sys.svc with
            deviceRegistrationResponses := sys.svc.deviceRegistrationResponses.erase c.query }
          callers := sys.callers.set i (c.finish c.handled) } := by
  unfold WaitSystem.recheck
  cases hc : sys.callers[i]? with
  | none => exact .inl ⟨rfl, fun c hc => by cases hc⟩
  | some c =>
    by_cases hphase : c.phase = .woken
    · have hpending : c.key.pending = true := Caller.pending_of_woken hphase
      have hstored := h.stored c.key (List.mem_map_of_mem (List.mem_of_getElem? hc)) hpending
      change sys.svc.deviceRegistrationResponses.find? c.query = some (none, c.handled) at hstored
      refine .inr ⟨c, rfl, hphase, ?_⟩
      simp only [if_pos hphase, DeviceQueries.takeResponse, hstored]
    · refine .inl ⟨if_neg hphase, fun c' hc' => ?_⟩
      cases hc'
      exact hphase

theorem Stored.recheck (h : sys.Stored) (i : Nat) : (sys.recheck i).Stored := by
  rcases h.recheck_cases i with ⟨heq, -⟩ | ⟨c, hc, hphase, heq⟩
  · rw [heq]
    exact h
  · rw [heq]
    have hkey : sys.keys[i]? = some c.key := by
      unfold keys
      rw [List.getElem?_map, hc]
      rfl
    have hpending : c.key.pending = true := Caller.pending_of_woken hphase
    obtain ⟨hkeys, hkept⟩ := sys.keys_finish i c
    -- The entry that is erased is that of no other call.
    have hother : ∀ (j : Nat) k, i ≠ j → sys.keys[j]? = some k → k.pending = true →
        c.query ≠ k.query := by
      intro j k hij hj hk hquery
      exact hij (h.distinct i j c.key k hkey hj hpending hk hquery)
    refine ⟨fun k hk hpending' => ?_, fun j j' k k' hj hj' hk hk' => ?_, fun query e he => ?_,
      fun k hk message hhandled => ?_⟩
    · obtain ⟨j, hj⟩ := List.mem_iff_getElem?.mp hk
      rcases hkeys j k hj with rfl | ⟨hij, hj⟩
      · cases hpending'
      · rw [OrderedMap.find?_erase, if_neg (hother j k hij hj hpending')]
        exact h.stored k (List.mem_of_getElem? hj) hpending'
    · rcases hkeys j k hj with rfl | ⟨-, hj⟩
      · cases hk
      · rcases hkeys j' k' hj' with rfl | ⟨-, hj'⟩
        · cases hk'
        · exact h.distinct j j' k k' hj hj' hk hk'
    · rw [OrderedMap.find?_erase] at he
      split_ifs at he with hquery
      obtain ⟨k, hk, hpending', rfl⟩ := h.owned query e he
      obtain ⟨j, hj⟩ := List.mem_iff_getElem?.mp hk
      have hij : i ≠ j := by
        rintro rfl
        rw [hkey] at hj
        cases hj
        exact hquery rfl
      exact ⟨k, List.mem_of_getElem? (hkept j k hij hj), hpending', rfl⟩
    · obtain ⟨j, hj⟩ := List.mem_iff_getElem?.mp hk
      rcases hkeys j k hj with rfl | ⟨-, hj⟩
      · exact h.matching c.key (List.mem_of_getElem? hkey) message hhandled
      · exact h.matching k (List.mem_of_getElem? hj) message hhandled

/-- A call that had reason to end returns the devices of its own response, or has an excuse. -/
theorem Stored.served_finish (h : sys.Stored) {c : Caller} (hc : c ∈ sys.callers)
    (hready : c.timedOut = true ∨ c.stopFirst = true ∨ c.handled ≠ none) :
    (c.finish c.handled).Served := by
  constructor
  · intro hphase
    rcases hready with hout | hstop | hhandled
    · exact .inl hout
    · exact .inr hstop
    · obtain ⟨message, hmessage⟩ := Option.ne_none_iff_exists'.mp hhandled
      unfold Caller.finish at hphase
      rw [hmessage] at hphase
      cases hphase
  · intro devices hphase
    cases hhandled : c.handled with
    | none =>
      unfold Caller.finish at hphase
      rw [hhandled] at hphase
      cases hphase
    | some message =>
      unfold Caller.finish at hphase
      rw [hhandled] at hphase
      cases hphase
      exact ⟨message, hhandled, h.matching c.key (List.mem_map_of_mem hc) message hhandled, rfl⟩

theorem Stored.respond (h : sys.Stored) (message : RegisteredDevicesResponseMessage)
    (notified : Nat) : (sys.respond message notified).Stored := by
  unfold WaitSystem.respond
  dsimp only
  split_ifs
  · exact (h.hear message).congr rfl (keys_modify _ Caller.key_notify _)
  · exact h.hear message

theorem Stored.step (h : sys.Stored) {e : WaitEvent M} (hok : sys.Distinct e)
    (hs : sys.step e = .ok sys') : sys'.Stored := by
  cases e with
  | obtainDevices ctx deviceKey query => cases hs; exact h.obtainDevices ctx deviceKey hok
  | wait caller => cases hs; exact h.congr rfl (keys_modify sys Caller.key_startWait caller)
  | respond message notified => cases hs; exact h.respond message notified
  | wake caller => cases hs; exact h.congr rfl (keys_modify sys Caller.key_notify caller)
  | timeOut caller => cases hs; exact h.congr rfl (keys_modify sys Caller.key_expire caller)
  | stop =>
    cases hs
    refine h.congr rfl ?_
    unfold keys WaitSystem.stop
    rw [List.map_map]
    exact List.map_congr_left fun c _ => c.key_stop
  | recheck caller => cases hs; exact h.recheck caller

/-- What a step makes of the calls: they go on, one more begins, or one returns. -/
inductive Moves (sys sys' : WaitSystem) (e : WaitEvent M) : Prop
  | goOn (callers : Caller.AllGoOn sys.callers sys'.callers)
  | begins (c : Caller) (pending : c.pending = true) (callers : sys'.callers = sys.callers ++ [c])
  | returns (i : Nat) (c : Caller) (event : e = .recheck i) (found : sys.callers[i]? = some c)
      (woken : c.phase = .woken) (callers : sys'.callers = sys.callers.set i (c.finish c.handled))

theorem Stored.step_moves (h : sys.Stored) {e : WaitEvent M} (hs : sys.step e = .ok sys') :
    Moves sys sys' e := by
  cases e with
  | obtainDevices ctx deviceKey query =>
    cases hs
    unfold WaitSystem.obtainDevices
    dsimp only
    split_ifs
    · exact .begins _ rfl rfl
    · exact .goOn (.refl _)
  | wait caller => cases hs; exact .goOn (Caller.underway_startWait.modify _ _)
  | respond message notified =>
    cases hs
    have hheard := (Caller.underway_hear message).map sys.callers
    unfold WaitSystem.respond
    dsimp only
    split_ifs
    · exact .goOn (hheard.trans (Caller.underway_notify.modify _ _))
    · exact .goOn hheard
  | wake caller => cases hs; exact .goOn (Caller.underway_notify.modify _ _)
  | timeOut caller => cases hs; exact .goOn (Caller.underway_expire.modify _ _)
  | stop => cases hs; exact .goOn (Caller.underway_stop.map _)
  | recheck caller =>
    cases hs
    rcases h.recheck_cases caller with ⟨heq, -⟩ | ⟨c, hc, hphase, heq⟩
    · rw [heq]
      exact .goOn (.refl _)
    · exact .returns caller c rfl hc hphase (congrArg WaitSystem.callers heq)

theorem served_step (h : sys.Stored) (hserved : ∀ c ∈ sys.callers, c.Served) {e : WaitEvent M}
    (hok : sys.NotEarly e) (hs : sys.step e = .ok sys') : ∀ c ∈ sys'.callers, c.Served := by
  cases h.step_moves hs with
  | goOn hcallers =>
    intro c' hc'
    obtain ⟨c, hc, hgo⟩ := hcallers.come c' hc'
    exact (hserved c hc).goesOn hgo
  | begins c hpending hcallers =>
    rw [hcallers]
    intro c' hc'
    rcases List.mem_append.mp hc' with hold | hnew
    · exact hserved c' hold
    · rw [List.mem_singleton.mp hnew]
      exact Caller.served_of_pending hpending
  | returns i c hevent hc hphase hcallers =>
    subst hevent
    rw [hcallers]
    intro c' hc'
    rcases List.mem_or_eq_of_mem_set hc' with hold | rfl
    · exact hserved c' hold
    · exact h.served_finish (List.mem_of_getElem? hc) (hok.2 c hc hphase)

theorem returned_step (h : sys.Stored) {e : WaitEvent M} (hs : sys.step e = .ok sys') {c : Caller}
    (hc : c ∈ sys.callers) (hreturned : c.pending = false) : c ∈ sys'.callers := by
  cases h.step_moves hs with
  | goOn hcallers => exact hcallers.stay c hc hreturned
  | begins c' hpending hcallers =>
    rw [hcallers]
    exact List.mem_append_left _ hc
  | returns i c' hevent hc' hphase hcallers =>
    obtain ⟨j, hj⟩ := List.mem_iff_getElem?.mp hc
    refine List.mem_of_getElem? (i := j) ?_
    rw [hcallers, List.getElem?_set_ne, hj]
    rintro rfl
    rw [hc'] at hj
    cases hj
    rw [Caller.pending_of_woken hphase] at hreturned
    cases hreturned

/-- A caller whose last look comes too early returns nothing, and has no excuse. -/
theorem deserted_of_break (h : sys.Stored) {e : WaitEvent M} (hdistinct : sys.Distinct e)
    (hok : ¬ sys.NotEarly e) (hs : sys.step e = .ok sys') : ∃ c ∈ sys'.callers, c.Deserted := by
  cases e with
  | recheck caller =>
    cases hs
    rcases h.recheck_cases caller with ⟨-, hasleep⟩ | ⟨c, hc, hphase, heq⟩
    · exact absurd ⟨trivial, fun c hc hphase => absurd hphase (hasleep c hc)⟩ hok
    · have hearly : ¬ (c.timedOut = true ∨ c.stopFirst = true ∨ c.handled ≠ none) := by
        intro hready
        refine hok ⟨trivial, fun c' hc' _ => ?_⟩
        rw [hc] at hc'
        cases hc'
        exact hready
      push Not at hearly
      obtain ⟨hout, hstop, hhandled⟩ := hearly
      rw [heq]
      refine ⟨c.finish c.handled, List.mem_of_getElem? (i := caller) ?_, ?_, ?_, ?_⟩
      · obtain ⟨hlt, -⟩ := List.getElem?_eq_some_iff.mp hc
        exact List.getElem?_set_self hlt
      · rw [hhandled]
        rfl
      · exact Bool.eq_false_iff.mpr hout
      · exact Bool.eq_false_iff.mpr hstop
  | obtainDevices ctx deviceKey query => exact absurd ⟨hdistinct, trivial⟩ hok
  | wait caller => exact absurd ⟨trivial, trivial⟩ hok
  | respond message notified => exact absurd ⟨trivial, trivial⟩ hok
  | wake caller => exact absurd ⟨trivial, trivial⟩ hok
  | timeOut caller => exact absurd ⟨trivial, trivial⟩ hok
  | stop => exact absurd ⟨trivial, trivial⟩ hok

theorem stored_create : create.Stored where
  stored k hk := absurd hk List.not_mem_nil
  distinct i j k k' hi := by cases hi
  owned query e he := by cases he
  matching k hk := absurd hk List.not_mem_nil

/-- **Giving up.** After a run of calls with queries that differ, every call that returned nothing was
out of time or had been stopped before its response was handled, and every other returned the devices
of its own response, if and only if no caller ever took its last look because it was woken for a
response that was not its own. -/
theorem gives_up_only_late (hrun : Machine.Run step Distinct create es sys) :
    (∀ c ∈ sys.callers, c.Served) ↔ Machine.Run step NotEarly create es sys := by
  refine hrun.iff_meets (fun s => s.Stored ∧ ∀ c ∈ s.callers, c.Served)
    (fun s => s.Stored ∧ ∃ c ∈ s.callers, c.Deserted)
    ⟨stored_create, fun c hc => absurd hc List.not_mem_nil⟩ ?_ ?_ ?_ And.right ?_
  · exact fun _ _ _ h hok hs => ⟨h.1.step hok.1 hs, served_step h.1 h.2 hok hs⟩
  · exact fun _ _ _ h hdistinct hok hs => ⟨h.1.step hdistinct hs, deserted_of_break h.1 hdistinct hok hs⟩
  · rintro s e t ⟨hstored, c, hc, hdeserted⟩ hdistinct hs
    exact ⟨hstored.step hdistinct hs, c, returned_step hstored hs hc hdeserted.not_pending, hdeserted⟩
  · rintro ⟨-, c, hc, hdeserted⟩ hall
    exact hdeserted.not_served (hall c hc)

/-! ## Runs -/

def queryA : DeviceQuery := ⟨0, "a", ""⟩

def queryB : DeviceQuery := ⟨0, "b", ""⟩

/-- Two callers wait. The response to the second wakes the second, and the first is stopped. -/
theorem gives_up_only_late_sample : ∃ sys : WaitSystem, (∀ c ∈ sys.callers, c.Served) ∧
    sys.callers.map Caller.phase = [.returned none, .returned (some [⟨"key", "b", ""⟩])] := by
  obtain ⟨sys, hrun, hphases⟩ := Machine.Run.exists_of_check step NotEarly create
    [.obtainDevices .working "d" queryA, .wait 0, .obtainDevices .working "d" queryB, .wait 1,
      .respond (queryB.response [⟨"key", "b", ""⟩]) 1, .recheck 1, .stop, .recheck 0]
    (fun sys => sys.callers.map Caller.phase)
    [.returned none, .returned (some [⟨"key", "b", ""⟩])] (by decide +kernel)
  exact ⟨sys, (gives_up_only_late (hrun.mono fun _ _ hok => hok.1)).mpr hrun, hphases⟩

/-- The response to the second call wakes the first, which finds nothing and gives up. -/
theorem woken_for_another : ∃ sys : WaitSystem,
    Machine.Run step Distinct create
      [.obtainDevices .working "d" queryA, .wait 0, .obtainDevices .working "d" queryB, .wait 1,
        .respond (queryB.response []) 0, .recheck 0] sys ∧
      ¬ ∀ c ∈ sys.callers, c.Served := by
  obtain ⟨sys, hrun, hfirst⟩ := Machine.Run.exists_of_check step Distinct create
    [.obtainDevices .working "d" queryA, .wait 0, .obtainDevices .working "d" queryB, .wait 1,
      .respond (queryB.response []) 0, .recheck 0]
    (fun sys => sys.callers.head?.map fun c => (c.phase, c.timedOut, c.stopFirst))
    (some (.returned none, false, false)) (by decide +kernel)
  obtain ⟨c, hc, hends⟩ := Option.map_eq_some_iff.mp hfirst
  obtain ⟨hphase, hout, hstop⟩ := Prod.mk.injEq .. ▸ (Prod.mk.injEq .. ▸ hends)
  refine ⟨sys, hrun, fun hall => ?_⟩
  have hdeserted : c.Deserted := ⟨hphase, hout, hstop⟩
  exact hdeserted.not_served (hall c (List.mem_of_mem_head? hc))

end WaitSystem

end WolkConnect
