import WolkConnect.Lib.Run
import WolkConnect.Registration.Children

/-!
# Callers that give up waiting for children

Any calls of `obtainChildren` and `obtainChildrenAsync`, step by step. A callback is a
number, that of its call.
-/

namespace WolkConnect

inductive ChildrenPhase
  | waiting
  /-- The wait is over, and the callback had not been called. -/
  | givingUp
  | returned (children : Option (List String))
  deriving DecidableEq

/-- A call of `obtainChildren`. By the rules of the vector, `callbackIt` is `stale` or not. -/
structure ChildrenWaiter where
  callbackIt : GrowingArray.Position
  stale : Bool
  called : Option (List String)
  phase : ChildrenPhase

/-- A call of `obtainChildrenAsync` has no waiter. -/
structure ChildrenCall where
  deviceKey : String
  waiter : Option ChildrenWaiter

inductive ChildrenEvent (M : Type)
  /-- `obtainChildren` up to the wait. -/
  | obtainChildren (ctx : ChildrenContext M) (deviceKey : String)
  | obtainChildrenAsync (ctx : ChildrenContext M) (deviceKey : String) (callback : Bool)
  | respond (deviceKey : String) (message : ChildrenSynchronizationResponseMessage)
  | runCommand
  /-- The wait of a call ends: its callback was called, its time is over, or there was a `stop`. -/
  | endWait (call : Nat)
  /-- A call whose callback was not called returns. -/
  | giveUp (call : Nat)

/-- A position was used that has no meaning. -/
inductive ChildrenFault
  | badPosition

namespace ChildrenWaiter

variable (w : ChildrenWaiter)

/-- The callback, which does nothing once the call has returned. -/
def call (children : List String) : ChildrenWaiter :=
  match w.phase with
  | .returned _ => w
  | .waiting | .givingUp => { w with called := some (w.called.getD [] ++ children) }

def endWait : ChildrenWaiter :=
  if w.phase = .waiting then
    match w.called with
    | some children => { w with phase := .returned (some children) }
    | none => { w with phase := .givingUp }
  else w

def giveUp : ChildrenWaiter := { w with phase := .returned none }

end ChildrenWaiter

namespace ChildrenCall

variable (c : ChildrenCall)

def mapWaiter (f : ChildrenWaiter → ChildrenWaiter) : ChildrenCall :=
  { c with waiter := c.waiter.map f }

/-- Positions become stale when the callbacks of a device change. -/
def invalidate (deviceKey : String) (stale : GrowingArray.Position → Bool) : ChildrenCall :=
  if c.deviceKey = deviceKey then
    c.mapWaiter fun w => { w with stale := w.stale || stale w.callbackIt }
  else c

/-- The call returned nothing. -/
def gone : Bool := c.waiter.any fun w => w.phase = .returned none

end ChildrenCall

/-- What the callbacks in line have to do with. -/
structure ChildrenKey where
  deviceKey : String
  gone : Bool
  position : Option (GrowingArray.Position × Bool)

def ChildrenKey.invalidate (k : ChildrenKey) (deviceKey : String)
    (stale : GrowingArray.Position → Bool) : ChildrenKey :=
  if k.deviceKey = deviceKey then
    { k with position := k.position.map fun p => (p.1, p.2 || stale p.1) }
  else k

namespace ChildrenKey

variable (k : ChildrenKey) (deviceKey : String) (stale : GrowingArray.Position → Bool)

@[simp] theorem deviceKey_invalidate : (k.invalidate deviceKey stale).deviceKey = k.deviceKey := by
  unfold invalidate
  split_ifs <;> rfl

@[simp] theorem gone_invalidate : (k.invalidate deviceKey stale).gone = k.gone := by
  unfold invalidate
  split_ifs <;> rfl

theorem invalidate_none : k.invalidate deviceKey (fun _ => false) = k := by
  unfold invalidate
  split_ifs
  · cases k with
    | mk _ _ position => cases position <;> simp
  · rfl

end ChildrenKey

namespace ChildrenCall

def key (c : ChildrenCall) : ChildrenKey :=
  ⟨c.deviceKey, c.gone, c.waiter.map fun w => (w.callbackIt, w.stale)⟩

theorem key_invalidate (c : ChildrenCall) (deviceKey : String)
    (stale : GrowingArray.Position → Bool) :
    (c.invalidate deviceKey stale).key = c.key.invalidate deviceKey stale := by
  unfold invalidate ChildrenKey.invalidate key
  by_cases hdevice : c.deviceKey = deviceKey
  · rw [if_pos hdevice, if_pos hdevice]
    unfold mapWaiter gone
    cases c.waiter <;> rfl
  · rw [if_neg hdevice, if_neg hdevice]

/-- A step of a call that is not its last. -/
theorem key_mapWaiter (c : ChildrenCall) {f : ChildrenWaiter → ChildrenWaiter}
    (hf : ∀ w, (f w).callbackIt = w.callbackIt ∧ (f w).stale = w.stale ∧
      ((f w).phase = .returned none ↔ w.phase = .returned none)) :
    (c.mapWaiter f).key = c.key := by
  unfold mapWaiter key gone
  cases c.waiter with
  | none => rfl
  | some w =>
    obtain ⟨hcallbackIt, hstale, hphase⟩ := hf w
    simp only [Option.map_some, Option.any_some, hcallbackIt, hstale, hphase]

end ChildrenCall

structure ChildrenSystem where
  svc : ChildrenQueries Nat
  calls : List ChildrenCall
  invoked : List (Nat × List String)

namespace ChildrenSystem

variable {M : Type} (grow : Nat → Nat) (sys : ChildrenSystem)

def create : ChildrenSystem := ⟨⟨.empty, []⟩, [], []⟩

def invalidate (deviceKey : String) (stale : GrowingArray.Position → Bool) : List ChildrenCall :=
  sys.calls.map fun c => c.invalidate deviceKey stale

/-- A call after its callback was put in line. -/
def register (svc : ChildrenQueries Nat) (deviceKey : String) (waiter : Option ChildrenWaiter) :
    ChildrenSystem :=
  { sys with
    svc := svc
    calls := sys.invalidate deviceKey (fun _ => (sys.svc.callbacks deviceKey).full) ++
      [⟨deviceKey, waiter⟩] }

def obtainChildren (ctx : ChildrenContext M) (deviceKey : String) : ChildrenSystem :=
  match sys.svc.sendRequest ctx grow deviceKey sys.calls.length with
  | (none, svc) => { sys with svc := svc }
  | (some callbackIt, svc) => sys.register svc deviceKey (some ⟨callbackIt, false, none, .waiting⟩)

def obtainChildrenAsync (ctx : ChildrenContext M) (deviceKey : String) (callback : Bool) :
    ChildrenSystem :=
  match sys.svc.obtainChildrenAsync ctx grow deviceKey
    (if callback then some sys.calls.length else none) with
  | (false, svc) => { sys with svc := svc }
  | (true, svc) => sys.register svc deviceKey none

def respond (deviceKey : String) (message : ChildrenSynchronizationResponseMessage) :
    ChildrenSystem :=
  { sys with
    svc := sys.svc.handleChildrenSynchronizationResponse deviceKey (some message)
    calls := sys.invalidate deviceKey fun _ => !(sys.svc.callbacks deviceKey).elements.isEmpty }

def runCommand : ChildrenSystem :=
  match sys.svc.commandBuffer with
  | [] => sys
  | command :: rest =>
    { svc := { sys.svc with commandBuffer := rest }
      calls := sys.calls.modify command.1 fun c => c.mapWaiter fun w => w.call command.2
      invoked := sys.invoked ++ [command] }

def endWait (call : Nat) : ChildrenSystem :=
  { sys with calls := sys.calls.modify call fun c => c.mapWaiter ChildrenWaiter.endWait }

/-- A call of `obtainChildren` that is about to erase its callback. -/
def givingUp (call : Nat) : Option (String × ChildrenWaiter) :=
  match sys.calls[call]? with
  | none => none
  | some c => (c.waiter.filter fun w => w.phase = .givingUp).map fun w => (c.deviceKey, w)

def giveUp (call : Nat) : Except ChildrenFault ChildrenSystem :=
  match sys.givingUp call with
  | none => .ok sys
  | some (deviceKey, w) =>
    match sys.svc.eraseCallback deviceKey w.callbackIt with
    | none => .error .badPosition
    | some svc =>
      .ok { sys with
        svc := svc
        calls := (sys.invalidate deviceKey fun p => decide (w.callbackIt.index ≤ p.index)).modify call
          fun c => c.mapWaiter ChildrenWaiter.giveUp }

def step (sys : ChildrenSystem) : ChildrenEvent M → Except ChildrenFault ChildrenSystem
  | .obtainChildren ctx deviceKey => .ok (sys.obtainChildren grow ctx deviceKey)
  | .obtainChildrenAsync ctx deviceKey callback =>
    .ok (sys.obtainChildrenAsync grow ctx deviceKey callback)
  | .respond deviceKey message => .ok (sys.respond deviceKey message)
  | .runCommand => .ok sys.runCommand
  | .endWait call => .ok (sys.endWait call)
  | .giveUp call => sys.giveUp call

/-- The callbacks that have been invoked, or will be, with a response. -/
def answered : List Nat := (sys.invoked ++ sys.svc.commandBuffer).map Prod.fst

def keys : List ChildrenKey := sys.calls.map ChildrenCall.key

/-- A call for the device has had no response, and has not given up. -/
def isOpen (deviceKey : String) (call : Nat) : Bool :=
  decide (call ∉ sys.answered) && (sys.keys[call]?).any fun k => decide (k.deviceKey = deviceKey) && !k.gone

/-- What the claim of callers on the callbacks comes to. -/
structure Orderly : Prop where
  /-- In line for a device are the callbacks of its open calls, in the order of the calls. -/
  inLine : ∀ deviceKey, (sys.svc.callbacks deviceKey).elements =
    (List.range sys.keys.length).filter (sys.isOpen deviceKey)
  /-- The callback of a call that has given up is not called. -/
  gone : ∀ (call : Nat) k, sys.keys[call]? = some k → k.gone = true → call ∉ sys.answered

/-- A call that gives up has a position that is not stale. -/
def Fresh (sys : ChildrenSystem) : ChildrenEvent M → Prop
  | .giveUp call => ∀ w ∈ sys.givingUp call, w.2.stale = false
  | .obtainChildren _ _ | .obtainChildrenAsync _ _ _ | .respond _ _ | .runCommand | .endWait _ => True

instance (sys : ChildrenSystem) : (e : ChildrenEvent M) → Decidable (sys.Fresh e)
  | .giveUp _ => inferInstanceAs (Decidable (∀ _ ∈ _, _))
  | .obtainChildren _ _ | .obtainChildrenAsync _ _ _ | .respond _ _ | .runCommand | .endWait _ =>
    isTrue trivial

variable {grow sys} {sys' : ChildrenSystem} {es : List (ChildrenEvent M)}

theorem isOpen_iff {deviceKey : String} {call : Nat} :
    sys.isOpen deviceKey call = true ↔ call ∉ sys.answered ∧
      ∃ k, sys.keys[call]? = some k ∧ k.deviceKey = deviceKey ∧ k.gone = false := by
  unfold isOpen
  rw [Bool.and_eq_true, decide_eq_true_eq, Option.any_eq_true]
  simp

/-- The positions are tracked, and what was answered was asked. -/
structure Tracked (sys : ChildrenSystem) : Prop where
  orderly : sys.Orderly
  asked : ∀ call ∈ sys.answered, call < sys.keys.length
  tracked : ∀ (call : Nat) k p, sys.keys[call]? = some k → k.position = some p →
    (sys.svc.callbacks k.deviceKey).Tracks p.1 call p.2

theorem Orderly.nodup (h : sys.Orderly) (deviceKey : String) :
    (sys.svc.callbacks deviceKey).elements.Nodup := by
  rw [h.inLine]
  exact List.nodup_range.filter _

theorem Orderly.mem_iff (h : sys.Orderly) {deviceKey : String} {call : Nat} :
    call ∈ (sys.svc.callbacks deviceKey).elements ↔
      call < sys.keys.length ∧ sys.isOpen deviceKey call = true := by
  rw [h.inLine, List.mem_filter, List.mem_range]

theorem keys_modify (sys : ChildrenSystem) {f : ChildrenCall → ChildrenCall}
    (hf : ∀ c, (f c).key = c.key) (i : Nat) :
    (sys.calls.modify i f).map ChildrenCall.key = sys.keys :=
  Machine.map_modify hf sys.calls i

theorem keys_invalidate (sys : ChildrenSystem) (deviceKey : String)
    (stale : GrowingArray.Position → Bool) :
    (sys.invalidate deviceKey stale).map ChildrenCall.key =
      sys.keys.map fun k => k.invalidate deviceKey stale := by
  unfold invalidate keys
  rw [List.map_map, List.map_map]
  exact List.map_congr_left fun c _ => c.key_invalidate deviceKey stale

theorem Tracked.congr (h : sys.Tracked) (hsvc : sys'.svc.callbacks = sys.svc.callbacks)
    (hkeys : sys'.keys = sys.keys) (hanswered : sys'.answered = sys.answered) : sys'.Tracked := by
  have hopen : sys'.isOpen = sys.isOpen := by
    unfold isOpen
    rw [hkeys, hanswered]
  refine ⟨⟨?_, ?_⟩, ?_, ?_⟩
  · rw [hsvc, hkeys, hopen]
    exact h.orderly.inLine
  · rw [hkeys, hanswered]
    exact h.orderly.gone
  · rw [hkeys, hanswered]
    exact h.asked
  · rw [hkeys, hsvc]
    exact h.tracked

/-- The line of one device changes, so that some of its positions become stale. -/
theorem Tracked.position (h : sys.Tracked) {deviceKey : String} {line : GrowingArray Nat}
    {stale : GrowingArray.Position → Bool} {i : Nat} {k : ChildrenKey}
    {p : GrowingArray.Position × Bool}
    (hsvc : ∀ d, sys'.svc.callbacks d = if deviceKey = d then line else sys.svc.callbacks d)
    (hline : ∀ q : GrowingArray.Position × Bool,
      (sys.svc.callbacks deviceKey).Tracks q.1 i q.2 → line.Tracks q.1 i (q.2 || stale q.1))
    (hk : sys.keys[i]? = some k) (hp : (k.invalidate deviceKey stale).position = some p) :
    (sys'.svc.callbacks k.deviceKey).Tracks p.1 i p.2 := by
  rw [hsvc]
  unfold ChildrenKey.invalidate at hp
  by_cases hd : k.deviceKey = deviceKey
  · rw [if_pos hd] at hp
    obtain ⟨q, hq, rfl⟩ := Option.map_eq_some_iff.mp hp
    rw [if_pos hd.symm]
    exact hline q (hd ▸ h.tracked i k q hk hq)
  · rw [if_neg hd] at hp
    rw [if_neg (Ne.symm hd)]
    exact h.tracked i k p hk hp

theorem Tracked.push (h : sys.Tracked) {deviceKey : String}
    {position : Option (GrowingArray.Position × Bool)}
    (hsvc : ∀ d, sys'.svc.callbacks d =
      if deviceKey = d then (sys.svc.callbacks deviceKey).pushBack grow sys.keys.length
      else sys.svc.callbacks d)
    (hkeys : sys'.keys =
      (sys.keys.map fun k => k.invalidate deviceKey fun _ => (sys.svc.callbacks deviceKey).full) ++
        [⟨deviceKey, false, position⟩])
    (hposition : ∀ p ∈ position, p = ((sys'.svc.callbacks deviceKey).last, false))
    (hanswered : sys'.answered = sys.answered) : sys'.Tracked := by
  have hlength : sys'.keys.length = sys.keys.length + 1 := by
    rw [hkeys, List.length_append, List.length_map, List.length_singleton]
  have hold : ∀ i < sys.keys.length, sys'.keys[i]? = (sys.keys[i]?).map fun k =>
      k.invalidate deviceKey fun _ => (sys.svc.callbacks deviceKey).full := by
    intro i hi
    rw [hkeys, List.getElem?_append_left (by rwa [List.length_map]), List.getElem?_map]
  have hnew : sys'.keys[sys.keys.length]? = some ⟨deviceKey, false, position⟩ := by
    rw [hkeys, List.getElem?_append_right (by rw [List.length_map]), List.length_map, Nat.sub_self]
    rfl
  have hfresh : sys.keys.length ∉ sys.answered := fun hmem =>
    absurd (h.asked _ hmem) (Nat.lt_irrefl _)
  have hbefore : ∀ i k', sys'.keys[i]? = some k' → i < sys.keys.length ∧ (∃ k, sys.keys[i]? = some k ∧
      k' = k.invalidate deviceKey fun _ => (sys.svc.callbacks deviceKey).full) ∨
      i = sys.keys.length ∧ k' = ⟨deviceKey, false, position⟩ := by
    intro i k' hk'
    have hlt := (List.getElem?_eq_some_iff.mp hk').1
    rcases Nat.lt_or_ge i sys.keys.length with hi | hi
    · rw [hold i hi] at hk'
      obtain ⟨k, hk, rfl⟩ := Option.map_eq_some_iff.mp hk'
      exact .inl ⟨hi, k, hk, rfl⟩
    · obtain rfl : i = sys.keys.length := by omega
      rw [hnew] at hk'
      exact .inr ⟨rfl, (Option.some.inj hk').symm⟩
  refine ⟨⟨fun d => ?_, fun i k' hk' hgone => ?_⟩, fun i hi => ?_, fun i k' p hk' hp => ?_⟩
  · have hopen : ∀ i ∈ List.range sys.keys.length, sys'.isOpen d i = sys.isOpen d i := by
      intro i hi
      unfold isOpen
      rw [hanswered, hold i (List.mem_range.mp hi), Option.any_map]
      simp only [ChildrenKey.deviceKey_invalidate, ChildrenKey.gone_invalidate]
    have hlast : sys'.isOpen d sys.keys.length = decide (deviceKey = d) := by
      unfold isOpen
      rw [hanswered, hnew, decide_eq_true hfresh, Bool.true_and, Option.any_some]
      exact Bool.and_true _
    rw [hlength, List.range_succ, List.filter_append, List.filter_congr hopen,
      ← h.orderly.inLine d, hsvc, List.filter_singleton, hlast]
    by_cases hd : deviceKey = d
    · rw [if_pos hd, hd, decide_eq_true rfl]
      exact GrowingArray.elements_pushBack _ _ _
    · rw [if_neg hd, decide_eq_false hd]
      exact (List.append_nil _).symm
  · rcases hbefore i k' hk' with ⟨-, k, hk, rfl⟩ | ⟨-, rfl⟩
    · rw [hanswered]
      exact h.orderly.gone i k hk (ChildrenKey.gone_invalidate .. ▸ hgone)
    · cases hgone
  · rw [hanswered] at hi
    have hlt := h.asked i hi
    omega
  · rcases hbefore i k' hk' with ⟨hi, k, hk, rfl⟩ | ⟨rfl, rfl⟩
    · rw [ChildrenKey.deviceKey_invalidate]
      exact h.position hsvc (fun q hq => hq.pushBack hi.ne') hk hp
    · rw [hposition p hp]
      dsimp only
      rw [hsvc, if_pos rfl]
      exact GrowingArray.tracks_last

/-- A callback that is taken out of a line, because it was answered or because its call is `gone`. -/
theorem Tracked.remove (h : sys.Tracked) (gone : Nat → Bool → Bool) {deviceKey : String}
    {index call : Nat}
    (hat : (sys.svc.callbacks deviceKey).elements[index]? = some call)
    (hsvc : ∀ d, sys'.svc.callbacks d =
      if deviceKey = d then (sys.svc.callbacks deviceKey).removeAt index else sys.svc.callbacks d)
    (hlength : sys'.keys.length = sys.keys.length)
    (hkeys : ∀ i : Nat, sys'.keys[i]? = (sys.keys[i]?).map fun k =>
      { k.invalidate deviceKey (fun p => decide (index ≤ p.index)) with gone := gone i k.gone })
    (hopen : ∀ i g, (i ∉ sys'.answered ∧ gone i g = false) ↔ (i ∉ sys.answered ∧ g = false) ∧ i ≠ call)
    (hgone : ∀ (i : Nat) k, sys.keys[i]? = some k → gone i k.gone = true → i ∉ sys'.answered)
    (hasked : ∀ i ∈ sys'.answered, i < sys.keys.length) : sys'.Tracked := by
  have hcall := h.orderly.mem_iff.mp (List.mem_of_getElem? hat)
  have hisOpen : ∀ d i, sys'.isOpen d i = (sys.isOpen d i && i != call) := by
    intro d i
    rw [Bool.eq_iff_iff, Bool.and_eq_true, bne_iff_ne, isOpen_iff, isOpen_iff, hkeys]
    constructor
    · rintro ⟨hi, k', hk', rfl, hg⟩
      obtain ⟨k, hk, rfl⟩ := Option.map_eq_some_iff.mp hk'
      obtain ⟨⟨hi, hg⟩, hne⟩ := (hopen i k.gone).mp ⟨hi, hg⟩
      exact ⟨⟨hi, k, hk, (k.deviceKey_invalidate deviceKey _).symm, hg⟩, hne⟩
    · rintro ⟨⟨hi, k, hk, rfl, hg⟩, hne⟩
      obtain ⟨hi, hg⟩ := (hopen i k.gone).mpr ⟨⟨hi, hg⟩, hne⟩
      exact ⟨hi, _, congrArg _ hk, k.deviceKey_invalidate deviceKey _, hg⟩
  refine ⟨⟨fun d => ?_, fun i k' hk' hg => ?_⟩, fun i hi => ?_, fun i k' p hk' hp => ?_⟩
  · have hfilter : (List.range sys'.keys.length).filter (sys'.isOpen d) =
        (sys.svc.callbacks d).elements.filter fun i => i != call := by
      rw [h.orderly.inLine, List.filter_filter, hlength]
      exact List.filter_congr fun i _ => (hisOpen d i).trans (Bool.and_comm _ _)
    rw [hfilter, hsvc]
    split_ifs with hdevice
    · subst hdevice
      exact GrowingArray.elements_removeAt (h.orderly.nodup deviceKey) hat
    · refine (List.filter_eq_self.mpr fun i hi => ?_).symm
      refine bne_iff_ne.mpr fun hic => hdevice ?_
      obtain ⟨-, k, hk, rfl, -⟩ := isOpen_iff.mp hcall.2
      obtain ⟨-, k', hk', rfl, -⟩ := isOpen_iff.mp (h.orderly.mem_iff.mp hi).2
      rw [hic, hk] at hk'
      cases hk'
      rfl
  · rw [hkeys] at hk'
    obtain ⟨k, hk, rfl⟩ := Option.map_eq_some_iff.mp hk'
    exact hgone i k hk hg
  · rw [hlength]
    exact hasked i hi
  · rw [hkeys] at hk'
    obtain ⟨k, hk, rfl⟩ := Option.map_eq_some_iff.mp hk'
    dsimp only at hp ⊢
    rw [ChildrenKey.deviceKey_invalidate]
    exact h.position hsvc (fun q hq => hq.removeAt (h.orderly.nodup deviceKey) index) hk hp

theorem Tracked.register (h : sys.Tracked) (deviceKey : String) {waiter : Option ChildrenWaiter}
    (hwaiter : ∀ w ∈ waiter, w.phase = .waiting ∧ w.stale = false ∧ w.callbackIt =
      ((sys.svc.emplaceBack grow deviceKey sys.calls.length).callbacks deviceKey).last) :
    (sys.register (sys.svc.emplaceBack grow deviceKey sys.calls.length) deviceKey waiter).Tracked := by
  have hlength : sys.calls.length = sys.keys.length := (List.length_map _).symm
  have hgone : (ChildrenCall.mk deviceKey waiter).gone = false := by
    unfold ChildrenCall.gone
    cases waiter with
    | none => rfl
    | some w => rw [Option.any_some, (hwaiter w rfl).1]; rfl
  have hkeys : (sys.register (sys.svc.emplaceBack grow deviceKey sys.calls.length) deviceKey waiter).keys =
      (sys.keys.map fun k => k.invalidate deviceKey fun _ => (sys.svc.callbacks deviceKey).full) ++
        [⟨deviceKey, false, waiter.map fun w => (w.callbackIt, w.stale)⟩] := by
    unfold keys ChildrenSystem.register
    rw [List.map_append, keys_invalidate, List.map_singleton, ChildrenCall.key, hgone]
    rfl
  have hsvc : ∀ d, (sys.svc.emplaceBack grow deviceKey sys.calls.length).callbacks d =
      if deviceKey = d then (sys.svc.callbacks deviceKey).pushBack grow sys.keys.length
      else sys.svc.callbacks d := by
    rw [← hlength]
    exact fun d => sys.svc.callbacks_setCallbacks deviceKey d _
  refine h.push hsvc hkeys (fun p hp => ?_) rfl
  obtain ⟨w, hw, rfl⟩ := Option.map_eq_some_iff.mp hp
  rw [(hwaiter w hw).2.1, (hwaiter w hw).2.2]
  rfl

theorem Tracked.obtainChildren (h : sys.Tracked) (ctx : ChildrenContext M) (deviceKey : String) :
    (sys.obtainChildren grow ctx deviceKey).Tracked := by
  unfold ChildrenSystem.obtainChildren ChildrenQueries.sendRequest
  by_cases hpublished : ChildrenQueries.publishRequest ctx deviceKey = true
  · simp only [if_pos hpublished]
    refine h.register deviceKey fun w hw => ?_
    cases hw
    exact ⟨rfl, rfl, rfl⟩
  · simp only [if_neg hpublished]
    exact h

theorem Tracked.obtainChildrenAsync (h : sys.Tracked) (ctx : ChildrenContext M) (deviceKey : String)
    (callback : Bool) : (sys.obtainChildrenAsync grow ctx deviceKey callback).Tracked := by
  unfold ChildrenSystem.obtainChildrenAsync ChildrenQueries.obtainChildrenAsync
  cases callback with
  | false => exact h
  | true =>
    by_cases hpublished : ChildrenQueries.publishRequest ctx deviceKey = true
    · simp only [if_true, if_pos hpublished]
      exact h.register deviceKey fun w hw => (by cases hw)
    · simp only [if_true, if_neg hpublished]
      exact h

theorem keys_respond (sys : ChildrenSystem) (deviceKey : String)
    (message : ChildrenSynchronizationResponseMessage) :
    (sys.respond deviceKey message).keys = sys.keys.map fun k =>
      k.invalidate deviceKey fun _ => !(sys.svc.callbacks deviceKey).elements.isEmpty :=
  sys.keys_invalidate deviceKey _

theorem respond_cons {deviceKey : String} {callback : Nat} {rest : List Nat}
    (helements : (sys.svc.callbacks deviceKey).elements = callback :: rest)
    (message : ChildrenSynchronizationResponseMessage) :
    (∀ d, (sys.respond deviceKey message).svc.callbacks d =
      if deviceKey = d then (sys.svc.callbacks deviceKey).removeAt 0 else sys.svc.callbacks d) ∧
    (sys.respond deviceKey message).answered = sys.answered ++ [callback] := by
  unfold ChildrenSystem.respond ChildrenQueries.handleChildrenSynchronizationResponse answered
  simp only [helements]
  refine ⟨fun d => sys.svc.callbacks_setCallbacks deviceKey d _, ?_⟩
  rw [← List.append_assoc, List.map_append]
  rfl

theorem Tracked.respond (h : sys.Tracked) (deviceKey : String)
    (message : ChildrenSynchronizationResponseMessage) : (sys.respond deviceKey message).Tracked := by
  have hkeys := sys.keys_respond deviceKey message
  cases helements : (sys.svc.callbacks deviceKey).elements with
  | nil =>
    rw [helements] at hkeys
    refine h.congr (funext fun d => ?_) (hkeys.trans ?_) ?_
    · unfold ChildrenSystem.respond ChildrenQueries.handleChildrenSynchronizationResponse
      simp only [helements]
      rw [ChildrenQueries.callbacks_setCallbacks]
      split_ifs with hd
      · rw [hd]
      · rfl
    · simp [ChildrenKey.invalidate_none]
    · unfold ChildrenSystem.respond ChildrenQueries.handleChildrenSynchronizationResponse
      simp only [helements]
      rfl
  | cons callback rest =>
    rw [helements] at hkeys
    obtain ⟨hsvc, hanswered⟩ := respond_cons helements message
    have hat : (sys.svc.callbacks deviceKey).elements[0]? = some callback := by
      rw [helements]
      rfl
    obtain ⟨hlt, hcallback⟩ := h.orderly.mem_iff.mp (List.mem_of_getElem? hat)
    obtain ⟨-, k, hk, -, hgone⟩ := isOpen_iff.mp hcallback
    have hmarked : ∀ i : Nat, (sys.respond deviceKey message).keys[i]? = (sys.keys[i]?).map fun k' =>
        { k'.invalidate deviceKey (fun p => decide (0 ≤ p.index)) with gone := k'.gone } := by
      intro i
      rw [hkeys, List.getElem?_map]
      refine congrArg (Option.map · _) (funext fun k' => ?_)
      unfold ChildrenKey.invalidate
      split_ifs <;> simp
    refine h.remove (fun _ g => g) hat hsvc ?_ hmarked (fun i g => ?_) (fun i k' hk' hg => ?_) fun i hi => ?_
    · rw [hkeys, List.length_map]
    · rw [hanswered, List.mem_append, List.mem_singleton, not_or]
      exact and_right_comm
    · rw [hanswered, List.mem_append, List.mem_singleton, not_or]
      refine ⟨h.orderly.gone i k' hk' hg, ?_⟩
      rintro rfl
      rw [hk] at hk'
      cases hk'
      rw [hgone] at hg
      cases hg
    · rw [hanswered, List.mem_append, List.mem_singleton] at hi
      rcases hi with hold | rfl
      · exact h.asked i hold
      · exact hlt

theorem Tracked.runCommand (h : sys.Tracked) : sys.runCommand.Tracked := by
  unfold ChildrenSystem.runCommand
  cases hbuffer : sys.svc.commandBuffer with
  | nil => exact h
  | cons command rest =>
    refine h.congr rfl (keys_modify sys (fun c => c.key_mapWaiter fun w => ?_) _) ?_
    · obtain ⟨callbackIt, stale, called, phase⟩ := w
      cases phase <;> exact ⟨rfl, rfl, Iff.rfl⟩
    · unfold answered
      dsimp only
      rw [hbuffer, List.append_assoc]
      rfl

theorem Tracked.endWait (h : sys.Tracked) (call : Nat) : (sys.endWait call).Tracked := by
  refine h.congr rfl (keys_modify sys (fun c => c.key_mapWaiter fun w => ?_) call) rfl
  obtain ⟨callbackIt, stale, called, phase⟩ := w
  unfold ChildrenWaiter.endWait
  split_ifs with hphase
  · cases hphase
    cases called with
    | none => exact ⟨rfl, rfl, by simp⟩
    | some children => exact ⟨rfl, rfl, by simp⟩
  · exact ⟨rfl, rfl, Iff.rfl⟩

theorem calls_of_givingUp {call : Nat} {deviceKey : String} {w : ChildrenWaiter}
    (h : sys.givingUp call = some (deviceKey, w)) :
    sys.calls[call]? = some ⟨deviceKey, some w⟩ ∧ w.phase = .givingUp := by
  unfold givingUp at h
  cases hcall : sys.calls[call]? with
  | none =>
    rw [hcall] at h
    cases h
  | some c =>
    rw [hcall] at h
    obtain ⟨w', hw', heq⟩ := Option.map_eq_some_iff.mp h
    cases heq
    obtain ⟨hwaiter, hphase⟩ := Option.filter_eq_some_iff.mp hw'
    exact ⟨hwaiter ▸ rfl, of_decide_eq_true hphase⟩

/-- What a call that gives up does, if its position has a meaning. -/
theorem giveUp_cases {call : Nat} (hs : sys.giveUp call = .ok sys') :
    sys.givingUp call = none ∧ sys' = sys ∨
    ∃ deviceKey w callbacks, sys.givingUp call = some (deviceKey, w) ∧
      (sys.svc.callbacks deviceKey).erase w.callbackIt = some callbacks ∧
      sys' = { sys with
        svc := sys.svc.setCallbacks deviceKey callbacks
        calls := (sys.invalidate deviceKey fun p => decide (w.callbackIt.index ≤ p.index)).modify call
          fun c => c.mapWaiter ChildrenWaiter.giveUp } := by
  unfold giveUp at hs
  cases hgiving : sys.givingUp call with
  | none =>
    rw [hgiving] at hs
    exact .inl ⟨rfl, (Except.ok.inj hs).symm⟩
  | some giving =>
    obtain ⟨deviceKey, w⟩ := giving
    rw [hgiving] at hs
    unfold ChildrenQueries.eraseCallback at hs
    dsimp only at hs
    cases herase : (sys.svc.callbacks deviceKey).erase w.callbackIt with
    | none =>
      rw [herase] at hs
      cases hs
    | some callbacks =>
      rw [herase] at hs
      exact .inr ⟨deviceKey, w, callbacks, rfl, herase, (Except.ok.inj hs).symm⟩

theorem keys_giveUp {call : Nat} {deviceKey : String} {w : ChildrenWaiter}
    (hcall : sys.calls[call]? = some ⟨deviceKey, some w⟩)
    (stale : GrowingArray.Position → Bool) (i : Nat) :
    (((sys.invalidate deviceKey stale).modify call fun c => c.mapWaiter ChildrenWaiter.giveUp).map
        ChildrenCall.key)[i]? =
      (sys.keys[i]?).map fun k =>
        { k.invalidate deviceKey stale with gone := k.gone || decide (i = call) } := by
  have hinvalidate : ∀ (k : ChildrenKey) g, g = false →
      { k.invalidate deviceKey stale with gone := k.gone || g } = k.invalidate deviceKey stale := by
    rintro k g rfl
    unfold ChildrenKey.invalidate
    split_ifs <;> simp
  unfold keys invalidate
  simp only [List.getElem?_map, List.getElem?_modify]
  by_cases hi : call = i
  · subst hi
    rw [hcall]
    simp [ChildrenCall.key, ChildrenCall.mapWaiter, ChildrenCall.invalidate, ChildrenKey.invalidate,
      ChildrenCall.gone, ChildrenWaiter.giveUp]
  · cases sys.calls[i]? with
    | none => rfl
    | some c =>
      simp only [Option.map_some, if_neg hi]
      rw [hinvalidate _ _ (decide_eq_false (Ne.symm hi))]
      exact congrArg some (c.key_invalidate deviceKey stale)

theorem Tracked.tracks (h : sys.Tracked) {call : Nat} {deviceKey : String} {w : ChildrenWaiter}
    (hgiving : sys.givingUp call = some (deviceKey, w)) :
    (sys.svc.callbacks deviceKey).Tracks w.callbackIt call w.stale := by
  obtain ⟨hcall, -⟩ := calls_of_givingUp hgiving
  refine h.tracked call (ChildrenCall.mk deviceKey (some w)).key (w.callbackIt, w.stale) ?_ rfl
  unfold keys
  rw [List.getElem?_map, hcall]
  rfl

theorem Tracked.giveUp (h : sys.Tracked) {call : Nat} (hfresh : ∀ w ∈ sys.givingUp call, w.2.stale = false)
    (hs : sys.giveUp call = .ok sys') : sys'.Tracked := by
  rcases giveUp_cases hs with ⟨-, rfl⟩ | ⟨deviceKey, w, callbacks, hgiving, herase, rfl⟩
  · exact h
  · have htracks := hfresh _ hgiving ▸ h.tracks hgiving
    obtain ⟨hcall, -⟩ := calls_of_givingUp hgiving
    rw [htracks.erase] at herase
    cases herase
    obtain ⟨hlt, hopen⟩ := h.orderly.mem_iff.mp (List.mem_of_getElem? htracks.2)
    obtain ⟨hunanswered, -⟩ := isOpen_iff.mp hopen
    refine h.remove (fun i g => g || decide (i = call)) htracks.2
      (fun d => sys.svc.callbacks_setCallbacks deviceKey d _) ?_ (keys_giveUp hcall _)
      (fun i g => ?_) (fun i k' hk' hg => ?_) h.asked
    · unfold keys invalidate
      simp
    · rw [Bool.or_eq_false_iff, decide_eq_false_iff_not]
      exact (and_assoc).symm
    · rcases Bool.or_eq_true_iff.mp hg with hold | hnew
      · exact h.orderly.gone i k' hk' hold
      · rw [of_decide_eq_true hnew]
        exact hunanswered

/-- A call that gives up at another position leaves its own callback in line, or takes another
out. -/
theorem not_orderly_of_stale (h : sys.Tracked) {call : Nat}
    (hstale : ¬ ∀ w ∈ sys.givingUp call, w.2.stale = false) (hs : sys.giveUp call = .ok sys') :
    ¬ sys'.Orderly := by
  rcases giveUp_cases hs with ⟨hnone, -⟩ | ⟨deviceKey, w, callbacks, hgiving, herase, rfl⟩
  · rw [hnone] at hstale
    exact absurd (fun _ h => (by cases h)) hstale
  · have hw : w.stale = true := by
      rw [← Bool.not_eq_false]
      intro hw
      refine hstale fun w' hw' => ?_
      rw [hgiving] at hw'
      cases hw'
      exact hw
    have htracks := hw ▸ h.tracks hgiving
    obtain ⟨rfl, other, hother, hat⟩ := htracks.erase_stale herase
    obtain ⟨hlt, hopen⟩ := h.orderly.mem_iff.mp (List.mem_of_getElem? hat)
    obtain ⟨hunanswered, k, hk, hdevice, hgone⟩ := isOpen_iff.mp hopen
    -- Were the line in order, the callback that was removed would be in it, since its call is open.
    intro horderly
    have hinLine := @Orderly.mem_iff _ horderly deviceKey other
    rw [ChildrenQueries.callbacks_setCallbacks, if_pos rfl,
      GrowingArray.elements_removeAt (h.orderly.nodup deviceKey) hat] at hinLine
    have hkey := (keys_giveUp (calls_of_givingUp hgiving).1
      (fun p => decide (w.callbackIt.index ≤ p.index)) other).trans (congrArg (Option.map _) hk)
    have hstill := hinLine.mpr ⟨(List.getElem?_eq_some_iff.mp hkey).1, isOpen_iff.mpr
      ⟨hunanswered, _, hkey, (k.deviceKey_invalidate deviceKey _).trans hdevice, ?_⟩⟩
    · exact absurd rfl (bne_iff_ne.mp (List.mem_filter.mp hstill).2)
    · dsimp only
      rw [hgone, decide_eq_false hother]
      rfl

theorem Tracked.step (h : sys.Tracked) {e : ChildrenEvent M} (hok : sys.Fresh e)
    (hs : sys.step grow e = .ok sys') : sys'.Tracked := by
  cases e with
  | obtainChildren ctx deviceKey => cases hs; exact h.obtainChildren ctx deviceKey
  | obtainChildrenAsync ctx deviceKey callback =>
    cases hs
    exact h.obtainChildrenAsync ctx deviceKey callback
  | respond deviceKey message => cases hs; exact h.respond deviceKey message
  | runCommand => cases hs; exact h.runCommand
  | endWait call => cases hs; exact h.endWait call
  | giveUp call => exact h.giveUp hok hs

theorem not_orderly_of_break (h : sys.Tracked) {e : ChildrenEvent M} (hok : ¬ sys.Fresh e)
    (hs : sys.step grow e = .ok sys') : ¬ sys'.Orderly := by
  cases e with
  | giveUp call => exact not_orderly_of_stale h hok hs
  | obtainChildren ctx deviceKey => exact absurd trivial hok
  | obtainChildrenAsync ctx deviceKey callback => exact absurd trivial hok
  | respond deviceKey message => exact absurd trivial hok
  | runCommand => exact absurd trivial hok
  | endWait call => exact absurd trivial hok

theorem Tracked.step_defined (h : sys.Tracked) {e : ChildrenEvent M} (hok : sys.Fresh e) :
    ∃ sys', sys.step grow e = .ok sys' := by
  cases e with
  | giveUp call =>
    unfold ChildrenSystem.step ChildrenSystem.giveUp
    dsimp only
    cases hgiving : sys.givingUp call with
    | none => exact ⟨sys, rfl⟩
    | some giving =>
      obtain ⟨deviceKey, w⟩ := giving
      have htracks := hok _ hgiving ▸ h.tracks hgiving
      unfold ChildrenQueries.eraseCallback
      dsimp only
      rw [htracks.erase]
      exact ⟨_, rfl⟩
  | obtainChildren ctx deviceKey => exact ⟨_, rfl⟩
  | obtainChildrenAsync ctx deviceKey callback => exact ⟨_, rfl⟩
  | respond deviceKey message => exact ⟨_, rfl⟩
  | runCommand => exact ⟨_, rfl⟩
  | endWait call => exact ⟨_, rfl⟩

theorem tracked_create : create.Tracked where
  orderly := ⟨fun _ => rfl, fun call k hk => by cases hk⟩
  asked call h := absurd h List.not_mem_nil
  tracked call k p hk := by cases hk

/-- **Giving up.** The callbacks in line are those of the calls that were not answered and have not
given up, in the order of the calls, in all states of a run, if and only if every call that gave up
did so at a position that was not stale. In such runs no step is without a meaning, as long as that
goes on. -/
theorem giving_up_removes_own
    (hrun : Machine.Run (step grow) (fun _ _ => True) create es sys) :
    ((∀ es₁ es₂ s, es = es₁ ++ es₂ → Machine.Run (step grow) (fun _ _ => True) create es₁ s → s.Orderly) ↔
      Machine.Run (step grow) Fresh create es sys) ∧
    (Machine.Run (step grow) Fresh create es sys →
      ∀ e : ChildrenEvent M, sys.Fresh e → ∃ sys', sys.step grow e = .ok sys') := by
  constructor
  · exact hrun.always_iff Orderly Tracked tracked_create (fun _ _ _ h hok hs => h.step hok hs)
      (fun _ h => h.orderly) fun _ _ _ h _ hok hs => not_orderly_of_break h hok hs
  · intro hfresh e hok
    have htracked : sys.Tracked :=
      hfresh.invariant Tracked tracked_create fun _ _ _ h hok hs => h.step hok hs
    exact htracked.step_defined hok

/-! ## Runs -/

/-- As libstdc++ does it. -/
def double (capacity : Nat) : Nat := if capacity = 0 then 1 else 2 * capacity

/-- Two queries that are answered, so that there is room for two callbacks. -/
def warmUp : List (ChildrenEvent Unit) :=
  [.obtainChildrenAsync .working "d" true, .obtainChildrenAsync .working "d" true,
    .respond "d" ⟨["x"]⟩, .respond "d" ⟨[]⟩, .runCommand, .runCommand]

/-- A call gives up while the callback of another is behind its own. -/
theorem giving_up_removes_own_sample : ∃ sys : ChildrenSystem, sys.Orderly ∧
    sys.invoked = [(0, ["x"]), (1, []), (3, ["c"])] := by
  obtain ⟨sys, hrun, hinvoked⟩ := Machine.Run.exists_of_check (step double) Fresh create
    (warmUp ++ [.obtainChildren .working "d", .obtainChildrenAsync .working "d" true,
      .endWait 2, .giveUp 2, .respond "d" ⟨["c"]⟩, .runCommand])
    ChildrenSystem.invoked [(0, ["x"]), (1, []), (3, ["c"])] (by decide +kernel)
  have hall := giving_up_removes_own (hrun.mono fun _ _ _ => trivial)
  exact ⟨sys, hall.1.mpr hrun _ [] sys (List.append_nil _).symm (hrun.mono fun _ _ _ => trivial),
    hinvoked⟩

/-- A response takes the callback of a call that then gives up, and takes that of another out. -/
theorem removes_another : ∃ sys : ChildrenSystem,
    Machine.Run (step double) (fun _ _ => True) create
      (warmUp ++ [.obtainChildren .working "d", .obtainChildrenAsync .working "d" true,
        .endWait 2, .respond "d" ⟨["c"]⟩, .giveUp 2]) sys ∧
      ¬ sys.Orderly := by
  obtain ⟨sys, hrun, hsys⟩ := Machine.Run.exists_of_check (step double) (fun _ _ => True) create
    (warmUp ++ [.obtainChildren .working "d", .obtainChildrenAsync .working "d" true,
      .endWait 2, .respond "d" ⟨["c"]⟩, .giveUp 2])
    (fun sys => ((sys.svc.callbacks "d").elements, sys.keys.length, sys.isOpen "d" 3)) ([], 4, true)
    (by decide +kernel)
  obtain ⟨helements, hlength, hopen⟩ := Prod.mk.injEq .. ▸ (Prod.mk.injEq .. ▸ hsys)
  refine ⟨sys, hrun, fun horderly => ?_⟩
  have hmem := horderly.mem_iff.mpr ⟨by omega, hopen⟩
  rw [helements] at hmem
  exact List.not_mem_nil hmem

end ChildrenSystem

end WolkConnect
