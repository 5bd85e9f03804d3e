import WolkConnect.Error.Model
import WolkConnect.Lib.Run

/-!
# No message is lost

Messages that arrive and messages that are obtained, without the timer. The cache of
a device has one place for each arrival time.
-/

namespace WolkConnect

inductive ErrorEvent
  | messageReceived (errorMessage : ErrorMessage)
  | obtainMessage (position : ErrorService.MessagePosition) (deviceKey : String)

def ErrorEvent.deviceKey : ErrorEvent → String
  | .messageReceived m => m.deviceKey
  | .obtainMessage _ d => d

def ofDevice (deviceKey : String) (messages : List ErrorMessage) : List ErrorMessage :=
  messages.filter fun m => m.deviceKey = deviceKey

/-- The service, with the messages that it has been given and those that it has handed out. -/
structure ErrorSystem where
  svc : ErrorService
  received : List ErrorMessage
  returned : List ErrorMessage

namespace ErrorService

variable (svc : ErrorService)

def cachedFor (deviceKey : String) : List ErrorMessage :=
  (svc.messagesOf deviceKey).entries.map Prod.snd

/-- Every message is cached for its device, under its arrival time. -/
def Filed : Prop :=
  ∀ d time message, (svc.messagesOf d).find? time = some message →
    message.deviceKey = d ∧ message.arrivalTime = time

/-- The retrieval functions agree with what is cached. -/
structure Serves : Prop where
  peek : ∀ d, svc.peekMessagesForDevice d = (svc.cachedFor d).length
  first : ∀ d message, (svc.obtainFirstMessageForDevice d).1 = some message →
    message ∈ svc.cachedFor d ∧ ∀ m ∈ svc.cachedFor d, message.arrivalTime ≤ m.arrivalTime
  last : ∀ d message, (svc.obtainLastMessageForDevice d).1 = some message →
    message ∈ svc.cachedFor d ∧ ∀ m ∈ svc.cachedFor d, m.arrivalTime ≤ message.arrivalTime
  none : ∀ d, (svc.obtainFirstMessageForDevice d).1 = .none ∨
    (svc.obtainLastMessageForDevice d).1 = .none → svc.cachedFor d = []

variable {svc} {svc' : ErrorService} {d : String} {position : MessagePosition}

theorem messagesOf_messageReceived (svc : ErrorService) (message : ErrorMessage) (d : String) :
    (svc.messageReceived message).messagesOf d =
      if message.deviceKey = d then (svc.messagesOf d).emplace message.arrivalTime message
      else svc.messagesOf d := by
  unfold messageReceived messagesOf
  rw [OrderedMap.find?_insert]
  split_ifs with hd
  · rw [← hd]; rfl
  · rfl

theorem MessagePosition.entry_mem {messages : DeviceErrorMessages} {e : TimePoint × ErrorMessage}
    (h : position.entry messages = some e) : e ∈ messages.entries := by
  cases position with
  | first => exact List.mem_of_head? h
  | last => exact List.mem_of_getLast? h

theorem MessagePosition.entry_eq_none {messages : DeviceErrorMessages} :
    position.entry messages = none ↔ messages.entries = [] := by
  cases position with
  | first => exact List.head?_eq_none_iff
  | last => exact List.getLast?_eq_none_iff

/-- Either nothing is cached for the device, or the message at the position is taken out. -/
theorem obtainMessageForDevice_cases (svc : ErrorService) (position : MessagePosition) (d : String) :
    (svc.obtainMessageForDevice position d = (none, svc) ∧ svc.cachedFor d = []) ∨
      ∃ time message svc', svc.obtainMessageForDevice position d = (some message, svc') ∧
        position.entry (svc.messagesOf d) = some (time, message) ∧
        ∀ d', svc'.messagesOf d' =
          if d = d' then (svc.messagesOf d).erase time else svc.messagesOf d' := by
  unfold obtainMessageForDevice cachedFor messagesOf
  cases hd : svc.cached.find? d with
  | none => exact .inl ⟨rfl, rfl⟩
  | some messages =>
    dsimp only [Option.getD_some]
    cases hentry : position.entry messages with
    | none => exact .inl ⟨rfl, by rw [MessagePosition.entry_eq_none.mp hentry]; rfl⟩
    | some e =>
      obtain ⟨time, message⟩ := e
      refine .inr ⟨time, message, _, rfl, rfl, fun d' => ?_⟩
      rw [OrderedMap.find?_insert]
      split_ifs <;> rfl

theorem Filed.received (h : svc.Filed) (message : ErrorMessage) :
    (svc.messageReceived message).Filed := by
  intro d time m hm
  rw [messagesOf_messageReceived] at hm
  split_ifs at hm with hd
  · unfold OrderedMap.emplace at hm
    split_ifs at hm
    · exact h d time m hm
    · rw [OrderedMap.find?_insert] at hm
      split_ifs at hm with htime
      · cases hm
        exact ⟨hd, htime⟩
      · exact h d time m hm
  · exact h d time m hm

theorem Filed.obtained (h : svc.Filed) (position : MessagePosition) (d : String) :
    (svc.obtainMessageForDevice position d).2.Filed := by
  rcases obtainMessageForDevice_cases svc position d with ⟨heq, -⟩ | ⟨time, message, svc', heq, -, hmap⟩
  · rw [heq]
    exact h
  · rw [heq]
    intro d' time' m hm
    rw [hmap] at hm
    split_ifs at hm with hd
    · rw [OrderedMap.find?_erase] at hm
      split_ifs at hm
      exact h d' time' m (hd ▸ hm)
    · exact h d' time' m hm

theorem Filed.arrivalTime (h : svc.Filed) {e : TimePoint × ErrorMessage}
    (he : e ∈ (svc.messagesOf d).entries) : e.2.arrivalTime = e.1 :=
  (h d e.1 e.2 (OrderedMap.find?_eq_some.mpr he)).2

/-- What is obtained was cached, and its arrival time is to the others as its key is to theirs. -/
theorem Filed.obtained_mem (h : svc.Filed) (position : MessagePosition)
    {r : TimePoint → TimePoint → Prop} {message : ErrorMessage}
    (hkeys : ∀ e, position.entry (svc.messagesOf d) = some e →
      ∀ e' ∈ (svc.messagesOf d).entries, r e.1 e'.1)
    (hm : (svc.obtainMessageForDevice position d).1 = some message) :
    message ∈ svc.cachedFor d ∧ ∀ m ∈ svc.cachedFor d, r message.arrivalTime m.arrivalTime := by
  rcases obtainMessageForDevice_cases svc position d with ⟨heq, -⟩ | ⟨time, m, svc', heq, hentry, -⟩
  · rw [heq] at hm
    cases hm
  · rw [heq] at hm
    cases hm
    have hmem := MessagePosition.entry_mem hentry
    refine ⟨List.mem_map.mpr ⟨_, hmem, rfl⟩, fun m' hm' => ?_⟩
    obtain ⟨e, he, rfl⟩ := List.mem_map.mp hm'
    rw [h.arrivalTime hmem, h.arrivalTime he]
    exact hkeys _ hentry e he

theorem Filed.serves (h : svc.Filed) : svc.Serves where
  peek d := (List.length_map _).symm
  first d message hm := h.obtained_mem .first (fun _ he => OrderedMap.head_le he) hm
  last d message hm :=
    h.obtained_mem .last (r := fun latest time => time ≤ latest)
      (fun _ he => OrderedMap.le_getLast he) hm
  none d hnone := by
    have hempty : ∀ position, (svc.obtainMessageForDevice position d).1 = .none → svc.cachedFor d = [] := by
      intro position hposition
      rcases obtainMessageForDevice_cases svc position d with ⟨-, hcached⟩ | ⟨_, _, _, heq, -⟩
      · exact hcached
      · rw [heq] at hposition
        cases hposition
    exact hnone.elim (hempty .first) (hempty .last)

end ErrorService

namespace ErrorSystem

variable (sys : ErrorSystem)

def create (retainTime : Int) : ErrorSystem := ⟨⟨retainTime, .empty⟩, [], []⟩

def messageReceived (errorMessage : ErrorMessage) : ErrorSystem :=
  { sys with
    svc := sys.svc.messageReceived errorMessage
    received := sys.received ++ [errorMessage] }

def obtainMessage (position : ErrorService.MessagePosition) (deviceKey : String) : ErrorSystem :=
  let obtained := sys.svc.obtainMessageForDevice position deviceKey
  { sys with svc := obtained.2, returned := sys.returned ++ obtained.1.toList }

def step (sys : ErrorSystem) : ErrorEvent → Except Empty ErrorSystem
  | .messageReceived errorMessage => .ok (sys.messageReceived errorMessage)
  | .obtainMessage position deviceKey => .ok (sys.obtainMessage position deviceKey)

/-- No message with its arrival time is cached for the device of a message that arrives. -/
def TimeIsFree (sys : ErrorSystem) : ErrorEvent → Prop
  | .messageReceived m => (sys.svc.messagesOf m.deviceKey).find? m.arrivalTime = none
  | .obtainMessage _ _ => True

instance (sys : ErrorSystem) : (e : ErrorEvent) → Decidable (sys.TimeIsFree e)
  | .messageReceived _ => inferInstanceAs (Decidable (_ = none))
  | .obtainMessage _ _ => isTrue trivial

/-- What has arrived for a device has been handed out or is cached. -/
def Conserved (sys : ErrorSystem) : Prop :=
  ∀ d, (ofDevice d sys.received).Perm (ofDevice d sys.returned ++ sys.svc.cachedFor d)

/-- A message of some device is missing. -/
def Lossy (sys : ErrorSystem) : Prop :=
  ∃ d, (ofDevice d sys.returned ++ sys.svc.cachedFor d).length < (ofDevice d sys.received).length

variable {sys} {sys' : ErrorSystem} {es : List ErrorEvent} {d : String}

theorem ofDevice_append (d : String) (l₁ l₂ : List ErrorMessage) :
    ofDevice d (l₁ ++ l₂) = ofDevice d l₁ ++ ofDevice d l₂ := List.filter_append ..

theorem cachedFor_of_free {m : ErrorMessage}
    (h : (sys.svc.messagesOf m.deviceKey).find? m.arrivalTime = none) (d : String) :
    ((sys.svc.messageReceived m).cachedFor d).Perm (sys.svc.cachedFor d ++ ofDevice d [m]) := by
  unfold ErrorService.cachedFor
  rw [ErrorService.messagesOf_messageReceived]
  split_ifs with hd
  · subst hd
    have hemplace : (sys.svc.messagesOf m.deviceKey).emplace m.arrivalTime m =
        (sys.svc.messagesOf m.deviceKey).insert m.arrivalTime m := by
      simp [OrderedMap.emplace, h]
    rw [hemplace]
    simpa [ofDevice] using (OrderedMap.perm_insert h m).map Prod.snd
  · simp [ofDevice, hd]

theorem cachedFor_of_taken {m : ErrorMessage}
    (h : (sys.svc.messagesOf m.deviceKey).find? m.arrivalTime ≠ none) (d : String) :
    (sys.svc.messageReceived m).cachedFor d = sys.svc.cachedFor d := by
  unfold ErrorService.cachedFor
  rw [ErrorService.messagesOf_messageReceived]
  split_ifs with hd
  · subst hd
    rw [OrderedMap.emplace, if_pos (Option.isSome_iff_ne_none.mpr h)]
  · rfl

/-- What is obtained is no longer cached, and nothing else changes place. -/
theorem obtained_perm (hfiled : sys.svc.Filed) (position : ErrorService.MessagePosition) (d d' : String) :
    (ofDevice d' (sys.svc.obtainMessageForDevice position d).1.toList ++
      (sys.svc.obtainMessageForDevice position d).2.cachedFor d').Perm (sys.svc.cachedFor d') := by
  rcases ErrorService.obtainMessageForDevice_cases sys.svc position d with
    ⟨heq, -⟩ | ⟨time, m, svc', heq, hentry, hmap⟩
  · rw [heq]
    exact .refl _
  · rw [heq]
    have hfind : (sys.svc.messagesOf d).find? time = some m :=
      OrderedMap.find?_eq_some.mpr (ErrorService.MessagePosition.entry_mem hentry)
    have hdevice : m.deviceKey = d := (hfiled d time m hfind).1
    unfold ErrorService.cachedFor
    rw [hmap]
    split_ifs with hd
    · subst hd
      have hperm := (OrderedMap.perm_erase hfind).map Prod.snd
      simpa [ofDevice, hdevice] using hperm.symm
    · simp [ofDevice, hdevice, hd]

theorem filed_step (h : sys.svc.Filed) {e : ErrorEvent} (hs : sys.step e = .ok sys') : sys'.svc.Filed := by
  cases e with
  | messageReceived m =>
    cases hs
    exact h.received m
  | obtainMessage position d =>
    cases hs
    exact h.obtained position d

theorem Conserved.step (h : sys.Conserved) (hfiled : sys.svc.Filed) {e : ErrorEvent}
    (hok : sys.TimeIsFree e) (hs : sys.step e = .ok sys') : sys'.Conserved := by
  intro d
  cases e with
  | messageReceived m =>
    cases hs
    have hcached := (cachedFor_of_free hok d).append_left (ofDevice d sys.returned)
    rw [← List.append_assoc] at hcached
    unfold messageReceived
    rw [ofDevice_append]
    exact ((h d).append_right _).trans hcached.symm
  | obtainMessage position d' =>
    cases hs
    have hcached := (obtained_perm hfiled position d' d).append_left (ofDevice d sys.returned)
    rw [← List.append_assoc, ← ofDevice_append] at hcached
    exact (h d).trans hcached.symm

theorem lossy_of_taken (h : sys.Conserved) {e : ErrorEvent} (hok : ¬ sys.TimeIsFree e)
    (hs : sys.step e = .ok sys') : sys'.Lossy := by
  cases e with
  | messageReceived m =>
    cases hs
    refine ⟨m.deviceKey, ?_⟩
    have hlength := (h m.deviceKey).length_eq
    simp [messageReceived, cachedFor_of_taken hok, ofDevice] at hlength ⊢
    omega
  | obtainMessage position d => exact absurd trivial hok

theorem Lossy.step (h : sys.Lossy) (hfiled : sys.svc.Filed) {e : ErrorEvent}
    (hs : sys.step e = .ok sys') : sys'.Lossy := by
  obtain ⟨d, hd⟩ := h
  refine ⟨d, ?_⟩
  cases e with
  | messageReceived m =>
    cases hs
    have hcached : ((sys.svc.messageReceived m).cachedFor d).length ≤
        (sys.svc.cachedFor d).length + (ofDevice d [m]).length := by
      by_cases hfree : (sys.svc.messagesOf m.deviceKey).find? m.arrivalTime = none
      · rw [(cachedFor_of_free hfree d).length_eq, List.length_append]
      · rw [cachedFor_of_taken hfree]
        exact Nat.le_add_right _ _
    unfold messageReceived
    rw [ofDevice_append]
    simp only [List.length_append] at hd ⊢
    omega
  | obtainMessage position d' =>
    cases hs
    have hperm := (obtained_perm hfiled position d' d).length_eq
    unfold obtainMessage
    rw [ofDevice_append]
    simp only [List.length_append] at hperm hd ⊢
    omega

theorem Lossy.not_conserved (h : sys.Lossy) : ¬ sys.Conserved := by
  obtain ⟨d, hd⟩ := h
  exact fun hconserved => hd.ne' (hconserved d).length_eq

theorem filed_create (retainTime : Int) : (create retainTime).svc.Filed := by
  intro d time m hm
  cases hm

/-- An operation leaves the messages of other devices as they are. -/
theorem messagesOf_step {e : ErrorEvent} (hs : sys.step e = .ok sys') (hd : d ≠ e.deviceKey) :
    sys'.svc.messagesOf d = sys.svc.messagesOf d := by
  cases e with
  | messageReceived m =>
    cases hs
    exact (ErrorService.messagesOf_messageReceived sys.svc m d).trans (if_neg (Ne.symm hd))
  | obtainMessage position d' =>
    cases hs
    unfold obtainMessage
    rcases ErrorService.obtainMessageForDevice_cases sys.svc position d' with
      ⟨heq, -⟩ | ⟨time, m, svc', heq, -, hmap⟩
    · rw [heq]
    · rw [heq]
      exact (hmap d).trans (if_neg (Ne.symm hd))

/-- **No message is lost.** For every device, the messages that have arrived are those that were
handed out and those that are cached, after exactly the runs in which no message arrives while one of
its device with the same arrival time is cached. In every run, the retrieval functions serve what is
cached, in the order of arrival, and each operation concerns its device only. -/
theorem messages_conserved {retainTime : Int}
    (hrun : Machine.Run step (fun _ _ => True) (create retainTime) es sys) :
    (sys.Conserved ↔ Machine.Run step TimeIsFree (create retainTime) es sys) ∧ sys.svc.Serves ∧
      ∀ e sys', sys.step e = .ok sys' → ∀ d, d ≠ e.deviceKey →
        sys'.svc.messagesOf d = sys.svc.messagesOf d := by
  refine ⟨?_, ?_, fun e sys' hs d hd => messagesOf_step hs hd⟩
  · refine hrun.iff_meets (fun s => s.svc.Filed ∧ s.Conserved) (fun s => s.svc.Filed ∧ s.Lossy)
      ⟨filed_create retainTime, fun d => .refl _⟩ ?_ ?_ ?_ And.right fun h => h.2.not_conserved
    · exact fun _ _ _ h hok hs => ⟨filed_step h.1 hs, h.2.step h.1 hok hs⟩
    · exact fun _ _ _ h _ hok hs => ⟨filed_step h.1 hs, lossy_of_taken h.2 hok hs⟩
    · exact fun _ _ _ h _ hs => ⟨filed_step h.1 hs, h.2.step h.1 hs⟩
  · have hfiled : sys.svc.Filed := hrun.invariant (fun s => s.svc.Filed) (filed_create retainTime)
      fun _ _ _ h _ hs => filed_step h hs
    exact hfiled.serves

/-! ## Runs -/

/-- Two messages of one device are handed out, the later first. -/
theorem messages_conserved_sample : ∃ sys : ErrorSystem, sys.Conserved ∧
    sys.returned = [⟨"d", "second", 6⟩, ⟨"d", "first", 5⟩] := by
  obtain ⟨sys, hrun, hreturned⟩ := Machine.Run.exists_of_check step TimeIsFree (create 500)
    [.messageReceived ⟨"d", "first", 5⟩, .messageReceived ⟨"e", "other", 5⟩,
      .messageReceived ⟨"d", "second", 6⟩, .obtainMessage .last "d", .obtainMessage .first "d"]
    returned [⟨"d", "second", 6⟩, ⟨"d", "first", 5⟩] (by decide +kernel)
  exact ⟨sys, (messages_conserved (hrun.mono fun _ _ _ => trivial)).1.mpr hrun, hreturned⟩

/-- Two messages with one arrival time: the second is gone. -/
theorem same_time_lost : ∃ sys : ErrorSystem,
    Machine.Run step (fun _ _ => True) (create 500)
      [.messageReceived ⟨"d", "first", 5⟩, .messageReceived ⟨"d", "second", 5⟩] sys ∧
    ¬ sys.Conserved := by
  obtain ⟨sys, hrun, hlengths⟩ := Machine.Run.exists_of_check step (fun _ _ => True) (create 500)
    [.messageReceived ⟨"d", "first", 5⟩, .messageReceived ⟨"d", "second", 5⟩]
    (fun sys => ((ofDevice "d" sys.received).length,
      (ofDevice "d" sys.returned ++ sys.svc.cachedFor "d").length)) (2, 1) (by decide +kernel)
  obtain ⟨hreceived, hkept⟩ := Prod.mk.inj hlengths
  exact ⟨sys, hrun, Lossy.not_conserved ⟨"d", by rw [hreceived, hkept]; decide⟩⟩

end ErrorSystem

end WolkConnect
