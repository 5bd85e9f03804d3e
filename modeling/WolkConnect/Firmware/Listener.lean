import WolkConnect.Data.Entries
import WolkConnect.Data.Matching
import WolkConnect.Data.Operations

/-!
# The parameters of a firmware listener

`obtainParametersAndAnnounce` asks the platform for two parameters of a device, and its callback takes
them out of the answer. The data service has other work to do, and other callbacks that wait.
-/

namespace WolkConnect

/-- A callback that waits for parameters or for details: the one of `obtainParametersAndAnnounce`, or
one of the user. -/
inductive ParameterCallback
  | receiveParameters
  | user (serial : Nat)
  deriving DecidableEq

open ParameterName (firmwareUpdateRepository firmwareUpdateCheckTime)

/-- The names that are asked for. -/
def announcedNames : List ParameterName := [firmwareUpdateRepository, firmwareUpdateCheckTime]

/-- The loop of the callback. -/
def analyze (receivedParameters : List Parameter) : String × String :=
  receivedParameters.foldl (fun (r : String × String) parameter =>
    if parameter.1 = firmwareUpdateRepository then (parameter.2, r.2)
    else if parameter.1 = firmwareUpdateCheckTime then (r.1, parameter.2)
    else r) ("", "")

/-- `announced` counts the requests that got out, `arrived` has what came in, and `received` what the
listener was given. -/
structure ListenerSystem where
  svc : DataService ParameterCallback
  announced : Nat
  arrived : List (List Parameter)
  received : List (String × String)

inductive ListenerEvent
  | obtainParametersAndAnnounce (deviceKey : String)
  | data (op : DataOperation ParameterCallback)
  /-- The command buffer of the data service. -/
  | runCommand

/-- Only the firmware service has its callback. -/
def DataOperation.OfUser : DataOperation ParameterCallback → Prop
  | .synchronizeParameters _ _ callback | .detailsSynchronizationAsync _ callback =>
    callback ≠ some .receiveParameters
  | .runCommand => False
  | _ => True

instance : (op : DataOperation ParameterCallback) → Decidable op.OfUser
  | .synchronizeParameters _ _ _ | .detailsSynchronizationAsync _ _ => inferInstanceAs (Decidable (_ ≠ _))
  | .runCommand => .isFalse id
  | .addReading _ _ | .addReadings _ _ | .addAttribute _ _ | .updateParameter _ _ | .publishReadings
  | .publishReadingsOf _ | .publishAttributes | .publishAttributesOf _ | .publishParameters
  | .publishParametersOf _ | .messageReceived _ _ => .isTrue trivial

/-- What a message brings, unless it names no device. -/
def DataOperation.values {ρ : Type} : DataOperation ρ → Option (List Parameter)
  | .messageReceived deviceKey (.parameterSync values) => if deviceKey = "" then none else some values
  | _ => none

/-- The values that a command takes to the callback of the firmware service. -/
def DataCommand.announcement : DataCommand ParameterCallback → Option (List Parameter)
  | .parameters .receiveParameters _ values => some values
  | _ => none

namespace ListenerSystem

variable (ctx : DataContext) (sys : ListenerSystem)

def create (persistence : Persistence) : ListenerSystem := ⟨.create persistence, 0, [], []⟩

def obtainParametersAndAnnounce (deviceKey : String) : ListenerSystem :=
  let r := sys.svc.synchronizeParameters ctx deviceKey announcedNames (some .receiveParameters)
  { sys with svc := r.2, announced := if r.1 then sys.announced + 1 else sys.announced }

def runCommand : ListenerSystem :=
  match sys.svc.commandBuffer with
  | [] => sys
  | command :: rest =>
    { sys with
      svc := { sys.svc with commandBuffer := rest }
      received := sys.received ++ (command.announcement.map analyze).toList }

def step (sys : ListenerSystem) : ListenerEvent → Except Empty ListenerSystem
  | .obtainParametersAndAnnounce deviceKey => .ok (sys.obtainParametersAndAnnounce ctx deviceKey)
  | .data op => .ok { sys with
      svc := sys.svc.perform ctx op
      arrived := sys.arrived ++ op.values.toList }
  | .runCommand => .ok sys.runCommand

def Allowed (_ : ListenerSystem) : ListenerEvent → Prop
  | .data op => op.OfUser
  | .obtainParametersAndAnnounce _ | .runCommand => True

instance (sys : ListenerSystem) : (e : ListenerEvent) → Decidable (sys.Allowed e)
  | .data op => inferInstanceAs (Decidable op.OfUser)
  | .obtainParametersAndAnnounce _ | .runCommand => .isTrue trivial

/-- How many subscriptions of the firmware service wait. -/
def waiting : Nat :=
  sys.svc.parameterSubscriptions.entries.countP fun e => e.2.callback = .receiveParameters

/-- The values that are on their way to the listener. -/
def pending : List (List Parameter) := sys.svc.commandBuffer.filterMap DataCommand.announcement

end ListenerSystem

/-! ## The answer -/

theorem analyze_pair {values : List Parameter} (h : announcedNames.Perm (values.map Prod.fst)) :
    (firmwareUpdateRepository, (analyze values).1) ∈ values ∧
      (firmwareUpdateCheckTime, (analyze values).2) ∈ values := by
  have hlength : values.length = 2 := by simpa [announcedNames] using h.length_eq.symm
  obtain ⟨⟨name, value⟩, ⟨name', value'⟩, rfl⟩ := List.length_eq_two.mp hlength
  have hne : firmwareUpdateCheckTime ≠ firmwareUpdateRepository := by decide
  have hcases : name = firmwareUpdateRepository ∧ name' = firmwareUpdateCheckTime ∨
      name = firmwareUpdateCheckTime ∧ name' = firmwareUpdateRepository := by
    have hpair : [firmwareUpdateRepository, firmwareUpdateCheckTime].Perm [name, name'] := h
    have hmem : name ∈ [firmwareUpdateRepository, firmwareUpdateCheckTime] :=
      hpair.mem_iff.mpr List.mem_cons_self
    rcases List.mem_pair.mp hmem with rfl | rfl
    · have hrest := (List.perm_cons firmwareUpdateRepository).mp hpair
      exact .inl ⟨rfl, by simpa [eq_comm] using hrest⟩
    · have hrest := (List.perm_cons firmwareUpdateCheckTime).mp
        ((List.Perm.swap firmwareUpdateRepository firmwareUpdateCheckTime []).trans hpair)
      exact .inr ⟨rfl, by simpa [eq_comm] using hrest⟩
  rcases hcases with ⟨rfl, rfl⟩ | ⟨rfl, rfl⟩
  · simp [analyze, hne]
  · simp [analyze, hne]

/-! ## What leaves the callbacks alone -/

namespace DataService

variable {ρ α : Type} {ctx : DataContext} {svc svc' svc'' : DataService ρ}

structure Undisturbed (svc svc' : DataService ρ) : Prop where
  subscriptions : svc'.parameterSubscriptions = svc.parameterSubscriptions
  commandBuffer : svc'.commandBuffer = svc.commandBuffer

theorem Undisturbed.trans (h : Undisturbed svc svc') (h' : Undisturbed svc' svc'') :
    Undisturbed svc svc'' :=
  ⟨h'.subscriptions.trans h.subscriptions, h'.commandBuffer.trans h.commandBuffer⟩

theorem Undisturbed.foldl {f : DataService ρ → α → DataService ρ} (hf : ∀ svc a, Undisturbed svc (f svc a))
    (as : List α) (svc : DataService ρ) : Undisturbed svc (as.foldl f svc) := by
  induction as generalizing svc with
  | nil => exact ⟨rfl, rfl⟩
  | cons a as ih => exact (hf svc a).trans (ih _)

theorem undisturbed_publishReadingsForPersistenceKey (svc : DataService ρ) (key : String) :
    Undisturbed svc (svc.publishReadingsForPersistenceKey ctx key) := by
  fun_induction publishReadingsForPersistenceKey ctx svc key with
  | case1 | case2 | case3 | case4 => exact ⟨rfl, rfl⟩
  | case5 svc readings hne deviceKey hdevice sent hout ih =>
    have hsent : Undisturbed svc (sent.2.removeReadings key) := ⟨rfl, rfl⟩
    exact hsent.trans ih

theorem undisturbed_settle (kind : EntryKind α) (svc : DataService ρ) (g : String × List α) (o : Outcome) :
    Undisturbed svc (svc.settle kind g o) := by
  unfold settle
  split <;> exact ⟨rfl, rfl⟩

theorem undisturbed_publishGroups (kind : EntryKind α) (gs : List (String × List α))
    (svc : DataService ρ) : Undisturbed svc (publishGroups ctx kind gs svc) := by
  induction gs generalizing svc with
  | nil => exact ⟨rfl, rfl⟩
  | cons g gs ih =>
    rw [publishGroups_cons]
    split_ifs
    · exact undisturbed_settle kind svc g _
    · exact (undisturbed_settle kind svc g _).trans (ih _)

theorem undisturbed_publishEntriesOf (kind : EntryKind α) (svc : DataService ρ) (d : String) :
    Undisturbed svc (svc.publishEntriesOf ctx kind d) := by
  by_cases hnil : entriesOf kind svc.persistence d = []
  · rw [publishEntriesOf, if_pos hnil]
    exact ⟨rfl, rfl⟩
  · rw [publishEntriesOf_eq ctx kind svc hnil]
    exact undisturbed_settle kind svc _ _

theorem undisturbed_detailsSynchronizationAsync (svc : DataService ρ) (d : String) (callback : Option ρ) :
    Undisturbed svc (svc.detailsSynchronizationAsync ctx d callback).2 := by
  unfold detailsSynchronizationAsync
  split_ifs
  · cases callback <;> exact ⟨rfl, rfl⟩
  · exact ⟨rfl, rfl⟩

/-- What a call does to the subscriptions and the commands. -/
theorem perform_callbacks (ctx : DataContext) (svc : DataService ρ) (op : DataOperation ρ)
    (hop : op ≠ .runCommand) :
    Undisturbed svc (svc.perform ctx op) ∨
    (∃ d names c, op = .synchronizeParameters d names (some c) ∧
      (svc.perform ctx op).commandBuffer = svc.commandBuffer ∧
      (svc.perform ctx op).parameterSubscriptions =
        svc.parameterSubscriptions.emplace svc.iterator ⟨names, c⟩) ∨
    ∃ d message, op = .messageReceived d message := by
  cases op with
  | addReading | addAttribute | updateParameter => exact .inl ⟨rfl, rfl⟩
  | addReadings d readings =>
    have hadd : ∀ (svc : DataService ρ) reading, Undisturbed svc (svc.addReading d reading) :=
      fun _ _ => ⟨rfl, rfl⟩
    exact .inl (Undisturbed.foldl hadd readings svc)
  | synchronizeParameters d names callback =>
    have hsvc : svc.perform ctx (.synchronizeParameters d names callback) =
        (svc.synchronizeParameters ctx d names callback).2 := rfl
    rcases synchronizeParameters_cases ctx svc d names callback with
      ⟨c, rfl, -, hsubscribed⟩ | ⟨-, hsent⟩
    · rw [hsvc, hsubscribed]
      exact .inr (.inl ⟨d, names, c, rfl, rfl, rfl⟩)
    · rw [hsvc, hsent]
      exact .inl ⟨rfl, rfl⟩
  | detailsSynchronizationAsync d callback =>
    exact .inl (undisturbed_detailsSynchronizationAsync svc d callback)
  | publishReadings => exact .inl (Undisturbed.foldl undisturbed_publishReadingsForPersistenceKey _ svc)
  | publishReadingsOf d => exact .inl (undisturbed_publishReadingsForPersistenceKey svc d)
  | publishAttributes | publishParameters => exact .inl (undisturbed_publishGroups _ _ svc)
  | publishAttributesOf d | publishParametersOf d => exact .inl (undisturbed_publishEntriesOf _ svc d)
  | messageReceived d message => exact .inr (.inr ⟨d, message, rfl⟩)
  | runCommand => exact absurd rfl hop

end DataService

/-! ## Runs -/

namespace ListenerSystem

variable {ctx : DataContext} {sys sys' : ListenerSystem} {heard : List (List Parameter)}

/-- `heard` are the values that went to the firmware service. -/
structure Hears (sys : ListenerSystem) (heard : List (List Parameter)) : Prop where
  arrived : heard.Sublist sys.arrived
  names : ∀ values ∈ heard, announcedNames.Perm (values.map Prod.fst)
  handed : ∃ done, heard = done ++ sys.pending ∧ sys.received = done.map analyze
  counted : heard.length + sys.waiting ≤ sys.announced
  asked : ∀ k s, sys.svc.parameterSubscriptions.find? k = some s →
    s.callback = .receiveParameters → s.parameters = announcedNames

/-- No subscription of the firmware service comes or goes, and nothing is on a new way to it. -/
theorem Hears.keep (h : Hears sys heard) (harrived : sys.arrived.Sublist sys'.arrived)
    (hpending : sys'.pending = sys.pending) (hreceived : sys'.received = sys.received)
    (hwaiting : sys'.waiting ≤ sys.waiting) (hannounced : sys'.announced = sys.announced)
    (hasked : ∀ k s, sys'.svc.parameterSubscriptions.find? k = some s →
      s.callback = .receiveParameters → sys.svc.parameterSubscriptions.find? k = some s) :
    Hears sys' heard := by
  have hcounted := h.counted
  refine ⟨h.arrived.trans harrived, h.names, ?_, ?_, ?_⟩
  · rw [hpending, hreceived]
    exact h.handed
  · rw [hannounced]
    omega
  · exact fun k s hs hc => h.asked k s (hasked k s hs hc) hc

theorem countP_emplace {m : OrderedMap Nat (ParameterSubscription ParameterCallback)} {k : Nat}
    {s : ParameterSubscription ParameterCallback}
    (p : Nat × ParameterSubscription ParameterCallback → Bool) :
    (m.emplace k s).entries.countP p ≤ m.entries.countP p + if p (k, s) then 1 else 0 := by
  cases hk : m.find? k with
  | some t =>
    rw [OrderedMap.emplace, hk]
    exact Nat.le_add_right _ _
  | none =>
    rw [OrderedMap.emplace, hk, if_neg (by simp), (OrderedMap.perm_insert hk s).countP_eq,
      List.countP_append, List.countP_singleton]

theorem Hears.undisturbed (h : Hears sys heard) {svc : DataService ParameterCallback}
    (hsvc : DataService.Undisturbed sys.svc svc) (more : List (List Parameter)) :
    Hears { sys with svc := svc, arrived := sys.arrived ++ more } heard := by
  refine h.keep (List.sublist_append_left _ _) ?_ rfl ?_ rfl ?_
  · simp only [pending, hsvc.commandBuffer]
  · simp only [waiting, hsvc.subscriptions, le_refl]
  · simp only [hsvc.subscriptions]
    exact fun _ _ hs _ => hs

/-- A subscription more. -/
theorem Hears.subscribe (h : Hears sys heard) {names : List ParameterName} {c : ParameterCallback}
    (hc : c ≠ .receiveParameters) {svc : DataService ParameterCallback}
    (hbuffer : svc.commandBuffer = sys.svc.commandBuffer)
    (hmap : svc.parameterSubscriptions =
      sys.svc.parameterSubscriptions.emplace sys.svc.iterator ⟨names, c⟩) :
    Hears { sys with svc := svc } heard := by
  refine h.keep (List.Sublist.refl _) ?_ rfl ?_ rfl ?_
  · simp only [pending, hbuffer]
  · simp only [waiting, hmap]
    exact (countP_emplace _).trans (by simp [hc])
  · intro k s hs hcallback
    change svc.parameterSubscriptions.find? k = some s at hs
    rw [hmap] at hs
    rcases OrderedMap.find?_emplace_eq_some hs with hs | ⟨-, -, rfl⟩
    · exact hs
    · exact absurd hcallback hc

theorem Hears.announce (h : Hears sys heard) (d : String) :
    Hears (sys.obtainParametersAndAnnounce ctx d) heard := by
  rcases DataService.synchronizeParameters_cases ctx sys.svc d announcedNames
      (some ParameterCallback.receiveParameters) with ⟨c, hc, htrue, hsvc⟩ | ⟨hfalse, hsvc⟩
  · obtain rfl := Option.some.inj hc
    have hsys : sys.obtainParametersAndAnnounce ctx d = { sys with
        svc := (sys.svc.send ctx d (.synchronizeParameters announcedNames)).2.subscribe announcedNames
          .receiveParameters
        announced := sys.announced + 1 } := by
      rw [obtainParametersAndAnnounce, hsvc, if_pos htrue]
    have hcounted := h.counted
    rw [hsys]
    refine ⟨h.arrived, h.names, h.handed, ?_, fun k s hs hcallback => ?_⟩
    · have hmore : ∀ m : OrderedMap Nat (ParameterSubscription ParameterCallback), ∀ k : Nat,
          (m.emplace k ⟨announcedNames, .receiveParameters⟩).entries.countP
            (fun e => e.2.callback = .receiveParameters) ≤
          m.entries.countP (fun e => e.2.callback = .receiveParameters) + 1 := fun m k =>
        (countP_emplace _).trans (by simp)
      have hwaiting := hmore sys.svc.parameterSubscriptions sys.svc.iterator
      change heard.length + (_ : Nat) ≤ sys.announced + 1
      refine (Nat.add_le_add_left hwaiting _).trans ?_
      unfold waiting at hcounted
      omega
    · rcases OrderedMap.find?_emplace_eq_some hs with hs | ⟨-, -, rfl⟩
      · exact h.asked k s hs hcallback
      · rfl
  · have hsys : sys.obtainParametersAndAnnounce ctx d = { sys with
        svc := (sys.svc.send ctx d (.synchronizeParameters announcedNames)).2 } := by
      have hnot : (sys.svc.synchronizeParameters ctx d announcedNames
          (some .receiveParameters)).1 ≠ true := by
        rcases hfalse with hnone | hfalse
        · cases hnone
        · rw [hfalse]
          decide
      rw [obtainParametersAndAnnounce, hsvc, if_neg hnot]
    rw [hsys]
    exact ⟨h.arrived, h.names, h.handed, h.counted, h.asked⟩

/-- The values of a message go to the firmware service. -/
theorem Hears.answered (h : Hears sys heard) {d : String} {values : List Parameter} {k : Nat}
    {s : ParameterSubscription ParameterCallback}
    (hfind : sys.svc.findSubscription values = some (k, s)) (hcallback : s.callback = .receiveParameters) :
    Hears { sys with
      svc := { sys.svc with
        parameterSubscriptions := sys.svc.parameterSubscriptions.erase k
        commandBuffer := sys.svc.commandBuffer ++ [.parameters s.callback d values] }
      arrived := sys.arrived ++ [values] } (heard ++ [values]) := by
  obtain ⟨hs, hawaits, -⟩ := DataService.findSubscription_eq_some.mp hfind
  obtain ⟨done, hheard, hreceived⟩ := h.handed
  have hnames := h.asked k s hs hcallback
  have hnodup : announcedNames.Nodup := by decide
  refine ⟨h.arrived.append_right _, ?_, ⟨done, ?_, hreceived⟩, ?_, ?_⟩
  · intro values' hmem
    rcases List.mem_append.mp hmem with hmem | hmem
    · exact h.names values' hmem
    · rw [List.mem_singleton.mp hmem, ← hnames]
      exact (ParameterSubscription.awaits_iff_matches (hnames ▸ hnodup)).mp hawaits
  · simp [pending, List.filterMap_append, DataCommand.announcement, hcallback, hheard]
  · have hone := (OrderedMap.perm_erase hs).countP_eq fun e => decide (e.2.callback = .receiveParameters)
    have hcounted := h.counted
    rw [List.countP_cons_of_pos (by simpa using hcallback)] at hone
    rw [List.length_append, List.length_singleton]
    unfold waiting at hcounted ⊢
    dsimp only at hone hcounted ⊢
    omega
  · intro j t ht hc
    change (sys.svc.parameterSubscriptions.erase k).find? j = some t at ht
    rw [OrderedMap.find?_erase] at ht
    split_ifs at ht
    exact h.asked j t ht hc

/-- They go to another callback. -/
theorem Hears.other (h : Hears sys heard) {d : String} {values : List Parameter} {k : Nat}
    {s : ParameterSubscription ParameterCallback} (hcallback : s.callback ≠ .receiveParameters)
    (more : List (List Parameter)) :
    Hears { sys with
      svc := { sys.svc with
        parameterSubscriptions := sys.svc.parameterSubscriptions.erase k
        commandBuffer := sys.svc.commandBuffer ++ [.parameters s.callback d values] }
      arrived := sys.arrived ++ more } heard := by
  have hnone : DataCommand.announcement (.parameters s.callback d values) = none := by
    cases hc : s.callback with
    | receiveParameters => exact absurd hc hcallback
    | user => rfl
  refine h.keep (List.sublist_append_left _ _) ?_ rfl ?_ rfl ?_
  · simp [pending, List.filterMap_append, hnone]
  · exact List.Sublist.countP_le List.filter_sublist
  · intro j t ht _
    change (sys.svc.parameterSubscriptions.erase k).find? j = some t at ht
    rw [OrderedMap.find?_erase] at ht
    split_ifs at ht
    exact ht

/-- A message comes in. -/
theorem Hears.receive (h : Hears sys heard) (d : String) (message : DataService.Inbound) :
    ∃ heard', Hears { sys with
      svc := sys.svc.messageReceived ctx d message
      arrived := sys.arrived ++
        (DataOperation.messageReceived (ρ := ParameterCallback) d message).values.toList } heard' := by
  by_cases hd : d = ""
  · have hsame : sys.svc.messageReceived ctx d message = sys.svc := if_pos hd
    rw [hsame]
    exact ⟨heard, h.undisturbed ⟨rfl, rfl⟩ _⟩
  rcases DataService.messageReceived_cases ctx sys.svc d message with
    ⟨values, k, s, rfl, hfind, hsvc⟩ | ⟨response, c, rest, rfl, -, hsvc⟩ | ⟨handled, hsvc⟩
  · have harrived : (DataOperation.messageReceived (ρ := ParameterCallback) d
        (.parameterSync values)).values = some values := if_neg hd
    rw [hsvc, harrived]
    by_cases hcallback : s.callback = .receiveParameters
    · exact ⟨_, h.answered hfind hcallback⟩
    · exact ⟨heard, h.other hcallback _⟩
  · rw [hsvc]
    refine ⟨heard, h.keep (List.sublist_append_left _ _) ?_ rfl (le_refl _) rfl fun _ _ hs _ => hs⟩
    simp [pending, List.filterMap_append, DataCommand.announcement]
  · have hkept : DataService.Undisturbed sys.svc { sys.svc with handled := handled } := ⟨rfl, rfl⟩
    rw [hsvc]
    exact ⟨heard, h.undisturbed hkept _⟩

theorem Hears.data (h : Hears sys heard) {op : DataOperation ParameterCallback} (hop : op.OfUser) :
    ∃ heard', Hears { sys with
      svc := sys.svc.perform ctx op
      arrived := sys.arrived ++ op.values.toList } heard' := by
  have hnot : op ≠ .runCommand := by
    rintro rfl
    exact hop
  rcases DataService.perform_callbacks ctx sys.svc op hnot with
    hkept | ⟨d, names, c, rfl, hbuffer, hmap⟩ | ⟨d, message, rfl⟩
  · exact ⟨heard, h.undisturbed hkept _⟩
  · have hc : c ≠ .receiveParameters := fun heq => hop (congrArg some heq)
    have hsubscribed := h.subscribe hc hbuffer hmap
    exact ⟨heard, hsubscribed.keep (List.sublist_append_left _ _) rfl rfl (le_refl _) rfl
      fun _ _ hs _ => hs⟩
  · exact h.receive d message

theorem Hears.runCommand (h : Hears sys heard) : Hears sys.runCommand heard := by
  obtain ⟨done, hheard, hreceived⟩ := h.handed
  unfold ListenerSystem.runCommand
  cases hbuffer : sys.svc.commandBuffer with
  | nil => exact h
  | cons command rest =>
    refine ⟨h.arrived, h.names, ?_, h.counted, h.asked⟩
    have hpending : sys.pending = command.announcement.toList ++ rest.filterMap DataCommand.announcement := by
      rw [pending, hbuffer]
      cases hc : command.announcement with
      | none => rw [List.filterMap_cons_none hc]; rfl
      | some values => rw [List.filterMap_cons_some hc]; rfl
    refine ⟨done ++ command.announcement.toList, ?_, ?_⟩
    · rw [hheard, hpending, List.append_assoc]
      rfl
    · change sys.received ++ _ = _
      rw [List.map_append, hreceived]
      cases command.announcement <;> rfl

theorem hears_create (persistence : Persistence) : Hears (create persistence) [] where
  arrived := .slnil
  names _ h := absurd h List.not_mem_nil
  handed := ⟨[], rfl, rfl⟩
  counted := le_refl _
  asked k s h := by cases h

theorem hears_run {persistence : Persistence} {es : List ListenerEvent}
    (hrun : Machine.Run (step ctx) Allowed (create persistence) es sys) : ∃ heard, Hears sys heard := by
  refine hrun.invariant (fun sys => ∃ heard, Hears sys heard) ⟨[], hears_create persistence⟩ ?_
  rintro sys e sys' ⟨heard, h⟩ hallowed hstep
  cases e with
  | obtainParametersAndAnnounce d =>
    cases hstep
    exact ⟨heard, h.announce d⟩
  | data op =>
    cases hstep
    exact h.data hallowed
  | runCommand =>
    cases hstep
    exact ⟨heard, h.runCommand⟩

/-- **What the firmware listener is given**, whatever else the data service has to do: each time the
repository and the check time of one message that brought these two and nothing else, in the order in
which the messages came, and no more often than the parameters were asked for. Such a message does not
miss an announcement that waits, unless it goes to another request that it satisfies: one for the same two,
or one that has a name twice. -/
theorem listener_given {persistence : Persistence} {es : List ListenerEvent}
    (hrun : Machine.Run (step ctx) Allowed (create persistence) es sys) :
    (∃ heard : List (List Parameter), heard.Sublist sys.arrived ∧ sys.received = heard.map analyze ∧
      (∀ values ∈ heard, announcedNames.Perm (values.map Prod.fst) ∧
        (firmwareUpdateRepository, (analyze values).1) ∈ values ∧
          (firmwareUpdateCheckTime, (analyze values).2) ∈ values) ∧
      heard.length + sys.pending.length + sys.waiting ≤ sys.announced) ∧
    ∀ d values, d ≠ "" → announcedNames.Perm (values.map Prod.fst) → 0 < sys.waiting →
      ∃ k s, sys.svc.parameterSubscriptions.find? k = some s ∧ s.awaits values = true ∧
        (s.parameters.Nodup → announcedNames.Perm s.parameters) ∧
        sys.svc.messageReceived ctx d (.parameterSync values) =
          { sys.svc with
            parameterSubscriptions := sys.svc.parameterSubscriptions.erase k
            commandBuffer := sys.svc.commandBuffer ++ [.parameters s.callback d values] } := by
  obtain ⟨heard, h⟩ := hears_run hrun
  obtain ⟨done, hheard, hreceived⟩ := h.handed
  refine ⟨⟨done, ?_, hreceived, fun values hvalues => ?_, ?_⟩, ?_⟩
  · exact (hheard ▸ List.sublist_append_left done _).trans h.arrived
  · have hnames := h.names values (hheard ▸ List.mem_append_left _ hvalues)
    exact ⟨hnames, analyze_pair hnames⟩
  · have hcounted := h.counted
    rw [hheard, List.length_append] at hcounted
    exact hcounted
  · intro d values hd hnames hwaiting
    obtain ⟨⟨j, t⟩, ht, hcallback⟩ := List.countP_pos_iff.mp hwaiting
    have hasked := h.asked j t (OrderedMap.find?_eq_some.mpr ht) (of_decide_eq_true hcallback)
    have hawaits : t.awaits values = true := by
      rw [ParameterSubscription.awaits_iff_matches (hasked ▸ (by decide : announcedNames.Nodup))]
      unfold ParameterSubscription.Matches
      rw [hasked]
      exact hnames
    rcases DataService.messageReceived_parameterSync ctx sys.svc hd values with
      ⟨k, s, hfind, hsvc⟩ | ⟨hnone, -⟩
    · obtain ⟨hs, hfirst, -⟩ := DataService.findSubscription_eq_some.mp hfind
      exact ⟨k, s, hs, hfirst, fun hnodup =>
        hnames.trans ((ParameterSubscription.awaits_iff_matches hnodup).mp hfirst).symm, hsvc⟩
    · exact absurd hawaits (List.find?_eq_none.mp hnone (j, t) ht)

/-- The listener is given the second answer: the first one went to the user, who had asked for the same. -/
theorem listener_given_second : ∃ sys : ListenerSystem, sys.received = [("v", "2")] ∧
    sys.waiting = 0 ∧ ∃ heard : List (List Parameter), heard.Sublist sys.arrived ∧
      sys.received = heard.map analyze := by
  obtain ⟨sys, hrun, hlast⟩ := Machine.Run.exists_of_check (step reliable) Allowed (create .empty)
    [.data (.synchronizeParameters "d" [firmwareUpdateCheckTime, firmwareUpdateRepository] (some (.user 0))),
      .obtainParametersAndAnnounce "d",
      .data (.messageReceived "d" (.parameterSync [(firmwareUpdateRepository, "u")])),
      .data (.messageReceived "d"
        (.parameterSync [(firmwareUpdateRepository, "u"), (firmwareUpdateCheckTime, "1")])),
      .data (.messageReceived "d"
        (.parameterSync [(firmwareUpdateCheckTime, "2"), (firmwareUpdateRepository, "v")])),
      .runCommand, .runCommand]
    (fun sys => (sys.received, sys.waiting)) ([("v", "2")], 0) (by decide +kernel)
  obtain ⟨hreceived, hwaiting⟩ := Prod.mk.inj hlast
  obtain ⟨⟨heard, hsublist, hgiven, -⟩, -⟩ := listener_given hrun
  exact ⟨sys, hreceived, hwaiting, heard, hsublist, hgiven⟩

end ListenerSystem

end WolkConnect
