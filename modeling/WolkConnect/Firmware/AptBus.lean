import WolkConnect.Firmware.DBus
import WolkConnect.Firmware.Transactions

/-!
# APT on the bus

`installPackage` subscribes to the signals of its transaction, and a signal comes to
`handleFinishedSignal` through the command buffer of `GenericDBusInterface`.
-/

namespace WolkConnect

namespace AptSignal

def text : AptSignal → String
  | .finished => "Finished"
  | .configFileConflict => "ConfigFileConflict"
  | .propertiesChanged => "PropertiesChanged"

/-- The signal of a transaction, as `installPackage` subscribes to it. -/
def identification (signal : AptSignal) (transaction : String) : SignalIdentification :=
  ⟨"org.debian.apt", transaction, "org.debian.apt.transaction", signal.text⟩

variable {signal signal' : AptSignal} {transaction transaction' : String}

theorem text_injective (h : signal.text = signal'.text) : signal = signal' := by
  cases signal <;> cases signal' <;> first | rfl | exact absurd h (by decide)

theorem identification_injective
    (h : signal.identification transaction = signal'.identification transaction') :
    signal = signal' ∧ transaction = transaction' :=
  ⟨text_injective (congrArg SignalIdentification.signalName h),
    congrArg SignalIdentification.objectName h⟩

end AptSignal

/-- `handlers` has what each subscription calls, and `values` the arguments of the commands that the bus has
queued, of which the first `executed` were executed. `sent` has the `Finished` signals that APT has sent,
and `handled` those that `handleFinishedSignal` was called for. -/
structure AptBusSystem where
  apt : AptSystem
  bus : DBusSystem
  handlers : List AptSignal
  values : List String
  executed : Nat
  sent : List (String × String)
  handled : List (String × String)

inductive AptBusEvent
  | installPackage (absolutePath : String)
  /-- The call that has the mutex goes on. A subscription gets this id, which is zero if the bus is not asked
  for it, and the name has this owner, if the bus says so. -/
  | next (answer : DBusAnswer) (subscriptionID : Nat) (owner : String)
  | externalNameWatch (nameOwner : String)
  | signal (signal : BusSignal) (value : String)
  | execute

namespace AptBusSystem

variable (sys : AptBusSystem)

def create : AptBusSystem := ⟨.create, .create, [], [], 0, [], []⟩

/-- The signal is a `Finished` signal of APT. -/
def Finishes (signal : BusSignal) : Prop :=
  sys.bus.interface.nameTracking.find? "org.debian.apt" = some signal.sender ∧
    signal.interfaceName = "org.debian.apt.transaction" ∧ signal.signalName = "Finished"

instance (signal : BusSignal) : Decidable (sys.Finishes signal) :=
  inferInstanceAs (Decidable (_ ∧ _ ∧ _))

def next (c : InstallCall) (answer : DBusAnswer) (subscriptionID : Nat) (owner : String) : AptBusSystem :=
  match c.phase, answer with
  | .subscribing name (signal :: _), .value _ =>
    { sys with
      apt := sys.apt.next c answer
      bus := sys.bus.subscribeToSignal (signal.identification name) subscriptionID owner
      handlers := sys.handlers ++ [signal] }
  | .subscribing name (signal :: _), .null =>
    -- `subscribeToName` may throw after the subscription.
    if subscriptionID = 0 then { sys with apt := sys.apt.next c answer }
    else
      { sys with
        apt := sys.apt.next c answer
        bus := sys.bus.markSubscription (signal.identification name) subscriptionID
        handlers := sys.handlers ++ [signal] }
  | _, _ => { sys with apt := sys.apt.next c answer }

/-- A command that the signal queues has its value. -/
def deliver (signal : BusSignal) (value : String) : AptBusSystem :=
  let interface := sys.bus.deliver signal
  { sys with
    bus := { sys.bus with interface := interface }
    values := sys.values ++ List.replicate
      (interface.commandBuffer.length - sys.bus.interface.commandBuffer.length) value
    sent := sys.sent ++ if sys.Finishes signal then [(signal.objectName, value)] else [] }

/-- The next command with its value. -/
def nextCommand : Option (SignalCommand × String) :=
  (sys.bus.interface.commandBuffer.zip sys.values)[sys.executed]?

/-- The other two handlers leave the members of the installer alone. -/
def execute : AptBusSystem :=
  match sys.nextCommand with
  | none => sys
  | some (command, value) =>
    if sys.handlers[command.callback]? = some .finished then
      { sys with
        apt := { sys.apt with
          installer := sys.apt.installer.handleFinishedSignal command.objectName value
          finished := sys.apt.finished.insert command.objectName value }
        executed := sys.executed + 1
        handled := sys.handled ++ [(command.objectName, value)] }
    else { sys with executed := sys.executed + 1 }

def step (sys : AptBusSystem) : AptBusEvent → Except Empty AptBusSystem
  | .installPackage absolutePath =>
    match sys.apt.current with
    | some _ => .ok sys
    | none => .ok { sys with apt := { sys.apt with current := some ⟨absolutePath, .creating⟩ } }
  | .next answer subscriptionID owner =>
    match sys.apt.current with
    | some c => .ok (sys.next c answer subscriptionID owner)
    | none => .ok sys
  | .externalNameWatch nameOwner =>
    .ok { sys with bus := { sys.bus with
      interface := sys.bus.interface.externalNameWatch "org.debian.apt" nameOwner } }
  | .signal signal value => .ok (sys.deliver signal value)
  | .execute => .ok sys.execute

/-- A transaction has an object path of its own, and a subscription an id of its own. APT sends the `Finished`
signal of a transaction once, and not before `Run` is called. -/
def Delivers (sys : AptBusSystem) : AptBusEvent → Prop
  | .next answer subscriptionID _ => sys.apt.Delivers (.next answer) ∧
      (sys.apt.current.map (·.phase) = some .creating → answer ≠ .value "") ∧
      ∀ sub ∈ sys.bus.subscriptions, sub.id ≠ subscriptionID
  | .signal signal _ => sys.Finishes signal →
      signal.objectName ∈ sys.apt.started ∧ ∀ p ∈ sys.sent, p.1 ≠ signal.objectName
  | .installPackage _ | .externalNameWatch _ | .execute => True

instance (sys : AptBusSystem) : (e : AptBusEvent) → Decidable (sys.Delivers e)
  | .next _ _ _ => inferInstanceAs (Decidable (_ ∧ (_ → _) ∧ ∀ _ ∈ _, _))
  | .signal _ _ => inferInstanceAs (Decidable (_ → _))
  | .installPackage _ | .externalNameWatch _ | .execute => .isTrue trivial

/-- What `APTPackageInstaller` sees of an event. -/
def seen (sys : AptBusSystem) : AptBusEvent → Option AptEvent
  | .installPackage absolutePath => some (.installPackage absolutePath)
  | .next answer _ _ => some (.next answer)
  | .externalNameWatch _ | .signal _ _ => none
  | .execute =>
    match sys.nextCommand with
    | none => none
    | some (command, value) =>
      if sys.handlers[command.callback]? = some .finished then some (.finished command.objectName value)
      else none

end AptBusSystem

/-! ## One signal -/

namespace DBusSystem

variable {sys : DBusSystem}

/-- A signal is for one subscription at most, and queues its command. -/
theorem deliver_cases (hnumbered : sys.Numbered) (hrecorded : sys.Recorded)
    (hdistinguished : sys.Distinguished) (signal : BusSignal) :
    (sys.hearing signal = [] ∧ sys.deliver signal = sys.interface) ∨
      ∃ sub ∈ sys.subscriptions, sub.Hears sys.interface.nameTracking signal ∧
        sys.deliver signal = { sys.interface with commandBuffer := sys.interface.commandBuffer ++
          [⟨sub.callback, sub.key.dbusNamespace, signal.objectName, signal.interfaceName,
            signal.signalName⟩] } := by
  have hdispatches := hrecorded.dispatches hnumbered hdistinguished signal
  cases hhearing : sys.hearing signal with
  | nil =>
    refine .inl ⟨rfl, ?_⟩
    unfold deliver
    rw [hhearing]
    rfl
  | cons sub rest =>
    have hmem : sub ∈ sys.hearing signal := hhearing ▸ List.mem_cons_self
    obtain ⟨hsub, hhears⟩ := List.mem_filter.mp hmem
    have hhears := of_decide_eq_true hhears
    have hfinds := hrecorded.finds hdistinguished hsub hhears
    refine .inr ⟨sub, hsub, hhears, ?_⟩
    obtain ⟨queued, hbuffer, hperm⟩ := hdispatches
    have hnodup : (queued.map SignalCommand.callback).Nodup :=
      hperm.nodup_iff.mpr (hnumbered.callbacks.sublist (List.filter_sublist.map _))
    unfold deliver at hbuffer ⊢
    rcases sys.interface.foldl_callbackPointer signal (sys.hearing signal) with
      ⟨-, hnone⟩ | ⟨name, e, hfinds', heq⟩
    · exact absurd hfinds (hnone _ _)
    obtain ⟨rfl, rfl⟩ := hfinds'.unique hfinds
    rw [heq] at hbuffer ⊢
    have hqueued := List.append_cancel_left hbuffer
    -- The commands are the same, and their callbacks differ.
    have hone : rest = [] := by
      rw [← hqueued, List.map_replicate, List.nodup_replicate, hhearing, List.length_cons] at hnodup
      exact List.length_eq_zero_iff.mp (by omega)
    rw [hhearing, hone]
    rfl

end DBusSystem

namespace AptBusSystem

variable {sys sys' : AptBusSystem} {es : List AptBusEvent} {name : String}

/-! ## Subscriptions of transactions -/

def Subscribed (sys : AptBusSystem) (name : String) : Prop :=
  ∃ sub ∈ sys.bus.subscriptions, sub.key = AptSignal.finished.identification name

/-- What `installPackage` still subscribes to is not recorded, and `Finished` comes first. -/
structure Subscribing (sys : AptBusSystem) (name : String) (signals : List AptSignal) : Prop where
  nonempty : name ≠ ""
  made : sys.apt.owners.find? name ≠ none
  nodup : signals.Nodup
  free : ∀ signal ∈ signals, ∀ sub ∈ sys.bus.subscriptions, sub.key ≠ signal.identification name
  finished : .finished ∈ signals ∨ sys.Subscribed name

theorem Subscribing.congr {signals : List AptSignal} (h : sys.Subscribing name signals)
    (hsubs : sys'.bus.subscriptions = sys.bus.subscriptions)
    (howners : sys.apt.owners.find? name ≠ none → sys'.apt.owners.find? name ≠ none) :
    sys'.Subscribing name signals := by
  refine ⟨h.nonempty, howners h.made, h.nodup, hsubs ▸ h.free, ?_⟩
  unfold Subscribed
  rw [hsubs]
  exact h.finished

section
variable {signal : AptSignal} {signals : List AptSignal}

/-- The first signal is subscribed to. -/
theorem Subscribing.marked (h : sys.Subscribing name (signal :: signals)) {id callback : Nat}
    (hsubs : sys'.bus.subscriptions =
      sys.bus.subscriptions ++ [⟨id, signal.identification name, callback⟩])
    (howners : sys'.apt.owners = sys.apt.owners) : sys'.Subscribing name signals := by
  obtain ⟨hnonempty, hmade, hnodup, hfree, hfinished⟩ := h
  obtain ⟨hnew, hnodup⟩ := List.nodup_cons.mp hnodup
  refine ⟨hnonempty, howners ▸ hmade, hnodup, fun signal' hsignal' sub hsub hkey => ?_, ?_⟩
  · rw [hsubs] at hsub
    rcases List.mem_append.mp hsub with hsub | hsub
    · exact hfree signal' (List.mem_cons_of_mem _ hsignal') sub hsub hkey
    · rw [List.mem_singleton.mp hsub] at hkey
      exact hnew ((AptSignal.identification_injective hkey).1 ▸ hsignal')
  · rcases hfinished with hfinished | ⟨sub, hsub, hkey⟩
    · rcases List.mem_cons.mp hfinished with rfl | hfinished
      · exact .inr ⟨_, hsubs ▸ List.mem_append_right _ List.mem_cons_self, rfl⟩
      · exact .inl hfinished
    · exact .inr ⟨sub, hsubs ▸ List.mem_append_left _ hsub, hkey⟩

/-- A signal other than `Finished` is left out. -/
theorem Subscribing.skipped (h : sys.Subscribing name (signal :: signals))
    (hsignal : signal ≠ .finished) : sys.Subscribing name signals where
  nonempty := h.nonempty
  made := h.made
  nodup := (List.nodup_cons.mp h.nodup).2
  free signal' hsignal' := h.free signal' (List.mem_cons_of_mem _ hsignal')
  finished := h.finished.imp_left fun hmem => (List.mem_cons.mp hmem).resolve_left hsignal.symm

end

/-- The subscriptions are those of transactions, under the one name that is tracked. A transaction that was
started is subscribed to. -/
structure Wired (sys : AptBusSystem) : Prop where
  numbered : sys.bus.Numbered
  recorded : sys.bus.Recorded
  handlers : sys.handlers.length = sys.bus.calls
  tracked : ∀ name owner, sys.bus.interface.nameTracking.find? name = some owner → name = "org.debian.apt"
  named : ∀ sub ∈ sys.bus.subscriptions, ∃ (name : String) (signal : AptSignal),
    sub.key = signal.identification name ∧ name ≠ "" ∧ sys.apt.owners.find? name ≠ none ∧
      sys.handlers[sub.callback]? = some signal
  subscribing : ∀ c name signals, sys.apt.current = some c → c.phase = .subscribing name signals →
    sys.Subscribing name signals
  started : ∀ name ∈ sys.apt.started, sys.Subscribed name

theorem Wired.distinguished (h : sys.Wired) : sys.bus.Distinguished := by
  intro sub hsub
  obtain ⟨name, signal, hkey, hnonempty, -⟩ := h.named sub hsub
  rw [hkey]
  refine ⟨hnonempty, fun e he hlt => ?_⟩
  rw [h.tracked e.1 e.2 (OrderedMap.find?_eq_some.mpr he)] at hlt
  exact absurd hlt (lt_irrefl _)

/-- `installPackage` or a handler goes on, and there is no new subscription. -/
theorem Wired.apt (h : sys.Wired) {apt : AptSystem}
    (howners : ∀ name, sys.apt.owners.find? name ≠ none → apt.owners.find? name ≠ none)
    (hsubscribing : ∀ c name signals, apt.current = some c → c.phase = .subscribing name signals →
      Subscribing { sys with apt := apt } name signals)
    (hstarted : ∀ name ∈ apt.started, sys.Subscribed name) : Wired { sys with apt := apt } where
  numbered := h.numbered
  recorded := h.recorded
  handlers := h.handlers
  tracked := h.tracked
  named sub hsub := by
    obtain ⟨name, signal, hkey, hnonempty, hmade, hhandler⟩ := h.named sub hsub
    exact ⟨name, signal, hkey, hnonempty, howners name hmade, hhandler⟩
  subscribing := hsubscribing
  started := hstarted

theorem Wired.created (h : sys.Wired) {c : InstallCall}
    (hphase : c.phase = .creating) (hfree : sys.apt.owners.find? name = none) (hnonempty : name ≠ "") :
    Wired { sys with apt := sys.apt.next c (.value name) } := by
  have hnext : c.phase.next (.value name) =
      .ok (.subscribing name [.finished, .configFileConflict, .propertiesChanged]) := by
    rw [hphase]
    rfl
  rw [AptSystem.next_ok hnext, AptSystem.created_value hphase,
    AptSystem.begun_other (by simp [hphase])]
  refine h.apt (fun name' hname' => ?_) (fun c' name' signals hc' hphase' => ?_) h.started
  · rw [OrderedMap.find?_insert]
    split_ifs
    · exact Option.some_ne_none _
    · exact hname'
  · cases hc'
    cases hphase'
    refine ⟨hnonempty, ?_, by decide, fun signal _ sub hsub hkey => ?_, .inl List.mem_cons_self⟩
    · rw [OrderedMap.find?_insert_self]
      exact Option.some_ne_none _
    · obtain ⟨name', signal', hkey', -, hmade, -⟩ := h.named sub hsub
      obtain ⟨-, rfl⟩ := AptSignal.identification_injective (hkey.symm.trans hkey')
      exact hmade hfree

/-- A step that makes no transaction and calls no `Run`. -/
theorem Wired.elsewhere (h : sys.Wired) {c : InstallCall} {answer : DBusAnswer}
    (hcreating : c.phase = .creating → ∀ name, answer ≠ .value name)
    (hrun : ∀ name, c.phase ≠ .subscribing name [])
    (hphase : ∀ phase, c.phase.next answer = .ok phase → ∀ name signals,
      phase = .subscribing name signals → sys.Subscribing name signals) :
    Wired { sys with apt := sys.apt.next c answer } := by
  have howners : sys.apt.created c answer = sys.apt.owners := AptSystem.created_other hcreating
  have hbegun : sys.apt.begun c = sys.apt.started := AptSystem.begun_other hrun
  cases hnext : c.phase.next answer with
  | ok phase =>
    rw [AptSystem.next_ok hnext, howners, hbegun]
    refine h.apt (fun _ => id) (fun c' name signals hc' hphase' => ?_) h.started
    cases hc'
    exact (hphase phase hnext name signals hphase').congr rfl id
  | error result =>
    rw [AptSystem.next_error hnext, howners, hbegun]
    exact h.apt (fun _ => id) nofun h.started

/-- `Run` is called when there is nothing more to subscribe to. -/
theorem Wired.begins (h : sys.Wired) {c : InstallCall} (hcurrent : sys.apt.current = some c)
    (hphase : c.phase = .subscribing name []) (answer : DBusAnswer) :
    Wired { sys with apt := sys.apt.next c answer } := by
  have hnext : c.phase.next answer = .ok (.running name) := by
    rw [hphase]
    rfl
  rw [AptSystem.next_ok hnext, AptSystem.created_other (by simp [hphase]),
    AptSystem.begun_last hphase]
  refine h.apt (fun _ => id) (fun c' name' signals hc' hphase' => ?_) fun name' hname' => ?_
  · cases hc'
    cases hphase'
  · rcases List.mem_append.mp hname' with hname' | hname'
    · exact h.started name' hname'
    · rw [List.mem_singleton.mp hname']
      exact (h.subscribing c name [] hcurrent hphase).finished.resolve_left nofun

/-- There is a new subscription, whether the call goes on with the next one or returns. -/
theorem Wired.marks (h : sys.Wired) {c : InstallCall} (hcurrent : sys.apt.current = some c)
    {signal : AptSignal} {rest : List AptSignal} (hphase : c.phase = .subscribing name (signal :: rest))
    {answer : DBusAnswer} (hnext : ∀ phase, c.phase.next answer = .ok phase → phase = .subscribing name rest)
    {id : Nat} (hfresh : ∀ sub ∈ sys.bus.subscriptions, sub.id ≠ id) :
    Wired { sys with
      apt := sys.apt.next c answer
      bus := sys.bus.markSubscription (signal.identification name) id
      handlers := sys.handlers ++ [signal] } := by
  have hsubscribing : sys.Subscribing name (signal :: rest) := h.subscribing c _ _ hcurrent hphase
  have hunrecorded : sys.bus.interface.signalCallbacks.find? (signal.identification name) = none := by
    cases hentry : sys.bus.interface.signalCallbacks.find? (signal.identification name) with
    | none => rfl
    | some e =>
      obtain ⟨sub, hsub, hkey, -⟩ := h.numbered.entries _ e hentry
      exact absurd hkey (hsubscribing.free signal List.mem_cons_self sub hsub)
  have hsubscribed : ∀ name', sys.Subscribed name' → Subscribed { sys with
      bus := sys.bus.markSubscription (signal.identification name) id } name' :=
    fun _ ⟨sub, hsub, hkey⟩ => ⟨sub, List.mem_append_left _ hsub, hkey⟩
  have howners : (sys.apt.next c answer).owners = sys.apt.owners :=
    (AptSystem.next_owners ..).trans (AptSystem.created_other (by simp [hphase]))
  have hstarted : (sys.apt.next c answer).started = sys.apt.started :=
    (AptSystem.next_started ..).trans (AptSystem.begun_other (by simp [hphase]))
  refine ⟨h.numbered.markSubscription _ hfresh, h.recorded.markSubscription hunrecorded id, ?_, h.tracked,
    fun sub hsub => ?_, fun c' name' signals hc' hphase' => ?_, fun name' hname' => ?_⟩
  · rw [List.length_append, h.handlers]
    rfl
  · rw [howners]
    rcases List.mem_append.mp hsub with hsub | hsub
    · obtain ⟨name', signal', hkey, hrest, hmade', hhandler⟩ := h.named sub hsub
      exact ⟨name', signal', hkey, hrest, hmade',
        (List.getElem?_append_left (List.getElem?_eq_some_iff.mp hhandler).1).trans hhandler⟩
    · rw [List.mem_singleton.mp hsub]
      refine ⟨name, signal, rfl, hsubscribing.nonempty, hsubscribing.made, ?_⟩
      dsimp only
      rw [← h.handlers]
      exact List.getElem?_concat_length
  · cases hresult : c.phase.next answer with
    | error result =>
      rw [AptSystem.next_error hresult] at hc'
      cases hc'
    | ok phase =>
      rw [AptSystem.next_ok hresult] at hc'
      cases hc'
      rw [hnext phase hresult] at hphase'
      cases hphase'
      exact hsubscribing.marked rfl howners
  · exact hsubscribed name' (h.started name' (hstarted ▸ hname'))

/-- The bus says who the owner of the name is. -/
theorem Wired.tracks (h : sys.Wired) {interface : GenericDBusInterface}
    (hentries : interface.signalCallbacks = sys.bus.interface.signalCallbacks)
    (htracked : ∀ name owner, interface.nameTracking.find? name = some owner → name = "org.debian.apt") :
    Wired { sys with bus := { sys.bus with interface := interface } } where
  numbered := h.numbered.congr hentries rfl rfl
  recorded sub hsub := (congrArg (·.find? sub.key) hentries).trans (h.recorded sub hsub)
  handlers := h.handlers
  tracked := htracked
  named := h.named
  subscribing c name signals hc hphase := (h.subscribing c name signals hc hphase).congr rfl id
  started := h.started

theorem Wired.next (h : sys.Wired) {c : InstallCall} (hcurrent : sys.apt.current = some c)
    {answer : DBusAnswer} {id : Nat} {owner : String} (hok : sys.Delivers (.next answer id owner)) :
    (sys.next c answer id owner).Wired := by
  obtain ⟨hdelivers, hnonempty, hfresh⟩ := hok
  unfold AptBusSystem.next
  cases hphase : c.phase with
  | creating =>
    have hcreating : sys.apt.current.map (·.phase) = some .creating := by
      rw [hcurrent, Option.map_some, hphase]
    cases answer with
    | value name =>
      refine h.created hphase (hdelivers hcreating) ?_
      rintro rfl
      exact hnonempty hcreating rfl
    | null | exception =>
      refine h.elsewhere (fun _ => nofun) (by simp [hphase]) fun phase hnext => ?_
      rw [hphase] at hnext
      cases hnext
  | subscribing name signals =>
    cases signals with
    | nil => exact h.begins hcurrent hphase answer
    | cons signal rest =>
      cases answer with
      | value text =>
        have hnext : ∀ phase, c.phase.next (.value text) = .ok phase → phase = .subscribing name rest := by
          intro phase hnext
          rw [hphase] at hnext
          cases hnext
          rfl
        refine (h.marks hcurrent hphase hnext hfresh).tracks rfl fun name' owner' hname' => ?_
        rcases OrderedMap.find?_emplace_eq_some hname' with hname' | ⟨-, rfl, -⟩
        · exact h.tracked name' owner' hname'
        · rfl
      | null =>
        have hrest : ∀ phase, c.phase.next .null = .ok phase →
            signal ≠ .finished ∧ phase = .subscribing name rest := by
          intro phase hnext
          rw [hphase] at hnext
          simp only [InstallPhase.next] at hnext
          split_ifs at hnext with hsignal
          cases hnext
          exact ⟨hsignal, rfl⟩
        dsimp only
        split_ifs
        swap
        · exact h.marks hcurrent hphase (fun phase hnext => (hrest phase hnext).2) hfresh
        -- The call goes on without this subscription, which was not the first one.
        refine h.elsewhere (fun _ => nofun) (by simp [hphase]) fun phase hnext name' signals hphase' => ?_
        obtain ⟨hsignal, rfl⟩ := hrest phase hnext
        cases hphase'
        exact (h.subscribing c _ _ hcurrent hphase).skipped hsignal
      | exception =>
        refine h.elsewhere (fun _ => nofun) (by simp [hphase]) fun phase hnext => ?_
        rw [hphase] at hnext
        cases hnext
  | running name =>
    refine h.elsewhere (by simp [hphase]) (by simp [hphase]) fun phase hnext name' signals hphase' => ?_
    rw [hphase, hphase'] at hnext
    cases answer <;> cases hnext
  | recordingPath name | recordingCallback name | returning name =>
    refine h.elsewhere (by simp [hphase]) (by simp [hphase]) fun phase hnext name' signals hphase' => ?_
    rw [hphase, hphase'] at hnext
    cases hnext

theorem Wired.installPackage (h : sys.Wired) (path : String) :
    Wired { sys with apt := { sys.apt with current := some ⟨path, .creating⟩ } } := by
  refine h.apt (fun _ => id) (fun c name signals hc hphase => ?_) h.started
  cases hc
  cases hphase

theorem Wired.externalNameWatch (h : sys.Wired) (owner : String) :
    Wired { sys with bus := { sys.bus with
      interface := sys.bus.interface.externalNameWatch "org.debian.apt" owner } } := by
  refine h.tracks rfl fun name owner' hname => ?_
  change (OrderedMap.insert _ _ _).find? name = some owner' at hname
  rw [OrderedMap.find?_insert] at hname
  split_ifs at hname with hsame
  · exact hsame.symm
  · exact h.tracked name owner' hname

theorem Wired.deliver (h : sys.Wired) (signal : BusSignal) (value : String) :
    (sys.deliver signal value).Wired := by
  obtain ⟨hentries, htracking⟩ := sys.bus.deliver_maps signal
  have htracks := h.tracks hentries fun name owner hname => h.tracked name owner (htracking ▸ hname)
  exact ⟨htracks.numbered, htracks.recorded, htracks.handlers, htracks.tracked, htracks.named,
    fun c name signals hc hphase => (htracks.subscribing c name signals hc hphase).congr rfl id,
    htracks.started⟩

theorem Wired.execute (h : sys.Wired) : sys.execute.Wired := by
  unfold AptBusSystem.execute
  split
  · exact h
  · split_ifs <;>
      exact ⟨h.numbered, h.recorded, h.handlers, h.tracked, h.named,
        fun c name signals hc hphase => (h.subscribing c name signals hc hphase).congr rfl id, h.started⟩

theorem Wired.step (h : sys.Wired) {e : AptBusEvent} (hok : sys.Delivers e)
    (hs : sys.step e = .ok sys') : sys'.Wired := by
  cases e with
  | installPackage path =>
    simp only [AptBusSystem.step] at hs
    split at hs <;> cases hs
    · exact h
    · exact h.installPackage path
  | next answer id owner =>
    simp only [AptBusSystem.step] at hs
    split at hs <;> cases hs
    · rename_i c hcurrent
      exact h.next hcurrent hok
    · exact h
  | externalNameWatch owner => cases hs; exact h.externalNameWatch owner
  | signal signal value => cases hs; exact h.deliver signal value
  | execute => cases hs; exact h.execute

/-! ## The queue -/

/-- The `Finished` signals among the commands. -/
def finishedOf (queue : List (SignalCommand × String)) : List (String × String) :=
  (queue.filter fun p => p.1.signalName = "Finished").map fun p => (p.1.objectName, p.2)

theorem finishedOf_append (queue queue' : List (SignalCommand × String)) :
    finishedOf (queue ++ queue') = finishedOf queue ++ finishedOf queue' := by
  simp [finishedOf]

/-- The queued commands with their values. -/
def queue (sys : AptBusSystem) : List (SignalCommand × String) :=
  sys.bus.interface.commandBuffer.zip sys.values

/-- The queue has the signals that were sent, in their order, and those that were handled come first. -/
structure Queued (sys : AptBusSystem) : Prop where
  values : sys.values.length = sys.bus.interface.commandBuffer.length
  executed : sys.executed ≤ sys.queue.length
  handlers : ∀ p ∈ sys.queue, ∃ signal : AptSignal,
    sys.handlers[p.1.callback]? = some signal ∧ p.1.signalName = signal.text
  sent : finishedOf sys.queue = sys.sent
  handled : finishedOf (sys.queue.take sys.executed) = sys.handled
  started : ∀ p ∈ sys.sent, p.1 ∈ sys.apt.started
  nodup : (sys.sent.map Prod.fst).Nodup
  finished : ∀ name value, sys.apt.finished.find? name = some value ↔ (name, value) ∈ sys.handled

theorem Queued.front (h : sys.Queued) (n : Nat) : finishedOf (sys.queue.take n) <+: sys.sent := by
  rw [← h.sent]
  nth_rewrite 2 [← List.take_append_drop n sys.queue]
  rw [finishedOf_append]
  exact List.prefix_append _ _

theorem Queued.same (h : sys.Queued)
    (hbuffer : sys'.bus.interface.commandBuffer = sys.bus.interface.commandBuffer)
    (hvalues : sys'.values = sys.values) (hexecuted : sys'.executed = sys.executed)
    (hsent : sys'.sent = sys.sent) (hhandled : sys'.handled = sys.handled)
    (hhandlers : ∀ (i : Nat) signal, sys.handlers[i]? = some signal → sys'.handlers[i]? = some signal)
    (hstarted : ∀ name ∈ sys.apt.started, name ∈ sys'.apt.started)
    (hfinished : sys'.apt.finished = sys.apt.finished) : sys'.Queued := by
  have hqueue : sys'.queue = sys.queue := by
    unfold queue
    rw [hbuffer, hvalues]
  refine ⟨by rw [hvalues, hbuffer, h.values], by rw [hexecuted, hqueue]; exact h.executed,
    fun p hp => ?_, by rw [hqueue, hsent, h.sent], by rw [hqueue, hexecuted, hhandled, h.handled],
    fun p hp => hstarted _ (h.started p (hsent ▸ hp)), hsent ▸ h.nodup, by
      rw [hfinished, hhandled]; exact h.finished⟩
  obtain ⟨signal, hsignal, htext⟩ := h.handlers p (hqueue ▸ hp)
  exact ⟨signal, hhandlers _ _ hsignal, htext⟩

theorem Queued.next (h : sys.Queued) (c : InstallCall) (answer : DBusAnswer) (subscriptionID : Nat)
    (owner : String) : (sys.next c answer subscriptionID owner).Queued := by
  have hstarted : ∀ name ∈ sys.apt.started, name ∈ (sys.apt.next c answer).started := fun name hname => by
    rw [AptSystem.next_started]
    exact AptSystem.mem_begun hname
  have hhandlers : ∀ new : AptSignal, ∀ (i : Nat) signal, sys.handlers[i]? = some signal →
      (sys.handlers ++ [new])[i]? = some signal := fun new i signal hi =>
    (List.getElem?_append_left (List.getElem?_eq_some_iff.mp hi).1).trans hi
  unfold AptBusSystem.next
  split
  · exact h.same rfl rfl rfl rfl rfl (hhandlers _) hstarted (AptSystem.next_finished ..)
  · split_ifs
    · exact h.same rfl rfl rfl rfl rfl (fun _ _ => id) hstarted (AptSystem.next_finished ..)
    · exact h.same rfl rfl rfl rfl rfl (hhandlers _) hstarted (AptSystem.next_finished ..)
  · exact h.same rfl rfl rfl rfl rfl (fun _ _ => id) hstarted (AptSystem.next_finished ..)

/-- A `Finished` signal of a transaction that was started has a subscription. -/
theorem Wired.hears (h : sys.Wired) {signal : BusSignal} (hfinishes : sys.Finishes signal)
    (hstarted : signal.objectName ∈ sys.apt.started) : sys.bus.hearing signal ≠ [] := by
  obtain ⟨sub, hsub, hkey⟩ := h.started _ hstarted
  refine List.ne_nil_of_mem (List.mem_filter.mpr ⟨hsub, decide_eq_true ?_⟩)
  rw [BusSubscription.Hears, hkey]
  exact ⟨hfinishes.1, .inr rfl, hfinishes.2.1.symm, hfinishes.2.2.symm⟩

theorem Queued.unheard (h : sys.Queued) (hwired : sys.Wired) {signal : BusSignal} {value : String}
    (hok : sys.Delivers (.signal signal value)) (hhearing : sys.bus.hearing signal = [])
    (hdeliver : sys.bus.deliver signal = sys.bus.interface) : (sys.deliver signal value).Queued := by
  have hnot : ¬ sys.Finishes signal := fun hfinishes =>
    hwired.hears hfinishes (hok hfinishes).1 hhearing
  refine h.same (congrArg _ hdeliver) ?_ rfl ?_ rfl (fun _ _ => id) (fun _ => id) rfl
  · simp [AptBusSystem.deliver, hdeliver]
  · simp [AptBusSystem.deliver, hnot]

/-- A `Finished` signal of APT is queued, and no other signal is taken for one. -/
theorem Queued.heard (h : sys.Queued) (hwired : sys.Wired) {signal : BusSignal} {value : String}
    (hok : sys.Delivers (.signal signal value)) {sub : BusSubscription}
    (hsub : sub ∈ sys.bus.subscriptions) (hhears : sub.Hears sys.bus.interface.nameTracking signal)
    (hdeliver : sys.bus.deliver signal = { sys.bus.interface with
      commandBuffer := sys.bus.interface.commandBuffer ++
        [⟨sub.callback, sub.key.dbusNamespace, signal.objectName, signal.interfaceName,
          signal.signalName⟩] }) : (sys.deliver signal value).Queued := by
  obtain ⟨name, handled, hkey, -, -, hhandler⟩ := hwired.named sub hsub
  obtain ⟨howner, -, hinterface, hname⟩ := hhears
  rw [hkey] at howner hinterface hname hdeliver
  have hfinishes : sys.Finishes signal ↔ signal.signalName = "Finished" :=
    ⟨fun hf => hf.2.2, fun hf => ⟨howner, hinterface.symm, hf⟩⟩
  have hvalues : (sys.deliver signal value).values = sys.values ++ [value] := by
    simp [AptBusSystem.deliver, hdeliver]
  have hqueue : (sys.deliver signal value).queue = sys.queue ++ [(⟨sub.callback, "org.debian.apt",
      signal.objectName, signal.interfaceName, signal.signalName⟩, value)] := by
    unfold queue
    rw [hvalues]
    change (sys.bus.deliver signal).commandBuffer.zip _ = _
    rw [hdeliver, List.zip_append h.values.symm]
    rfl
  have hsent : (sys.deliver signal value).sent =
      sys.sent ++ if signal.signalName = "Finished" then [(signal.objectName, value)] else [] := by
    simp only [AptBusSystem.deliver, hfinishes]
  refine ⟨?_, ?_, fun p hp => ?_, ?_, ?_, fun p hp => ?_, ?_, h.finished⟩
  · rw [hvalues]
    change _ = (sys.bus.deliver signal).commandBuffer.length
    rw [hdeliver]
    simp [h.values]
  · rw [hqueue, List.length_append]
    exact Nat.le_add_right_of_le h.executed
  · rw [hqueue] at hp
    rcases List.mem_append.mp hp with hp | hp
    · exact h.handlers p hp
    · rw [List.mem_singleton.mp hp]
      exact ⟨handled, hhandler, hname.symm⟩
  · rw [hqueue, hsent, finishedOf_append, h.sent]
    congr 1
    split_ifs with hfinished <;> simp [finishedOf, hfinished]
  · rw [hqueue]
    change finishedOf (List.take sys.executed _) = sys.handled
    rw [List.take_append_of_le_length h.executed, h.handled]
  · rw [hsent] at hp
    rcases List.mem_append.mp hp with hp | hp
    · exact h.started p hp
    · split_ifs at hp with hfinished
      · rw [List.mem_singleton.mp hp]
        exact (hok (hfinishes.mpr hfinished)).1
      · cases hp
  · rw [hsent]
    split_ifs with hfinished
    · exact DistinctKeys.nodup_append h.nodup (hok (hfinishes.mpr hfinished)).2
    · rw [List.append_nil]
      exact h.nodup

theorem Queued.deliver (h : sys.Queued) (hwired : sys.Wired) {signal : BusSignal} {value : String}
    (hok : sys.Delivers (.signal signal value)) : (sys.deliver signal value).Queued := by
  rcases DBusSystem.deliver_cases hwired.numbered hwired.recorded hwired.distinguished signal with
    ⟨hhearing, hdeliver⟩ | ⟨sub, hsub, hhears, hdeliver⟩
  · exact h.unheard hwired hok hhearing hdeliver
  · exact h.heard hwired hok hsub hhears hdeliver

theorem nextCommand_eq (sys : AptBusSystem) : sys.nextCommand = sys.queue[sys.executed]? := rfl

theorem Queued.handler (h : sys.Queued) {command : SignalCommand} {value : String}
    (hnext : sys.nextCommand = some (command, value)) :
    sys.handlers[command.callback]? = some .finished ↔ command.signalName = "Finished" := by
  obtain ⟨signal, hsignal, htext⟩ := h.handlers _ (List.mem_of_getElem? hnext)
  rw [hsignal, htext, Option.some_inj]
  exact ⟨fun heq => heq ▸ rfl, fun heq => AptSignal.text_injective heq⟩

theorem Queued.unhandled (h : sys.Queued) {command : SignalCommand} {value : String}
    (hnext : sys.nextCommand = some (command, value)) (hname : command.signalName = "Finished") :
    command.objectName ∈ sys.apt.started ∧ sys.apt.finished.find? command.objectName = none ∧
      finishedOf (sys.queue.take (sys.executed + 1)) = sys.handled ++ [(command.objectName, value)] := by
  have htake : finishedOf (sys.queue.take (sys.executed + 1)) =
      sys.handled ++ [(command.objectName, value)] := by
    rw [List.take_add_one, finishedOf_append, h.handled]
    rw [nextCommand_eq] at hnext
    simp [hnext, finishedOf, hname]
  have hfront : sys.handled ++ [(command.objectName, value)] <+: sys.sent :=
    htake ▸ h.front (sys.executed + 1)
  have hmem : (command.objectName, value) ∈ sys.sent :=
    hfront.subset (List.mem_append_right _ List.mem_cons_self)
  refine ⟨h.started _ hmem, ?_, htake⟩
  cases hfinished : sys.apt.finished.find? command.objectName with
  | none => rfl
  | some value' =>
    have hnodup := h.nodup.sublist (hfront.sublist.map Prod.fst)
    rw [List.map_append, List.nodup_append] at hnodup
    have hold := List.mem_map_of_mem (f := Prod.fst) ((h.finished _ _).mp hfinished)
    exact absurd rfl (hnodup.2.2 _ hold _ List.mem_cons_self)

theorem Queued.execute (h : sys.Queued) : sys.execute.Queued := by
  unfold AptBusSystem.execute
  split
  · exact h
  · rename_i command value hnext
    have hlt : sys.executed < sys.queue.length := (List.getElem?_eq_some_iff.mp hnext).1
    have hhandler := h.handler hnext
    split_ifs with hfinished
    · obtain ⟨-, hnew, htake⟩ := h.unhandled hnext (hhandler.mp hfinished)
      refine ⟨h.values, hlt, h.handlers, h.sent, htake, h.started, h.nodup, fun name value' => ?_⟩
      rw [OrderedMap.find?_insert, List.mem_append, List.mem_singleton, ← h.finished]
      split_ifs with hsame
      · subst hsame
        rw [hnew]
        simp [eq_comm]
      · simp [Ne.symm hsame]
    · refine ⟨h.values, hlt, h.handlers, h.sent, ?_, h.started, h.nodup, h.finished⟩
      change finishedOf (sys.queue.take (sys.executed + 1)) = sys.handled
      rw [List.take_add_one, finishedOf_append, h.handled]
      rw [nextCommand_eq] at hnext
      simp [hnext, finishedOf, mt hhandler.mpr hfinished]

theorem Queued.step (h : sys.Queued) (hwired : sys.Wired) {e : AptBusEvent} (hok : sys.Delivers e)
    (hs : sys.step e = .ok sys') : sys'.Queued := by
  cases e with
  | installPackage path =>
    simp only [AptBusSystem.step] at hs
    split at hs <;> cases hs
    · exact h
    · exact h.same rfl rfl rfl rfl rfl (fun _ _ => id) (fun _ => id) rfl
  | next answer subscriptionID owner =>
    simp only [AptBusSystem.step] at hs
    split at hs <;> cases hs
    · exact h.next _ answer subscriptionID owner
    · exact h
  | externalNameWatch owner => cases hs; exact h.same rfl rfl rfl rfl rfl (fun _ _ => id) (fun _ => id) rfl
  | signal signal value => cases hs; exact h.deliver hwired hok
  | execute => cases hs; exact h.execute

/-! ## Runs -/

theorem next_apt (sys : AptBusSystem) (c : InstallCall) (answer : DBusAnswer) (subscriptionID : Nat)
    (owner : String) : (sys.next c answer subscriptionID owner).apt = sys.apt.next c answer := by
  unfold AptBusSystem.next
  split
  · rfl
  · split_ifs <;> rfl
  · rfl

theorem apt_of_unseen {e : AptBusEvent} (hs : sys.step e = .ok sys') (hunseen : sys.seen e = none) :
    sys'.apt = sys.apt := by
  cases e with
  | installPackage | next => cases hunseen
  | externalNameWatch | signal => cases hs; rfl
  | execute =>
    cases hs
    unfold AptBusSystem.execute
    simp only [seen] at hunseen
    split
    · rfl
    · rename_i command value hnext
      rw [hnext] at hunseen
      dsimp only at hunseen
      split_ifs at hunseen ⊢
      rfl

/-- An event that the installer sees is a step of its own. -/
theorem apt_of_seen (h : sys.Queued) {e : AptBusEvent} (hok : sys.Delivers e)
    (hs : sys.step e = .ok sys') {e' : AptEvent} (hseen : sys.seen e = some e') :
    sys.apt.Delivers e' ∧ sys.apt.step e' = .ok sys'.apt := by
  cases e with
  | installPackage path =>
    cases hseen
    refine ⟨trivial, ?_⟩
    simp only [AptBusSystem.step] at hs
    unfold AptSystem.step
    split at hs <;> cases hs
    · rename_i hc
      rw [hc]
    · rename_i hc
      rw [hc]
  | next answer subscriptionID owner =>
    cases hseen
    refine ⟨hok.1, ?_⟩
    simp only [AptBusSystem.step] at hs
    unfold AptSystem.step
    split at hs <;> cases hs
    · rename_i c hc
      rw [hc, next_apt]
    · rename_i hc
      rw [hc]
  | externalNameWatch | signal => cases hseen
  | execute =>
    cases hs
    unfold AptBusSystem.execute
    simp only [seen] at hseen
    split at hseen
    · cases hseen
    · rename_i command value hnext
      split_ifs at hseen with hfinished
      cases hseen
      obtain ⟨hstarted, hnew, -⟩ := h.unhandled hnext ((h.handler hnext).mp hfinished)
      refine ⟨⟨hstarted, hnew⟩, ?_⟩
      rw [if_pos hfinished]
      rfl

theorem wired_create : create.Wired where
  numbered := DBusSystem.numbered_create
  recorded _ hsub := absurd hsub List.not_mem_nil
  handlers := rfl
  tracked := nofun
  named := nofun
  subscribing := nofun
  started := nofun

theorem queued_create : create.Queued := by
  refine ⟨rfl, le_refl _, nofun, rfl, rfl, nofun, .nil, fun name value => ?_⟩
  exact ⟨nofun, nofun⟩

/-- **From APT to its installer.** Every `Finished` signal that APT sends for a transaction is handled at
most once, in the order of sending and with the result that was sent, and all are handled once the commands
of the bus are executed. What the installer does is a run of the installer alone, in which each of these
signals is an event. -/
theorem finished_handled (hrun : Machine.Run step Delivers create es sys) :
    sys.handled <+: sys.sent ∧
    (sys.executed = sys.bus.interface.commandBuffer.length → sys.handled = sys.sent) ∧
    (∀ name value, sys.apt.finished.find? name = some value ↔ (name, value) ∈ sys.handled) ∧
    Machine.Run AptSystem.step AptSystem.Delivers .create (Machine.kept step seen create es) sys.apt := by
  have hinvariant : ∀ {s e t}, Wired s ∧ Queued s → Delivers s e → step s e = .ok t → Wired t ∧ Queued t :=
    fun h hok hs => ⟨h.1.step hok hs, h.2.step h.1 hok hs⟩
  obtain ⟨apt, happ, ⟨-, hqueued⟩, rfl⟩ := hrun.project seen
    (fun s apt => (Wired s ∧ Queued s) ∧ apt = s.apt) ⟨⟨wired_create, queued_create⟩, rfl⟩
    (fun s e t apt h hok hs hunseen => ⟨hinvariant h.1 hok hs, h.2.trans (apt_of_unseen hs hunseen).symm⟩)
    (fun s e t apt e' h hok hs hseen => by
      obtain ⟨hdelivers, hstep⟩ := apt_of_seen h.1.2 hok hs hseen
      exact ⟨h.2 ▸ hdelivers, t.apt, h.2 ▸ hstep, hinvariant h.1 hok hs, rfl⟩)
  refine ⟨hqueued.handled ▸ hqueued.front _, fun hall => ?_, hqueued.finished, happ⟩
  rw [← hqueued.handled, ← hqueued.sent, List.take_of_length_le]
  rw [hall, queue, List.length_zip, hqueued.values, Nat.min_self]

/-- APT is restarted between two transactions, and the bus does not always say who it is. A stranger is not
heard, and the second signal still waits. -/
theorem finished_handled_two : ∃ sys : AptBusSystem,
    sys.sent = [("/1", "exit-success"), ("/2", "exit-failed")] ∧ sys.handled = [("/1", "exit-success")] ∧
    sys.handled <+: sys.sent ∧ sys.apt.finished.find? "/1" = some "exit-success" := by
  let transaction (n : Nat) (name owner : String) : List AptBusEvent :=
    [.installPackage "/opt/a.deb", .next (.value name) 0 "", .next (.value "") (n + 1) owner,
      .next .null (n + 2) owner, .next (.value "") (n + 3) owner, .next .null 0 "",
      .next .null 0 "", .next .null 0 "", .next .null 0 "", .next .null 0 ""]
  obtain ⟨sys, hrun, hlast⟩ := Machine.Run.exists_of_check step Delivers create
    (transaction 0 "/1" ":1.5" ++
      [.signal ⟨":1.5", "/1", "org.debian.apt.transaction", "PropertiesChanged"⟩ "x",
        .signal ⟨":1.5", "/1", "org.debian.apt.transaction", "Finished"⟩ "exit-success",
        .signal ⟨":1.6", "/1", "org.debian.apt.transaction", "Finished"⟩ "exit-failed",
        .externalNameWatch ":1.7"] ++
      transaction 3 "/2" ":1.7" ++
      [.signal ⟨":1.7", "/2", "org.debian.apt.transaction", "Finished"⟩ "exit-failed", .execute, .execute])
    (fun sys => (sys.sent, sys.handled)) ([("/1", "exit-success"), ("/2", "exit-failed")],
      [("/1", "exit-success")]) (by decide +kernel)
  obtain ⟨hsent, hhandled⟩ := Prod.mk.inj hlast
  obtain ⟨hfront, -, hfinished, -⟩ := finished_handled hrun
  refine ⟨sys, hsent, hhandled, hfront, (hfinished _ _).mpr ?_⟩
  rw [hhandled]
  exact List.mem_cons_self

end AptBusSystem

end WolkConnect
