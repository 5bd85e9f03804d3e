import WolkConnect.Lib.Run
import WolkConnect.Lib.OrderedMap
import WolkConnect.Lib.DistinctKeys
import Mathlib.Data.Prod.Lex
import Mathlib.Data.String.Basic

/-!
# Signals of the bus

`GenericDBusInterface.cpp`, on a connection that is open: subscriptions, the owners of names, and what
is queued for a signal. A subscription is for a well-known name, and a signal comes from the unique
name of its owner.
-/

namespace WolkConnect

@[ext]
structure SignalIdentification where
  dbusNamespace : String
  objectName : String
  interfaceName : String
  signalName : String

instance : LinearOrder SignalIdentification :=
  LinearOrder.lift'
    (fun k => toLex (k.dbusNamespace, toLex (k.objectName, toLex (k.interfaceName, k.signalName))))
    fun a b h => by
      have hnamespace := Prod.mk.inj (toLex.injective h)
      have hobject := Prod.mk.inj (toLex.injective hnamespace.2)
      have hnames := Prod.mk.inj (toLex.injective hobject.2)
      exact SignalIdentification.ext hnamespace.1 hobject.1 hnames.1 hnames.2

structure BusSignal where
  sender : String
  objectName : String
  interfaceName : String
  signalName : String

/-- A callback with its arguments. The callback is that of the subscription with this number. -/
structure SignalCommand where
  callback : Nat
  dbusNamespace : String
  objectName : String
  interfaceName : String
  signalName : String
  deriving DecidableEq

/-- An entry of `m_signalCallbacks` has the id of the subscription and its callback. `commandBuffer`
has all commands that were ever pushed. -/
structure GenericDBusInterface where
  signalCallbacks : OrderedMap SignalIdentification (Nat × Nat)
  nameTracking : OrderedMap String String
  commandBuffer : List SignalCommand

namespace GenericDBusInterface

variable (x : GenericDBusInterface)

def create : GenericDBusInterface := ⟨.empty, .empty, []⟩

/-- The bus says who is the `owner`. -/
def subscribeToName (namespaceName owner : String) : GenericDBusInterface :=
  { x with nameTracking := x.nameTracking.emplace namespaceName owner }

/-- The bus has given the subscription its id. -/
def subscribeToSignal (key : SignalIdentification) (subscriptionID callback : Nat) (owner : String) :
    GenericDBusInterface :=
  ({ x with signalCallbacks := x.signalCallbacks.emplace key (subscriptionID, callback) } :
    GenericDBusInterface).subscribeToName key.dbusNamespace owner

def unsubscribeFromSignal (subscriptionId : Nat) : Bool × GenericDBusInterface :=
  match x.signalCallbacks.entries.find? fun e => e.2.1 = subscriptionId with
  | none => (false, x)
  | some e => (true, { x with signalCallbacks := x.signalCallbacks.erase e.1 })

def externalSignalCallback (signal : BusSignal) : Except String GenericDBusInterface :=
  match x.nameTracking.entries.find? fun e => e.2 = signal.sender with
  | none => .ok x
  | some (name, _) =>
    let matchingTuple := ⟨name, signal.objectName, signal.interfaceName, signal.signalName⟩
    match x.signalCallbacks.find? matchingTuple with
    | none => .error "The subscription with the passed identifier was not found!"
    | some (_, callback) =>
      .ok { x with
        commandBuffer := x.commandBuffer ++
          [⟨callback, name, signal.objectName, signal.interfaceName, signal.signalName⟩] }

/-- The exception is caught. -/
def callbackPointer (signal : BusSignal) : GenericDBusInterface :=
  match x.externalSignalCallback signal with
  | .ok y => y
  | .error _ => x

def externalNameWatch (name nameOwner : String) : GenericDBusInterface :=
  { x with nameTracking := x.nameTracking.insert name nameOwner }

end GenericDBusInterface

/-! ## Subscriptions on the bus -/

/-- A subscription that the bus has. It is for all objects if the object name is empty. -/
structure BusSubscription where
  id : Nat
  key : SignalIdentification
  callback : Nat

/-- The signal is one for the subscription: its sender owns the name. -/
def BusSubscription.Hears (sub : BusSubscription) (nameTracking : OrderedMap String String)
    (signal : BusSignal) : Prop :=
  nameTracking.find? sub.key.dbusNamespace = some signal.sender ∧
    (sub.key.objectName = "" ∨ sub.key.objectName = signal.objectName) ∧
    sub.key.interfaceName = signal.interfaceName ∧ sub.key.signalName = signal.signalName

instance (sub : BusSubscription) (nameTracking : OrderedMap String String) (signal : BusSignal) :
    Decidable (sub.Hears nameTracking signal) := inferInstanceAs (Decidable (_ ∧ _ ∧ _ ∧ _))

inductive DBusEvent
  /-- A call of `subscribeToSignal` that succeeds. -/
  | subscribeToSignal (key : SignalIdentification) (subscriptionID : Nat) (owner : String)
  | unsubscribeFromSignal (subscriptionId : Nat)
  | externalNameWatch (name nameOwner : String)
  | signal (signal : BusSignal)

/-- `subscriptions` are those that have not been unsubscribed, and `calls` counts all there were. -/
structure DBusSystem where
  interface : GenericDBusInterface
  subscriptions : List BusSubscription
  calls : Nat

namespace DBusSystem

variable (sys : DBusSystem)

def create : DBusSystem := ⟨.create, [], 0⟩

/-- The bus has the subscription, and it is recorded, which is all that `subscribeToSignal` does if the bus
then does not say who the owner of the name is. -/
def markSubscription (key : SignalIdentification) (subscriptionID : Nat) : DBusSystem :=
  { interface := { sys.interface with
      signalCallbacks := sys.interface.signalCallbacks.emplace key (subscriptionID, sys.calls) }
    subscriptions := sys.subscriptions ++ [⟨subscriptionID, key, sys.calls⟩]
    calls := sys.calls + 1 }

def subscribeToSignal (key : SignalIdentification) (subscriptionID : Nat) (owner : String) :
    DBusSystem :=
  { interface := sys.interface.subscribeToSignal key subscriptionID sys.calls owner
    subscriptions := sys.subscriptions ++ [⟨subscriptionID, key, sys.calls⟩]
    calls := sys.calls + 1 }

def unsubscribeFromSignal (subscriptionId : Nat) : DBusSystem :=
  let r := sys.interface.unsubscribeFromSignal subscriptionId
  if r.1 then
    { sys with
      interface := r.2
      subscriptions := sys.subscriptions.filter fun sub => sub.id ≠ subscriptionId }
  else { sys with interface := r.2 }

/-- The subscriptions that a signal is for. -/
def hearing (signal : BusSignal) : List BusSubscription :=
  sys.subscriptions.filter fun sub => sub.Hears sys.interface.nameTracking signal

/-- The bus calls `callbackPointer` for each of its subscriptions that the signal is for. -/
def deliver (signal : BusSignal) : GenericDBusInterface :=
  (sys.hearing signal).foldl (fun x _ => x.callbackPointer signal) sys.interface

def step (sys : DBusSystem) : DBusEvent → Except Empty DBusSystem
  | .subscribeToSignal key subscriptionID owner => .ok (sys.subscribeToSignal key subscriptionID owner)
  | .unsubscribeFromSignal subscriptionId => .ok (sys.unsubscribeFromSignal subscriptionId)
  | .externalNameWatch name nameOwner =>
    .ok { sys with interface := sys.interface.externalNameWatch name nameOwner }
  | .signal signal => .ok { sys with interface := sys.deliver signal }

/-- A signal queues the callbacks of the subscriptions that it is for, each once, and no others. -/
def Dispatches : Prop :=
  ∀ signal, ∃ queued, (sys.deliver signal).commandBuffer = sys.interface.commandBuffer ++ queued ∧
    (queued.map SignalCommand.callback).Perm ((sys.hearing signal).map BusSubscription.callback)

def Unsubscribes : Prop :=
  ∀ sub ∈ sys.subscriptions, (sys.interface.unsubscribeFromSignal sub.id).1 = true

/-- The bus gives an id that no subscription has. -/
def FreshId (sys : DBusSystem) : DBusEvent → Prop
  | .subscribeToSignal _ subscriptionID _ => ∀ sub ∈ sys.subscriptions, sub.id ≠ subscriptionID
  | .unsubscribeFromSignal _ | .externalNameWatch _ _ | .signal _ => True

/-- And no subscription to the same signal is recorded. -/
def FreshKey (sys : DBusSystem) (e : DBusEvent) : Prop :=
  sys.FreshId e ∧
    match e with
    | .subscribeToSignal key _ _ => sys.interface.signalCallbacks.find? key = none
    | .unsubscribeFromSignal _ | .externalNameWatch _ _ | .signal _ => True

instance (sys : DBusSystem) : (e : DBusEvent) → Decidable (sys.FreshId e)
  | .subscribeToSignal _ _ _ => inferInstanceAs (Decidable (∀ _ ∈ _, _ ≠ _))
  | .unsubscribeFromSignal _ | .externalNameWatch _ _ | .signal _ => isTrue trivial

instance (sys : DBusSystem) : (e : DBusEvent) → Decidable (sys.FreshKey e)
  | .subscribeToSignal _ _ _ => inferInstanceAs (Decidable (_ ∧ _ = _))
  | .unsubscribeFromSignal _ | .externalNameWatch _ _ | .signal _ =>
    inferInstanceAs (Decidable (_ ∧ True))

/-- Every subscription is for one object, and of the names of its owner it has the first. -/
def Distinguished : Prop :=
  ∀ sub ∈ sys.subscriptions, sub.key.objectName ≠ "" ∧
    ∀ e ∈ sys.interface.nameTracking.entries, e.1 < sub.key.dbusNamespace →
      sys.interface.nameTracking.find? sub.key.dbusNamespace ≠ some e.2

instance : Decidable sys.Distinguished :=
  inferInstanceAs (Decidable (∀ _ ∈ _, _ ≠ _ ∧ ∀ _ ∈ _, _ → _ ≠ _))

end DBusSystem

/-! ## What one signal queues -/

namespace GenericDBusInterface

variable {x : GenericDBusInterface} {signal : BusSignal} {name : String} {e : Nat × Nat}

/-- The first tracked name of the sender, and the entry for it. -/
def Finds (x : GenericDBusInterface) (signal : BusSignal) (name : String) (e : Nat × Nat) : Prop :=
  (x.nameTracking.find? name = some signal.sender ∧
      ∀ earlier < name, x.nameTracking.find? earlier ≠ some signal.sender) ∧
    x.signalCallbacks.find? ⟨name, signal.objectName, signal.interfaceName, signal.signalName⟩ = some e

def command (signal : BusSignal) (name : String) (e : Nat × Nat) : SignalCommand :=
  ⟨e.2, name, signal.objectName, signal.interfaceName, signal.signalName⟩

theorem find?_nameTracking_iff {nameTracking : OrderedMap String String} {name owner sender : String} :
    nameTracking.entries.find? (fun e => e.2 = sender) = some (name, owner) ↔ owner = sender ∧
      nameTracking.find? name = some sender ∧
        ∀ earlier < name, nameTracking.find? earlier ≠ some sender := by
  rw [OrderedMap.find?_entries_iff, decide_eq_true_eq]
  constructor
  · rintro ⟨hfind, rfl, hfirst⟩
    refine ⟨rfl, hfind, fun earlier hlt hearlier => ?_⟩
    exact absurd rfl (of_decide_eq_false (hfirst earlier owner hlt hearlier))
  · rintro ⟨rfl, hfind, hfirst⟩
    refine ⟨hfind, rfl, fun earlier other hlt hearlier => decide_eq_false fun heq => ?_⟩
    exact hfirst earlier hlt (heq ▸ hearlier)

/-- A signal queues one callback, or none. -/
theorem callbackPointer_cases (x : GenericDBusInterface) (signal : BusSignal) :
    (x.callbackPointer signal = x ∧ ∀ name e, ¬ x.Finds signal name e) ∨
      ∃ name e, x.Finds signal name e ∧ x.callbackPointer signal =
        { x with commandBuffer := x.commandBuffer ++ [command signal name e] } := by
  unfold callbackPointer externalSignalCallback
  cases hname : x.nameTracking.entries.find? fun e => e.2 = signal.sender with
  | none =>
    refine .inl ⟨rfl, fun name e hfinds => ?_⟩
    rw [find?_nameTracking_iff.mpr ⟨rfl, hfinds.1⟩] at hname
    cases hname
  | some entry =>
    obtain ⟨name, owner⟩ := entry
    obtain ⟨-, hfirst⟩ := find?_nameTracking_iff.mp hname
    dsimp only
    cases hentry : x.signalCallbacks.find?
        ⟨name, signal.objectName, signal.interfaceName, signal.signalName⟩ with
    | none =>
      refine .inl ⟨rfl, fun name' e hfinds => ?_⟩
      have hsame := find?_nameTracking_iff.mpr ⟨rfl, hfinds.1⟩
      rw [hname] at hsame
      cases hsame
      rw [hfinds.2] at hentry
      cases hentry
    | some e => exact .inr ⟨name, e, ⟨hfirst, hentry⟩, rfl⟩

theorem Finds.unique {name' : String} {e' : Nat × Nat} (h : x.Finds signal name e)
    (h' : x.Finds signal name' e') : name = name' ∧ e = e' := by
  have hname := (find?_nameTracking_iff.mpr ⟨rfl, h.1⟩).symm.trans
    (find?_nameTracking_iff.mpr ⟨rfl, h'.1⟩)
  cases hname
  exact ⟨rfl, Option.some.inj (h.2.symm.trans h'.2)⟩

theorem callbackPointer_of_finds (h : x.Finds signal name e) :
    x.callbackPointer signal =
      { x with commandBuffer := x.commandBuffer ++ [command signal name e] } := by
  rcases x.callbackPointer_cases signal with ⟨-, hnone⟩ | ⟨name', e', hfinds, heq⟩
  · exact absurd h (hnone name e)
  · obtain ⟨rfl, rfl⟩ := h.unique hfinds
    exact heq

/-- Each call of `callbackPointer` for a signal queues the same. -/
theorem foldl_callbackPointer (x : GenericDBusInterface) (signal : BusSignal)
    (subs : List BusSubscription) :
    (subs.foldl (fun x _ => x.callbackPointer signal) x = x ∧ ∀ name e, ¬ x.Finds signal name e) ∨
      ∃ name e, x.Finds signal name e ∧ subs.foldl (fun x _ => x.callbackPointer signal) x =
        { x with
          commandBuffer := x.commandBuffer ++ List.replicate subs.length (command signal name e) } := by
  rcases x.callbackPointer_cases signal with ⟨heq, hnone⟩ | ⟨name, e, hfinds, -⟩
  · refine .inl ⟨?_, hnone⟩
    induction subs with
    | nil => rfl
    | cons sub subs ih => rw [List.foldl_cons, heq, ih]
  · refine .inr ⟨name, e, hfinds, ?_⟩
    induction subs generalizing x with
    | nil => simp
    | cons sub subs ih =>
      have hrest := ih { x with commandBuffer := x.commandBuffer ++ [command signal name e] } hfinds
      rw [List.foldl_cons, callbackPointer_of_finds hfinds, hrest]
      simp [List.replicate_succ]

end GenericDBusInterface

/-! ## What the maps record -/

namespace GenericDBusInterface

variable {x : GenericDBusInterface}

theorem unsubscribeFromSignal_cases (x : GenericDBusInterface) (subscriptionId : Nat) :
    (x.unsubscribeFromSignal subscriptionId = (false, x) ∧
        ∀ key e, x.signalCallbacks.find? key = some e → e.1 ≠ subscriptionId) ∨
      ∃ key e, x.signalCallbacks.find? key = some e ∧ e.1 = subscriptionId ∧
        x.unsubscribeFromSignal subscriptionId =
          (true, { x with signalCallbacks := x.signalCallbacks.erase key }) := by
  unfold unsubscribeFromSignal
  cases hfind : x.signalCallbacks.entries.find? fun e => e.2.1 = subscriptionId with
  | none =>
    refine .inl ⟨rfl, fun key e he heq => ?_⟩
    rw [List.find?_eq_none] at hfind
    exact hfind (key, e) (OrderedMap.find?_eq_some.mp he) (decide_eq_true heq)
  | some entry =>
    obtain ⟨key, e⟩ := entry
    refine .inr ⟨key, e, OrderedMap.find?_eq_some.mpr (List.mem_of_find?_eq_some hfind), ?_, rfl⟩
    simpa using List.find?_some hfind

end GenericDBusInterface

namespace DBusSystem

/-- The entries are of subscriptions, which differ in their ids and callbacks. -/
structure Numbered (sys : DBusSystem) : Prop where
  entries : ∀ key e, sys.interface.signalCallbacks.find? key = some e →
    ∃ sub ∈ sys.subscriptions, sub.key = key ∧ sub.id = e.1 ∧ sub.callback = e.2
  ids : (sys.subscriptions.map BusSubscription.id).Nodup
  callbacks : (sys.subscriptions.map BusSubscription.callback).Nodup
  below : ∀ sub ∈ sys.subscriptions, sub.callback < sys.calls

/-- The names of the subscriptions are tracked. -/
def Tracked (sys : DBusSystem) : Prop :=
  ∀ sub ∈ sys.subscriptions, sys.interface.nameTracking.find? sub.key.dbusNamespace ≠ none

/-- Every subscription has the entry of its signal. -/
def Recorded (sys : DBusSystem) : Prop :=
  ∀ sub ∈ sys.subscriptions,
    sys.interface.signalCallbacks.find? sub.key = some (sub.id, sub.callback)

/-- A subscription has no entry. -/
def Lost (sys : DBusSystem) : Prop :=
  ∃ sub ∈ sys.subscriptions, ∀ key e,
    sys.interface.signalCallbacks.find? key = some e → e.1 ≠ sub.id

variable {sys sys' : DBusSystem} {es : List DBusEvent} {sub sub' : BusSubscription}

theorem Numbered.eq_of_id (h : sys.Numbered) (hsub : sub ∈ sys.subscriptions)
    (hsub' : sub' ∈ sys.subscriptions) (heq : sub.id = sub'.id) : sub = sub' :=
  List.inj_on_of_nodup_map h.ids hsub hsub' heq

theorem Numbered.eq_of_callback (h : sys.Numbered) (hsub : sub ∈ sys.subscriptions)
    (hsub' : sub' ∈ sys.subscriptions) (heq : sub.callback = sub'.callback) : sub = sub' :=
  List.inj_on_of_nodup_map h.callbacks hsub hsub' heq

theorem deliver_maps (sys : DBusSystem) (signal : BusSignal) :
    (sys.deliver signal).signalCallbacks = sys.interface.signalCallbacks ∧
      (sys.deliver signal).nameTracking = sys.interface.nameTracking := by
  unfold deliver
  rcases sys.interface.foldl_callbackPointer signal (sys.hearing signal) with
    ⟨heq, -⟩ | ⟨name, e, -, heq⟩ <;> rw [heq]
  · exact ⟨rfl, rfl⟩
  · exact ⟨rfl, rfl⟩

theorem unsubscribeFromSignal_cases (sys : DBusSystem) (subscriptionId : Nat) :
    (sys.unsubscribeFromSignal subscriptionId = sys ∧
        ∀ key e, sys.interface.signalCallbacks.find? key = some e → e.1 ≠ subscriptionId) ∨
      ∃ key e, sys.interface.signalCallbacks.find? key = some e ∧ e.1 = subscriptionId ∧
        sys.unsubscribeFromSignal subscriptionId =
          { sys with
            interface := { sys.interface with
              signalCallbacks := sys.interface.signalCallbacks.erase key }
            subscriptions := sys.subscriptions.filter fun sub => sub.id ≠ subscriptionId } := by
  unfold unsubscribeFromSignal
  rcases sys.interface.unsubscribeFromSignal_cases subscriptionId with
    ⟨heq, hnone⟩ | ⟨key, e, he, hid, heq⟩
  · exact .inl ⟨by simp [heq], hnone⟩
  · exact .inr ⟨key, e, he, hid, by simp [heq]⟩

theorem mem_unsubscribed {subscriptionId : Nat} :
    sub ∈ sys.subscriptions.filter (fun sub => sub.id ≠ subscriptionId) ↔
      sub ∈ sys.subscriptions ∧ sub.id ≠ subscriptionId := by
  rw [List.mem_filter, decide_eq_true_eq]

theorem Numbered.markSubscription (h : sys.Numbered) (key : SignalIdentification)
    {subscriptionID : Nat} (hfresh : ∀ sub ∈ sys.subscriptions, sub.id ≠ subscriptionID) :
    (sys.markSubscription key subscriptionID).Numbered where
  entries key' e he := by
    rcases OrderedMap.find?_emplace_eq_some he with he | ⟨-, rfl, rfl⟩
    · obtain ⟨sub, hsub, hrest⟩ := h.entries key' e he
      exact ⟨sub, List.mem_append_left _ hsub, hrest⟩
    · exact ⟨_, List.mem_append_right _ List.mem_cons_self, rfl, rfl, rfl⟩
  ids := DistinctKeys.nodup_append h.ids hfresh
  callbacks := DistinctKeys.nodup_append h.callbacks fun sub hsub => (h.below sub hsub).ne
  below sub hsub := by
    rcases List.mem_append.mp hsub with hold | hnew
    · exact Nat.lt_succ_of_lt (h.below sub hold)
    · rw [List.mem_singleton.mp hnew]
      exact Nat.lt_succ_self _

theorem Numbered.unsubscribeFromSignal (h : sys.Numbered) (subscriptionId : Nat) :
    (sys.unsubscribeFromSignal subscriptionId).Numbered := by
  rcases sys.unsubscribeFromSignal_cases subscriptionId with ⟨heq, -⟩ | ⟨key, e, he, hid, heq⟩
  · rw [heq]
    exact h
  · rw [heq]
    have hsublist : (sys.subscriptions.filter fun sub => sub.id ≠ subscriptionId).Sublist
      sys.subscriptions := List.filter_sublist
    refine ⟨fun key' e' he' => ?_, h.ids.sublist (hsublist.map _),
      h.callbacks.sublist (hsublist.map _), fun sub hsub => h.below sub (hsublist.mem hsub)⟩
    change (OrderedMap.erase _ key).find? key' = some e' at he'
    rw [OrderedMap.find?_erase] at he'
    split_ifs at he' with hkey
    obtain ⟨sub', hsub', hsubkey', hrest'⟩ := h.entries key' e' he'
    obtain ⟨sub, hsub, hsubkey, hsubid, -⟩ := h.entries key e he
    refine ⟨sub', mem_unsubscribed.mpr ⟨hsub', fun hsame => ?_⟩, hsubkey', hrest'⟩
    obtain rfl := h.eq_of_id hsub hsub' (hsubid.trans (hid.trans hsame.symm))
    exact hkey (hsubkey.symm.trans hsubkey')

theorem Numbered.congr (h : sys.Numbered)
    (hentries : sys'.interface.signalCallbacks = sys.interface.signalCallbacks)
    (hsubs : sys'.subscriptions = sys.subscriptions) (hcalls : sys'.calls = sys.calls) :
    sys'.Numbered where
  entries := by rw [hentries, hsubs]; exact h.entries
  ids := hsubs ▸ h.ids
  callbacks := hsubs ▸ h.callbacks
  below := by rw [hsubs, hcalls]; exact h.below

theorem Numbered.step (h : sys.Numbered) {e : DBusEvent} (hok : sys.FreshId e)
    (hs : sys.step e = .ok sys') : sys'.Numbered := by
  cases e with
  | subscribeToSignal key subscriptionID owner =>
    cases hs
    exact (h.markSubscription key hok).congr rfl rfl rfl
  | unsubscribeFromSignal subscriptionId => cases hs; exact h.unsubscribeFromSignal subscriptionId
  | externalNameWatch name nameOwner => cases hs; exact h.congr rfl rfl rfl
  | signal signal => cases hs; exact h.congr (sys.deliver_maps signal).1 rfl rfl

theorem Tracked.step (h : sys.Tracked) {e : DBusEvent} (hs : sys.step e = .ok sys') : sys'.Tracked := by
  cases e with
  | subscribeToSignal key subscriptionID owner =>
    cases hs
    intro sub hsub
    change (OrderedMap.emplace _ _ _).find? _ ≠ none
    rw [OrderedMap.find?_emplace]
    split_ifs with heq
    · exact Option.some_ne_none _
    · refine h sub ((List.mem_append.mp hsub).resolve_right fun hnew => heq ?_)
      rw [List.mem_singleton.mp hnew]
  | unsubscribeFromSignal subscriptionId =>
    cases hs
    rcases sys.unsubscribeFromSignal_cases subscriptionId with ⟨heq, -⟩ | ⟨key, e, -, -, heq⟩
    · rw [heq]
      exact h
    · rw [heq]
      exact fun sub hsub => h sub (mem_unsubscribed.mp hsub).1
  | externalNameWatch name nameOwner =>
    cases hs
    intro sub hsub
    change (OrderedMap.insert _ name nameOwner).find? _ ≠ none
    rw [OrderedMap.find?_insert]
    split_ifs
    · exact Option.some_ne_none _
    · exact h sub hsub
  | signal signal =>
    cases hs
    intro sub hsub
    change (sys.deliver signal).nameTracking.find? _ ≠ none
    rw [(sys.deliver_maps signal).2]
    exact h sub hsub

theorem Recorded.markSubscription (h : sys.Recorded) {key : SignalIdentification}
    (hfree : sys.interface.signalCallbacks.find? key = none) (subscriptionID : Nat) :
    (sys.markSubscription key subscriptionID).Recorded := by
  intro sub hsub
  change (OrderedMap.emplace _ key _).find? sub.key = _
  rw [OrderedMap.find?_emplace_of_none _ _ hfree]
  rcases List.mem_append.mp hsub with hold | hnew
  · rw [if_neg, h sub hold]
    rintro rfl
    rw [h sub hold] at hfree
    cases hfree
  · rw [List.mem_singleton.mp hnew, if_pos rfl]

theorem Recorded.step (h : sys.Recorded) {e : DBusEvent} (hok : sys.FreshKey e)
    (hs : sys.step e = .ok sys') : sys'.Recorded := by
  cases e with
  | subscribeToSignal key subscriptionID owner =>
    cases hs
    exact h.markSubscription hok.2 subscriptionID
  | unsubscribeFromSignal subscriptionId =>
    cases hs
    rcases sys.unsubscribeFromSignal_cases subscriptionId with ⟨heq, -⟩ | ⟨key, e, he, hid, heq⟩
    · rw [heq]
      exact h
    · rw [heq]
      intro sub hsub
      obtain ⟨hold, hne⟩ := mem_unsubscribed.mp hsub
      change (OrderedMap.erase _ key).find? sub.key = _
      rw [OrderedMap.find?_erase, if_neg, h sub hold]
      rintro rfl
      rw [h sub hold] at he
      cases he
      exact hne hid
  | externalNameWatch name nameOwner => cases hs; exact h
  | signal signal =>
    cases hs
    intro sub hsub
    change (sys.deliver signal).signalCallbacks.find? sub.key = _
    rw [(sys.deliver_maps signal).1]
    exact h sub hsub

/-- A subscription whose signal is recorded for another is lost. -/
theorem lost_of_break (hnumbered : sys.Numbered) {e : DBusEvent} (hfresh : sys.FreshId e)
    (hok : ¬ sys.FreshKey e) (hs : sys.step e = .ok sys') : sys'.Lost := by
  cases e with
  | subscribeToSignal key subscriptionID owner =>
    cases hs
    have htaken : sys.interface.signalCallbacks.find? key ≠ none := fun hfree => hok ⟨hfresh, hfree⟩
    refine ⟨_, List.mem_append_right _ List.mem_cons_self, fun key' e he => ?_⟩
    rcases OrderedMap.find?_emplace_eq_some he with he | ⟨hfree, -, -⟩
    · obtain ⟨sub, hsub, -, hid, -⟩ := hnumbered.entries key' e he
      exact hid ▸ hfresh sub hsub
    · exact absurd hfree htaken
  | unsubscribeFromSignal subscriptionId => exact absurd ⟨hfresh, trivial⟩ hok
  | externalNameWatch name nameOwner => exact absurd ⟨hfresh, trivial⟩ hok
  | signal signal => exact absurd ⟨hfresh, trivial⟩ hok

theorem Lost.step (h : sys.Lost) {e : DBusEvent} (hfresh : sys.FreshId e)
    (hs : sys.step e = .ok sys') : sys'.Lost := by
  obtain ⟨sub, hsub, hnone⟩ := h
  cases e with
  | subscribeToSignal key subscriptionID owner =>
    cases hs
    refine ⟨sub, List.mem_append_left _ hsub, fun key' e he => ?_⟩
    rcases OrderedMap.find?_emplace_eq_some he with he | ⟨-, -, rfl⟩
    · exact hnone key' e he
    · exact (hfresh sub hsub).symm
  | unsubscribeFromSignal subscriptionId =>
    cases hs
    rcases sys.unsubscribeFromSignal_cases subscriptionId with ⟨heq, -⟩ | ⟨key, e, he, hid, heq⟩
    · rw [heq]
      exact ⟨sub, hsub, hnone⟩
    · rw [heq]
      have hne : sub.id ≠ subscriptionId := fun hsame => hnone key e he (hid.trans hsame.symm)
      refine ⟨sub, mem_unsubscribed.mpr ⟨hsub, hne⟩, fun key' e' he' => ?_⟩
      change (OrderedMap.erase _ key).find? key' = some e' at he'
      rw [OrderedMap.find?_erase] at he'
      split_ifs at he'
      exact hnone key' e' he'
  | externalNameWatch name nameOwner => cases hs; exact ⟨sub, hsub, hnone⟩
  | signal signal =>
    cases hs
    refine ⟨sub, hsub, fun key e he => hnone key e ?_⟩
    rw [← (sys.deliver_maps signal).1]
    exact he

/-! ## What signals and unsubscriptions come to -/

theorem Recorded.unsubscribes (h : sys.Recorded) : sys.Unsubscribes := by
  intro sub hsub
  rcases sys.interface.unsubscribeFromSignal_cases sub.id with ⟨-, hnone⟩ | ⟨key, e, -, -, heq⟩
  · exact absurd rfl (hnone sub.key _ (h sub hsub))
  · rw [heq]

theorem Lost.not_unsubscribes (h : sys.Lost) : ¬ sys.Unsubscribes := by
  obtain ⟨sub, hsub, hnone⟩ := h
  intro hall
  rcases sys.interface.unsubscribeFromSignal_cases sub.id with ⟨heq, -⟩ | ⟨key, e, he, hid, -⟩
  · have hfails := hall sub hsub
    rw [heq] at hfails
    cases hfails
  · exact hnone key e he hid

/-- What is found for a signal that is dispatched to a subscription is that subscription. -/
theorem Numbered.finds_of_dispatches (h : sys.Numbered) (hdispatches : sys.Dispatches)
    (hsub : sub ∈ sys.subscriptions) (signal : BusSignal)
    (hhears : sub.Hears sys.interface.nameTracking signal) :
    sub.key = ⟨sub.key.dbusNamespace, signal.objectName, signal.interfaceName, signal.signalName⟩ ∧
      ∀ earlier < sub.key.dbusNamespace,
        sys.interface.nameTracking.find? earlier ≠ some signal.sender := by
  obtain ⟨queued, hbuffer, hperm⟩ := hdispatches signal
  have hqueued : sub.callback ∈ queued.map SignalCommand.callback :=
    hperm.mem_iff.mpr (List.mem_map_of_mem (List.mem_filter.mpr ⟨hsub, decide_eq_true hhears⟩))
  unfold deliver at hbuffer
  rcases sys.interface.foldl_callbackPointer signal (sys.hearing signal) with
    ⟨heq, -⟩ | ⟨name, e, hfinds, heq⟩
  · rw [heq, List.self_eq_append_right] at hbuffer
    rw [hbuffer] at hqueued
    exact absurd hqueued List.not_mem_nil
  · rw [heq] at hbuffer
    have hcommands := List.append_cancel_left hbuffer
    rw [← hcommands] at hqueued
    obtain ⟨command, hcommand, hcallback⟩ := List.mem_map.mp hqueued
    rw [List.eq_of_mem_replicate hcommand] at hcallback
    obtain ⟨sub', hsub', hkey, -, hcallback'⟩ := h.entries _ e hfinds.2
    obtain rfl := h.eq_of_callback hsub' hsub (hcallback'.trans hcallback)
    rw [hkey]
    exact ⟨rfl, hfinds.1.2⟩

theorem Numbered.distinguished (h : sys.Numbered) (htracked : sys.Tracked)
    (hdispatches : sys.Dispatches) : sys.Distinguished := by
  intro sub hsub
  obtain ⟨owner, howner⟩ := Option.ne_none_iff_exists'.mp (htracked sub hsub)
  constructor
  · -- A subscription to all objects hears a signal of any.
    intro hall
    have hkey := (h.finds_of_dispatches hdispatches hsub
      ⟨owner, "/", sub.key.interfaceName, sub.key.signalName⟩ ⟨howner, .inl hall, rfl, rfl⟩).1
    have hobject : sub.key.objectName = "/" := congrArg SignalIdentification.objectName hkey
    rw [hall] at hobject
    exact absurd hobject (by decide)
  · intro e he hlt
    have hfirst := (h.finds_of_dispatches hdispatches hsub
      ⟨owner, sub.key.objectName, sub.key.interfaceName, sub.key.signalName⟩
      ⟨howner, .inr rfl, rfl, rfl⟩).2 e.1 hlt
    rw [howner, ← OrderedMap.find?_eq_some.mpr he]
    exact hfirst.symm

theorem Recorded.finds (h : sys.Recorded) (hdistinguished : sys.Distinguished)
    (hsub : sub ∈ sys.subscriptions) {signal : BusSignal}
    (hhears : sub.Hears sys.interface.nameTracking signal) :
    sys.interface.Finds signal sub.key.dbusNamespace (sub.id, sub.callback) := by
  obtain ⟨hnonempty, hfirst⟩ := hdistinguished sub hsub
  obtain ⟨howner, hobject, hinterface, hsignal⟩ := hhears
  refine ⟨⟨howner, fun earlier hlt hearlier => ?_⟩, ?_⟩
  · exact hfirst (earlier, signal.sender) (OrderedMap.find?_eq_some.mp hearlier) hlt howner
  rw [← hobject.resolve_left hnonempty, ← hinterface, ← hsignal]
  exact h sub hsub

theorem Recorded.dispatches (h : sys.Recorded) (hnumbered : sys.Numbered)
    (hdistinguished : sys.Distinguished) : sys.Dispatches := by
  intro signal
  have hmem : ∀ sub ∈ sys.hearing signal, sub ∈ sys.subscriptions ∧
      sys.interface.Finds signal sub.key.dbusNamespace (sub.id, sub.callback) := by
    intro sub hsub
    obtain ⟨hold, hhears⟩ := List.mem_filter.mp hsub
    exact ⟨hold, h.finds hdistinguished hold (of_decide_eq_true hhears)⟩
  have hnodup : (sys.hearing signal).Nodup := hnumbered.ids.of_map.filter _
  unfold deliver
  cases hhearing : sys.hearing signal with
  | nil => exact ⟨[], (List.append_nil _).symm, .nil⟩
  | cons sub rest =>
    rw [hhearing] at hmem hnodup
    obtain ⟨hsub, hfinds⟩ := hmem sub List.mem_cons_self
    -- Two subscriptions that hear the signal are found as one.
    have hrest : rest = [] := by
      rw [List.eq_nil_iff_forall_not_mem]
      intro sub' hsub'
      obtain ⟨hold', hfinds'⟩ := hmem sub' (List.mem_cons_of_mem _ hsub')
      have hid := (Prod.mk.inj (hfinds.unique hfinds').2).1
      obtain rfl := hnumbered.eq_of_id hsub hold' hid
      exact (List.nodup_cons.mp hnodup).1 hsub'
    rw [hrest]
    refine ⟨[GenericDBusInterface.command signal sub.key.dbusNamespace (sub.id, sub.callback)], ?_,
      .refl _⟩
    have hqueues := GenericDBusInterface.callbackPointer_of_finds hfinds
    exact congrArg GenericDBusInterface.commandBuffer hqueues

theorem numbered_create : create.Numbered where
  entries key e he := by cases he
  ids := List.nodup_nil
  callbacks := List.nodup_nil
  below sub hsub := absurd hsub List.not_mem_nil

/-- **Signals and subscriptions.** Every signal queues the callbacks of the subscriptions that it is
for, and every subscription can be unsubscribed, after exactly the runs in which no signal was
subscribed to while a subscription to it was recorded, if besides every subscription is for one object
and has the first of the tracked names of its owner. -/
theorem dispatches_iff (hrun : Machine.Run step FreshId create es sys) :
    sys.Dispatches ∧ sys.Unsubscribes ↔
      Machine.Run step FreshKey create es sys ∧ sys.Distinguished := by
  have hnumbered := hrun.invariant Numbered numbered_create fun _ _ _ h hok hs => h.step hok hs
  have htracked := hrun.invariant Tracked (fun sub hsub => absurd hsub List.not_mem_nil)
    fun _ _ _ h _ hs => h.step hs
  have hrecorded : Machine.Run step FreshKey create es sys → sys.Recorded := fun hfresh =>
    hfresh.invariant Recorded (fun sub hsub => absurd hsub List.not_mem_nil)
      fun _ _ _ h hok hs => h.step hok hs
  have hunsubscribes : sys.Unsubscribes ↔ Machine.Run step FreshKey create es sys := by
    refine hrun.iff_meets (fun s => s.Numbered ∧ s.Recorded) (fun s => s.Lost)
      ⟨numbered_create, fun sub hsub => absurd hsub List.not_mem_nil⟩ ?_ ?_ ?_
      (fun h => h.2.unsubscribes) fun h => h.not_unsubscribes
    · exact fun _ _ _ h hok hs => ⟨h.1.step hok.1 hs, h.2.step hok hs⟩
    · exact fun _ _ _ h hfresh hok hs => lost_of_break h.1 hfresh hok hs
    · exact fun _ _ _ h hfresh hs => h.step hfresh hs
  rw [hunsubscribes]
  constructor
  · rintro ⟨hdispatches, hfresh⟩
    exact ⟨hfresh, hnumbered.distinguished htracked hdispatches⟩
  · rintro ⟨hfresh, hdistinguished⟩
    exact ⟨(hrecorded hfresh).dispatches hnumbered hdistinguished, hfresh⟩

/-! ## Runs -/

def finished (objectName : String) : SignalIdentification :=
  ⟨"org.debian.apt", objectName, "org.debian.apt.transaction", "Finished"⟩

/-- Two transactions, the second of which has its signal. -/
theorem dispatches_iff_sample : ∃ sys : DBusSystem, (sys.Dispatches ∧ sys.Unsubscribes) ∧
    sys.interface.commandBuffer.map SignalCommand.callback = [1] := by
  obtain ⟨sys, hrun, hsys⟩ := Machine.Run.exists_of_check step FreshKey create
    [.subscribeToSignal (finished "/1") 7 ":1.5", .subscribeToSignal (finished "/2") 8 ":1.5",
      .signal ⟨":1.5", "/2", "org.debian.apt.transaction", "Finished"⟩]
    (fun sys => decide (sys.Distinguished ∧
      sys.interface.commandBuffer.map SignalCommand.callback = [1]))
    true (by decide +kernel)
  obtain ⟨hdistinguished, hcallbacks⟩ := of_decide_eq_true hsys
  exact ⟨sys, (dispatches_iff (hrun.mono fun _ _ hok => hok.1)).mpr ⟨hrun, hdistinguished⟩, hcallbacks⟩

/-- A subscription to the signals of all objects hears none. -/
theorem unheard_for_all_objects : ∃ sys : DBusSystem,
    Machine.Run step FreshId create [.subscribeToSignal (finished "") 7 ":1.5"] sys ∧
      ¬ (sys.Dispatches ∧ sys.Unsubscribes) := by
  let signal : BusSignal := ⟨":1.5", "/1", "org.debian.apt.transaction", "Finished"⟩
  obtain ⟨sys, hrun, hsys⟩ := Machine.Run.exists_of_check step FreshId create
    [.subscribeToSignal (finished "") 7 ":1.5"]
    (fun sys => ((sys.deliver signal).commandBuffer, sys.interface.commandBuffer,
      (sys.hearing signal).map BusSubscription.callback)) ([], [], [0]) (by decide +kernel)
  obtain ⟨hdelivered, hbefore, hhearing⟩ := Prod.mk.injEq .. ▸ (Prod.mk.injEq .. ▸ hsys)
  refine ⟨sys, hrun, fun h => ?_⟩
  obtain ⟨queued, hbuffer, hperm⟩ := h.1 signal
  rw [hdelivered, hbefore, List.nil_append] at hbuffer
  rw [← hbuffer, hhearing] at hperm
  exact absurd hperm.length_eq (by decide)

end DBusSystem

end WolkConnect
