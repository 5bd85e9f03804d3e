import WolkConnect.Data.Entries
import WolkConnect.Data.System

/-!
# Updates while others are published

A thread that publishes reads the entries, sends their messages, and removes the keys
of what it has sent, one at a time. Entries are updated in between.
-/

namespace WolkConnect

/-- A thread in `publishParameters`: the groups that it has not sent, and the keys that it is about
to remove. `read` is the number of the updates that it has seen. -/
structure Publisher (α : Type) where
  read : Nat
  groups : List (String × List α)
  removing : List String

/-- When an entry was stored: the number of the update, and of the messages sent before it. -/
structure Stamp where
  update : Nat
  sends : Nat
  deriving DecidableEq

structure Removal (α : Type) where
  key : String
  entry : α
  stamp : Stamp
  deriving DecidableEq

inductive UpdateEvent (α : Type)
  /-- `updateParameter`. -/
  | update (deviceKey : String) (entry : α)
  /-- `publishParameters()` reads the entries. -/
  | readAll
  /-- `publishParameters(deviceKey)` reads the entries. -/
  | readOf (deviceKey : String)
  | send (i : Nat)
  | remove (i : Nat)

/-- `stamp` tells of every key when it was last updated, and `removed` what has been removed. -/
structure UpdateSystem (α : Type) where
  svc : DataService Call
  publishers : List (Publisher α)
  updates : Nat
  stamp : String → Stamp
  removed : List (Removal α)

namespace Publisher

variable {α : Type} (kind : EntryKind α) (p : Publisher α)

/-- After the message of the group `g`, when the groups `rest` are left. -/
def sent (g : String × List α) (rest : List (String × List α)) : Outcome → Publisher α
  | .unserialisable => { p with groups := [], removing := DataService.keysOf kind g }
  | .published => { p with groups := rest, removing := DataService.keysOf kind g }
  | .refused => { p with groups := rest }

end Publisher

namespace DataService

variable {ρ α : Type} (kind : EntryKind α) (svc : DataService ρ)

/-- The persistence's `remove` of one key. -/
def removeEntry (key : String) : DataService ρ :=
  { svc with persistence :=
    kind.store svc.persistence ((kind.stored svc.persistence).erase key) }

theorem foldl_removeEntry (keys : List String) : keys.foldl (removeEntry kind) svc =
    { svc with persistence :=
      kind.store svc.persistence (keys.foldl OrderedMap.erase (kind.stored svc.persistence)) } := by
  induction keys generalizing svc with
  | nil => rw [List.foldl_nil, List.foldl_nil, kind.store_stored]
  | cons key keys ih =>
    rw [List.foldl_cons, List.foldl_cons, ih, removeEntry, kind.stored_store, kind.store_store]

end DataService

namespace UpdateSystem

variable {α : Type} (ctx : DataContext) (kind : EntryKind α) (sys : UpdateSystem α)

def create (persistence : Persistence) : UpdateSystem α :=
  ⟨.create persistence, [], 0, fun _ => ⟨0, 0⟩, []⟩

def stored : OrderedMap String α := kind.stored sys.svc.persistence

def update (deviceKey : String) (entry : α) : UpdateSystem α :=
  { sys with
    svc := sys.svc.putEntry kind deviceKey entry
    updates := sys.updates + 1
    stamp := Function.update sys.stamp (makePersistenceKey deviceKey (kind.name entry))
      ⟨sys.updates + 1, sys.svc.sends.length⟩ }

/-- A thread that has read these groups. -/
def start (groups : List (String × List α)) : UpdateSystem α :=
  { sys with publishers := sys.publishers ++ [⟨sys.updates, groups, []⟩] }

/-- The groups that `publishParameters(deviceKey)` sends. -/
def groupOf (deviceKey : String) : List (String × List α) :=
  let entries := DataService.entriesOf kind sys.svc.persistence deviceKey
  if entries = [] then [] else [(deviceKey, entries)]

def send (i : Nat) : UpdateSystem α :=
  match sys.publishers[i]? with
  | some ⟨read, g :: rest, []⟩ =>
    let (outcome, svc) := sys.svc.send ctx g.1 (kind.message g.2)
    { sys with
      svc := svc
      publishers := sys.publishers.set i (Publisher.sent kind ⟨read, g :: rest, []⟩ g rest outcome) }
  | _ => sys

def remove (i : Nat) : UpdateSystem α :=
  match sys.publishers[i]? with
  | some ⟨read, groups, key :: rest⟩ =>
    { sys with
      svc := sys.svc.removeEntry kind key
      publishers := sys.publishers.set i ⟨read, groups, rest⟩
      removed := sys.removed ++
        (((sys.stored kind).find? key).map fun entry => ⟨key, entry, sys.stamp key⟩).toList }
  | _ => sys

def step (sys : UpdateSystem α) : UpdateEvent α → Except Empty (UpdateSystem α)
  | .update deviceKey entry => .ok (sys.update kind deviceKey entry)
  | .readAll => .ok (sys.start (DataService.groups kind sys.svc.persistence).entries)
  | .readOf deviceKey => .ok (sys.start (sys.groupOf kind deviceKey))
  | .send i => .ok (sys.send ctx kind i)
  | .remove i => .ok (sys.remove kind i)

/-- A message with the entry was published or did not serialise, after the entry had been stored. -/
def Told (key : String) (entry : α) (stamp : Stamp) : Prop :=
  ∃ send ∈ sys.svc.sends.drop stamp.sends, send.deviceKey = deviceOf key ∧
    send.outcome ≠ .refused ∧ ∃ entries, send.message = kind.message entries ∧ entry ∈ entries

/-- When a thread removes a key with an entry, the key has not been updated since the thread read. -/
def NotUpdated (sys : UpdateSystem α) : UpdateEvent α → Prop
  | .remove i => ∀ p ∈ sys.publishers[i]?, ∀ key ∈ p.removing.head?,
      ((sys.stored kind).find? key).isSome → (sys.stamp key).update ≤ p.read
  | .update _ _ | .readAll | .readOf _ | .send _ => True

instance (sys : UpdateSystem α) : (e : UpdateEvent α) → Decidable (sys.NotUpdated kind e)
  | .remove _ => inferInstanceAs (Decidable (∀ p ∈ _, ∀ key ∈ _, _ → _))
  | .update _ _ | .readAll | .readOf _ | .send _ => isTrue trivial

/-- What a thread holds: of the entries that are as old as its reading, those of a group that is not
sent are in it, and a message has told of those that it removes. -/
structure Seen (p : Publisher α) : Prop where
  read : p.read ≤ sys.updates
  plain : ∀ g ∈ p.groups, Plain g.1
  groups : ∀ g ∈ p.groups, ∀ key entry, (sys.stored kind).find? key = some entry →
    deviceOf key = g.1 → (sys.stamp key).update ≤ p.read → entry ∈ g.2
  removing : ∀ key ∈ p.removing, ∀ entry, (sys.stored kind).find? key = some entry →
    (sys.stamp key).update ≤ p.read → sys.Told kind key entry (sys.stamp key)

structure Publishing : Prop where
  stamps : ∀ key, (sys.stamp key).update ≤ sys.updates ∧ (sys.stamp key).sends ≤ sys.svc.sends.length
  publishers : ∀ p ∈ sys.publishers, sys.Seen kind p
  removed : ∀ r ∈ sys.removed, sys.Told kind r.key r.entry r.stamp

variable {ctx kind sys} {sys' : UpdateSystem α} {p : Publisher α}

theorem Told.mono {key : String} {entry : α} {stamp : Stamp} (h : sys.Told kind key entry stamp)
    (hsends : sys.svc.sends <+: sys'.svc.sends) : sys'.Told kind key entry stamp := by
  obtain ⟨send, hmem, htold⟩ := h
  obtain ⟨more, hmore⟩ := hsends
  refine ⟨send, ?_, htold⟩
  rw [← hmore, List.drop_append]
  exact List.mem_append_left _ hmem

/-- A thread keeps what it holds while the entries it has seen stay, or go. -/
theorem Seen.mono (h : sys.Seen kind p) (hupdates : sys.updates ≤ sys'.updates)
    (hsends : sys.svc.sends <+: sys'.svc.sends)
    (hstored : ∀ key entry, (sys'.stored kind).find? key = some entry →
      (sys'.stamp key).update ≤ p.read →
        (sys.stored kind).find? key = some entry ∧ sys'.stamp key = sys.stamp key) :
    sys'.Seen kind p where
  read := h.read.trans hupdates
  plain := h.plain
  groups g hg key entry hfind hdevice hle := by
    obtain ⟨hfind', hstamp⟩ := hstored key entry hfind hle
    exact h.groups g hg key entry hfind' hdevice (hstamp ▸ hle)
  removing key hkey entry hfind hle := by
    obtain ⟨hfind', hstamp⟩ := hstored key entry hfind hle
    rw [hstamp] at hle ⊢
    exact (h.removing key hkey entry hfind' hle).mono hsends

theorem Publishing.update (h : sys.Publishing kind) (d : String) (entry : α) :
    (sys.update kind d entry).Publishing kind := by
  refine ⟨fun key => ?_, fun p hp => ?_, fun r hr => (h.removed r hr).mono List.prefix_rfl⟩
  · simp only [UpdateSystem.update, Function.update_apply]
    split_ifs
    · exact ⟨Nat.le_refl _, Nat.le_refl _⟩
    · exact ⟨Nat.le_succ_of_le (h.stamps key).1, (h.stamps key).2⟩
  · have hseen := h.publishers p hp
    refine hseen.mono (Nat.le_succ _) List.prefix_rfl fun key e hfind hle => ?_
    have hread := hseen.read
    simp only [UpdateSystem.update, UpdateSystem.stored, DataService.putEntry, kind.stored_store,
      OrderedMap.find?_insert, Function.update_apply] at hfind hle ⊢
    by_cases hkey : key = makePersistenceKey d (kind.name entry)
    · -- What was updated just now has been seen by no thread.
      rw [if_pos hkey] at hle
      dsimp only at hle
      omega
    · rw [if_neg (Ne.symm hkey)] at hfind
      rw [if_neg hkey]
      exact ⟨hfind, rfl⟩

/-- A thread that starts has read all entries of the devices whose groups it has. -/
theorem Publishing.start (h : sys.Publishing kind) {groups : List (String × List α)}
    (hgroups : ∀ g ∈ groups,
      Plain g.1 ∧ g.2 = DataService.entriesOf kind sys.svc.persistence g.1) :
    (sys.start groups).Publishing kind := by
  have hsame : ∀ p, sys.Seen kind p → (sys.start groups).Seen kind p :=
    fun p hp => hp.mono (Nat.le_refl _) List.prefix_rfl fun _ _ hfind _ => ⟨hfind, rfl⟩
  refine ⟨h.stamps, fun p hp => ?_, fun r hr => (h.removed r hr).mono List.prefix_rfl⟩
  rcases List.mem_append.mp hp with hp | hp
  · exact hsame p (h.publishers p hp)
  · rw [List.mem_singleton.mp hp]
    refine hsame _ ⟨Nat.le_refl _, fun g hg => (hgroups g hg).1, ?_, ?_⟩
    · intro g hg key entry hfind hdevice _
      rw [(hgroups g hg).2]
      exact DataService.mem_entriesOf.mpr ⟨key, hfind, hdevice⟩
    · exact fun key hkey => absurd hkey List.not_mem_nil

theorem Publishing.readAll (h : sys.Publishing kind) :
    (sys.start (DataService.groups kind sys.svc.persistence).entries).Publishing kind := by
  apply h.start
  intro g hg
  rw [DataService.entries_groups] at hg
  obtain ⟨d, hd, rfl⟩ := List.mem_map.mp hg
  obtain ⟨key, -, -, rfl⟩ := DataService.mem_keys_groups.mp hd
  exact ⟨plain_deviceOf key, rfl⟩

theorem Publishing.readOf (h : sys.Publishing kind) (d : String) :
    (sys.start (sys.groupOf kind d)).Publishing kind := by
  apply h.start
  intro g hg
  unfold groupOf at hg
  dsimp only at hg
  split_ifs at hg with hnil
  · exact absurd hg List.not_mem_nil
  · rw [List.mem_singleton.mp hg]
    obtain ⟨key, -, -, rfl⟩ := DataService.mem_keys_groups.mp (DataService.entriesOf_ne_nil.mp hnil)
    exact ⟨plain_deviceOf key, rfl⟩

/-- The message of a group tells of all entries that are removed for it. -/
theorem Seen.sent {read : Nat} {g : String × List α} {rest : List (String × List α)} {o : Outcome}
    (h : sys.Seen kind ⟨read, g :: rest, []⟩) (hstamps : ∀ key, (sys.stamp key).sends ≤ sys.svc.sends.length)
    (hsvc : sys'.svc = { sys.svc with sends := sys.svc.sends ++ [⟨g.1, kind.message g.2, o⟩] })
    (hupdates : sys'.updates = sys.updates) (hstamp : sys'.stamp = sys.stamp) :
    sys'.Seen kind (Publisher.sent kind ⟨read, g :: rest, []⟩ g rest o) := by
  have hstored : sys'.stored kind = sys.stored kind := by
    rw [UpdateSystem.stored, hsvc]
    rfl
  have hgroups : ∀ g' ∈ rest, Plain g'.1 ∧ ∀ key entry, (sys'.stored kind).find? key = some entry →
      deviceOf key = g'.1 → (sys'.stamp key).update ≤ read → entry ∈ g'.2 := by
    intro g' hg'
    rw [hstored, hstamp]
    exact ⟨h.plain g' (List.mem_cons_of_mem g hg'), h.groups g' (List.mem_cons_of_mem g hg')⟩
  have hremoving : o ≠ .refused → ∀ key ∈ DataService.keysOf kind g, ∀ entry,
      (sys'.stored kind).find? key = some entry → (sys'.stamp key).update ≤ read →
        sys'.Told kind key entry (sys'.stamp key) := by
    intro ho key hkey entry hfind hle
    rw [hstored] at hfind
    rw [hstamp] at hle ⊢
    obtain ⟨e, -, rfl⟩ := List.mem_map.mp hkey
    have hdevice := deviceOf_make (kind.name e) (h.plain g List.mem_cons_self)
    have hmem := h.groups g List.mem_cons_self _ entry hfind hdevice hle
    refine ⟨⟨g.1, kind.message g.2, o⟩, ?_, hdevice.symm, ho, g.2, rfl, hmem⟩
    rw [hsvc, List.drop_append_of_le_length (hstamps _)]
    exact List.mem_append_right _ List.mem_cons_self
  have hread : read ≤ sys'.updates := hupdates ▸ h.read
  cases o with
  | unserialisable =>
    refine ⟨hread, fun g' hg' => ?_, fun g' hg' => ?_, hremoving Outcome.noConfusion⟩
    · exact absurd hg' List.not_mem_nil
    · exact absurd hg' List.not_mem_nil
  | published =>
    exact ⟨hread, fun g' hg' => (hgroups g' hg').1, fun g' hg' => (hgroups g' hg').2,
      hremoving Outcome.noConfusion⟩
  | refused =>
    exact ⟨hread, fun g' hg' => (hgroups g' hg').1, fun g' hg' => (hgroups g' hg').2,
      fun key hkey => absurd hkey List.not_mem_nil⟩

theorem Publishing.send (h : sys.Publishing kind) (i : Nat) : (sys.send ctx kind i).Publishing kind := by
  unfold UpdateSystem.send
  split
  · rename_i read g rest hi
    refine ⟨fun key => ?_, fun p hp => ?_, fun r hr => (h.removed r hr).mono ?_⟩
    · refine ⟨(h.stamps key).1, (h.stamps key).2.trans ?_⟩
      simp [DataService.send]
    · rcases List.mem_or_eq_of_mem_set hp with hp | rfl
      · exact (h.publishers p hp).mono (Nat.le_refl _) (List.prefix_append _ _)
          fun _ _ hfind _ => ⟨hfind, rfl⟩
      · exact (h.publishers _ (List.mem_of_getElem? hi)).sent (fun key => (h.stamps key).2) rfl rfl rfl
    · exact List.prefix_append _ _
  · exact h

theorem Publishing.remove (h : sys.Publishing kind) {i : Nat} (hok : sys.NotUpdated kind (.remove i)) :
    (sys.remove kind i).Publishing kind := by
  unfold UpdateSystem.remove
  split
  · rename_i read groups key rest hi
    have hseen := h.publishers _ (List.mem_of_getElem? hi)
    have hstored : ∀ key' entry,
        (((sys.stored kind).erase key).find? key') = some entry →
          (sys.stored kind).find? key' = some entry := by
      intro key' entry hfind
      rw [OrderedMap.find?_erase] at hfind
      split_ifs at hfind
      exact hfind
    refine ⟨h.stamps, fun p hp => ?_, fun r hr => ?_⟩
    · have hkept : sys.Seen kind p := by
        rcases List.mem_or_eq_of_mem_set hp with hp | rfl
        · exact h.publishers p hp
        · exact ⟨hseen.read, hseen.plain, hseen.groups,
            fun key' hkey' => hseen.removing key' (List.mem_cons_of_mem key hkey')⟩
      refine hkept.mono (Nat.le_refl _) List.prefix_rfl fun key' entry hfind _ => ⟨?_, rfl⟩
      apply hstored
      rw [UpdateSystem.stored, DataService.removeEntry, kind.stored_store] at hfind
      exact hfind
    · rcases List.mem_append.mp hr with hr | hr
      · exact (h.removed r hr).mono List.prefix_rfl
      · rw [Option.mem_toList, Option.map_eq_some_iff] at hr
        obtain ⟨entry, hfind, rfl⟩ := hr
        have hle := hok _ hi key rfl (Option.isSome_of_eq_some hfind)
        exact (hseen.removing key List.mem_cons_self entry hfind hle).mono List.prefix_rfl
  · exact h

theorem Publishing.step {e : UpdateEvent α} (h : sys.Publishing kind) (hok : sys.NotUpdated kind e)
    (hstep : sys.step ctx kind e = .ok sys') : sys'.Publishing kind := by
  cases e with
  | update d entry =>
    cases hstep
    exact h.update d entry
  | readAll =>
    cases hstep
    exact h.readAll
  | readOf d =>
    cases hstep
    exact h.readOf d
  | send i =>
    cases hstep
    exact h.send i
  | remove i =>
    cases hstep
    exact h.remove hok

theorem publishing_create (kind : EntryKind α) (persistence : Persistence) :
    (create persistence : UpdateSystem α).Publishing kind where
  stamps _ := ⟨Nat.le_refl _, Nat.le_refl _⟩
  publishers _ h := absurd h List.not_mem_nil
  removed _ h := absurd h List.not_mem_nil

/-- **Updates are told.** In every run in which no key is removed that has been updated since its
thread read, what is removed had been stored before a message with it was published, or turned out
not to serialise. -/
theorem updates_told {persistence : Persistence} {es : List (UpdateEvent Parameter)}
    {sys : UpdateSystem Parameter}
    (hrun : Machine.Run (step ctx parameterKind) (NotUpdated parameterKind) (create persistence) es sys) :
    ∀ r ∈ sys.removed, sys.Told parameterKind r.key r.entry r.stamp := by
  have hinv : sys.Publishing parameterKind :=
    hrun.invariant (Publishing parameterKind) (publishing_create _ _)
      fun _ _ _ h hok hs => h.step hok hs
  exact hinv.removed

/-- The second value waits for the next message. -/
theorem updates_told_sample : ∃ sys : UpdateSystem Parameter,
    (∀ r ∈ sys.removed, sys.Told parameterKind r.key r.entry r.stamp) ∧
      sys.removed = [⟨"d+FIRMWARE_UPDATE_REPOSITORY", (.firmwareUpdateRepository, "u"), ⟨1, 0⟩⟩,
        ⟨"d+FIRMWARE_UPDATE_REPOSITORY", (.firmwareUpdateRepository, "v"), ⟨2, 1⟩⟩] := by
  obtain ⟨sys, hrun, hremoved⟩ := Machine.Run.exists_of_check (step reliable parameterKind)
    (NotUpdated parameterKind) (create .empty) [.update "d" (.firmwareUpdateRepository, "u"),
      .readOf "d", .send 0, .remove 0, .update "d" (.firmwareUpdateRepository, "v"), .readAll,
      .send 1, .remove 1] (fun sys => sys.removed)
    [⟨"d+FIRMWARE_UPDATE_REPOSITORY", (.firmwareUpdateRepository, "u"), ⟨1, 0⟩⟩,
      ⟨"d+FIRMWARE_UPDATE_REPOSITORY", (.firmwareUpdateRepository, "v"), ⟨2, 1⟩⟩] (by decide +kernel)
  exact ⟨sys, updates_told hrun, hremoved⟩

/-- The value is updated after it has been read, and the new one is removed for the old one. -/
theorem update_lost : ∃ sys : UpdateSystem Parameter,
    Machine.Run (step reliable parameterKind) (fun _ _ => True) (create .empty)
      [.update "d" (.firmwareUpdateRepository, "u"), .readOf "d",
        .update "d" (.firmwareUpdateRepository, "v"), .send 0, .remove 0] sys ∧
      ¬ ∀ r ∈ sys.removed, sys.Told parameterKind r.key r.entry r.stamp := by
  obtain ⟨sys, hrun, hlists⟩ := Machine.Run.exists_of_check (step reliable parameterKind)
    (fun _ _ => True) (create .empty) [.update "d" (.firmwareUpdateRepository, "u"), .readOf "d",
      .update "d" (.firmwareUpdateRepository, "v"), .send 0, .remove 0]
    (fun sys => (sys.svc.sends, sys.removed))
    ([⟨"d", .parametersUpdate [(.firmwareUpdateRepository, "u")], .published⟩],
      [⟨"d+FIRMWARE_UPDATE_REPOSITORY", (.firmwareUpdateRepository, "v"), ⟨2, 0⟩⟩]) (by decide +kernel)
  refine ⟨sys, hrun, fun h => ?_⟩
  obtain ⟨hsends, hremoved⟩ := Prod.mk.inj hlists
  obtain ⟨send, hmem, -, -, entries, hmessage, hentry⟩ := h
    ⟨"d+FIRMWARE_UPDATE_REPOSITORY", (.firmwareUpdateRepository, "v"), ⟨2, 0⟩⟩ (by simp [hremoved])
  rw [hsends, List.drop_zero, List.mem_singleton] at hmem
  subst hmem
  cases hmessage
  revert hentry
  decide

/-! ## A thread on its own -/

/-- The steps of one thread. -/
def Of (i : Nat) (_ : UpdateSystem α) (e : UpdateEvent α) : Prop := e = .send i ∨ e = .remove i

theorem removes_alone (ctx : DataContext) (kind : EntryKind α) {i read : Nat}
    {groups : List (String × List α)} (keys : List String) (sys : UpdateSystem α)
    (hi : sys.publishers[i]? = some ⟨read, groups, keys⟩) :
    ∃ es sys', Machine.Run (step ctx kind) (Of i) sys es sys' ∧
      sys'.svc = keys.foldl (DataService.removeEntry kind) sys.svc ∧
      sys'.publishers[i]? = some ⟨read, groups, []⟩ := by
  induction keys generalizing sys with
  | nil => exact ⟨[], sys, .nil, rfl, hi⟩
  | cons key keys ih =>
    have hlt : i < sys.publishers.length := (List.getElem?_eq_some_iff.mp hi).1
    have hremove : sys.remove kind i =
        { sys with
          svc := sys.svc.removeEntry kind key
          publishers := sys.publishers.set i ⟨read, groups, keys⟩
          removed := sys.removed ++
            (((sys.stored kind).find? key).map fun entry => ⟨key, entry, sys.stamp key⟩).toList } := by
      rw [UpdateSystem.remove, hi]
    obtain ⟨es, sys', hrun, hsvc, hi'⟩ := ih (sys.remove kind i) (by
      rw [hremove]
      exact List.getElem?_set_self hlt)
    have hone : Machine.Run (step ctx kind) (Of i) sys [.remove i] (sys.remove kind i) :=
      .snoc .nil (Or.inr rfl) rfl
    refine ⟨_, sys', hone.append hrun, ?_, hi'⟩
    rw [hsvc, hremove]
    rfl

/-- Without other steps in between, a thread does what the loop over its groups does. -/
theorem publisher_alone {i read : Nat} (groups : List (String × List α)) (sys : UpdateSystem α)
    (hi : sys.publishers[i]? = some ⟨read, groups, []⟩) :
    ∃ es sys', Machine.Run (step ctx kind) (Of i) sys es sys' ∧
      sys'.svc = DataService.publishGroups ctx kind groups sys.svc := by
  induction groups generalizing sys with
  | nil => exact ⟨[], sys, .nil, rfl⟩
  | cons g groups ih =>
    have hlt : i < sys.publishers.length := (List.getElem?_eq_some_iff.mp hi).1
    have hsend : sys.send ctx kind i =
        { sys with
          svc := (sys.svc.send ctx g.1 (kind.message g.2)).2
          publishers := sys.publishers.set i (Publisher.sent kind ⟨read, g :: groups, []⟩ g groups
            (DataService.outcomeOf ctx kind sys.svc g)) } := by
      rw [UpdateSystem.send, hi]
      rfl
    have hone : Machine.Run (step ctx kind) (Of i) sys [.send i] (sys.send ctx kind i) :=
      .snoc .nil (Or.inl rfl) rfl
    have hi' : (sys.send ctx kind i).publishers[i]? = some (Publisher.sent kind
        ⟨read, g :: groups, []⟩ g groups (DataService.outcomeOf ctx kind sys.svc g)) := by
      rw [hsend]
      exact List.getElem?_set_self hlt
    have hsettle : DataService.outcomeOf ctx kind sys.svc g ≠ .refused →
        (DataService.keysOf kind g).foldl (DataService.removeEntry kind) (sys.send ctx kind i).svc =
          sys.svc.settle kind g (DataService.outcomeOf ctx kind sys.svc g) := by
      intro ho
      rw [DataService.settle_of_ne kind sys.svc g ho, DataService.foldl_removeEntry, hsend]
      rfl
    rw [DataService.publishGroups_cons]
    rcases ho : DataService.outcomeOf ctx kind sys.svc g with _ | _ | _
    · rw [ho] at hi' hsettle
      obtain ⟨es, sys', hrun, hsvc, -⟩ := removes_alone ctx kind _ _ hi'
      exact ⟨_, sys', hone.append hrun, hsvc.trans (hsettle Outcome.noConfusion)⟩
    · rw [ho] at hi'
      obtain ⟨es, sys', hrun, hsvc⟩ := ih _ hi'
      refine ⟨_, sys', hone.append hrun, hsvc.trans ?_⟩
      rw [if_neg Outcome.noConfusion, DataService.settle_refused kind sys.svc g rfl, hsend, ← ho]
      rfl
    · rw [ho] at hi' hsettle
      obtain ⟨es, sys', hrun, hsvc, hi''⟩ := removes_alone ctx kind _ _ hi'
      obtain ⟨es', sys'', hrun', hsvc'⟩ := ih _ hi''
      refine ⟨_, sys'', (hone.append hrun).append hrun', ?_⟩
      rw [hsvc', hsvc, hsettle Outcome.noConfusion, if_neg Outcome.noConfusion]

theorem publishGroups_groupOf (ctx : DataContext) (kind : EntryKind α) (sys : UpdateSystem α)
    (d : String) : DataService.publishGroups ctx kind (sys.groupOf kind d) sys.svc =
      sys.svc.publishEntriesOf ctx kind d := by
  unfold groupOf
  dsimp only
  split_ifs with hnil
  · rw [DataService.publishEntriesOf, if_pos hnil, DataService.publishGroups]
  · rw [DataService.publishEntriesOf_eq ctx kind sys.svc hnil, DataService.publishGroups_cons]
    split_ifs with ho
    · rw [ho]
    · rw [DataService.publishGroups]

/-- Both overloads: a thread that has just read does all of the call. -/
theorem publish_alone (ctx : DataContext) (kind : EntryKind α) (sys : UpdateSystem α) :
    (∃ es sys', Machine.Run (step ctx kind) (Of sys.publishers.length)
      (sys.start (DataService.groups kind sys.svc.persistence).entries) es sys' ∧
        sys'.svc = sys.svc.publishEntries ctx kind) ∧
      ∀ d, ∃ es sys', Machine.Run (step ctx kind) (Of sys.publishers.length)
        (sys.start (sys.groupOf kind d)) es sys' ∧ sys'.svc = sys.svc.publishEntriesOf ctx kind d := by
  have hlast : ∀ groups, (sys.start groups).publishers[sys.publishers.length]? =
      some ⟨sys.updates, groups, []⟩ := fun _ => List.getElem?_concat_length
  refine ⟨publisher_alone _ _ (hlast _), fun d => ?_⟩
  rw [← publishGroups_groupOf ctx kind sys d]
  exact publisher_alone _ _ (hlast _)

end UpdateSystem

end WolkConnect
