import WolkConnect.Data.Ledger
import WolkConnect.Data.Isolation

/-!
# What becomes of attributes and parameters

Over any calls of the service, the entry that was put last under a name is still in
the store, or it is the one that was taken out of it last under the name.
-/

namespace WolkConnect

def DataMessage.attributes : DataMessage → List Attribute
  | .attributeRegistration attributes => attributes
  | _ => []

def DataMessage.parameters : DataMessage → List Parameter
  | .parametersUpdate parameters => parameters
  | _ => []

namespace DataService

variable {ρ α β : Type} {ctx : DataContext} {kind : EntryKind α} {other : EntryKind β}
  {entriesIn : DataMessage → List α} {svc svc' : DataService ρ} {puts : List (String × α)}
  {d name : String}

/-! ## The last entry of a name -/

theorem latest_append_list (l l' : List (String × α)) (d name : String) :
    latest kind (l ++ l') d name = (latest kind l' d name).or (latest kind l d name) := by
  rw [latest, List.reverse_append, List.find?_append, Option.map_or]
  rfl

theorem latest_eq_none {l : List (String × α)}
    (h : ∀ add ∈ l, add.1 = d → kind.name add.2 ≠ name) : latest kind l d name = none := by
  rw [latest, Option.map_eq_none_iff, List.find?_eq_none]
  intro add hadd
  rw [decide_eq_true_eq, not_and]
  exact h add (List.mem_reverse.mp hadd)

theorem latest_eq_some {l : List (String × α)} {entry : α} (hmem : (d, entry) ∈ l)
    (hname : kind.name entry = name)
    (hall : ∀ add ∈ l, add.1 = d → kind.name add.2 = name → add.2 = entry) :
    latest kind l d name = some entry := by
  have hsome : (l.reverse.find? fun add => add.1 = d ∧ kind.name add.2 = name).isSome := by
    rw [List.find?_isSome]
    exact ⟨(d, entry), List.mem_reverse.mpr hmem, by simp [hname]⟩
  obtain ⟨add, hadd⟩ := Option.isSome_iff_exists.mp hsome
  have hfound := List.find?_some hadd
  rw [decide_eq_true_eq] at hfound
  have hvalue := hall add (List.mem_reverse.mp (List.mem_of_find?_eq_some hadd)) hfound.1 hfound.2
  rw [latest, hadd, Option.map_some, hvalue]

/-! ## Entries in messages -/

/-- How the entries of a kind are read out of the messages, and that what is done with readings or
asked for is nothing to them. -/
structure Tracks (kind : EntryKind α) (entriesIn : DataMessage → List α) : Prop where
  own : ∀ entries, entriesIn (kind.message entries) = entries
  feedValues : ∀ readings, entriesIn (.feedValues readings) = []
  asks : ∀ message, message.asks → entriesIn message = []
  stored : ∀ p readings, kind.stored { p with readings := readings } = kind.stored p

/-- The two kinds are kept apart. -/
structure ApartFrom (kind : EntryKind α) (entriesIn : DataMessage → List α) (other : EntryKind β) :
    Prop where
  stored : ∀ p m, kind.stored (other.store p m) = kind.stored p
  message : ∀ entries, entriesIn (other.message entries) = []

theorem tracks_attributes : Tracks attributeKind DataMessage.attributes where
  own _ := rfl
  feedValues _ := rfl
  asks message h := by cases message <;> first | rfl | cases h
  stored _ _ := rfl

theorem tracks_parameters : Tracks parameterKind DataMessage.parameters where
  own _ := rfl
  feedValues _ := rfl
  asks message h := by cases message <;> first | rfl | cases h
  stored _ _ := rfl

theorem attributes_apart : ApartFrom attributeKind DataMessage.attributes parameterKind :=
  ⟨fun _ _ => rfl, fun _ => rfl⟩

theorem parameters_apart : ApartFrom parameterKind DataMessage.parameters attributeKind :=
  ⟨fun _ _ => rfl, fun _ => rfl⟩

/-- The entries that attempts took out of the store, each with its device: the message was published,
or it could not be made and the entries were given up. -/
def takenEntries (entriesIn : DataMessage → List α) (sends : List Send) : List (String × α) :=
  sends.flatMap fun send =>
    if send.outcome = .refused then []
    else (entriesIn send.message).map fun entry => (send.deviceKey, entry)

/-- Those that published messages carried. -/
def carriedEntries (entriesIn : DataMessage → List α) (sends : List Send) : List (String × α) :=
  sends.flatMap fun send =>
    if send.outcome = .published then
      (entriesIn send.message).map fun entry => (send.deviceKey, entry)
    else []

theorem takenEntries_append (entriesIn : DataMessage → List α) (sends more : List Send) :
    takenEntries entriesIn (sends ++ more) =
      takenEntries entriesIn sends ++ takenEntries entriesIn more :=
  List.flatMap_append

theorem takenEntries_eq_nil {sends : List Send} (h : ∀ send ∈ sends, entriesIn send.message = []) :
    takenEntries entriesIn sends = [] := by
  rw [takenEntries, List.flatMap_eq_nil_iff]
  intro send hsend
  rw [h send hsend, List.map_nil, ite_self]

theorem mem_takenEntries {sends : List Send} {add : String × α} : add ∈ takenEntries entriesIn sends ↔
    ∃ send ∈ sends, send.outcome ≠ .refused ∧ send.deviceKey = add.1 ∧
      add.2 ∈ entriesIn send.message := by
  rw [takenEntries, List.mem_flatMap]
  refine exists_congr fun send => and_congr_right fun _ => ?_
  obtain ⟨d, entry⟩ := add
  split_ifs with hrefused
  · simp [hrefused]
  · simp [hrefused, and_comm]

theorem latest_device (l : List (String × α)) (d name : String) :
    latest kind (l.filter fun put => put.1 = d) d name = latest kind l d name := by
  rw [latest, latest, ← List.filter_reverse, List.find?_filter]
  refine congrArg (Option.map Prod.snd) (congrArg (l.reverse.find? ·) (funext fun put => ?_))
  simp only [decide_eq_true_eq, decide_eq_decide]
  exact and_iff_right_of_imp fun h => h.1

/-- What a device has last was carried, while messages can be made for it. -/
theorem latest_carried {sends : List Send} (h : AllMade sends d) (kind : EntryKind α)
    (entriesIn : DataMessage → List α) (name : String) :
    latest kind (takenEntries entriesIn sends) d name =
      latest kind (carriedEntries entriesIn sends) d name := by
  rw [← latest_device, ← latest_device (carriedEntries _ _), takenEntries, carriedEntries,
    List.filter_flatMap, List.filter_flatMap]
  congr 1
  refine List.flatMap_congr fun send hsend => ?_
  by_cases hdevice : send.deviceKey = d
  · have hmade := h send hsend hdevice
    cases houtcome : send.outcome with
    | unserialisable => exact absurd houtcome hmade
    | published | refused => rfl
  · have hnone : ((entriesIn send.message).map fun entry => (send.deviceKey, entry)).filter
        (fun put => put.1 = d) = [] := by
      simp [List.filter_map, hdevice]
    split_ifs <;> simp only [hnone, List.filter_nil]

/-! ## Groups -/

theorem Filed.mem_entriesOf {p : Persistence} (h : Filed kind p) (hd : Plain d) {entry : α} :
    entry ∈ entriesOf kind p d ↔
      (kind.stored p).find? (makePersistenceKey d (kind.name entry)) = some entry := by
  rw [DataService.mem_entriesOf]
  constructor
  · rintro ⟨key, hfind, rfl⟩
    rw [← h.key hfind]
    exact hfind
  · exact fun hfind => ⟨_, hfind, deviceOf_make _ hd⟩

/-- Entries are sent by device, each group with all that its device has. -/
structure SendsGroups (kind : EntryKind α) (svc svc' : DataService ρ) (gs : List (String × List α))
    (outcome : String → Outcome) : Prop where
  sent : Sent kind svc svc' gs outcome
  groups : ∀ g ∈ gs, Plain g.1 ∧ g.2 = entriesOf kind svc.persistence g.1 ∧ g.2 ≠ []

theorem publishEntries_groups (ctx : DataContext) (kind : EntryKind α) (svc : DataService ρ) :
    ∃ gs outcome, SendsGroups kind svc (svc.publishEntries ctx kind) gs outcome := by
  obtain ⟨done, rest, outcome, hsplit, hsent, -⟩ :=
    publishGroups_spec ctx kind _ (nodup_keys_groups kind svc.persistence) svc
  refine ⟨done, outcome, hsent, fun g hg => ?_⟩
  have hmem : g ∈ (groups kind svc.persistence).entries := by
    rw [hsplit]
    exact List.mem_append_left _ hg
  rw [entries_groups] at hmem
  obtain ⟨d, hd, rfl⟩ := List.mem_map.mp hmem
  obtain ⟨key, -, -, rfl⟩ := mem_keys_groups.mp hd
  exact ⟨plain_deviceOf key, rfl, entriesOf_ne_nil.mpr hd⟩

theorem publishEntriesOf_groups (ctx : DataContext) (kind : EntryKind α) (svc : DataService ρ)
    (d : String) : ∃ gs outcome, SendsGroups kind svc (svc.publishEntriesOf ctx kind d) gs outcome := by
  by_cases hnil : entriesOf kind svc.persistence d = []
  · refine ⟨[], fun _ => .refused, ?_, by simp⟩
    rw [publishEntriesOf, if_pos hnil]
    exact .nil kind svc _
  · rw [publishEntriesOf_eq ctx kind svc hnil]
    refine ⟨_, _, .single kind svc _ _, fun g hg => ?_⟩
    rw [List.mem_singleton.mp hg]
    obtain ⟨entry, hentry⟩ := List.exists_mem_of_ne_nil _ hnil
    obtain ⟨key, -, rfl⟩ := DataService.mem_entriesOf.mp hentry
    exact ⟨plain_deviceOf key, rfl, hnil⟩

/-- The messages have taken the group of the device. -/
def TakesGroup (gs : List (String × List α)) (outcome : String → Outcome) (d : String) : Prop :=
  d ∈ gs.map Prod.fst ∧ outcome d ≠ .refused

/-- What a device had under a name when its group was taken is what the messages took. -/
theorem SendsGroups.latest (htracks : Tracks kind entriesIn) {gs : List (String × List α)}
    {outcome : String → Outcome} (h : SendsGroups kind svc svc' gs outcome)
    (hfiled : Filed kind svc.persistence) (hd : Plain d) (htakes : TakesGroup gs outcome d) :
    latest kind (takenEntries entriesIn
      (gs.map fun g => (⟨g.1, kind.message g.2, outcome g.1⟩ : Send))) d name =
        (kind.stored svc.persistence).find? (makePersistenceKey d name) := by
  have hmem : ∀ entry, (d, entry) ∈ takenEntries entriesIn
      (gs.map fun g => (⟨g.1, kind.message g.2, outcome g.1⟩ : Send)) ↔
        (kind.stored svc.persistence).find? (makePersistenceKey d (kind.name entry)) = some entry := by
    intro entry
    rw [← hfiled.mem_entriesOf hd, mem_takenEntries]
    constructor
    · rintro ⟨send, hsend, -, rfl, hentry⟩
      obtain ⟨g, hg, rfl⟩ := List.mem_map.mp hsend
      rw [htracks.own, (h.groups g hg).2.1] at hentry
      exact hentry
    · intro hentry
      obtain ⟨g, hg, rfl⟩ := List.mem_map.mp htakes.1
      refine ⟨_, List.mem_map_of_mem hg, htakes.2, rfl, ?_⟩
      rw [htracks.own, (h.groups g hg).2.1]
      exact hentry
  cases hfind : (kind.stored svc.persistence).find? (makePersistenceKey d name) with
  | none =>
    apply latest_eq_none
    rintro ⟨d', entry⟩ hadd rfl rfl
    rw [hmem, hfind] at hadd
    cases hadd
  | some entry =>
    have hname : kind.name entry = name := by
      have hkey := hfiled.key hfind
      rw [deviceOf_make _ hd] at hkey
      exact (make_inj hd hd hkey).2.symm
    refine latest_eq_some ((hmem entry).mpr (hname ▸ hfind)) hname ?_
    rintro ⟨d', entry'⟩ hadd rfl hname'
    rw [hmem, hname', hfind] at hadd
    exact (Option.some.inj hadd).symm

theorem latest_untaken {gs : List (String × List α)}
    {outcome : String → Outcome} (htakes : ¬ TakesGroup gs outcome d) :
    latest kind (takenEntries entriesIn
      (gs.map fun g => (⟨g.1, kind.message g.2, outcome g.1⟩ : Send))) d name = none := by
  apply latest_eq_none
  rintro ⟨d', entry⟩ hadd rfl
  obtain ⟨send, hsend, houtcome, hdevice, -⟩ := mem_takenEntries.mp hadd
  obtain ⟨g, hg, rfl⟩ := List.mem_map.mp hsend
  subst hdevice
  exact absurd ⟨List.mem_map_of_mem hg, houtcome⟩ htakes

/-- The store loses the groups that were taken, and nothing else. -/
theorem SendsGroups.find? {gs : List (String × List α)} {outcome : String → Outcome}
    (h : SendsGroups kind svc svc' gs outcome) (hfiled : Filed kind svc.persistence) (hd : Plain d)
    (name : String) : (TakesGroup gs outcome d →
      (kind.stored svc'.persistence).find? (makePersistenceKey d name) = none) ∧
    (¬ TakesGroup gs outcome d → (kind.stored svc'.persistence).find? (makePersistenceKey d name) =
      (kind.stored svc.persistence).find? (makePersistenceKey d name)) := by
  have hother : ∀ g ∈ gs, makePersistenceKey d name ∈ keysOf kind g → g.1 = d := by
    intro g hg hkey
    obtain ⟨entry, -, heq⟩ := List.mem_map.mp hkey
    exact (make_inj (h.groups g hg).1 hd heq).1
  constructor
  · intro htakes
    obtain ⟨g, hg, rfl⟩ := List.mem_map.mp htakes.1
    by_cases hkey : makePersistenceKey g.1 name ∈ keysOf kind g
    · exact h.sent.removed g hg htakes.2 _ hkey
    · have hkept := h.sent.kept (makePersistenceKey g.1 name) fun g' hg' _ hmem => hkey (by
        have hsame : g' = g := Prod.ext (hother g' hg' hmem) (by
          rw [(h.groups g' hg').2.1, (h.groups g hg).2.1, hother g' hg' hmem])
        rwa [hsame] at hmem)
      rw [hkept, Option.eq_none_iff_forall_ne_some]
      intro entry hfind
      have hname := hfiled.key hfind
      rw [deviceOf_make _ hd] at hname
      apply hkey
      rw [hname]
      refine List.mem_map_of_mem ?_
      rw [(h.groups g hg).2.1, hfiled.mem_entriesOf hd, ← hname]
      exact hfind
  · intro htakes
    refine h.sent.kept _ fun g hg houtcome hmem => htakes ?_
    obtain rfl := hother g hg hmem
    exact ⟨List.mem_map_of_mem hg, houtcome⟩

theorem SendsGroups.filed {gs : List (String × List α)} {outcome : String → Outcome}
    (h : SendsGroups kind svc svc' gs outcome) (hfiled : Filed kind svc.persistence) :
    Filed kind svc'.persistence := by
  intro key entry hfind
  by_cases hremoved : ∃ g ∈ gs, outcome g.1 ≠ .refused ∧ key ∈ keysOf kind g
  · obtain ⟨g, hg, houtcome, hkey⟩ := hremoved
    rw [h.sent.removed g hg houtcome key hkey] at hfind
    cases hfind
  · push Not at hremoved
    rw [h.sent.kept key hremoved] at hfind
    exact hfiled key entry hfind

/-! ## Calls that are not about entries -/

/-- Only readings are stored or dropped, and only readings are sent, and what asks for something for
these devices. -/
structure Neutral (ds : List String) (svc svc' : DataService ρ) : Prop where
  persistence : ∃ readings, svc'.persistence = { svc.persistence with readings := readings }
  sends : ∃ more, svc'.sends = svc.sends ++ more ∧ ∀ send ∈ more,
    send.message.asks ∧ send.deviceKey ∈ ds ∨ ∃ readings, send.message = .feedValues readings

variable {ds : List String}

theorem Neutral.refl (svc : DataService ρ) : Neutral ds svc svc :=
  ⟨⟨_, rfl⟩, [], (List.append_nil _).symm, by simp⟩

theorem Neutral.trans {svc'' : DataService ρ} (h : Neutral ds svc svc') (h' : Neutral ds svc' svc'') :
    Neutral ds svc svc'' := by
  obtain ⟨⟨readings, hp⟩, more, hs, hmore⟩ := h
  obtain ⟨⟨readings', hp'⟩, more', hs', hmore'⟩ := h'
  refine ⟨⟨readings', by rw [hp', hp]⟩, more ++ more', by rw [hs', hs, List.append_assoc], ?_⟩
  intro send hsend
  exact (List.mem_append.mp hsend).elim (hmore send) (hmore' send)

theorem OnlyAsks.neutral (h : OnlyAsks ds svc svc') : Neutral ds svc svc' := by
  obtain ⟨hp, more, hs, hmore⟩ := h
  exact ⟨⟨svc.persistence.readings, hp⟩, more, hs, fun send hsend => .inl (hmore send hsend)⟩

theorem neutral_addReading (svc : DataService ρ) (d : String) (reading : Reading) :
    Neutral ds svc (svc.addReading d reading) :=
  ⟨⟨_, rfl⟩, [], (List.append_nil _).symm, by simp⟩

theorem neutral_addReadings (svc : DataService ρ) (d : String) (readings : List Reading) :
    Neutral ds svc (svc.addReadings d readings) :=
  List.foldlRecOn (motive := Neutral ds svc) _ _ (.refl svc) fun _ h reading _ =>
    h.trans (neutral_addReading _ d reading)

theorem neutral_removeReadings (svc : DataService ρ) (key : String) :
    Neutral ds svc (svc.removeReadings key) := by
  refine ⟨?_, [], (List.append_nil _).symm, by simp⟩
  rw [removeReadings, Persistence.removeReadings]
  cases svc.persistence.readings.find? key with
  | none => exact ⟨svc.persistence.readings, rfl⟩
  | some readings => exact ⟨_, rfl⟩

theorem neutral_send (svc : DataService ρ) (d : String) (readings : List Reading) :
    Neutral ds svc (svc.send ctx d (.feedValues readings)).2 :=
  ⟨⟨_, rfl⟩, _, rfl, by simp⟩

theorem neutral_publishReadingsForPersistenceKey (svc : DataService ρ) (key : String) :
    Neutral ds svc (svc.publishReadingsForPersistenceKey ctx key) := by
  fun_induction publishReadingsForPersistenceKey ctx svc key with
  | case1 | case2 => exact .refl _
  | case3 svc => exact (neutral_send svc _ _).trans (neutral_removeReadings _ key)
  | case4 svc => exact neutral_send svc _ _
  | case5 svc readings hne deviceKey hdevice sent hout ih =>
    exact ((neutral_send svc _ _).trans (neutral_removeReadings _ key)).trans ih

theorem neutral_publishReadings (svc : DataService ρ) : Neutral ds svc (svc.publishReadings ctx) :=
  List.foldlRecOn (motive := Neutral ds svc) _ _ (.refl svc) fun _ h key _ =>
    h.trans (neutral_publishReadingsForPersistenceKey _ key)

/-- What a call does to the entries: it puts one, or it sends groups of one kind, or it is not about
entries. -/
theorem perform_cases (ctx : DataContext) (svc : DataService ρ) (op : DataOperation ρ) :
    (∃ d entry, op = .addAttribute d entry) ∨ (∃ d parameter, op = .updateParameter d parameter) ∨
    op.attributes = [] ∧ op.parameters = [] ∧
      ((∃ gs outcome, SendsGroups attributeKind svc (svc.perform ctx op) gs outcome) ∨
        (∃ gs outcome, SendsGroups parameterKind svc (svc.perform ctx op) gs outcome) ∨
        Neutral op.otherKeys svc (svc.perform ctx op)) := by
  cases op with
  | addAttribute d entry => exact .inl ⟨d, entry, rfl⟩
  | updateParameter d parameter => exact .inr (.inl ⟨d, parameter, rfl⟩)
  | publishAttributes =>
    exact .inr (.inr ⟨rfl, rfl, .inl (publishEntries_groups ctx attributeKind svc)⟩)
  | publishAttributesOf d =>
    exact .inr (.inr ⟨rfl, rfl, .inl (publishEntriesOf_groups ctx attributeKind svc d)⟩)
  | publishParameters =>
    exact .inr (.inr ⟨rfl, rfl, .inr (.inl (publishEntries_groups ctx parameterKind svc))⟩)
  | publishParametersOf d =>
    exact .inr (.inr ⟨rfl, rfl, .inr (.inl (publishEntriesOf_groups ctx parameterKind svc d))⟩)
  | addReading d reading =>
    exact .inr (.inr ⟨rfl, rfl, .inr (.inr (neutral_addReading svc d reading))⟩)
  | addReadings d readings =>
    exact .inr (.inr ⟨rfl, rfl, .inr (.inr (neutral_addReadings svc d readings))⟩)
  | publishReadings => exact .inr (.inr ⟨rfl, rfl, .inr (.inr (neutral_publishReadings svc))⟩)
  | publishReadingsOf d =>
    exact .inr (.inr ⟨rfl, rfl, .inr (.inr (neutral_publishReadingsForPersistenceKey svc d))⟩)
  | synchronizeParameters d parameters callback =>
    exact .inr (.inr ⟨rfl, rfl, .inr (.inr
      (synchronizeParameters_onlyAsks ctx svc d parameters callback).neutral)⟩)
  | detailsSynchronizationAsync d callback =>
    exact .inr (.inr ⟨rfl, rfl, .inr (.inr
      (detailsSynchronizationAsync_onlyAsks ctx svc d callback).neutral)⟩)
  | messageReceived d message =>
    exact .inr (.inr ⟨rfl, rfl, .inr (.inr (messageReceived_onlyAsks ctx svc d message).neutral)⟩)
  | runCommand =>
    have hsilent : OnlyAsks [] svc (svc.perform ctx .runCommand) := .silent rfl rfl
    exact .inr (.inr ⟨rfl, rfl, .inr (.inr hsilent.neutral)⟩)

/-! ## Any calls -/

/-- The entry that was put last for a device and a name is in the store, or it was the last one that was
taken out of it. -/
structure Current (kind : EntryKind α) (entriesIn : DataMessage → List α)
    (puts : List (String × α)) (svc : DataService ρ) : Prop where
  filed : Filed kind svc.persistence
  current : ∀ d name, Plain d →
    (kind.stored svc.persistence).find? (makePersistenceKey d name) = latest kind puts d name ∨
    (kind.stored svc.persistence).find? (makePersistenceKey d name) = none ∧
      latest kind (takenEntries entriesIn svc.sends) d name = latest kind puts d name

theorem current_create (kind : EntryKind α) (entriesIn : DataMessage → List α) :
    Current kind entriesIn [] (create .empty : DataService ρ) where
  filed key entry h := by
    rw [create, kind.stored_empty] at h
    cases h
  current d name _ := by
    rw [create, kind.stored_empty]
    exact .inl rfl

theorem Current.putEntry (h : Current kind entriesIn puts svc) (hd : Plain d) (entry : α) :
    Current kind entriesIn (puts ++ [(d, entry)]) (svc.putEntry kind d entry) where
  filed := h.filed.putEntry hd entry
  current d' name hd' := by
    rw [DataService.putEntry, kind.stored_store, OrderedMap.find?_insert, latest_append]
    have hiff : makePersistenceKey d (kind.name entry) = makePersistenceKey d' name ↔
        d = d' ∧ kind.name entry = name :=
      ⟨make_inj hd hd', by rintro ⟨rfl, rfl⟩; rfl⟩
    simp only [hiff]
    split_ifs
    · exact .inl rfl
    · exact h.current d' name hd'

theorem Current.groups (htracks : Tracks kind entriesIn) (h : Current kind entriesIn puts svc)
    {gs : List (String × List α)} {outcome : String → Outcome}
    (hgroups : SendsGroups kind svc svc' gs outcome) : Current kind entriesIn puts svc' where
  filed := hgroups.filed h.filed
  current d name hd := by
    obtain ⟨hgone, hkept⟩ := hgroups.find? h.filed hd name
    rw [hgroups.sent.sends, takenEntries_append, latest_append_list]
    by_cases htakes : TakesGroup gs outcome d
    · rw [hgone htakes, hgroups.latest htracks h.filed hd htakes]
      rcases h.current d name hd with hstored | ⟨hnone, htaken⟩
      · cases hfind : (kind.stored svc.persistence).find? (makePersistenceKey d name) with
        | none => exact .inl (hfind.symm.trans hstored)
        | some entry => exact .inr ⟨rfl, hfind.symm.trans hstored⟩
      · rw [hnone]
        exact .inr ⟨rfl, htaken⟩
    · rw [hkept htakes, latest_untaken htakes]
      exact h.current d name hd

/-- Nothing changes for a kind when its store is kept and the messages have no entries of it. -/
theorem Current.keep (h : Current kind entriesIn puts svc)
    (hstored : kind.stored svc'.persistence = kind.stored svc.persistence)
    (hsends : ∃ more, svc'.sends = svc.sends ++ more ∧ ∀ send ∈ more, entriesIn send.message = []) :
    Current kind entriesIn puts svc' where
  filed key entry hfind := h.filed key entry (hstored ▸ hfind)
  current d name hd := by
    obtain ⟨more, hsends, hmore⟩ := hsends
    rw [hstored, hsends, takenEntries_append, takenEntries_eq_nil hmore, List.append_nil]
    exact h.current d name hd

/-- What every kind of entries takes no notice of. -/
theorem Current.neutral (htracks : Tracks kind entriesIn) (h : Current kind entriesIn puts svc)
    (hneutral : Neutral ds svc svc') : Current kind entriesIn puts svc' := by
  obtain ⟨⟨readings, hpersistence⟩, more, hsends, hmore⟩ := hneutral
  refine h.keep (by rw [hpersistence, htracks.stored]) ⟨more, hsends, fun send hsend => ?_⟩
  rcases hmore send hsend with hasks | ⟨readings, hmessage⟩
  · exact htracks.asks _ hasks.1
  · rw [hmessage, htracks.feedValues]

theorem Current.otherGroups (hapart : ApartFrom kind entriesIn other)
    (h : Current kind entriesIn puts svc) {gs : List (String × List β)} {outcome : String → Outcome}
    (hgroups : SendsGroups other svc svc' gs outcome) : Current kind entriesIn puts svc' := by
  refine h.keep ?_ ⟨_, hgroups.sent.sends, fun send hsend => ?_⟩
  · rw [hgroups.sent.persistence, hapart.stored]
  · obtain ⟨g, -, rfl⟩ := List.mem_map.mp hsend
    exact hapart.message g.2

/-- The entry of another kind is put elsewhere. -/
theorem Current.otherPut (hapart : ApartFrom kind entriesIn other)
    (h : Current kind entriesIn puts svc) (d : String) (entry : β) :
    Current kind entriesIn puts (svc.putEntry other d entry) :=
  h.keep (hapart.stored _ _) ⟨[], (List.append_nil _).symm, by simp⟩

/-- Over any calls, the attributes and the parameters that were put last are in the store, or were the
last ones that were taken out of it. -/
theorem current_performed (ctx : DataContext) (ops : List (DataOperation ρ))
    (hattributes : ∀ put ∈ ops.flatMap DataOperation.attributes, Plain put.1)
    (hparameters : ∀ put ∈ ops.flatMap DataOperation.parameters, Plain put.1) :
    Current attributeKind DataMessage.attributes (ops.flatMap DataOperation.attributes)
        (performed ctx ops) ∧
      Current parameterKind DataMessage.parameters (ops.flatMap DataOperation.parameters)
        (performed ctx ops) := by
  induction ops using List.reverseRecOn with
  | nil => exact ⟨current_create _ _, current_create _ _⟩
  | append_singleton ops op ih =>
    rw [List.flatMap_append, List.flatMap_singleton] at hattributes hparameters ⊢
    rw [List.flatMap_append, List.flatMap_singleton, performed_append]
    obtain ⟨hattribute, hparameter⟩ :=
      ih (fun put hput => hattributes put (List.mem_append_left _ hput))
        fun put hput => hparameters put (List.mem_append_left _ hput)
    rcases perform_cases ctx (performed ctx ops) op with
      ⟨d, entry, rfl⟩ | ⟨d, parameter, rfl⟩ | ⟨hnone, hnone', hcases⟩
    · have hd : Plain d := hattributes (d, entry) (List.mem_append_right _ List.mem_cons_self)
      have hnone : (DataOperation.addAttribute d entry : DataOperation ρ).parameters = [] := rfl
      refine ⟨hattribute.putEntry hd entry, ?_⟩
      rw [hnone, List.append_nil]
      exact hparameter.otherPut parameters_apart d entry
    · have hd : Plain d := hparameters (d, parameter) (List.mem_append_right _ List.mem_cons_self)
      have hnone : (DataOperation.updateParameter d parameter : DataOperation ρ).attributes = [] := rfl
      refine ⟨?_, hparameter.putEntry hd parameter⟩
      rw [hnone, List.append_nil]
      exact hattribute.otherPut attributes_apart d parameter
    · rw [hnone, hnone', List.append_nil, List.append_nil]
      rcases hcases with ⟨gs, outcome, hgroups⟩ | ⟨gs, outcome, hgroups⟩ | hneutral
      · exact ⟨hattribute.groups tracks_attributes hgroups,
          hparameter.otherGroups parameters_apart hgroups⟩
      · exact ⟨hattribute.otherGroups attributes_apart hgroups,
          hparameter.groups tracks_parameters hgroups⟩
      · exact ⟨hattribute.neutral tracks_attributes hneutral,
          hparameter.neutral tracks_parameters hneutral⟩

end DataService

end WolkConnect
