import WolkConnect.Data.Entries

/-!
# All devices at once and device by device

`publishAttributes()` and `publishParameters()` against a call of the overload for
one device for each device in the store. Both sides are described by `Sent`.
-/

namespace WolkConnect.DataService

variable {ρ α : Type} {kind : EntryKind α} {svc svc' svc'' : DataService ρ} {ds : List String}

theorem Sent.unique {gs : List (String × List α)} {outcome : String → Outcome}
    (h : Sent kind svc svc' gs outcome) (h' : Sent kind svc svc'' gs outcome) :
    svc'.sends = svc''.sends ∧ svc'.persistence = svc''.persistence := by
  have hstored : kind.stored svc'.persistence = kind.stored svc''.persistence := by
    apply OrderedMap.ext_find?
    intro key
    by_cases hkey : ∃ g ∈ gs, outcome g.1 ≠ .refused ∧ key ∈ keysOf kind g
    · obtain ⟨g, hg, hne, hmem⟩ := hkey
      rw [h.removed g hg hne key hmem, h'.removed g hg hne key hmem]
    · push Not at hkey
      rw [h.kept key hkey, h'.kept key hkey]
  refine ⟨h.sends.trans h'.sends.symm, ?_⟩
  rw [h.persistence, h'.persistence, hstored]

/-! ## Stores and outcomes -/

/-- The devices that have an entry in the store, in the order of their keys. -/
structure Devices (kind : EntryKind α) (p : Persistence) (ds : List String) : Prop where
  sorted : ds.Pairwise (· < ·)
  mem : ∀ d, d ∈ ds ↔ Plain d ∧ ∃ name, ((kind.stored p).find? (makePersistenceKey d name)).isSome

/-- Whether a message is made and whether it is published depends on the device. -/
def byDevice (serialises accepts : String → Bool) : DataContext where
  makeOutboundMessage _ deviceKey _ := serialises deviceKey
  publish _ deviceKey _ := accepts deviceKey
  feedUpdateHandler := true
  parameterSyncHandler := true
  detailsSyncHandler := true

/-- The messages that were handed to `publish`, with its results. -/
def handed (svc : DataService ρ) : List Send :=
  svc.sends.filter fun send => send.outcome ≠ .unserialisable

/-- The same messages and the same store. -/
structure Agree (svc svc' : DataService ρ) : Prop where
  handed : svc.handed = svc'.handed
  persistence : svc.persistence = svc'.persistence

theorem Devices.eq_keys {p : Persistence} (hfiled : Filed kind p) (hds : Devices kind p ds) :
    ds = (groups kind p).keys := by
  have hmem : ∀ d, d ∈ ds ↔ d ∈ (groups kind p).keys := by
    intro d
    rw [hds.mem, mem_keys_groups]
    constructor
    · rintro ⟨hd, name, hname⟩
      obtain ⟨entry, hentry⟩ := Option.isSome_iff_exists.mp hname
      exact ⟨_, entry, hentry, deviceOf_make name hd⟩
    · rintro ⟨key, entry, hfind, rfl⟩
      refine ⟨plain_deviceOf key, kind.name entry, ?_⟩
      rw [← hfiled.key hfind, hfind]
      rfl
  have hperm : ds.Perm (groups kind p).keys :=
    (List.perm_ext_iff_of_nodup (hds.sorted.imp ne_of_lt) (nodup_keys_groups kind p)).mpr hmem
  exact hperm.eq_of_pairwise (fun _ _ _ _ hab hba => absurd hab hba.not_gt) hds.sorted
    (OrderedMap.keys_sorted _)

/-! ## The two ways to publish -/

def outcomeByDevice (serialises accepts : String → Bool) (d : String) : Outcome :=
  if serialises d then if accepts d then .published else .refused else .unserialisable

variable {serialises accepts : String → Bool}

theorem outcome_byDevice (n : Nat) (d : String) (message : DataMessage) :
    (byDevice serialises accepts).outcome n d message = outcomeByDevice serialises accepts d := rfl

theorem outcomeByDevice_eq (d : String) :
    outcomeByDevice serialises accepts d = .unserialisable ↔ serialises d = false := by
  unfold outcomeByDevice
  split_ifs with hs ha <;> simp [hs]

theorem handed_of_sent {gs : List (String × List α)} {outcome : String → Outcome}
    (h : Sent kind svc svc' gs outcome) : svc'.handed = svc.handed ++
      (gs.map fun g => (⟨g.1, kind.message g.2, outcome g.1⟩ : Send)).filter
        fun send => send.outcome ≠ .unserialisable := by
  rw [handed, h.sends, List.filter_append]
  rfl

/-- What the one call sends is a first part of what the calls device by device send. -/
theorem publish_both (kind : EntryKind α) (serialises accepts : String → Bool) (svc : DataService ρ)
    (hfiled : Filed kind svc.persistence)
    (hds : Devices kind svc.persistence ds) :
    ∃ done rest, ds.map (fun d => (d, entriesOf kind svc.persistence d)) = done ++ rest ∧
      Sent kind svc (svc.publishEntries (byDevice serialises accepts) kind) done
        (outcomeByDevice serialises accepts) ∧
      Sent kind svc (ds.foldl (publishEntriesOf (byDevice serialises accepts) kind) svc)
        (done ++ rest) (outcomeByDevice serialises accepts) ∧
      (∀ g ∈ done.dropLast, serialises g.1 = true) ∧
      (rest ≠ [] → ∃ g ∈ done, serialises g.1 = false) := by
  have hkeys := hds.eq_keys hfiled
  have hgroups : (groups kind svc.persistence).entries =
      ds.map fun d => (d, entriesOf kind svc.persistence d) := hkeys ▸ entries_groups kind _
  have hnodup : ds.Nodup := hds.sorted.imp ne_of_lt
  obtain ⟨done, rest, outcome, hsplit, hsent, hout, hgood, hstop⟩ :=
    publishGroups_spec (byDevice serialises accepts) kind (groups kind svc.persistence).entries
      (nodup_keys_groups kind _) svc
  obtain ⟨outcome', hsent', hout'⟩ :=
    foldl_publishEntriesOf_spec (byDevice serialises accepts) kind hnodup svc fun d hd => by
      refine ⟨((hds.mem d).mp hd).1, ?_⟩
      rw [entriesOf_ne_nil, ← hkeys]
      exact hd
  have hsame : ∀ g ∈ done, outcome g.1 = outcomeByDevice serialises accepts g.1 := by
    intro g hg
    obtain ⟨n, hn⟩ := hout g hg
    exact hn.trans (outcome_byDevice n _ _)
  rw [hgroups] at hsplit
  refine ⟨done, rest, hsplit, ?_, ?_, fun g hg => ?_, fun hrest => ?_⟩
  · exact hsent.congr hsame
  · rw [hsplit] at hsent'
    refine hsent'.congr fun g hg => ?_
    rw [← hsplit] at hg
    obtain ⟨d, hd, rfl⟩ := List.mem_map.mp hg
    obtain ⟨n, hn⟩ := hout' d hd
    exact hn.trans (outcome_byDevice n _ _)
  · have hne := hgood g hg
    rw [hsame g (List.dropLast_subset _ hg), ne_eq, outcomeByDevice_eq] at hne
    simpa using hne
  · obtain ⟨g, hg, hun⟩ := hstop hrest
    rw [hsame g hg, outcomeByDevice_eq] at hun
    exact ⟨g, hg, hun⟩

theorem map_fst_entriesOf (kind : EntryKind α) (p : Persistence) (ds : List String) :
    (ds.map fun d => (d, entriesOf kind p d)).map Prod.fst = ds := by
  rw [List.map_map]
  exact List.map_id ds

/-- A group that only one of the two has reached: its message has been handed to `publish`, or its
entries are gone, on one side only. -/
theorem rest_eq_nil (hfiled : Filed kind svc.persistence) (hds : Devices kind svc.persistence ds)
    {done rest : List (String × List α)} {outcome : String → Outcome}
    (hsplit : ds.map (fun d => (d, entriesOf kind svc.persistence d)) = done ++ rest)
    (h : Sent kind svc svc' done outcome) (h' : Sent kind svc svc'' (done ++ rest) outcome)
    (hagree : Agree svc' svc'') : rest = [] := by
  have hnone : ∀ g ∈ rest, outcome g.1 = .unserialisable := by
    have hhanded := hagree.handed
    rw [handed_of_sent h, handed_of_sent h', List.map_append, List.filter_append, ← List.append_assoc,
      List.self_eq_append_right, List.filter_eq_nil_iff] at hhanded
    intro g hg
    simpa using hhanded _ (List.mem_map_of_mem hg)
  have hnodup : ((done ++ rest).map Prod.fst).Nodup := by
    rw [← hsplit, map_fst_entriesOf]
    exact hds.sorted.imp ne_of_lt
  apply List.eq_nil_iff_forall_not_mem.mpr
  intro g hg
  have hall : g ∈ done ++ rest := List.mem_append_right _ hg
  obtain ⟨d, hd, rfl⟩ := List.mem_map.mp (hsplit ▸ hall)
  obtain ⟨hplain, name, hname⟩ := (hds.mem d).mp hd
  obtain ⟨entry, hentry⟩ := Option.isSome_iff_exists.mp hname
  have hkey := hfiled.key hentry
  rw [deviceOf_make _ hplain] at hkey
  have hmem : makePersistenceKey d name ∈ keysOf kind (d, entriesOf kind svc.persistence d) := by
    rw [hkey]
    exact List.mem_map_of_mem (mem_entriesOf.mpr ⟨_, hentry, deviceOf_make name hplain⟩)
  have hgone := h'.removed _ hall (by rw [hnone _ hg]; decide) _ hmem
  rw [← hagree.persistence, h.kept, hentry] at hgone
  · cases hgone
  · intro g' hg' _ hmem'
    obtain ⟨e, -, he⟩ := List.mem_map.mp hmem'
    have hplain' : Plain g'.1 := by
      obtain ⟨d', hd', rfl⟩ := List.mem_map.mp (hsplit ▸ List.mem_append_left rest hg')
      exact ((hds.mem d').mp hd').1
    rw [List.map_append, List.nodup_append] at hnodup
    exact hnodup.2.2 _ (List.mem_map_of_mem hg') _ (List.mem_map_of_mem hg)
      (make_inj hplain' hplain he).1

theorem publishEntries_agrees_iff (kind : EntryKind α) (serialises accepts : String → Bool)
    (svc : DataService ρ) (hfiled : Filed kind svc.persistence)
    (hds : Devices kind svc.persistence ds) :
    Agree (svc.publishEntries (byDevice serialises accepts) kind)
        (ds.foldl (publishEntriesOf (byDevice serialises accepts) kind) svc) ↔
      ∀ d ∈ ds.dropLast, serialises d = true := by
  obtain ⟨done, rest, hsplit, hone, hall, hgood, hstop⟩ :=
    publish_both kind serialises accepts svc hfiled hds
  have hlist : ds = (done ++ rest).map Prod.fst := by
    rw [← hsplit, map_fst_entriesOf]
  constructor
  · intro hagree d hd
    have hrest := rest_eq_nil hfiled hds hsplit hone hall hagree
    rw [hlist, hrest, List.append_nil, ← List.map_dropLast] at hd
    obtain ⟨g, hg, rfl⟩ := List.mem_map.mp hd
    exact hgood g hg
  · intro hser
    have hrest : rest = [] := by
      by_contra hne
      obtain ⟨g, hg, hun⟩ := hstop hne
      have hmem : g.1 ∈ ds.dropLast := by
        rw [hlist, ← List.map_dropLast, List.dropLast_append_of_ne_nil hne]
        exact List.mem_map_of_mem (List.mem_append_left _ hg)
      rw [hser _ hmem] at hun
      cases hun
    rw [hrest, List.append_nil] at hall
    obtain ⟨hsends, hpersistence⟩ := hone.unique hall
    exact ⟨congrArg (List.filter _) hsends, hpersistence⟩

/-- **All at once and device by device.** Publishing all attributes, or all parameters, agrees with
publishing them device by device if and only if no device but the last one has a message that
cannot be made. -/
theorem publishAll_agrees_iff (serialises accepts : String → Bool) (svc : DataService ρ)
    (ds : List String) :
    (Filed attributeKind svc.persistence → Devices attributeKind svc.persistence ds →
      (Agree (svc.publishAttributes (byDevice serialises accepts))
          (ds.foldl (publishAttributesOf (byDevice serialises accepts)) svc) ↔
        ∀ d ∈ ds.dropLast, serialises d = true)) ∧
    (Filed parameterKind svc.persistence → Devices parameterKind svc.persistence ds →
      (Agree (svc.publishParameters (byDevice serialises accepts))
          (ds.foldl (publishParametersOf (byDevice serialises accepts)) svc) ↔
        ∀ d ∈ ds.dropLast, serialises d = true)) :=
  ⟨fun hfiled hds => publishEntries_agrees_iff attributeKind serialises accepts svc hfiled hds,
    fun hfiled hds => publishEntries_agrees_iff parameterKind serialises accepts svc hfiled hds⟩

/-- Two devices with an attribute each. -/
def twoDevices : DataService Unit :=
  ((DataService.create .empty).addAttribute "a" ⟨"x", "1"⟩).addAttribute "b" ⟨"x", "2"⟩

theorem filed_twoDevices : Filed attributeKind twoDevices.persistence :=
  Filed.putEntry (Filed.putEntry (fun _ _ h => by cases h) (by decide) _) (by decide) _

theorem devices_twoDevices : Devices attributeKind twoDevices.persistence ["a", "b"] where
  sorted := by decide
  mem d := by
    simp only [twoDevices, addAttribute, putEntry, attributeKind, OrderedMap.find?_insert, create,
      Persistence.empty, OrderedMap.find?_empty, List.mem_cons, List.not_mem_nil, or_false]
    constructor
    · rintro (rfl | rfl)
      · exact ⟨by decide, "x", by decide⟩
      · exact ⟨by decide, "x", by decide⟩
    · rintro ⟨hd, name, hname⟩
      split_ifs at hname with hb ha
      · exact Or.inr (make_inj (by decide) hd hb).1.symm
      · exact Or.inl (make_inj (by decide) hd ha).1.symm
      · cases hname

theorem publishAll_agrees_iff_sample :
    Agree (twoDevices.publishAttributes (byDevice (fun d => d = "a") fun _ => true))
        (["a", "b"].foldl (publishAttributesOf (byDevice (fun d => d = "a") fun _ => true)) twoDevices) ↔
      ∀ d ∈ ["a", "b"].dropLast, decide (d = "a") = true :=
  (publishAll_agrees_iff (fun d => d = "a") (fun _ => true) twoDevices ["a", "b"]).1 filed_twoDevices
    devices_twoDevices

/-- The first of two devices does not serialise, and the second is not reached. -/
theorem publishAttributes_stops :
    Filed attributeKind twoDevices.persistence ∧
      Devices attributeKind twoDevices.persistence ["a", "b"] ∧
      ¬ Agree (twoDevices.publishAttributes (byDevice (fun d => d = "b") fun _ => true))
        (["a", "b"].foldl (publishAttributesOf (byDevice (fun d => d = "b") fun _ => true))
          twoDevices) := by
  refine ⟨filed_twoDevices, devices_twoDevices, fun h => ?_⟩
  have hkeys := congrArg (fun p => p.attributes.keys) h.persistence
  revert hkeys
  decide +kernel

end WolkConnect.DataService
