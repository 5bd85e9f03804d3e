import WolkConnect.Data.Entries
import Mathlib.Data.Set.Basic

/-!
# Devices are isolated in the persistence

The entries of a device are kept apart from those of the others as far as the keys
tell devices apart.
-/

namespace WolkConnect.DataService

variable {ρ α : Type} {ctx : DataContext} {kind : EntryKind α} {svc svc' : DataService ρ}

/-- A service in which entries have been put, each for a device. -/
def withEntries (kind : EntryKind α) (adds : List (String × α)) : DataService ρ :=
  adds.foldl (fun svc add => svc.putEntry kind add.1 add.2) (.create .empty)

/-- The entry of this name that was put last for the device. -/
def latest (kind : EntryKind α) (adds : List (String × α)) (d name : String) : Option α :=
  (adds.reverse.find? fun add => add.1 = d ∧ kind.name add.2 = name).map Prod.snd

/-- The message is for the device and has the entry in it. -/
def Carries (kind : EntryKind α) (send : Send) (d : String) (entry : α) : Prop :=
  send.deviceKey = d ∧ ∃ entries, send.message = kind.message entries ∧ entry ∈ entries

/-- Of the entries that were put, those of the targeted devices have been sent, unless a message could
not be made, each under the device that it was put for. Those whose message was published, or could
not be made, have been removed, and no others. -/
structure Routed (kind : EntryKind α) (adds : List (String × α)) (target : String → Prop)
    (svc : DataService ρ) : Prop where
  own : ∀ send ∈ svc.sends, ∀ d entry, Carries kind send d entry →
    latest kind adds d (kind.name entry) = some entry
  complete : (∀ send ∈ svc.sends, send.outcome ≠ .unserialisable) →
    ∀ d entry, target d → latest kind adds d (kind.name entry) = some entry →
      ∃ send ∈ svc.sends, Carries kind send d entry
  removed : ∀ d entry, latest kind adds d (kind.name entry) = some entry →
    (∃ send ∈ svc.sends, Carries kind send d entry ∧ send.outcome ≠ .refused) →
    (kind.stored svc.persistence).find? (makePersistenceKey d (kind.name entry)) = none
  kept : ∀ d entry, latest kind adds d (kind.name entry) = some entry →
    (¬ ∃ send ∈ svc.sends, Carries kind send d entry ∧ send.outcome ≠ .refused) →
    (kind.stored svc.persistence).find? (makePersistenceKey d (kind.name entry)) = some entry

theorem withEntries_append (kind : EntryKind α) (adds : List (String × α)) (add : String × α) :
    (withEntries kind (adds ++ [add]) : DataService ρ) =
      (withEntries kind adds).putEntry kind add.1 add.2 := by
  simp [withEntries]

theorem latest_append (kind : EntryKind α) (adds : List (String × α)) (add : String × α)
    (d name : String) : latest kind (adds ++ [add]) d name =
      if add.1 = d ∧ kind.name add.2 = name then some add.2 else latest kind adds d name := by
  simp only [latest, List.reverse_append, List.reverse_singleton, List.singleton_append,
    List.find?_cons]
  by_cases h : add.1 = d ∧ kind.name add.2 = name
  · simp [h]
  · simp [h]

theorem sends_withEntries (kind : EntryKind α) (adds : List (String × α)) :
    (withEntries kind adds : DataService ρ).sends = [] := by
  induction adds using List.reverseRecOn with
  | nil => rfl
  | append_singleton adds add ih =>
    rw [withEntries_append]
    exact ih

variable {adds : List (String × α)}

theorem filed_withEntries (hadds : ∀ add ∈ adds, Plain add.1) :
    Filed kind (withEntries kind adds : DataService ρ).persistence := by
  induction adds using List.reverseRecOn with
  | nil =>
    intro key entry h
    rw [withEntries, List.foldl_nil, create, kind.stored_empty] at h
    cases h
  | append_singleton adds add ih =>
    rw [withEntries_append]
    refine Filed.putEntry (ih fun a ha => hadds a (List.mem_append_left _ ha)) ?_ _
    exact hadds add (List.mem_append_right _ List.mem_cons_self)

/-- The store has under each key what was put last for the device and the name. -/
theorem find?_withEntries (hadds : ∀ add ∈ adds, Plain add.1) {d : String} (hd : Plain d)
    (name : String) :
    (kind.stored (withEntries kind adds : DataService ρ).persistence).find? (makePersistenceKey d name) =
      latest kind adds d name := by
  induction adds using List.reverseRecOn with
  | nil =>
    rw [withEntries, List.foldl_nil, create, kind.stored_empty]
    rfl
  | append_singleton adds add ih =>
    have hadd : Plain add.1 := hadds add (List.mem_append_right _ List.mem_cons_self)
    rw [withEntries_append, putEntry, kind.stored_store, OrderedMap.find?_insert,
      ih fun a ha => hadds a (List.mem_append_left _ ha), latest_append]
    apply if_congr _ rfl rfl
    constructor
    · exact make_inj hadd hd
    · rintro ⟨rfl, rfl⟩
      rfl

theorem mem_entriesOf_withEntries (hadds : ∀ add ∈ adds, Plain add.1) {d : String} (hd : Plain d)
    {entry : α} : entry ∈ entriesOf kind (withEntries kind adds : DataService ρ).persistence d ↔
      latest kind adds d (kind.name entry) = some entry := by
  rw [mem_entriesOf, ← find?_withEntries (ρ := ρ) hadds hd]
  constructor
  · rintro ⟨key, hfind, rfl⟩
    rw [← (filed_withEntries hadds).key hfind]
    exact hfind
  · intro hfind
    exact ⟨_, hfind, deviceOf_make _ hd⟩

theorem carries_iff {es : List α} {o : Outcome} {d d' : String} {entry : α} :
    Carries kind ⟨d', kind.message es, o⟩ d entry ↔ d' = d ∧ entry ∈ es := by
  refine and_congr_right fun _ => ⟨?_, fun h => ⟨es, rfl, h⟩⟩
  rintro ⟨entries, hmessage, hmem⟩
  rw [kind.message_injective hmessage]
  exact hmem

/-- What was put last for a device was put for one of the devices. -/
theorem plain_of_latest (hadds : ∀ add ∈ adds, Plain add.1) {d name : String} {entry : α}
    (h : latest kind adds d name = some entry) : Plain d := by
  obtain ⟨add, hfind, -⟩ := Option.map_eq_some_iff.mp h
  have hd := List.find?_some hfind
  rw [decide_eq_true_eq] at hd
  rw [← hd.1]
  exact hadds add (List.mem_reverse.mp (List.mem_of_find?_eq_some hfind))

theorem Routed.of_sent (ds : List String) {target : String → Prop} {outcome : String → Outcome}
    (hadds : ∀ add ∈ adds, Plain add.1)
    (h : Sent kind (withEntries kind adds : DataService ρ) svc
      (ds.map fun d => (d, entriesOf kind (withEntries kind adds : DataService ρ).persistence d)) outcome)
    (hds : ∀ d ∈ ds, Plain d)
    (htarget : (∀ d ∈ ds, outcome d ≠ .unserialisable) → ∀ d, target d →
      entriesOf kind (withEntries kind adds : DataService ρ).persistence d ≠ [] → d ∈ ds) :
    Routed kind adds target svc := by
  have hsends : ∀ send, send ∈ svc.sends ↔ ∃ d ∈ ds, send =
      ⟨d, kind.message (entriesOf kind (withEntries kind adds : DataService ρ).persistence d),
        outcome d⟩ := by
    intro send
    rw [h.sends, sends_withEntries, List.nil_append, List.map_map, List.mem_map]
    simp only [Function.comp_apply, eq_comm]
  have hsent : ∀ d entry, latest kind adds d (kind.name entry) = some entry → d ∈ ds →
      ∃ send ∈ svc.sends, Carries kind send d entry ∧ send.outcome = outcome d := by
    intro d entry hlatest hd
    refine ⟨_, (hsends _).mpr ⟨d, hd, rfl⟩, ?_, rfl⟩
    exact carries_iff.mpr ⟨rfl, (mem_entriesOf_withEntries hadds (hds d hd)).mpr hlatest⟩
  refine ⟨?_, ?_, ?_, ?_⟩
  · rintro send hsend d entry hcarries
    obtain ⟨d', hd', rfl⟩ := (hsends send).mp hsend
    obtain ⟨rfl, hmem⟩ := carries_iff.mp hcarries
    exact (mem_entriesOf_withEntries hadds (hds _ hd')).mp hmem
  · intro hmade d entry hd hlatest
    have hmem := (mem_entriesOf_withEntries (ρ := ρ) hadds (plain_of_latest hadds hlatest)).mpr hlatest
    have hall : ∀ d ∈ ds, outcome d ≠ .unserialisable :=
      fun d hd => hmade _ ((hsends _).mpr ⟨d, hd, rfl⟩)
    obtain ⟨send, hsend, hcarries, -⟩ :=
      hsent d entry hlatest (htarget hall d hd (List.ne_nil_of_mem hmem))
    exact ⟨send, hsend, hcarries⟩
  · rintro d entry hlatest ⟨send, hsend, hcarries, hne⟩
    obtain ⟨d', hd', rfl⟩ := (hsends send).mp hsend
    obtain ⟨rfl, hmem⟩ := carries_iff.mp hcarries
    exact h.removed _ (List.mem_map_of_mem hd') hne _ (List.mem_map_of_mem hmem)
  · intro d entry hlatest hnot
    rw [h.kept, find?_withEntries hadds (plain_of_latest hadds hlatest), hlatest]
    intro g hg hne hkey
    obtain ⟨d', hd', rfl⟩ := List.mem_map.mp hg
    obtain ⟨e, he, hkey⟩ := List.mem_map.mp hkey
    obtain ⟨rfl, -⟩ := make_inj (hds d' hd') (plain_of_latest hadds hlatest) hkey
    obtain ⟨send, hsend, hcarries, hout⟩ := hsent d' entry hlatest hd'
    exact hnot ⟨send, hsend, hcarries, hout ▸ hne⟩

/-! ## The overloads -/

theorem publishEntries_routed (ctx : DataContext) (hadds : ∀ add ∈ adds, Plain add.1) :
    Routed kind adds (fun _ => True)
      ((withEntries kind adds : DataService ρ).publishEntries ctx kind) := by
  obtain ⟨done, rest, outcome, hsplit, hsent, -, -, hstop⟩ := publishGroups_spec ctx kind
    (groups kind (withEntries kind adds : DataService ρ).persistence).entries
    (nodup_keys_groups kind _) (withEntries kind adds)
  have hdone : done =
      ((groups kind (withEntries kind adds : DataService ρ).persistence).keys.take done.length).map
        fun d => (d, entriesOf kind (withEntries kind adds : DataService ρ).persistence d) := by
    rw [List.map_take, ← entries_groups, hsplit, List.take_left]
  have hpublish : Sent kind (withEntries kind adds : DataService ρ)
      ((withEntries kind adds : DataService ρ).publishEntries ctx kind) done outcome := hsent
  rw [hdone] at hpublish
  refine Routed.of_sent _ hadds hpublish (fun d hd => ?_) fun hmade d _ hd => ?_
  · obtain ⟨key, entry, -, rfl⟩ := mem_keys_groups.mp (List.mem_of_mem_take hd)
    exact plain_deviceOf key
  · have hrest : rest = [] := by
      by_contra hne
      obtain ⟨g, hg, hun⟩ := hstop hne
      rw [hdone] at hg
      obtain ⟨d', hd', rfl⟩ := List.mem_map.mp hg
      exact hmade d' hd' hun
    have hlength : (groups kind (withEntries kind adds : DataService ρ).persistence).keys.length =
        done.length := by
      have h := congrArg List.length hsplit
      rwa [hrest, List.append_nil, entries_groups, List.length_map] at h
    rw [List.take_of_length_le hlength.le]
    exact entriesOf_ne_nil.mp hd

theorem publishEntriesOf_routed (ctx : DataContext) (hadds : ∀ add ∈ adds, Plain add.1) {d : String}
    (hd : Plain d) : Routed kind adds (· = d)
      ((withEntries kind adds : DataService ρ).publishEntriesOf ctx kind d) := by
  by_cases hnil : entriesOf kind (withEntries kind adds : DataService ρ).persistence d = []
  · have hnone : (withEntries kind adds : DataService ρ).publishEntriesOf ctx kind d =
        withEntries kind adds := by
      rw [publishEntriesOf]
      exact if_pos hnil
    rw [hnone]
    refine Routed.of_sent [] hadds (.nil kind _ fun _ => .refused) (by simp) ?_
    rintro _ _ rfl hne
    exact absurd hnil hne
  · have hsent := Sent.single kind (withEntries kind adds : DataService ρ)
      (d, entriesOf kind (withEntries kind adds : DataService ρ).persistence d)
    rw [publishEntriesOf_eq ctx kind _ hnil]
    exact Routed.of_sent [d] hadds (hsent _) (by simpa using hd) (by simp)

/-- The entries of these devices are kept apart: keys are read back as they were made, no two pairs
have one key, and both overloads send every entry under the device that it was put for and remove
exactly what they published. -/
structure Isolated (devices : Set String) : Prop where
  roundTrip : ∀ d ∈ devices, ∀ r, parsePersistenceKey (makePersistenceKey d r) = (d, r)
  injective : ∀ d ∈ devices, ∀ d' ∈ devices, ∀ r r',
    makePersistenceKey d r = makePersistenceKey d' r' → d = d' ∧ r = r'
  attributes : ∀ ctx adds, (∀ add ∈ adds, add.1 ∈ devices) →
    Routed attributeKind adds (fun _ => True)
      ((withEntries attributeKind adds : DataService Unit).publishAttributes ctx)
  attributesOf : ∀ ctx adds, (∀ add ∈ adds, add.1 ∈ devices) → ∀ d ∈ devices,
    Routed attributeKind adds (· = d)
      ((withEntries attributeKind adds : DataService Unit).publishAttributesOf ctx d)
  parameters : ∀ ctx adds, (∀ add ∈ adds, add.1 ∈ devices) →
    Routed parameterKind adds (fun _ => True)
      ((withEntries parameterKind adds : DataService Unit).publishParameters ctx)
  parametersOf : ∀ ctx adds, (∀ add ∈ adds, add.1 ∈ devices) → ∀ d ∈ devices,
    Routed parameterKind adds (· = d)
      ((withEntries parameterKind adds : DataService Unit).publishParametersOf ctx d)

/-- **Isolation.** Devices are isolated in the persistence if and only if no device key has the
delimiter in it. -/
theorem isolated_iff (devices : Set String) : Isolated devices ↔ ∀ d ∈ devices, Plain d := by
  constructor
  · intro h d hd
    exact (parse_make_iff d "").mp (h.roundTrip d hd "")
  · intro hplain
    refine ⟨fun d hd r => parse_make r (hplain d hd),
      fun d hd d' hd' r r' => make_inj (hplain d hd) (hplain d' hd'), ?_, ?_, ?_, ?_⟩
    · intro ctx adds hadds
      exact publishEntries_routed ctx fun add hadd => hplain _ (hadds add hadd)
    · intro ctx adds hadds d hd
      exact publishEntriesOf_routed ctx (fun add hadd => hplain _ (hadds add hadd)) (hplain d hd)
    · intro ctx adds hadds
      exact publishEntries_routed ctx fun add hadd => hplain _ (hadds add hadd)
    · intro ctx adds hadds d hd
      exact publishEntriesOf_routed ctx (fun add hadd => hplain _ (hadds add hadd)) (hplain d hd)

/-- The delimiter in a device key moves a part of the device key to the reference. -/
theorem keys_collide : parsePersistenceKey (makePersistenceKey "a+b" "c") = ("a", "b+c") ∧
    makePersistenceKey "a+b" "c" = makePersistenceKey "a" "b+c" ∧
    ¬ ∀ d r d' r', parsePersistenceKey (makePersistenceKey d r) = (d, r) ∧
      (makePersistenceKey d r = makePersistenceKey d' r' → d = d' ∧ r = r') := by
  refine ⟨by decide, by decide, fun h => ?_⟩
  have hparse := (h "a+b" "c" "a" "b+c").1
  revert hparse
  decide

end WolkConnect.DataService
