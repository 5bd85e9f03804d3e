import WolkConnect.Data.Model

/-!
# Publishing attributes and parameters

Both are entries of the persistence that are published by device. `Sent` says what
comes of sending some of the groups, whichever of the overloads sends them.
-/

namespace WolkConnect.DataService

variable {ρ α : Type} {ctx : DataContext} {kind : EntryKind α} {svc svc' svc'' : DataService ρ}

/-- The keys that are removed when the entries of a device have been published. -/
def keysOf (kind : EntryKind α) (g : String × List α) : List String :=
  g.2.map fun entry => makePersistenceKey g.1 (kind.name entry)

/-- The groups have been sent with these outcomes, and removed unless they were refused. -/
structure Sent (kind : EntryKind α) (svc svc' : DataService ρ) (gs : List (String × List α))
    (outcome : String → Outcome) : Prop where
  sends : svc'.sends = svc.sends ++ gs.map fun g => ⟨g.1, kind.message g.2, outcome g.1⟩
  kept : ∀ key, (∀ g ∈ gs, outcome g.1 ≠ .refused → key ∉ keysOf kind g) →
    (kind.stored svc'.persistence).find? key = (kind.stored svc.persistence).find? key
  removed : ∀ g ∈ gs, outcome g.1 ≠ .refused → ∀ key ∈ keysOf kind g,
    (kind.stored svc'.persistence).find? key = none
  persistence : svc'.persistence = kind.store svc.persistence (kind.stored svc'.persistence)

theorem stored_deleteAll (kind : EntryKind α) (svc : DataService ρ) (d : String) (es : List α) :
    kind.stored (svc.deleteAll kind d es).persistence =
      (keysOf kind (d, es)).foldl OrderedMap.erase (kind.stored svc.persistence) :=
  kind.stored_store _ _

theorem find?_deleteAll (kind : EntryKind α) (svc : DataService ρ) (d : String) (es : List α)
    (key : String) : (kind.stored (svc.deleteAll kind d es).persistence).find? key =
      if key ∈ keysOf kind (d, es) then none else (kind.stored svc.persistence).find? key := by
  rw [stored_deleteAll, OrderedMap.find?_foldl_erase]

/-- The service after a group was sent with this outcome. -/
def settle (kind : EntryKind α) (svc : DataService ρ) (g : String × List α) (o : Outcome) :
    DataService ρ :=
  let sent := { svc with sends := svc.sends ++ [⟨g.1, kind.message g.2, o⟩] }
  match o with
  | .refused => sent
  | .unserialisable | .published => sent.deleteAll kind g.1 g.2

theorem settle_refused (kind : EntryKind α) (svc : DataService ρ) (g : String × List α) {o : Outcome}
    (h : o = .refused) : svc.settle kind g o =
      { svc with sends := svc.sends ++ [⟨g.1, kind.message g.2, o⟩] } := by
  subst h
  rfl

theorem settle_of_ne (kind : EntryKind α) (svc : DataService ρ) (g : String × List α) {o : Outcome}
    (h : o ≠ .refused) : svc.settle kind g o = deleteAll kind
      { svc with sends := svc.sends ++ [⟨g.1, kind.message g.2, o⟩] } g.1 g.2 := by
  cases o with
  | refused => exact absurd rfl h
  | unserialisable | published => rfl

/-- The outcome of sending a group next. -/
def outcomeOf (ctx : DataContext) (kind : EntryKind α) (svc : DataService ρ)
    (g : String × List α) : Outcome :=
  ctx.outcome svc.sends.length g.1 (kind.message g.2)

theorem publishEntriesOf_eq (ctx : DataContext) (kind : EntryKind α) (svc : DataService ρ) {d : String}
    (hd : entriesOf kind svc.persistence d ≠ []) :
    svc.publishEntriesOf ctx kind d = svc.settle kind (d, entriesOf kind svc.persistence d)
      (outcomeOf ctx kind svc (d, entriesOf kind svc.persistence d)) := by
  simp only [publishEntriesOf, if_neg hd, send, settle, outcomeOf]
  cases ctx.outcome svc.sends.length d (kind.message (entriesOf kind svc.persistence d)) <;> rfl

theorem publishGroups_cons (ctx : DataContext) (kind : EntryKind α) (g : String × List α)
    (gs : List (String × List α)) (svc : DataService ρ) :
    publishGroups ctx kind (g :: gs) svc =
      if outcomeOf ctx kind svc g = .unserialisable then svc.settle kind g .unserialisable
      else publishGroups ctx kind gs (svc.settle kind g (outcomeOf ctx kind svc g)) := by
  have hsend : svc.send ctx g.1 (kind.message g.2) = (outcomeOf ctx kind svc g,
      { svc with sends :=
          svc.sends ++ [⟨g.1, kind.message g.2, outcomeOf ctx kind svc g⟩] }) := rfl
  rw [publishGroups, hsend]
  cases outcomeOf ctx kind svc g <;> rfl

namespace Sent

theorem nil (kind : EntryKind α) (svc : DataService ρ) (outcome : String → Outcome) :
    Sent kind svc svc [] outcome where
  sends := by simp
  kept _ _ := rfl
  removed _ hg := absurd hg List.not_mem_nil
  persistence := (kind.store_stored _).symm

/-- One group: it stays when it was refused, and is removed when it was published or turned out not
to serialise. -/
theorem single (kind : EntryKind α) (svc : DataService ρ) (g : String × List α) (o : Outcome) :
    Sent kind svc (svc.settle kind g o) [g] fun _ => o := by
  by_cases ho : o = .refused
  · rw [settle_refused kind svc g ho]
    refine ⟨by simp [ho], fun _ _ => rfl, fun _ _ hne => absurd ho hne, (kind.store_stored _).symm⟩
  · rw [settle_of_ne kind svc g ho]
    refine ⟨by simp [deleteAll], fun key hkey => ?_, fun g' hg' _ key hkey => ?_, ?_⟩
    · rw [find?_deleteAll, if_neg (hkey g List.mem_cons_self ho)]
    · rw [List.mem_singleton.mp hg'] at hkey
      rw [find?_deleteAll, if_pos hkey]
    · rw [stored_deleteAll]
      rfl

theorem append {gs gs' : List (String × List α)} {outcome : String → Outcome}
    (h : Sent kind svc svc' gs outcome) (h' : Sent kind svc' svc'' gs' outcome) :
    Sent kind svc svc'' (gs ++ gs') outcome where
  sends := by rw [h'.sends, h.sends, List.map_append, List.append_assoc]
  kept key hkey := by
    rw [h'.kept key fun g hg => hkey g (List.mem_append_right _ hg),
      h.kept key fun g hg => hkey g (List.mem_append_left _ hg)]
  removed g hg hne key hkey := by
    by_cases hlater : ∃ g' ∈ gs', outcome g'.1 ≠ .refused ∧ key ∈ keysOf kind g'
    · obtain ⟨g', hg', hne', hkey'⟩ := hlater
      exact h'.removed g' hg' hne' key hkey'
    · push Not at hlater
      rw [h'.kept key hlater]
      rcases List.mem_append.mp hg with hg | hg
      · exact h.removed g hg hne key hkey
      · exact absurd hkey (hlater g hg hne)
  persistence := by
    rw [h'.persistence, kind.stored_store, h.persistence, kind.store_store]

theorem congr {gs : List (String × List α)} {outcome outcome' : String → Outcome}
    (h : Sent kind svc svc' gs outcome) (heq : ∀ g ∈ gs, outcome g.1 = outcome' g.1) :
    Sent kind svc svc' gs outcome' where
  sends := by
    rw [h.sends]
    congr 1
    apply List.map_congr_left
    intro g hg
    rw [heq g hg]
  kept key hkey := h.kept key fun g hg hne => hkey g hg (heq g hg ▸ hne)
  removed g hg hne := h.removed g hg (by rw [heq g hg]; exact hne)
  persistence := h.persistence

end Sent

/-! ## One device -/

theorem entriesOf_congr {p p' : Persistence} {d : String}
    (h : ∀ key, deviceOf key = d → (kind.stored p).find? key = (kind.stored p').find? key) :
    entriesOf kind p d = entriesOf kind p' d := by
  have hmaps := OrderedMap.filterKeys_congr (p := fun key => decide (deviceOf key = d))
    fun key hkey => h key (of_decide_eq_true hkey)
  exact congrArg (fun m : OrderedMap String α => m.entries.map Prod.snd) hmaps

/-- What is sent for some devices does not touch the entries of another. -/
theorem Sent.entriesOf {gs : List (String × List α)} {outcome : String → Outcome}
    (h : Sent kind svc svc' gs outcome) {d : String} (hgs : ∀ g ∈ gs, Plain g.1 ∧ g.1 ≠ d) :
    entriesOf kind svc'.persistence d = entriesOf kind svc.persistence d := by
  apply entriesOf_congr
  intro key hkey
  refine h.kept key fun g hg _ hmem => (hgs g hg).2 ?_
  obtain ⟨entry, -, rfl⟩ := List.mem_map.mp hmem
  rw [← hkey, deviceOf_make _ (hgs g hg).1]

/-- The outcome of the first group, and the outcomes of the others. -/
def consOutcome (d : String) (o : Outcome) (outcome : String → Outcome) (d' : String) : Outcome :=
  if d' = d then o else outcome d'

theorem Sent.cons {g : String × List α} {gs : List (String × List α)} {o : Outcome}
    {outcome : String → Outcome} (hg : g.1 ∉ gs.map Prod.fst)
    (h : Sent kind (svc.settle kind g o) svc' gs outcome) :
    Sent kind svc svc' (g :: gs) (consOutcome g.1 o outcome) := by
  have hfirst : Sent kind svc (svc.settle kind g o) [g] (consOutcome g.1 o outcome) := by
    refine (Sent.single kind svc g o).congr fun g' hg' => ?_
    rw [List.mem_singleton.mp hg', consOutcome, if_pos rfl]
  refine hfirst.append (h.congr fun g' hg' => ?_)
  have hne : g'.1 ≠ g.1 := ne_of_mem_of_not_mem (List.mem_map_of_mem hg') hg
  rw [consOutcome, if_neg hne]

/-- Device by device, each with the entries that it had at the start. -/
theorem foldl_publishEntriesOf_spec (ctx : DataContext) (kind : EntryKind α) {ds : List String}
    (hnodup : ds.Nodup) (svc : DataService ρ)
    (hds : ∀ d ∈ ds, Plain d ∧ entriesOf kind svc.persistence d ≠ []) :
    ∃ outcome : String → Outcome,
      Sent kind svc (ds.foldl (publishEntriesOf ctx kind) svc)
        (ds.map fun d => (d, entriesOf kind svc.persistence d)) outcome ∧
      ∀ d ∈ ds, ∃ n, outcome d = ctx.outcome n d
        (kind.message (entriesOf kind svc.persistence d)) := by
  induction ds generalizing svc with
  | nil => exact ⟨fun _ => .refused, .nil _ _ _, by simp⟩
  | cons d ds ih =>
    rw [List.nodup_cons] at hnodup
    rw [List.forall_mem_cons] at hds
    have hone := Sent.single kind svc (d, entriesOf kind svc.persistence d)
      (outcomeOf ctx kind svc (d, entriesOf kind svc.persistence d))
    rw [← publishEntriesOf_eq ctx kind svc hds.1.2] at hone
    have hsame : ∀ d' ∈ ds, entriesOf kind (svc.publishEntriesOf ctx kind d).persistence d' =
        entriesOf kind svc.persistence d' := by
      intro d' hd'
      refine hone.entriesOf fun g hg => ?_
      rw [List.mem_singleton.mp hg]
      exact ⟨hds.1.1, ne_of_mem_of_not_mem hd' hnodup.1 |>.symm⟩
    obtain ⟨outcome, hrest, hout⟩ := ih hnodup.2 (svc.publishEntriesOf ctx kind d) fun d' hd' => by
      rw [hsame d' hd']
      exact hds.2 d' hd'
    rw [List.map_congr_left fun d' hd' => by rw [hsame d' hd'], publishEntriesOf_eq ctx kind svc hds.1.2]
      at hrest
    rw [List.foldl_cons, publishEntriesOf_eq ctx kind svc hds.1.2]
    refine ⟨_, Sent.cons (g := (d, entriesOf kind svc.persistence d)) ?_ hrest, ?_⟩
    · simpa using hnodup.1
    · rw [List.forall_mem_cons]
      refine ⟨⟨svc.sends.length, if_pos rfl⟩, fun d' hd' => ?_⟩
      obtain ⟨n, hn⟩ := hout d' hd'
      rw [hsame d' hd'] at hn
      exact ⟨n, (if_neg (ne_of_mem_of_not_mem hd' hnodup.1)).trans hn⟩

/-! ## All devices -/

/-- The loop sends the groups in order, up to the first that does not serialise. -/
theorem publishGroups_spec (ctx : DataContext) (kind : EntryKind α) (gs : List (String × List α))
    (hnodup : (gs.map Prod.fst).Nodup) (svc : DataService ρ) :
    ∃ done rest outcome, gs = done ++ rest ∧
      Sent kind svc (publishGroups ctx kind gs svc) done outcome ∧
      (∀ g ∈ done, ∃ n, outcome g.1 = ctx.outcome n g.1 (kind.message g.2)) ∧
      (∀ g ∈ done.dropLast, outcome g.1 ≠ .unserialisable) ∧
      (rest ≠ [] → ∃ g ∈ done, outcome g.1 = .unserialisable) := by
  induction gs generalizing svc with
  | nil => exact ⟨[], [], fun _ => .refused, rfl, .nil _ _ _, by simp, by simp, by simp⟩
  | cons g gs ih =>
    rw [List.map_cons, List.nodup_cons] at hnodup
    rw [publishGroups_cons]
    split_ifs with hlast
    · refine ⟨[g], gs, fun _ => .unserialisable, rfl, .single kind svc g _, ?_, by simp,
        fun _ => ⟨g, List.mem_cons_self, rfl⟩⟩
      intro g' hg'
      rw [List.mem_singleton.mp hg']
      exact ⟨_, hlast.symm⟩
    · obtain ⟨done, rest, outcome, rfl, hsent, hout, hgood, hstop⟩ :=
        ih hnodup.2 (svc.settle kind g (outcomeOf ctx kind svc g))
      have hlater : ∀ g' ∈ done, consOutcome g.1 (outcomeOf ctx kind svc g) outcome g'.1 =
          outcome g'.1 := by
        intro g' hg'
        apply if_neg
        intro heq
        exact hnodup.1 (heq ▸ List.mem_map_of_mem (List.mem_append_left _ hg'))
      have hfirst : consOutcome g.1 (outcomeOf ctx kind svc g) outcome g.1 =
          outcomeOf ctx kind svc g := if_pos rfl
      refine ⟨g :: done, rest, _, rfl, Sent.cons ?_ hsent, ?_, ?_, fun hrest => ?_⟩
      · intro hmem
        apply hnodup.1
        rw [List.map_append]
        exact List.mem_append_left _ hmem
      · rw [List.forall_mem_cons]
        refine ⟨⟨_, hfirst⟩, fun g' hg' => ?_⟩
        obtain ⟨n, hn⟩ := hout g' hg'
        exact ⟨n, (hlater g' hg').trans hn⟩
      · cases done with
        | nil => simp
        | cons g' done =>
          rw [List.dropLast_cons_cons, List.forall_mem_cons]
          refine ⟨fun h => hlast (hfirst.symm.trans h), fun g'' hg'' => ?_⟩
          rw [hlater g'' (List.dropLast_subset _ hg'')]
          exact hgood g'' hg''
      · obtain ⟨g', hg', hun⟩ := hstop hrest
        exact ⟨g', List.mem_cons_of_mem _ hg', (hlater g' hg').trans hun⟩

/-- The groups are the devices in order, each with its entries. -/
theorem entries_groups (kind : EntryKind α) (p : Persistence) :
    (groups kind p).entries = (groups kind p).keys.map fun d => (d, entriesOf kind p d) := by
  rw [OrderedMap.keys, List.map_map]
  refine (List.map_id _).symm.trans (List.map_congr_left fun g hg => ?_)
  exact Prod.ext rfl (OrderedMap.mem_groupBy.mp hg).1

theorem mem_keys_groups {kind : EntryKind α} {p : Persistence} {d : String} :
    d ∈ (groups kind p).keys ↔ ∃ key entry, (kind.stored p).find? key = some entry ∧ deviceOf key = d := by
  rw [groups, OrderedMap.mem_keys_groupBy]
  simp [OrderedMap.find?_eq_some]

theorem nodup_keys_groups (kind : EntryKind α) (p : Persistence) : (groups kind p).keys.Nodup :=
  (OrderedMap.keys_sorted _).imp ne_of_lt

theorem entriesOf_ne_nil {kind : EntryKind α} {p : Persistence} {d : String} :
    entriesOf kind p d ≠ [] ↔ d ∈ (groups kind p).keys := by
  rw [groups, OrderedMap.mem_keys_groupBy]
  exact (not_congr OrderedMap.group_eq_nil).trans (by simp)

theorem mem_entriesOf {kind : EntryKind α} {p : Persistence} {d : String} {entry : α} :
    entry ∈ entriesOf kind p d ↔
      ∃ key, (kind.stored p).find? key = some entry ∧ deviceOf key = d := by
  refine OrderedMap.mem_group.trans ?_
  simp only [Prod.exists, OrderedMap.find?_eq_some]
  constructor
  · rintro ⟨key, _, hmem, hd, rfl⟩
    exact ⟨key, hmem, hd⟩
  · rintro ⟨key, hmem, hd⟩
    exact ⟨key, entry, hmem, hd, rfl⟩

/-! ## Filed entries -/

/-- Every entry is under the key of its name and of a device key without a delimiter. -/
def Filed (kind : EntryKind α) (p : Persistence) : Prop :=
  ∀ key entry, (kind.stored p).find? key = some entry →
    ∃ d, Plain d ∧ key = makePersistenceKey d (kind.name entry)

/-- A store that entries have been put in for devices whose keys are plain is filed. -/
theorem Filed.putEntry {d : String} (h : Filed kind svc.persistence) (hd : Plain d) (entry : α) :
    Filed kind (svc.putEntry kind d entry).persistence := by
  intro key e he
  rw [DataService.putEntry, kind.stored_store, OrderedMap.find?_insert] at he
  split_ifs at he with hkey
  · cases he
    exact ⟨d, hd, hkey.symm⟩
  · exact h key e he

theorem Filed.key {p : Persistence} (h : Filed kind p) {key : String} {entry : α}
    (hfind : (kind.stored p).find? key = some entry) :
    key = makePersistenceKey (deviceOf key) (kind.name entry) := by
  obtain ⟨d, hd, rfl⟩ := h key entry hfind
  rw [deviceOf_make _ hd]

end WolkConnect.DataService
