import WolkConnect.Data.Current

/-!
# For which devices something is sent

A message other than one with readings is for a device for which an entry was put into
the store, or something was asked for.
-/

namespace WolkConnect

namespace DataService

variable {ρ α : Type} {ctx : DataContext} {kind : EntryKind α} {svc svc' : DataService ρ}
  {ds ds' : List String}

/-- The store has entries of this kind for these devices only. -/
def StoredFor (kind : EntryKind α) (ds : List String) (p : Persistence) : Prop :=
  ∀ key entry, (kind.stored p).find? key = some entry → deviceOf key ∈ ds

def Send.For (ds : List String) (send : Send) : Prop :=
  (∃ readings, send.message = .feedValues readings) ∨ send.deviceKey ∈ ds

structure Addressed (ds : List String) (svc : DataService ρ) : Prop where
  attributes : StoredFor attributeKind ds svc.persistence
  parameters : StoredFor parameterKind ds svc.persistence
  sends : ∀ send ∈ svc.sends, Send.For ds send

theorem addressed_create (ds : List String) : Addressed ds (create .empty : DataService ρ) where
  attributes _ _ h := by cases h
  parameters _ _ h := by cases h
  sends _ h := by cases h

theorem Addressed.mono (h : Addressed ds svc) (hds : ∀ d ∈ ds, d ∈ ds') : Addressed ds' svc where
  attributes key entry hfind := hds _ (h.attributes key entry hfind)
  parameters key entry hfind := hds _ (h.parameters key entry hfind)
  sends send hsend := (h.sends send hsend).imp_right (hds _)

theorem StoredFor.putEntry (h : StoredFor kind ds svc.persistence) {d : String} (hd : Plain d)
    (hmem : d ∈ ds) (entry : α) : StoredFor kind ds (svc.putEntry kind d entry).persistence := by
  intro key other hfind
  rw [DataService.putEntry, kind.stored_store, OrderedMap.find?_insert] at hfind
  split_ifs at hfind with hkey
  · rw [← hkey, deviceOf_make _ hd]
    exact hmem
  · exact h key other hfind

/-- Groups are of devices that have entries, and sending them puts nothing into the store. -/
theorem StoredFor.groups (h : StoredFor kind ds svc.persistence) {gs : List (String × List α)}
    {outcome : String → Outcome} (hgroups : SendsGroups kind svc svc' gs outcome) :
    StoredFor kind ds svc'.persistence ∧ ∀ g ∈ gs, g.1 ∈ ds := by
  refine ⟨fun key entry hfind => ?_, fun g hg => ?_⟩
  · by_cases hremoved : ∃ g ∈ gs, outcome g.1 ≠ .refused ∧ key ∈ keysOf kind g
    · obtain ⟨g, hg, houtcome, hkey⟩ := hremoved
      rw [hgroups.sent.removed g hg houtcome key hkey] at hfind
      cases hfind
    · push Not at hremoved
      rw [hgroups.sent.kept key hremoved] at hfind
      exact h key entry hfind
  · obtain ⟨-, hentries, hne⟩ := hgroups.groups g hg
    obtain ⟨entry, hentry⟩ := List.exists_mem_of_ne_nil _ hne
    rw [hentries] at hentry
    obtain ⟨key, hfind, hdevice⟩ := DataService.mem_entriesOf.mp hentry
    exact hdevice ▸ h key entry hfind

theorem sends_groups {gs : List (String × List α)} {outcome : String → Outcome}
    (hgroups : SendsGroups kind svc svc' gs outcome) (h : ∀ send ∈ svc.sends, Send.For ds send)
    (hgs : ∀ g ∈ gs, g.1 ∈ ds) : ∀ send ∈ svc'.sends, Send.For ds send := by
  intro send hsend
  rw [hgroups.sent.sends, List.mem_append] at hsend
  rcases hsend with hsend | hsend
  · exact h send hsend
  · obtain ⟨g, hg, rfl⟩ := List.mem_map.mp hsend
    exact .inr (hgs g hg)

/-- A call keeps to the devices that it names. -/
theorem Addressed.perform (h : Addressed ds svc) (op : DataOperation ρ)
    (hop : ∀ d ∈ op.otherKeys, Plain d ∧ d ∈ ds) : Addressed ds (svc.perform ctx op) := by
  rcases perform_cases ctx svc op with ⟨d, entry, rfl⟩ | ⟨d, parameter, rfl⟩ |
    ⟨-, -, ⟨gs, outcome, hgroups⟩ | ⟨gs, outcome, hgroups⟩ | hneutral⟩
  · obtain ⟨hd, hmem⟩ := hop d List.mem_cons_self
    exact ⟨h.attributes.putEntry hd hmem entry, h.parameters, h.sends⟩
  · obtain ⟨hd, hmem⟩ := hop d List.mem_cons_self
    exact ⟨h.attributes, h.parameters.putEntry hd hmem parameter, h.sends⟩
  · obtain ⟨hstored, hgs⟩ := h.attributes.groups hgroups
    refine ⟨hstored, fun key entry hfind => ?_, sends_groups hgroups h.sends hgs⟩
    rw [hgroups.sent.persistence] at hfind
    exact h.parameters key entry hfind
  · obtain ⟨hstored, hgs⟩ := h.parameters.groups hgroups
    refine ⟨fun key entry hfind => ?_, hstored, sends_groups hgroups h.sends hgs⟩
    rw [hgroups.sent.persistence] at hfind
    exact h.attributes key entry hfind
  · obtain ⟨⟨readings, hpersistence⟩, more, hsends, hmore⟩ := hneutral
    refine ⟨fun key entry hfind => ?_, fun key entry hfind => ?_, fun send hsend => ?_⟩
    · rw [hpersistence] at hfind
      exact h.attributes key entry hfind
    · rw [hpersistence] at hfind
      exact h.parameters key entry hfind
    · rw [hsends, List.mem_append] at hsend
      rcases hsend with hsend | hsend
      · exact h.sends send hsend
      · rcases hmore send hsend with ⟨-, hmem⟩ | hreadings
        · exact .inr (hop _ hmem).2
        · exact .inl hreadings

theorem addressed_performed (ctx : DataContext) (ops : List (DataOperation ρ))
    (hops : ∀ op ∈ ops, ∀ d ∈ op.otherKeys, Plain d ∧ d ∈ ds) : Addressed ds (performed ctx ops) := by
  induction ops using List.reverseRecOn with
  | nil => exact addressed_create ds
  | append_singleton ops op ih =>
    rw [performed_append]
    exact (ih fun op hop => hops op (List.mem_append_left _ hop)).perform op
      (hops op (List.mem_append_right _ List.mem_cons_self))

end DataService

end WolkConnect
