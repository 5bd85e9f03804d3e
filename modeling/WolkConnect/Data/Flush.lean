import WolkConnect.Data.Current

/-!
# Publishing everything

`flushAttributes`, `flushReadings` and `flushParameters` of `WolkInterface.cpp`. While
every message is made and published, they leave nothing in the store.
-/

namespace WolkConnect

/-- From this attempt on, every message is made and published. -/
def DataContext.ReliableFrom (ctx : DataContext) (n : Nat) : Prop :=
  ∀ attempt, n ≤ attempt → ∀ d message, ctx.outcome attempt d message = .published

namespace DataService

variable {ρ α : Type} {ctx : DataContext} {kind : EntryKind α} {svc svc' svc'' : DataService ρ}
  {key : String} {n : Nat}

def flush (ctx : DataContext) (svc : DataService ρ) : DataService ρ :=
  ((svc.publishAttributes ctx).publishReadings ctx).publishParameters ctx

/-- All that is sent is published. -/
def Delivers (svc svc' : DataService ρ) : Prop :=
  ∃ more, svc'.sends = svc.sends ++ more ∧ ∀ send ∈ more, send.outcome = .published

theorem Delivers.refl (svc : DataService ρ) : Delivers svc svc := ⟨[], (List.append_nil _).symm, by simp⟩

theorem Delivers.trans (h : Delivers svc svc') (h' : Delivers svc' svc'') : Delivers svc svc'' := by
  obtain ⟨more, hs, hmore⟩ := h
  obtain ⟨more', hs', hmore'⟩ := h'
  refine ⟨more ++ more', by rw [hs', hs, List.append_assoc], fun send hsend => ?_⟩
  exact (List.mem_append.mp hsend).elim (hmore send) (hmore' send)

theorem Delivers.le (h : Delivers svc svc') (hn : n ≤ svc.sends.length) : n ≤ svc'.sends.length := by
  obtain ⟨more, hs, -⟩ := h
  rw [hs, List.length_append]
  omega

/-! ## Readings -/

theorem publishReadingsForPersistenceKey_delivers (hctx : ctx.ReliableFrom n) (svc : DataService ρ)
    (key : String) (hn : n ≤ svc.sends.length) : Delivers svc (svc.publishReadingsForPersistenceKey ctx key) ∧
      (deviceOf key ≠ "" →
        (svc.publishReadingsForPersistenceKey ctx key).persistence.readingsAt key = []) := by
  fun_induction publishReadingsForPersistenceKey ctx svc key with
  | case1 svc readings hnil =>
    have htake : (svc.persistence.readingsAt key).take publishBatchItemsCount = [] := hnil
    exact ⟨.refl svc, fun _ => (List.take_eq_nil_iff.mp htake).resolve_left (by decide)⟩
  | case2 svc readings hne deviceKey hempty => exact ⟨.refl svc, fun hkey => absurd hempty hkey⟩
  | case3 svc readings hne deviceKey hdevice sent hout =>
    exact absurd (hout.symm.trans (hctx _ hn _ _)) Outcome.noConfusion
  | case4 svc readings hne deviceKey hdevice sent hout =>
    exact absurd (hout.symm.trans (hctx _ hn _ _)) Outcome.noConfusion
  | case5 svc readings hne deviceKey hdevice sent hout ih =>
    have hsent : Delivers svc (sent.2.removeReadings key) :=
      ⟨[⟨deviceKey, .feedValues readings, sent.1⟩], rfl, by simpa using hout⟩
    obtain ⟨hrest, hnil⟩ := ih (hsent.le hn)
    exact ⟨hsent.trans hrest, hnil⟩

/-- A key without readings gets none by publishing. -/
theorem readingsAt_of_nil (ctx : DataContext) (svc : DataService ρ) (other : String)
    (hnil : svc.persistence.readingsAt key = []) :
    (svc.publishReadingsForPersistenceKey ctx other).persistence.readingsAt key = [] := by
  obtain ⟨attempts, hdrained⟩ := publishReadingsForPersistenceKey_spec ctx svc other
  by_cases hkey : key = other
  · subst hkey
    have hdrain := hdrained.drain
    rw [hnil] at hdrain
    exact hdrain.of_nil.2
  · rw [hdrained.others key hkey, hnil]

theorem foldl_publishReadings_delivers (hctx : ctx.ReliableFrom n) (keys : List String)
    (svc : DataService ρ) (hn : n ≤ svc.sends.length) :
    Delivers svc (keys.foldl (publishReadingsForPersistenceKey ctx) svc) ∧
      ∀ key, deviceOf key ≠ "" → key ∈ keys ∨ svc.persistence.readingsAt key = [] →
        (keys.foldl (publishReadingsForPersistenceKey ctx) svc).persistence.readingsAt key = [] := by
  induction keys generalizing svc with
  | nil => exact ⟨.refl svc, fun key _ h => h.resolve_left List.not_mem_nil⟩
  | cons k keys ih =>
    obtain ⟨hfirst, hfirstNil⟩ := publishReadingsForPersistenceKey_delivers hctx svc k hn
    obtain ⟨hrest, hrestNil⟩ := ih (svc.publishReadingsForPersistenceKey ctx k) (hfirst.le hn)
    refine ⟨hfirst.trans hrest, fun key hkey h => hrestNil key hkey ?_⟩
    rcases h with hmem | hnil
    · rcases List.mem_cons.mp hmem with rfl | hmem
      · exact .inr (hfirstNil hkey)
      · exact .inl hmem
    · exact .inr (readingsAt_of_nil ctx svc k hnil)

theorem publishReadings_delivers (hctx : ctx.ReliableFrom n) (svc : DataService ρ)
    (hn : n ≤ svc.sends.length) : Delivers svc (svc.publishReadings ctx) ∧
      ∀ key, deviceOf key ≠ "" → (svc.publishReadings ctx).persistence.readingsAt key = [] := by
  obtain ⟨hdelivers, hnil⟩ :=
    foldl_publishReadings_delivers hctx svc.persistence.getReadingsKeys svc hn
  refine ⟨hdelivers, fun key hkey => hnil key hkey ?_⟩
  rw [Persistence.getReadingsKeys, OrderedMap.mem_keys, Persistence.readingsAt]
  cases svc.persistence.readings.find? key with
  | none => exact .inr rfl
  | some readings => exact .inl rfl

/-! ## Entries -/

theorem publishGroups_delivers (hctx : ctx.ReliableFrom n) (gs : List (String × List α))
    (svc : DataService ρ) (hn : n ≤ svc.sends.length) :
    Sent kind svc (publishGroups ctx kind gs svc) gs fun _ => .published := by
  induction gs generalizing svc with
  | nil => exact .nil kind svc _
  | cons g gs ih =>
    have hpublished : outcomeOf ctx kind svc g = .published := hctx _ hn _ _
    have hsettled : (svc.settle kind g .published).sends.length = svc.sends.length + 1 := by
      rw [settle_of_ne kind svc g Outcome.noConfusion]
      exact List.length_append
    rw [publishGroups_cons, hpublished, if_neg Outcome.noConfusion]
    exact (Sent.single kind svc g .published).append (ih _ (by omega))

theorem publishEntries_delivers (hctx : ctx.ReliableFrom n) (hn : n ≤ svc.sends.length)
    (hfiled : Filed kind svc.persistence) : Delivers svc (svc.publishEntries ctx kind) ∧
      ∀ key, (kind.stored (svc.publishEntries ctx kind).persistence).find? key = none := by
  have hsent : Sent kind svc (svc.publishEntries ctx kind) (groups kind svc.persistence).entries
      fun _ => .published := publishGroups_delivers hctx _ svc hn
  refine ⟨⟨_, hsent.sends, fun send hsend => ?_⟩, fun key => ?_⟩
  · obtain ⟨g, -, rfl⟩ := List.mem_map.mp hsend
    rfl
  rw [entries_groups] at hsent
  cases hfind : (kind.stored svc.persistence).find? key with
  | none =>
    by_cases hremoved : ∃ g ∈ (groups kind svc.persistence).keys.map fun d =>
        (d, entriesOf kind svc.persistence d), key ∈ keysOf kind g
    · obtain ⟨g, hg, hmem⟩ := hremoved
      exact hsent.removed g hg Outcome.noConfusion key hmem
    · push Not at hremoved
      rw [hsent.kept key fun g hg _ => hremoved g hg, hfind]
  | some entry =>
    have hentry : entry ∈ entriesOf kind svc.persistence (deviceOf key) :=
      mem_entriesOf.mpr ⟨key, hfind, rfl⟩
    have hmem : makePersistenceKey (deviceOf key) (kind.name entry) ∈
        keysOf kind (deviceOf key, entriesOf kind svc.persistence (deviceOf key)) :=
      List.mem_map_of_mem hentry
    rw [← hfiled.key hfind] at hmem
    exact hsent.removed _ (List.mem_map_of_mem (mem_keys_groups.mpr ⟨key, entry, hfind, rfl⟩))
      Outcome.noConfusion key hmem

/-! ## Everything -/

/-- The store has nothing in it that could be published. -/
structure Emptied (svc : DataService ρ) : Prop where
  readings : ∀ key, deviceOf key ≠ "" → svc.persistence.readingsAt key = []
  attributes : ∀ key, svc.persistence.attributes.find? key = none
  parameters : ∀ key, svc.persistence.parameters.find? key = none

theorem flush_empties (hctx : ctx.ReliableFrom n) (hn : n ≤ svc.sends.length)
    (hattributes : Filed attributeKind svc.persistence)
    (hparameters : Filed parameterKind svc.persistence) :
    Delivers svc (svc.flush ctx) ∧ Emptied (svc.flush ctx) := by
  let svc₁ := svc.publishAttributes ctx
  let svc₂ := svc₁.publishReadings ctx
  have hneutral : Neutral [] svc₁ svc₂ := neutral_publishReadings svc₁
  obtain ⟨readings, hreadings⟩ := hneutral.persistence
  obtain ⟨gs, outcome, hgroups⟩ := publishEntries_groups ctx attributeKind svc
  obtain ⟨gs', outcome', hgroups'⟩ := publishEntries_groups ctx parameterKind svc₂
  have hfirst : svc₁.persistence = { svc.persistence with attributes := svc₁.persistence.attributes } :=
    hgroups.sent.persistence
  have hlast : (svc.flush ctx).persistence =
      { svc₂.persistence with parameters := (svc.flush ctx).persistence.parameters } :=
    hgroups'.sent.persistence
  obtain ⟨hdelivers₁, hnil₁⟩ := publishEntries_delivers hctx hn hattributes
  obtain ⟨hdelivers₂, hnil₂⟩ := publishReadings_delivers hctx svc₁ (hdelivers₁.le hn)
  have hparameters₂ : Filed parameterKind svc₂.persistence := by
    intro key entry hfind
    rw [hreadings, hfirst] at hfind
    exact hparameters key entry hfind
  obtain ⟨hdelivers₃, hnil₃⟩ :=
    publishEntries_delivers hctx (hdelivers₂.le (hdelivers₁.le hn)) hparameters₂
  refine ⟨(hdelivers₁.trans hdelivers₂).trans hdelivers₃, fun key hkey => ?_, fun key => ?_, hnil₃⟩
  · rw [hlast]
    exact hnil₂ key hkey
  · rw [hlast, hreadings]
    exact hnil₁ key

end DataService

end WolkConnect
