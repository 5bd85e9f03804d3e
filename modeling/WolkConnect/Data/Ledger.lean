import WolkConnect.Data.Operations
import WolkConnect.Data.Readings
import WolkConnect.Data.Entries

/-!
# What becomes of the readings

Over any calls of the service, the readings of a device and a reference that were
added are those that left the store, in messages or given up, and then those that are in it.
-/

namespace WolkConnect

open Batch

/-- The readings among these that are of a device and a reference. -/
def readingsFor (adds : List (String × Reading)) (d r : String) : List Reading :=
  (adds.filter fun add => add.1 = d ∧ add.2.reference = r).map Prod.snd

/-- The readings of a device and a reference that the message carried when it was published. -/
def Send.carries (send : Send) (d r : String) : List Reading :=
  if send.deviceKey = d ∧ send.outcome = .published then
    send.message.readings.filter fun reading => reading.reference = r
  else []

/-- Those that were given up because the message could not be made. -/
def Send.givesUp (send : Send) (d r : String) : List Reading :=
  if send.deviceKey = d ∧ send.outcome = .unserialisable then
    send.message.readings.filter fun reading => reading.reference = r
  else []

/-- The readings that the attempt took out of the store, in the one way or the other. -/
def Send.takes (send : Send) (d r : String) : List Reading := send.carries d r ++ send.givesUp d r

def takenReadings (sends : List Send) (d r : String) : List Reading :=
  sends.flatMap fun send => send.takes d r

def carriedReadings (sends : List Send) (d r : String) : List Reading :=
  sends.flatMap fun send => send.carries d r

/-- Every message for the device could be made. -/
def AllMade (sends : List Send) (d : String) : Prop :=
  ∀ send ∈ sends, send.deviceKey = d → send.outcome ≠ .unserialisable

instance (sends : List Send) (d : String) : Decidable (AllMade sends d) :=
  inferInstanceAs (Decidable (∀ _ ∈ _, _ → _ ≠ _))

theorem Send.takes_eq (send : Send) (d r : String) : send.takes d r =
    if send.deviceKey = d ∧ send.outcome ≠ .refused then
      send.message.readings.filter fun reading => reading.reference = r
    else [] := by
  unfold Send.takes Send.carries Send.givesUp
  cases send.outcome <;> simp

/-- Nothing is given up while messages can be made. -/
theorem AllMade.takenReadings {sends : List Send} {d : String} (h : AllMade sends d) (r : String) :
    takenReadings sends d r = carriedReadings sends d r := by
  refine List.flatMap_congr fun send hsend => ?_
  rw [Send.takes, Send.givesUp, if_neg fun hgiven => h send hsend hgiven.1 hgiven.2, List.append_nil]

theorem readingsFor_append (adds adds' : List (String × Reading)) (d r : String) :
    readingsFor (adds ++ adds') d r = readingsFor adds d r ++ readingsFor adds' d r := by
  rw [readingsFor, List.filter_append, List.map_append]
  rfl

theorem takenReadings_append (sends more : List Send) (d r : String) :
    takenReadings (sends ++ more) d r = takenReadings sends d r ++ takenReadings more d r :=
  List.flatMap_append

theorem takenReadings_of_asks {sends : List Send} (h : ∀ send ∈ sends, send.message.readings = [])
    (d r : String) : takenReadings sends d r = [] := by
  rw [takenReadings, List.flatMap_eq_nil_iff]
  intro send hsend
  rw [Send.takes_eq, h send hsend, List.filter_nil, ite_self]

/-- The attempts of a key whose readings are all of one reference. -/
theorem takenReadings_batches (d r : String) {attempts : List (Attempt Reading)}
    (h : ∀ reading ∈ taken attempts, reading.reference = r) :
    takenReadings (attempts.map (batchSend d)) d r = taken attempts := by
  rw [takenReadings, List.flatMap_map]
  apply List.flatMap_congr
  intro attempt hattempt
  have hall : ∀ reading ∈ attempt.deliveredPart ++ attempt.discardedPart, reading.reference = r :=
    fun reading hmem => h reading (List.mem_flatMap.mpr ⟨attempt, hattempt, hmem⟩)
  cases attempt with
  | refused batch => exact (Send.takes_eq ..).trans (if_neg fun h => h.2 rfl)
  | delivered batch | discarded batch =>
    simp only [Attempt.deliveredPart, Attempt.discardedPart, List.append_nil, List.nil_append] at hall
    rw [Send.takes_eq, batchSend, if_pos ⟨rfl, Outcome.noConfusion⟩]
    simpa [Attempt.deliveredPart, Attempt.discardedPart, DataMessage.readings] using hall

/-- The attempts of a key of another device, or of another reference. -/
theorem takenReadings_other {d d' r : String} {attempts : List (Attempt Reading)}
    (h : d' = d → ∀ reading ∈ taken attempts, reading.reference ≠ r) :
    takenReadings (attempts.map (batchSend d')) d r = [] := by
  rw [takenReadings, List.flatMap_map, List.flatMap_eq_nil_iff]
  intro attempt hattempt
  by_cases hd : d' = d
  · have hall : ∀ reading ∈ attempt.deliveredPart ++ attempt.discardedPart, reading.reference ≠ r :=
      fun reading hmem => h hd reading (List.mem_flatMap.mpr ⟨attempt, hattempt, hmem⟩)
    cases attempt with
    | refused batch => exact (Send.takes_eq ..).trans (if_neg fun h => h.2 rfl)
    | delivered batch | discarded batch =>
      simp only [Attempt.deliveredPart, Attempt.discardedPart, List.append_nil, List.nil_append]
        at hall
      rw [Send.takes_eq, batchSend, if_pos ⟨hd, Outcome.noConfusion⟩]
      simpa [DataMessage.readings] using hall
  · exact (Send.takes_eq ..).trans (if_neg fun h => hd ((deviceKey_batchSend d' attempt) ▸ h.1))

namespace DataService

variable {ρ α : Type} {ctx : DataContext} {kind : EntryKind α} {svc svc' : DataService ρ}
  {adds : List (String × Reading)}

/-- The ledger of the readings that were added so far. -/
structure Ledger (adds : List (String × Reading)) (svc : DataService ρ) : Prop where
  filed : ∀ key, ∀ reading ∈ svc.persistence.readingsAt key,
    ∃ d, Plain d ∧ key = makePersistenceKey d reading.reference
  balanced : ∀ d r, Plain d → readingsFor adds d r =
    takenReadings svc.sends d r ++ svc.persistence.readingsAt (makePersistenceKey d r)

theorem ledger_create : Ledger [] (create .empty : DataService ρ) where
  filed _ _ h := by cases h
  balanced _ _ _ := rfl

theorem Ledger.addReading (h : Ledger adds svc) {d : String} (hd : Plain d) (reading : Reading) :
    Ledger (adds ++ [(d, reading)]) (svc.addReading d reading) where
  filed key other hother := by
    rw [readingsAt_addReading, List.mem_append] at hother
    rcases hother with hother | hother
    · exact h.filed key other hother
    · split_ifs at hother with hkey
      · rw [List.mem_singleton] at hother
        exact ⟨d, hd, hother ▸ hkey.symm⟩
      · cases hother
  balanced d' r hd' := by
    rw [readingsFor_append, h.balanced d' r hd', readingsAt_addReading, List.append_assoc]
    congr 2
    have hiff : makePersistenceKey d reading.reference = makePersistenceKey d' r ↔
        d = d' ∧ reading.reference = r :=
      ⟨make_inj hd hd', by rintro ⟨rfl, rfl⟩; rfl⟩
    simp only [hiff, readingsFor, List.filter_cons, List.filter_nil, decide_eq_true_eq]
    split_ifs <;> rfl

theorem Ledger.addReadings (h : Ledger adds svc) {d : String} (hd : Plain d)
    (readings : List Reading) :
    Ledger (adds ++ readings.map fun reading => (d, reading)) (svc.addReadings d readings) := by
  induction readings generalizing adds svc with
  | nil =>
    rw [List.map_nil, List.append_nil]
    exact h
  | cons reading readings ih =>
    have hnext := ih (h.addReading hd reading)
    rw [List.append_assoc] at hnext
    exact hnext

/-- What is published of one key is taken off the readings of its device and reference. -/
theorem Ledger.drained (h : Ledger adds svc) {key : String} {attempts : List (Attempt Reading)}
    (hdrained : Drained svc svc' key attempts) : Ledger adds svc' := by
  have hsplit := hdrained.drain.taken_append
  have hleft : ∀ reading ∈ svc'.persistence.readingsAt key,
      reading ∈ svc.persistence.readingsAt key := fun reading hreading => by
    rw [hsplit]
    exact List.mem_append_right _ hreading
  have htaken : ∀ reading ∈ taken attempts, reading ∈ svc.persistence.readingsAt key :=
    fun reading hreading => by
      rw [hsplit]
      exact List.mem_append_left _ hreading
  refine ⟨fun other reading hreading => ?_, fun d r hd => ?_⟩
  · by_cases hother : other = key
    · subst hother
      exact h.filed other reading (hleft reading hreading)
    · rw [hdrained.others other hother] at hreading
      exact h.filed other reading hreading
  · rw [h.balanced d r hd, hdrained.sends, takenReadings_append, List.append_assoc]
    congr 1
    by_cases hkey : makePersistenceKey d r = key
    · have hreference : ∀ reading ∈ taken attempts, reading.reference = r := fun reading hreading => by
        obtain ⟨d', hd', heq⟩ := h.filed key reading (htaken reading hreading)
        exact (make_inj hd hd' (hkey.trans heq)).2.symm
      have hdevice : deviceOf key = d := hkey ▸ deviceOf_make r hd
      rw [hdevice, takenReadings_batches d r hreference, hkey]
      exact hsplit
    · have hother : deviceOf key = d → ∀ reading ∈ taken attempts, reading.reference ≠ r := by
        rintro hdevice reading hreading rfl
        obtain ⟨d', hd', heq⟩ := h.filed key reading (htaken reading hreading)
        rw [heq, deviceOf_make _ hd'] at hdevice
        exact hkey (hdevice ▸ heq.symm)
      rw [takenReadings_other hother, List.nil_append, hdrained.others _ hkey]

theorem Ledger.publishReadingsForPersistenceKey (h : Ledger adds svc) (key : String) :
    Ledger adds (svc.publishReadingsForPersistenceKey ctx key) := by
  obtain ⟨attempts, hdrained⟩ := publishReadingsForPersistenceKey_spec ctx svc key
  exact h.drained hdrained

theorem Ledger.publishReadings (h : Ledger adds svc) : Ledger adds (svc.publishReadings ctx) :=
  List.foldlRecOn (motive := Ledger adds) _ _ h fun _ hledger key _ =>
    hledger.publishReadingsForPersistenceKey key

/-- The ledger is not concerned with what leaves the readings and sends none. -/
theorem Ledger.keep (h : Ledger adds svc)
    (hreadings : svc'.persistence.readings = svc.persistence.readings)
    (hsends : ∃ more, svc'.sends = svc.sends ++ more ∧ ∀ send ∈ more, send.message.readings = []) :
    Ledger adds svc' := by
  have hat : ∀ key, svc'.persistence.readingsAt key = svc.persistence.readingsAt key := fun key => by
    rw [Persistence.readingsAt, hreadings]
    rfl
  obtain ⟨more, hsends, hmore⟩ := hsends
  refine ⟨fun key reading hreading => h.filed key reading (hat key ▸ hreading), fun d r hd => ?_⟩
  rw [h.balanced d r hd, hsends, takenReadings_append, takenReadings_of_asks hmore, List.append_nil,
    hat]

theorem Ledger.onlyAsks (h : Ledger adds svc) {ds : List String} (hsvc : OnlyAsks ds svc svc') :
    Ledger adds svc' := by
  obtain ⟨more, hsends, hmore⟩ := hsvc.sends
  refine h.keep (congrArg Persistence.readings hsvc.persistence) ⟨more, hsends, fun send hsend => ?_⟩
  have hasks := (hmore send hsend).1
  cases hmessage : send.message with
  | feedValues readings => rw [hmessage] at hasks; cases hasks
  | _ => rfl

/-- The entries of this kind are kept apart from the readings. -/
structure ApartFromReadings (kind : EntryKind α) : Prop where
  store : ∀ p m, (kind.store p m).readings = p.readings
  message : ∀ entries, (kind.message entries).readings = []

theorem apart_attributeKind : ApartFromReadings attributeKind := ⟨fun _ _ => rfl, fun _ => rfl⟩

theorem apart_parameterKind : ApartFromReadings parameterKind := ⟨fun _ _ => rfl, fun _ => rfl⟩

theorem Ledger.putEntry (h : Ledger adds svc) (hkind : ApartFromReadings kind) (d : String)
    (entry : α) : Ledger adds (svc.putEntry kind d entry) :=
  h.keep (hkind.store _ _) ⟨[], (List.append_nil _).symm, by simp⟩

theorem Ledger.sent (h : Ledger adds svc) (hkind : ApartFromReadings kind)
    {gs : List (String × List α)} {outcome : String → Outcome} (hsent : Sent kind svc svc' gs outcome) :
    Ledger adds svc' := by
  refine h.keep ?_ ⟨_, hsent.sends, fun send hsend => ?_⟩
  · rw [hsent.persistence, hkind.store]
  · obtain ⟨g, -, rfl⟩ := List.mem_map.mp hsend
    exact hkind.message g.2

/-- Both overloads send groups. -/
theorem publishEntries_sent (ctx : DataContext) (kind : EntryKind α) (svc : DataService ρ) :
    ∃ gs outcome, Sent kind svc (svc.publishEntries ctx kind) gs outcome := by
  obtain ⟨done, -, outcome, -, hsent, -⟩ :=
    publishGroups_spec ctx kind _ (nodup_keys_groups kind svc.persistence) svc
  exact ⟨done, outcome, hsent⟩

theorem publishEntriesOf_sent (ctx : DataContext) (kind : EntryKind α) (svc : DataService ρ)
    (d : String) : ∃ gs outcome, Sent kind svc (svc.publishEntriesOf ctx kind d) gs outcome := by
  by_cases hnil : entriesOf kind svc.persistence d = []
  · refine ⟨[], fun _ => .refused, ?_⟩
    rw [publishEntriesOf, if_pos hnil]
    exact .nil kind svc _
  · rw [publishEntriesOf_eq ctx kind svc hnil]
    exact ⟨_, _, .single kind svc _ _⟩

/-- A call adds to the ledger the readings that it adds. -/
theorem Ledger.perform (h : Ledger adds svc) (op : DataOperation ρ)
    (hplain : ∀ add ∈ op.readings, Plain add.1) :
    Ledger (adds ++ op.readings) (svc.perform ctx op) := by
  have hnone : ∀ {svc' : DataService ρ}, Ledger adds svc' → Ledger (adds ++ []) svc' :=
    fun h => by rwa [List.append_nil]
  cases op with
  | addReading d reading => exact h.addReading (hplain _ List.mem_cons_self) reading
  | addReadings d readings =>
    by_cases hnil : readings = []
    · subst hnil
      exact hnone h
    · obtain ⟨reading, hreading⟩ := List.exists_mem_of_ne_nil _ hnil
      exact h.addReadings (hplain _ (List.mem_map_of_mem hreading)) readings
  | addAttribute d entry => exact hnone (h.putEntry apart_attributeKind d entry)
  | updateParameter d parameter => exact hnone (h.putEntry apart_parameterKind d parameter)
  | synchronizeParameters d parameters callback =>
    exact hnone (h.onlyAsks (synchronizeParameters_onlyAsks ctx svc d parameters callback))
  | detailsSynchronizationAsync d callback =>
    exact hnone (h.onlyAsks (detailsSynchronizationAsync_onlyAsks ctx svc d callback))
  | publishReadings => exact hnone h.publishReadings
  | publishReadingsOf d => exact hnone (h.publishReadingsForPersistenceKey d)
  | publishAttributes =>
    obtain ⟨gs, outcome, hsent⟩ := publishEntries_sent ctx attributeKind svc
    exact hnone (h.sent apart_attributeKind hsent)
  | publishAttributesOf d =>
    obtain ⟨gs, outcome, hsent⟩ := publishEntriesOf_sent ctx attributeKind svc d
    exact hnone (h.sent apart_attributeKind hsent)
  | publishParameters =>
    obtain ⟨gs, outcome, hsent⟩ := publishEntries_sent ctx parameterKind svc
    exact hnone (h.sent apart_parameterKind hsent)
  | publishParametersOf d =>
    obtain ⟨gs, outcome, hsent⟩ := publishEntriesOf_sent ctx parameterKind svc d
    exact hnone (h.sent apart_parameterKind hsent)
  | messageReceived d message => exact hnone (h.onlyAsks (messageReceived_onlyAsks ctx svc d message))
  | runCommand =>
    have hsilent : OnlyAsks [] svc (svc.perform ctx .runCommand) := .silent rfl rfl
    exact hnone (h.onlyAsks hsilent)

/-- Over any calls, the readings that were added are those that were taken out of the store, in order, and
then those that are in it. -/
theorem ledger_performed (ctx : DataContext) (ops : List (DataOperation ρ))
    (hplain : ∀ add ∈ ops.flatMap DataOperation.readings, Plain add.1) :
    Ledger (ops.flatMap DataOperation.readings) (performed ctx ops) := by
  induction ops using List.reverseRecOn with
  | nil => exact ledger_create
  | append_singleton ops op ih =>
    rw [List.flatMap_append, List.flatMap_singleton] at hplain ⊢
    rw [performed_append]
    exact (ih fun add hadd => hplain add (List.mem_append_left _ hadd)).perform op
      fun add hadd => hplain add (List.mem_append_right _ hadd)

end DataService

end WolkConnect
