import WolkConnect.Lib.Batch
import WolkConnect.Data.Model

/-!
# Publishing readings

`publishReadings` drains the readings of each key in batches. What a call for one
key does is said once, by `Drained`.
-/

namespace WolkConnect

open Batch

/-- The attempt to send a batch of the readings of a device. -/
def batchSend (deviceKey : String) : Attempt Reading → Send
  | .delivered batch => ⟨deviceKey, .feedValues batch, .published⟩
  | .refused batch => ⟨deviceKey, .feedValues batch, .refused⟩
  | .discarded batch => ⟨deviceKey, .feedValues batch, .unserialisable⟩

theorem deviceKey_batchSend (d : String) (a : Attempt Reading) : (batchSend d a).deviceKey = d := by
  cases a <;> rfl

theorem readingsAt_removeReadings (p : Persistence) (key other : String) (count : Nat) :
    (p.removeReadings key count).readingsAt other =
      if other = key then (p.readingsAt key).drop count else p.readingsAt other := by
  unfold Persistence.removeReadings
  cases hfind : p.readings.find? key with
  | none =>
    simp only [Persistence.readingsAt]
    split_ifs with h
    · simp [h, hfind]
    · rfl
  | some readings =>
    simp only [Persistence.readingsAt, OrderedMap.find?_insert, hfind, Option.getD_some]
    split_ifs with hkey hother hother
    · rfl
    · exact absurd hkey.symm hother
    · exact absurd hother.symm hkey
    · rfl

namespace DataService

variable {ρ : Type} {ctx : DataContext} {svc svc' : DataService ρ} {key : String}

/-- The attempts to publish the readings of a key, and what they leave. -/
structure Drained (svc svc' : DataService ρ) (key : String) (attempts : List (Attempt Reading)) :
    Prop where
  drain : Drain publishBatchItemsCount (svc.persistence.readingsAt key) attempts
    (svc'.persistence.readingsAt key)
  sends : svc'.sends = svc.sends ++ attempts.map (batchSend (deviceOf key))
  others : ∀ other, other ≠ key →
    svc'.persistence.readingsAt other = svc.persistence.readingsAt other
  nameless : deviceOf key = "" → attempts = []

theorem Drained.none (svc : DataService ρ) (key : String) : Drained svc svc key [] where
  drain := .stop _
  sends := by simp
  others _ _ := rfl
  nameless _ := rfl

/-- What is left under the other keys when a batch of one key is removed. -/
theorem readingsAt_removed (svc : DataService ρ) {key other : String} (h : other ≠ key) :
    (svc.removeReadings key).persistence.readingsAt other = svc.persistence.readingsAt other := by
  rw [removeReadings, readingsAt_removeReadings, if_neg h]

theorem readingsAt_removed_self (svc : DataService ρ) (key : String) :
    (svc.removeReadings key).persistence.readingsAt key =
      (svc.persistence.readingsAt key).drop publishBatchItemsCount := by
  rw [removeReadings, readingsAt_removeReadings, if_pos rfl]

theorem publishReadingsForPersistenceKey_spec (ctx : DataContext) (svc : DataService ρ)
    (key : String) :
    ∃ attempts, Drained svc (svc.publishReadingsForPersistenceKey ctx key) key attempts := by
  have hqueue : ∀ svc : DataService ρ, svc.persistence.getReadings key publishBatchItemsCount ≠ [] →
      svc.persistence.readingsAt key ≠ [] := by
    intro svc h hnil
    simp [Persistence.getReadings, hnil] at h
  fun_induction publishReadingsForPersistenceKey ctx svc key with
  | case1 svc readings hnil => exact ⟨[], .none svc key⟩
  | case2 svc readings hne deviceKey hempty => exact ⟨[], .none svc key⟩
  | case3 svc readings hne deviceKey hdevice sent hout =>
    refine ⟨[.discarded readings], ?_, ?_, fun other h => ?_, fun h => absurd h hdevice⟩
    · rw [readingsAt_removed_self]
      exact .discard (hqueue svc hne)
    · change svc.sends ++ [⟨deviceKey, .feedValues readings, sent.1⟩] = _
      rw [hout]
      rfl
    · exact readingsAt_removed _ h
  | case4 svc readings hne deviceKey hdevice sent hout =>
    refine ⟨[.refused readings], .refuse (hqueue svc hne), ?_, fun _ _ => rfl,
      fun h => absurd h hdevice⟩
    change svc.sends ++ [⟨deviceKey, .feedValues readings, sent.1⟩] = _
    rw [hout]
    rfl
  | case5 svc readings hne deviceKey hdevice sent hout ih =>
    obtain ⟨attempts, hdrained⟩ := ih
    refine ⟨.delivered readings :: attempts, ?_, ?_, fun other h => ?_, fun h => absurd h hdevice⟩
    · have hrest := hdrained.drain
      rw [readingsAt_removed_self] at hrest
      exact .deliver (hqueue svc hne) hrest
    · rw [hdrained.sends]
      change (svc.sends ++ [⟨deviceKey, .feedValues readings, sent.1⟩]) ++ _ = _
      rw [hout, List.append_assoc]
      rfl
    · rw [hdrained.others other h]
      exact readingsAt_removed _ h

/-! ## All keys -/

def batchSends (attempts : String → List (Attempt Reading)) (keys : List String) : List Send :=
  keys.flatMap fun key => (attempts key).map (batchSend (deviceOf key))

theorem batchSends_congr {attempts attempts' : String → List (Attempt Reading)} {keys : List String}
    (h : ∀ key ∈ keys, attempts key = attempts' key) :
    batchSends attempts keys = batchSends attempts' keys :=
  List.flatMap_congr fun key hkey => by rw [h key hkey]

/-- The attempts to publish the readings of the keys, one key after the other. -/
structure DrainedAll (svc svc' : DataService ρ) (keys : List String)
    (attempts : String → List (Attempt Reading)) : Prop where
  drain : ∀ key, Drain publishBatchItemsCount (svc.persistence.readingsAt key) (attempts key)
    (svc'.persistence.readingsAt key)
  sends : svc'.sends = svc.sends ++ batchSends attempts keys
  nameless : ∀ key, deviceOf key = "" → attempts key = []
  absent : ∀ key, key ∉ keys → attempts key = []

theorem foldl_publishReadings_spec (ctx : DataContext) {keys : List String} (hkeys : keys.Nodup)
    (svc : DataService ρ) :
    ∃ attempts, DrainedAll svc (keys.foldl (publishReadingsForPersistenceKey ctx) svc) keys attempts := by
  induction keys generalizing svc with
  | nil => exact ⟨fun _ => [], fun key => .stop _, by simp [batchSends], fun _ _ => rfl, fun _ _ => rfl⟩
  | cons key keys ih =>
    rw [List.nodup_cons] at hkeys
    obtain ⟨first, hfirst⟩ := publishReadingsForPersistenceKey_spec ctx svc key
    obtain ⟨attempts, hrest⟩ := ih hkeys.2 (svc.publishReadingsForPersistenceKey ctx key)
    have hkept := hrest.drain key
    rw [hrest.absent key hkeys.1] at hkept
    refine ⟨fun k => if k = key then first else attempts k, fun k => ?_, ?_, fun k hk => ?_,
      fun k hk => ?_⟩
    · rw [List.foldl_cons]
      split_ifs with h
      · rw [h, hkept.of_no_attempts]
        exact hfirst.drain
      · rw [← hfirst.others k h]
        exact hrest.drain k
    · have htail : ∀ k ∈ keys, attempts k = if k = key then first else attempts k := by
        intro k hk
        rw [if_neg fun h : k = key => hkeys.1 (h ▸ hk)]
      rw [List.foldl_cons, hrest.sends, hfirst.sends, batchSends_congr htail, List.append_assoc]
      simp [batchSends]
    · split_ifs with h
      · exact hfirst.nameless (h ▸ hk)
      · exact hrest.nameless k hk
    · rw [List.mem_cons, not_or] at hk
      rw [if_neg hk.1]
      exact hrest.absent k hk.2

theorem publishReadings_spec (ctx : DataContext) (svc : DataService ρ) :
    ∃ attempts, DrainedAll svc (svc.publishReadings ctx) svc.persistence.getReadingsKeys attempts :=
  foldl_publishReadings_spec ctx ((OrderedMap.keys_sorted _).imp ne_of_lt) svc

/-- Attempts that lose no reading: what was delivered, then what was dropped, then what is stored
make up the readings that there were. -/
structure Lossless (original : List Reading) (attempts : List (Attempt Reading))
    (remaining : List Reading) : Prop where
  conserved : original = delivered attempts ++ discarded attempts ++ remaining
  bounded : ∀ a ∈ attempts, a.batch ≠ [] ∧ a.batch.length ≤ publishBatchItemsCount
  dropped : (discarded attempts).length ≤ publishBatchItemsCount
  last : ∀ a ∈ attempts.dropLast, a.Delivers
  kept : ∀ batch, .refused batch ∈ attempts → batch = remaining.take publishBatchItemsCount

theorem Lossless.of_drain {original remaining : List Reading} {attempts : List (Attempt Reading)}
    (h : Drain publishBatchItemsCount original attempts remaining) :
    Lossless original attempts remaining where
  conserved := h.conserved
  bounded := h.bounded (by decide)
  dropped := h.discarded_length
  last := h.delivers
  kept _ hbatch := h.refused_kept hbatch

/-- **Lossless publishing.** The messages sent are those of the attempts to publish the readings of
each key, key by key; the attempts for a key of a device lose no reading; keys of no device and
keys other than the one that is published are left alone. -/
theorem publishReadings_lossless (ctx : DataContext) (svc : DataService ρ) :
    (∃ attempts : String → List (Attempt Reading),
      (svc.publishReadings ctx).sends =
        svc.sends ++ batchSends attempts svc.persistence.getReadingsKeys ∧
      (∀ d r, Plain d → deviceOf (makePersistenceKey d r) = d ∧
        Lossless (svc.persistence.readingsAt (makePersistenceKey d r))
          (attempts (makePersistenceKey d r))
          ((svc.publishReadings ctx).persistence.readingsAt (makePersistenceKey d r))) ∧
      ∀ key, deviceOf key = "" → attempts key = [] ∧
        (svc.publishReadings ctx).persistence.readingsAt key = svc.persistence.readingsAt key) ∧
    ∀ key other, other ≠ key →
      (svc.publishReadingsForPersistenceKey ctx key).persistence.readingsAt other =
        svc.persistence.readingsAt other := by
  refine ⟨?_, fun key => ?_⟩
  · obtain ⟨attempts, hall⟩ := publishReadings_spec ctx svc
    refine ⟨attempts, hall.sends, fun d r hd => ?_, fun key hkey => ?_⟩
    · exact ⟨deviceOf_make r hd, .of_drain (hall.drain _)⟩
    · have hdrain := hall.drain key
      rw [hall.nameless key hkey] at hdrain
      exact ⟨hall.nameless key hkey, hdrain.of_no_attempts⟩
  · obtain ⟨attempts, hone⟩ := publishReadingsForPersistenceKey_spec ctx svc key
    exact hone.others

/-! ## Readings of one device -/

/-- A service to which readings have been added, each for a device. -/
def withReadings (adds : List (String × Reading)) : DataService ρ :=
  adds.foldl (fun svc add => svc.addReading add.1 add.2) (.create .empty)

def fiftyFive : List Reading := (List.range 55).map fun rtc => ⟨"T", ["1"], rtc⟩

/-- A first batch is delivered, and the second one is dropped since its message cannot be made. -/
theorem publishReadings_lossless_sample : ∃ (svc : DataService Unit) (ctx : DataContext)
    (attempts : List (Attempt Reading)), svc.persistence.readingsAt "d+T" = fiftyFive ∧
      (svc.publishReadings ctx).sends = [⟨"d", .feedValues (fiftyFive.take 50), .published⟩,
        ⟨"d", .feedValues (fiftyFive.drop 50), .unserialisable⟩] ∧
      (svc.publishReadings ctx).sends = attempts.map (batchSend "d") ∧
      Lossless fiftyFive attempts ((svc.publishReadings ctx).persistence.readingsAt "d+T") := by
  let svc : DataService Unit := withReadings (fiftyFive.map fun reading => ("d", reading))
  let ctx : DataContext := { reliable with makeOutboundMessage := fun attempt _ _ => attempt = 0 }
  obtain ⟨⟨attempts, hsends, hdevice, -⟩, -⟩ := publishReadings_lossless ctx svc
  have hstored : svc.persistence.readingsAt "d+T" = fiftyFive := by decide +kernel
  have hkeys : svc.persistence.getReadingsKeys = ["d+T"] := by decide +kernel
  have hlossless := (hdevice "d" "T" (by decide)).2
  refine ⟨svc, ctx, attempts "d+T", hstored, by decide +kernel, ?_, hstored ▸ hlossless⟩
  rw [hsends, hkeys, batchSends, List.flatMap_singleton]
  exact congrArg (fun d => (attempts "d+T").map (batchSend d)) (by decide)

theorem addReadings_withReadings (adds : List (String × Reading)) (d : String)
    (readings : List Reading) : (withReadings adds : DataService ρ).addReadings d readings =
      withReadings (adds ++ readings.map fun reading => (d, reading)) := by
  unfold addReadings withReadings
  rw [List.foldl_append, List.foldl_map]

theorem readingsAt_addReading (svc : DataService ρ) (d : String) (reading : Reading) (key : String) :
    (svc.addReading d reading).persistence.readingsAt key =
      svc.persistence.readingsAt key ++
        if makePersistenceKey d reading.reference = key then [reading] else [] := by
  simp only [addReading, Persistence.putReading, Persistence.readingsAt, OrderedMap.find?_insert]
  split_ifs with h
  · rw [h]
    rfl
  · rw [List.append_nil]

theorem readingsAt_withReadings (adds : List (String × Reading)) (key : String) :
    (withReadings adds : DataService ρ).persistence.readingsAt key =
      (adds.filter fun add => makePersistenceKey add.1 add.2.reference = key).map Prod.snd := by
  induction adds using List.reverseRecOn with
  | nil => rfl
  | append_singleton adds add ih =>
    rw [withReadings, List.foldl_append, ← withReadings, List.foldl_cons, List.foldl_nil,
      readingsAt_addReading, ih]
    split_ifs with h
    · simp [h]
    · simp [h]

/-- Publishing the readings of a device sends what publishing all readings sends for it, leaves
none of them and leaves the readings of the other devices. -/
structure PublishesDevice (svc : DataService ρ) (d : String) : Prop where
  messages : (svc.publishReadingsOf reliable d).sends =
    svc.sends ++ ((svc.publishReadings reliable).sends.drop svc.sends.length).filter
      fun send => send.deviceKey = d
  emptied : ∀ r, (svc.publishReadingsOf reliable d).persistence.readingsAt (makePersistenceKey d r) = []
  others : ∀ d' r, Plain d' → d' ≠ d →
    (svc.publishReadingsOf reliable d).persistence.readingsAt (makePersistenceKey d' r) =
      svc.persistence.readingsAt (makePersistenceKey d' r)

/-- No reading is kept under a key without a delimiter. -/
theorem readingsAt_plain (adds : List (String × Reading)) {key : String} (hkey : Plain key) :
    (withReadings adds : DataService ρ).persistence.readingsAt key = [] := by
  rw [readingsAt_withReadings, List.map_eq_nil_iff, List.filter_eq_nil_iff]
  intro add _ h
  rw [decide_eq_true_eq] at h
  apply hkey
  rw [← h, toList_makePersistenceKey]
  simp

/-- The overload for one device looks for its readings under the device key, where there are none. -/
theorem publishReadingsOf_withReadings (ctx : DataContext) (adds : List (String × Reading)) {d : String}
    (hd : Plain d) :
    (withReadings adds : DataService ρ).publishReadingsOf ctx d = withReadings adds := by
  unfold publishReadingsOf publishReadingsForPersistenceKey
  simp [Persistence.getReadings, readingsAt_plain adds hd]

/-- **Readings of one device.** Publishing the readings of a device agrees with publishing all
readings if and only if the device has none. -/
theorem publishReadingsOf_iff (adds : List (String × Reading)) (d : String)
    (hadds : ∀ add ∈ adds, Plain add.1) (hd : Plain d) :
    PublishesDevice (withReadings adds : DataService ρ) d ↔ ∀ add ∈ adds, add.1 ≠ d := by
  constructor
  · rintro ⟨-, hemptied, -⟩ ⟨d', reading⟩ hadd rfl
    have hnone := hemptied reading.reference
    rw [publishReadingsOf_withReadings reliable adds hd, readingsAt_withReadings,
      List.map_eq_nil_iff, List.filter_eq_nil_iff] at hnone
    exact hnone _ hadd (by simp)
  · intro hnone
    have hempty : ∀ key, deviceOf key = d →
        (withReadings adds : DataService ρ).persistence.readingsAt key = [] := by
      intro key hkey
      rw [readingsAt_withReadings, List.map_eq_nil_iff, List.filter_eq_nil_iff]
      intro add hadd h
      rw [decide_eq_true_eq] at h
      rw [← h, deviceOf_make _ (hadds add hadd)] at hkey
      exact hnone add hadd hkey
    obtain ⟨attempts, hall⟩ := publishReadings_spec reliable (withReadings adds : DataService ρ)
    refine ⟨?_, fun r => ?_, fun d' r _ _ => ?_⟩
    · rw [publishReadingsOf_withReadings reliable adds hd, hall.sends, List.drop_left,
        List.self_eq_append_right, List.filter_eq_nil_iff]
      intro send hsend
      obtain ⟨key, -, hattempt⟩ := List.mem_flatMap.mp hsend
      obtain ⟨attempt, hmem, rfl⟩ := List.mem_map.mp hattempt
      intro hdevice
      have hkey : deviceOf key = d := by
        rw [← deviceKey_batchSend (deviceOf key) attempt]
        exact of_decide_eq_true hdevice
      have hdrain := hall.drain key
      rw [hempty key hkey] at hdrain
      rw [hdrain.of_nil.1] at hmem
      exact absurd hmem List.not_mem_nil
    · rw [publishReadingsOf_withReadings reliable adds hd]
      exact hempty _ (deviceOf_make r hd)
    · rw [publishReadingsOf_withReadings reliable adds hd]

theorem publishReadingsOf_iff_sample :
    PublishesDevice (withReadings [("e", ⟨"T", ["1"], 0⟩)] : DataService Unit) "d" ↔
      ∀ add ∈ [("e", (⟨"T", ["1"], 0⟩ : Reading))], add.1 ≠ "d" :=
  publishReadingsOf_iff [("e", ⟨"T", ["1"], 0⟩)] "d" (by decide) (by decide)

/-- One reading of a device stays where it is when the readings of the device are published. -/
theorem publishReadingsOf_misses :
    ¬ PublishesDevice (withReadings [("d", ⟨"T", ["1"], 0⟩)] : DataService Unit) "d" := by
  rintro ⟨-, hemptied, -⟩
  have hnone := hemptied "T"
  rw [publishReadingsOf_withReadings reliable _ (by decide : Plain "d")] at hnone
  revert hnone
  decide

end DataService

end WolkConnect
