import WolkConnect.Registration.Queries

/-!
# The keys of queries

A timestamp is cut to milliseconds when the key is made, when the request is made, and
when the key is made again from the response.
-/

namespace WolkConnect

/-- `std::hash` of the two types that are hashed. -/
structure StdHash where
  uint64 : UInt64 → UInt64
  string : String → UInt64

namespace DeviceQueryData

variable (a b : DeviceQueryData)

/-- `operator==` -/
def equal : Bool :=
  a.timestampFrom == b.timestampFrom && a.deviceType == b.deviceType && a.externalId == b.externalId

/-- `DeviceQueryDataHash` -/
def hash (std : StdHash) : UInt64 :=
  let timestamp := std.uint64 (UInt64.ofInt a.timestampFrom)
  let deviceType := std.string a.deviceType
  let externalId := std.string a.externalId
  timestamp ^^^ (deviceType <<< 1) ^^^ (externalId <<< 2)

/-- The map finds a key under itself and under no other. -/
theorem equal_iff {a b : DeviceQueryData} : a.equal b = true ↔ a = b := by
  unfold equal
  rw [DeviceQueryData.ext_iff, Bool.and_eq_true, Bool.and_eq_true, and_assoc]
  simp only [beq_iff_eq]

theorem hash_eq_of_equal {a b : DeviceQueryData} (h : a.equal b = true) (std : StdHash) :
    a.hash std = b.hash std :=
  congrArg (fun data => data.hash std) (equal_iff.mp h)

end DeviceQueryData

/-- What is cut off brings a time nearer to the epoch, before it and after it. -/
theorem natAbs_ofMilliseconds_toMilliseconds_le (time : TimePoint) :
    (ofMilliseconds (toMilliseconds time)).natAbs ≤ time.natAbs := by
  unfold ofMilliseconds toMilliseconds
  rw [Int.natAbs_mul, Int.natAbs_tdiv]
  exact Nat.div_mul_le_self _ _

theorem ofMilliseconds_injective {m n : Int} (h : ofMilliseconds m = ofMilliseconds n) : m = n := by
  rw [← toMilliseconds_ofMilliseconds m, h, toMilliseconds_ofMilliseconds]

namespace DeviceQuery

/-- Two calls make one key if their times agree in milliseconds, and their types and ids agree. -/
theorem data_eq_iff (query query' : DeviceQuery) :
    query.data = query'.data ↔
      toMilliseconds query.timestampFrom = toMilliseconds query'.timestampFrom ∧
        query.deviceType = query'.deviceType ∧ query.externalId = query'.externalId := by
  rw [DeviceQueryData.ext_iff]
  refine and_congr_left' ⟨ofMilliseconds_injective, fun h => ?_⟩
  exact congrArg ofMilliseconds h

/-- What a call puts into the map is there for its response. -/
theorem find?_response {ρ : Type} (svc : DeviceQueries ρ) (query : DeviceQuery) (callback : Option ρ)
    (devices : List RegisteredDeviceInformation) :
    ((svc.emplace query.data callback).deviceRegistrationResponses.find?
      (query.response devices).query).isSome = true := by
  rw [query.response_query devices]
  change ((OrderedMap.emplace _ query.data _).find? query.data).isSome = true
  rw [OrderedMap.find?_emplace, if_pos rfl]
  rfl

/-- **Query keys.** The key that a call stores equals the key that is made from the response to it,
and has its hash, so that the response finds the entry. Two calls store equal keys if and only if
their times agree in milliseconds, and their types and ids agree. The times in the keys stay in the
range of the calls' times. -/
theorem keys_survive {ρ : Type} (std : StdHash) (svc : DeviceQueries ρ) (query query' : DeviceQuery)
    (callback : Option ρ) (devices : List RegisteredDeviceInformation) :
    (query.data.equal (query.response devices).query = true ∧
        query.data.hash std = (query.response devices).query.hash std ∧
        ((svc.emplace query.data callback).deviceRegistrationResponses.find?
          (query.response devices).query).isSome = true) ∧
      (query.data.equal query'.data = true ↔
        toMilliseconds query.timestampFrom = toMilliseconds query'.timestampFrom ∧
          query.deviceType = query'.deviceType ∧ query.externalId = query'.externalId) ∧
      query.data.timestampFrom.natAbs ≤ query.timestampFrom.natAbs := by
  have hequal : query.data.equal (query.response devices).query = true :=
    DeviceQueryData.equal_iff.mpr (query.response_query devices).symm
  have hhash := DeviceQueryData.hash_eq_of_equal hequal std
  refine ⟨⟨hequal, hhash, find?_response svc query callback devices⟩, ?_, ?_⟩
  · rw [DeviceQueryData.equal_iff]
    exact data_eq_iff query query'
  · exact natAbs_ofMilliseconds_toMilliseconds_le query.timestampFrom

/-- Half a millisecond before the epoch and half a millisecond after it are one time. -/
example : (DeviceQuery.mk (-500000) "a" "").data = (DeviceQuery.mk 500000 "a" "").data :=
  DeviceQueryData.ext (by decide) rfl rfl

end DeviceQuery

end WolkConnect
