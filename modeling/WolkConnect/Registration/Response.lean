import WolkConnect.Lib.HeapSort
import WolkConnect.Registration.Model

/-!
# A response finds its request

The request is stored under its keys after `std::sort_heap`, and looked for under the
keys of the response after `std::sort`.
-/

namespace WolkConnect.RegistrationService

open Heap

variable {M ρ : Type} {svc : RegistrationService ρ} {deviceKey : String}
  {devices : List DeviceRegistrationData} {callback : ρ}

def withSortHeap (ctx : RegistrationContext M) (sortHeap : List String → List String) :
    RegistrationContext M :=
  { ctx with sortHeap := sortHeap }

/-- The request can be sent: it names devices with keys, and the message is made and published. -/
structure Sendable (ctx : RegistrationContext M) (deviceKey : String)
    (devices : List DeviceRegistrationData) : Prop where
  nonempty : devices ≠ []
  keys : ∀ device ∈ devices, device.key ≠ ""
  sent : ∃ message, ctx.makeOutboundMessage deviceKey devices = some message ∧
    ctx.publish message = true

/-- The request is accepted, and any response with its keys calls its callback once, with the two
lists of the response, and removes the entry of the request. -/
def Answered (ctx : RegistrationContext M) (svc : RegistrationService ρ) (deviceKey : String)
    (devices : List DeviceRegistrationData) (callback : ρ) : Prop :=
  ∃ svc', svc.registerDevices ctx deviceKey devices callback = (true, svc') ∧
    ∀ success failed, (success ++ failed).Perm (devices.map DeviceRegistrationData.key) →
      svc'.handleDeviceRegistrationResponse (some ⟨success, failed⟩) =
        { svc with commandBuffer := svc.commandBuffer ++ [(callback, success, failed)] }

theorem registerDevices_spec {ctx : RegistrationContext M} (h : Sendable ctx deviceKey devices) :
    svc.registerDevices ctx deviceKey devices callback = (true, { svc with
      deviceRegistrationCallbacks := svc.deviceRegistrationCallbacks.emplace
        (ctx.sortHeap (devices.map DeviceRegistrationData.key)) callback }) := by
  obtain ⟨hne, hkeys, message, hmake, hpublish⟩ := h
  have hany : ¬ (devices.any fun device => decide (device.key = "")) = true := by
    simpa using hkeys
  rw [registerDevices, if_neg hne, if_neg hany]
  simp only [hmake, hpublish, if_true]

/-- Under the sorted keys, an entry that is the only one is found and removed. -/
theorem answered_of_sorted {ctx : RegistrationContext M} (h : Sendable ctx deviceKey devices)
    (hsort : ctx.sortHeap (devices.map DeviceRegistrationData.key) =
      sort (devices.map DeviceRegistrationData.key))
    (hfree : svc.deviceRegistrationCallbacks.find?
      (sort (devices.map DeviceRegistrationData.key)) = none) :
    Answered ctx svc deviceKey devices callback := by
  refine ⟨_, registerDevices_spec h, fun success failed hperm => ?_⟩
  rw [hsort]
  have hemplace : svc.deviceRegistrationCallbacks.emplace
      (sort (devices.map DeviceRegistrationData.key)) callback =
      svc.deviceRegistrationCallbacks.insert
        (sort (devices.map DeviceRegistrationData.key)) callback := by
    simp [OrderedMap.emplace, hfree]
  simp only [handleDeviceRegistrationResponse, sort_eq_of_perm hperm, hemplace,
    OrderedMap.find?_insert_self, OrderedMap.erase_insert hfree]

/-- An entry that waits under the sorted keys already is the one that is found. -/
theorem free_of_answered {ctx : RegistrationContext M} (h : Sendable ctx deviceKey devices)
    (hsort : ctx.sortHeap (devices.map DeviceRegistrationData.key) =
      sort (devices.map DeviceRegistrationData.key))
    (hans : Answered ctx svc deviceKey devices callback) :
    svc.deviceRegistrationCallbacks.find? (sort (devices.map DeviceRegistrationData.key)) = none := by
  obtain ⟨svc', hreg, hresponse⟩ := hans
  rw [registerDevices_spec h, hsort] at hreg
  by_contra hsome
  obtain ⟨old, hold⟩ := Option.ne_none_iff_exists'.mp hsome
  have hkeys : (devices.map DeviceRegistrationData.key ++ []).Perm
      (devices.map DeviceRegistrationData.key) := by simp
  have hmap := congrArg deviceRegistrationCallbacks (hresponse _ _ hkeys)
  have hemplace : svc.deviceRegistrationCallbacks.emplace
      (sort (devices.map DeviceRegistrationData.key)) callback =
      svc.deviceRegistrationCallbacks := by
    simp [OrderedMap.emplace, hold]
  cases hreg
  simp only [handleDeviceRegistrationResponse, List.append_nil, hemplace, hold] at hmap
  have hfind := congrArg (fun m => m.find? (sort (devices.map DeviceRegistrationData.key))) hmap
  simp [OrderedMap.find?_erase, hold] at hfind

theorem sorted_of_answered {ctx : RegistrationContext M} (h : Sendable ctx deviceKey devices)
    (hfree : svc.deviceRegistrationCallbacks.find?
      (sort (devices.map DeviceRegistrationData.key)) = none)
    (hans : Answered ctx svc deviceKey devices callback) :
    ctx.sortHeap (devices.map DeviceRegistrationData.key) =
      sort (devices.map DeviceRegistrationData.key) := by
  obtain ⟨svc', hreg, hresponse⟩ := hans
  rw [registerDevices_spec h] at hreg
  by_contra hne
  have hkeys : (devices.map DeviceRegistrationData.key ++ []).Perm
      (devices.map DeviceRegistrationData.key) := by simp
  have hbuffer := congrArg commandBuffer (hresponse _ _ hkeys)
  have hmissing : (svc.deviceRegistrationCallbacks.emplace
      (ctx.sortHeap (devices.map DeviceRegistrationData.key)) callback).find?
        (sort (devices.map DeviceRegistrationData.key)) = none := by
    unfold OrderedMap.emplace
    split_ifs
    · exact hfree
    · rw [OrderedMap.find?_insert_ne _ _ hne, hfree]
  cases hreg
  simp [handleDeviceRegistrationResponse, hmissing] at hbuffer

/-- **A response finds its request.** Whatever `std::sort_heap` makes of ranges that are no heaps,
a request that is sent is answered as it should be, if and only if its keys are a max-heap in the
order given, and no other request with these keys is waiting. -/
theorem request_answered (ctx : RegistrationContext M) (svc : RegistrationService ρ)
    (deviceKey : String) (devices : List DeviceRegistrationData) (callback : ρ)
    (h : Sendable ctx deviceKey devices) :
    (∀ sortHeap, SortsHeaps sortHeap →
      Answered (withSortHeap ctx sortHeap) svc deviceKey devices callback) ↔
    IsMaxHeap (devices.map DeviceRegistrationData.key) ∧
      svc.deviceRegistrationCallbacks.find? (sort (devices.map DeviceRegistrationData.key)) =
        none := by
  have hsend : ∀ sortHeap, Sendable (withSortHeap ctx sortHeap) deviceKey devices :=
    fun _ => ⟨h.nonempty, h.keys, h.sent⟩
  constructor
  · intro hall
    have hfree := free_of_answered (hsend sort) rfl (hall sort sortsHeaps_sort)
    refine ⟨?_, hfree⟩
    by_contra hheap
    obtain ⟨sortHeap, hsorts, hne⟩ := exists_sortsHeaps_ne hheap
    exact hne (sorted_of_answered (hsend sortHeap) hfree (hall sortHeap hsorts))
  · rintro ⟨hheap, hfree⟩ sortHeap hsorts
    exact answered_of_sorted (hsend sortHeap) (hsorts.eq_sort hheap) hfree

/-- Messages are made and published, and ranges are sorted as libstdc++ does it. -/
def openContext : RegistrationContext Unit := ⟨fun _ _ => some (), fun _ => true, sortHeap⟩

theorem request_answered_ba :
    Answered openContext (⟨.empty, []⟩ : RegistrationService Nat) "gateway"
      [⟨"B", "b", ""⟩, ⟨"A", "a", ""⟩] 7 := by
  have hanswered := (request_answered openContext (⟨.empty, []⟩ : RegistrationService Nat) "gateway"
    [⟨"B", "b", ""⟩, ⟨"A", "a", ""⟩] 7 ⟨by decide, by decide, (), rfl, rfl⟩).mpr ⟨by decide, rfl⟩
  exact hanswered sortHeap sortsHeaps_sortHeap

/-- Two devices in the order of their keys, which is not that of a heap. -/
theorem request_ab_not_answered :
    SortsHeaps openContext.sortHeap ∧
    Sendable openContext "gateway" [⟨"A", "a", ""⟩, ⟨"B", "b", ""⟩] ∧
    ¬ Answered openContext (⟨.empty, []⟩ : RegistrationService Nat) "gateway"
      [⟨"A", "a", ""⟩, ⟨"B", "b", ""⟩] 7 := by
  have hsend : Sendable openContext "gateway" [⟨"A", "a", ""⟩, ⟨"B", "b", ""⟩] :=
    ⟨by decide, by decide, (), rfl, rfl⟩
  refine ⟨sortsHeaps_sortHeap, hsend, fun hans => ?_⟩
  have hsorted := sorted_of_answered hsend rfl hans
  have hkey : sortHeap ["a", "b"] = ["b", "a"] := by decide
  have hpair := sort_sorted ["a", "b"]
  change sortHeap ["a", "b"] = sort ["a", "b"] at hsorted
  rw [← hsorted, hkey] at hpair
  revert hpair
  decide

end WolkConnect.RegistrationService
