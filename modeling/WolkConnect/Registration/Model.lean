import WolkConnect.Lib.Heap
import WolkConnect.Lib.OrderedMap
import Mathlib.Data.List.Lex
import Mathlib.Data.String.Basic

/-!
# The registration service

`RegistrationService.cpp`: requests that register devices, and their responses. A
request waits under the sorted keys of its devices.
-/

namespace WolkConnect

structure DeviceRegistrationData where
  name : String
  key : String
  guid : String
  deriving DecidableEq

structure DeviceRegistrationResponseMessage where
  success : List String
  failed : List String
  deriving DecidableEq

/-- The protocol, the connectivity service and the standard library. -/
structure RegistrationContext (M : Type) where
  makeOutboundMessage : String → List DeviceRegistrationData → Option M
  publish : M → Bool
  sortHeap : List String → List String

/-- A callback `ρ` that is to be called waits in the command buffer with its arguments. -/
structure RegistrationService (ρ : Type) where
  deviceRegistrationCallbacks : OrderedMap (List String) ρ
  commandBuffer : List (ρ × List String × List String)

namespace RegistrationService

variable {M ρ : Type} (ctx : RegistrationContext M) (svc : RegistrationService ρ)

def registerDevices (deviceKey : String) (devices : List DeviceRegistrationData) (callback : ρ) :
    Bool × RegistrationService ρ :=
  if devices = [] then (false, svc)
  else if devices.any fun device => device.key = "" then (false, svc)
  else
    let deviceNames := ctx.sortHeap (devices.map DeviceRegistrationData.key)
    match ctx.makeOutboundMessage deviceKey devices with
    | none => (false, svc)
    | some message =>
      if ctx.publish message then
        (true, { svc with
          deviceRegistrationCallbacks :=
            svc.deviceRegistrationCallbacks.emplace deviceNames callback })
      else (false, svc)

/-- `registerDevices` up to the lock: the message is made and published. -/
def publishDevices (deviceKey : String) (devices : List DeviceRegistrationData) : Bool :=
  if devices = [] then false
  else if devices.any fun device => device.key = "" then false
  else
    match ctx.makeOutboundMessage deviceKey devices with
    | none => false
    | some message => ctx.publish message

/-- `registerDevices` under the lock. -/
def emplaceCallback (sortHeap : List String → List String) (devices : List DeviceRegistrationData)
    (callback : ρ) : RegistrationService ρ :=
  { svc with
    deviceRegistrationCallbacks := svc.deviceRegistrationCallbacks.emplace
      (sortHeap (devices.map DeviceRegistrationData.key)) callback }

def handleDeviceRegistrationResponse (responseMessage : Option DeviceRegistrationResponseMessage) :
    RegistrationService ρ :=
  match responseMessage with
  | none => svc
  | some message =>
    let deviceNames := Heap.sort (message.success ++ message.failed)
    match svc.deviceRegistrationCallbacks.find? deviceNames with
    | none => svc
    | some callback =>
      { svc with
        commandBuffer := svc.commandBuffer ++ [(callback, message.success, message.failed)]
        deviceRegistrationCallbacks := svc.deviceRegistrationCallbacks.erase deviceNames }

/-- The two parts of `registerDevices`, one right after the other. -/
theorem registerDevices_eq (deviceKey : String) (devices : List DeviceRegistrationData)
    (callback : ρ) :
    svc.registerDevices ctx deviceKey devices callback =
      if publishDevices ctx deviceKey devices then
        (true, svc.emplaceCallback ctx.sortHeap devices callback)
      else (false, svc) := by
  unfold registerDevices publishDevices
  by_cases hempty : devices = []
  · rw [if_pos hempty, if_pos hempty]
    rfl
  · rw [if_neg hempty, if_neg hempty]
    by_cases hkey : (devices.any fun device => device.key = "") = true
    · rw [if_pos hkey, if_pos hkey]
      rfl
    · rw [if_neg hkey, if_neg hkey]
      cases ctx.makeOutboundMessage deviceKey devices with
      | none => rfl
      | some message => rfl

end RegistrationService

end WolkConnect
