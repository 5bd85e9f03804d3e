import WolkConnect.Lib.GrowingArray
import WolkConnect.Lib.OrderedMap
import Mathlib.Data.String.Basic

/-!
# Queries for the children of a device

`RegistrationService.cpp`: `obtainChildren`, `obtainChildrenAsync`, and the handler of
their responses. The callbacks of each device wait in line for its responses.
-/

namespace WolkConnect

structure ChildrenSynchronizationResponseMessage where
  children : List String

/-- The protocol and the connectivity service, as they are when a call is made. -/
structure ChildrenContext (M : Type) where
  makeOutboundMessage : String → Option M
  publish : M → Bool

/-- Messages are made and published. -/
def ChildrenContext.working : ChildrenContext Unit := ⟨fun _ => some (), fun _ => true⟩

/-- The commands call a callback `ρ` with the keys of the children. -/
structure ChildrenQueries (ρ : Type) where
  childrenSynchronizationCallbacks : OrderedMap String (GrowingArray ρ)
  commandBuffer : List (ρ × List String)

namespace ChildrenQueries

variable {M ρ : Type} (ctx : ChildrenContext M) (grow : Nat → Nat) (svc : ChildrenQueries ρ)

/-- `m_childrenSynchronizationCallbacks[deviceKey]`. -/
def callbacks (deviceKey : String) : GrowingArray ρ :=
  (svc.childrenSynchronizationCallbacks.find? deviceKey).getD .empty

def setCallbacks (deviceKey : String) (callbacks : GrowingArray ρ) : ChildrenQueries ρ :=
  { svc with
    childrenSynchronizationCallbacks :=
      svc.childrenSynchronizationCallbacks.insert deviceKey callbacks }

/-- The message is made, and, under the lock, published. -/
def publishRequest (deviceKey : String) : Bool :=
  match ctx.makeOutboundMessage deviceKey with
  | none => false
  | some message => ctx.publish message

def emplaceBack (deviceKey : String) (callback : ρ) : ChildrenQueries ρ :=
  svc.setCallbacks deviceKey ((svc.callbacks deviceKey).pushBack grow callback)

/-- `obtainChildren` up to the wait, with the position of its callback. -/
def sendRequest (deviceKey : String) (callback : ρ) :
    Option GrowingArray.Position × ChildrenQueries ρ :=
  if publishRequest ctx deviceKey then
    let sent := svc.emplaceBack grow deviceKey callback
    (some (sent.callbacks deviceKey).last, sent)
  else (none, svc)

/-- `obtainChildren` after a wait in which the callback was not called. -/
def eraseCallback (deviceKey : String) (callbackIt : GrowingArray.Position) :
    Option (ChildrenQueries ρ) :=
  ((svc.callbacks deviceKey).erase callbackIt).map (svc.setCallbacks deviceKey)

def obtainChildrenAsync (deviceKey : String) (callback : Option ρ) : Bool × ChildrenQueries ρ :=
  match callback with
  | none => (false, svc)
  | some callback =>
    if publishRequest ctx deviceKey then (true, svc.emplaceBack grow deviceKey callback)
    else (false, svc)

def handleChildrenSynchronizationResponse (deviceKey : String)
    (responseMessage : Option ChildrenSynchronizationResponseMessage) : ChildrenQueries ρ :=
  match responseMessage with
  | none => svc
  | some message =>
    let callbacks := svc.callbacks deviceKey
    match callbacks.elements with
    | [] => svc.setCallbacks deviceKey callbacks
    | callback :: _ =>
      let taken := svc.setCallbacks deviceKey (callbacks.removeAt 0)
      { taken with commandBuffer := taken.commandBuffer ++ [(callback, message.children)] }

theorem callbacks_setCallbacks (deviceKey deviceKey' : String) (callbacks : GrowingArray ρ) :
    (svc.setCallbacks deviceKey callbacks).callbacks deviceKey' =
      if deviceKey = deviceKey' then callbacks else svc.callbacks deviceKey' := by
  unfold setCallbacks ChildrenQueries.callbacks
  rw [OrderedMap.find?_insert]
  split_ifs <;> rfl

end ChildrenQueries

end WolkConnect
