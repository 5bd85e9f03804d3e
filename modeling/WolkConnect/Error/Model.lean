import WolkConnect.Lib.OrderedMap
import Mathlib.Data.String.Basic
import Mathlib.Algebra.Order.Ring.Int

/-!
# The error service

`ErrorService.cpp`: the cache of error messages and the timer that clears it. A time
is a count of clock ticks, a nanosecond each.
-/

namespace WolkConnect

abbrev TimePoint := Int

structure ErrorMessage where
  deviceKey : String
  message : String
  arrivalTime : TimePoint
  deriving DecidableEq

abbrev DeviceErrorMessages := OrderedMap TimePoint ErrorMessage

abbrev ErrorMessageCache := OrderedMap String DeviceErrorMessages

/-- Undefined uses of an iterator of a map. -/
inductive IteratorFault
  | advancedPastEnd
  | dereferencedEnd
  deriving DecidableEq

structure ErrorService where
  /-- `m_retainTime`, in milliseconds. -/
  retainTime : Int
  cached : ErrorMessageCache

namespace ErrorService

variable (svc : ErrorService)

def messagesOf (deviceKey : String) : DeviceErrorMessages :=
  (svc.cached.find? deviceKey).getD .empty

def peekMessagesForDevice (deviceKey : String) : Nat := (svc.messagesOf deviceKey).size

/-- The iterator that `obtainFirstMessageForDevice` and `obtainLastMessageForDevice` differ in:
`begin()`, or the one before `end()`. -/
inductive MessagePosition
  | first
  | last
  deriving DecidableEq

def MessagePosition.entry (messages : DeviceErrorMessages) :
    MessagePosition → Option (TimePoint × ErrorMessage)
  | .first => messages.entries.head?
  | .last => messages.entries.getLast?

/-- The message at the position leaves the cache. -/
def obtainMessageForDevice (position : MessagePosition) (deviceKey : String) :
    Option ErrorMessage × ErrorService :=
  match svc.cached.find? deviceKey with
  | none => (none, svc)
  | some deviceMessages =>
    match position.entry deviceMessages with
    | none => (none, svc)
    | some (arrivalTime, message) =>
      (some message,
        { svc with cached := svc.cached.insert deviceKey (deviceMessages.erase arrivalTime) })

def obtainFirstMessageForDevice (deviceKey : String) : Option ErrorMessage × ErrorService :=
  svc.obtainMessageForDevice .first deviceKey

def obtainLastMessageForDevice (deviceKey : String) : Option ErrorMessage × ErrorService :=
  svc.obtainMessageForDevice .last deviceKey

/-- `messageReceived`, once the message has been parsed. -/
def messageReceived (errorMessage : ErrorMessage) : ErrorService :=
  let deviceMessages :=
    (svc.messagesOf errorMessage.deviceKey).emplace errorMessage.arrivalTime errorMessage
  { svc with cached := svc.cached.insert errorMessage.deviceKey deviceMessages }

/-- `now - arrivalTime >= m_retainTime`. -/
def expired (now arrivalTime : TimePoint) : Bool := svc.retainTime * 1000000 ≤ now - arrivalTime

/-- `*it` for the iterator that is `i` past the first message. -/
def dereference (messages : DeviceErrorMessages) (i : Nat) :
    Except IteratorFault (TimePoint × ErrorMessage) :=
  match messages.entries[i]? with
  | some entry => .ok entry
  | none => .error (if i = messages.size then .dereferencedEnd else .advancedPastEnd)

/-- The loop of `timerRuntime` over the messages of a device, from position `i` down. -/
def clearMessages (now : TimePoint) : Nat → DeviceErrorMessages →
    Except IteratorFault DeviceErrorMessages
  | 0, messages => .ok messages
  | i + 1, messages => do
    let (arrivalTime, _) ← dereference messages (i + 1)
    clearMessages now i
      (if svc.expired now arrivalTime then messages.eraseBefore (i + 1) else messages)

/-- One pass of the loop over the devices. -/
def clearDevice (now : TimePoint) (cached : ErrorMessageCache) (deviceKey : String) :
    Except IteratorFault ErrorMessageCache :=
  match cached.find? deviceKey with
  | none => .ok cached
  | some messages => do
    let messages ← svc.clearMessages now messages.size messages
    .ok (cached.insert deviceKey messages)

def timerRuntime (now : TimePoint) : Except IteratorFault ErrorService := do
  let cached ← svc.cached.keys.foldlM (svc.clearDevice now) svc.cached
  .ok { svc with cached := cached }

end ErrorService

end WolkConnect
