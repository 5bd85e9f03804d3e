import WolkConnect.Lib.Run

/-!
# Connecting and disconnecting

`WolkInterface.cpp`: the calls that a user makes, and the commands that wait for them
in the command buffer. The buffer executes one command at a time, in order.
-/

namespace WolkConnect

/-- A call of `connect` or `disconnect`, with its number. -/
inductive ConnectionCall
  | connect (number : Nat)
  | disconnect (number : Nat)
  deriving DecidableEq

/-- What waits in the command buffer. `call` is the number of the call that a command comes from. -/
inductive ConnectionCommand
  | tryConnect (call : Nat) (firstTime : Bool)
  | disconnect (call : Nat)
  | publish
  | connectionStatusListener
  deriving DecidableEq

/-- What executed commands have done. -/
inductive ConnectionAction
  /-- `m_connectivityService->connect()`, with its result. -/
  | connect (call : Nat) (firstTime : Bool) (success : Bool)
  | disconnect (call : Nat)
  | flush
  | connectionStatus (connected : Bool)
  deriving DecidableEq

inductive ConnectionEvent
  | connect
  | disconnect
  | publish
  | setConnectionStatusListener (listener : Bool)
  /-- The first command of the buffer is executed. Should it be an attempt to connect, this is what
  comes of it. -/
  | execute (success : Bool)
  deriving DecidableEq

structure WolkInterface where
  connected : Bool
  connectionStatusListener : Bool
  commandBuffer : List ConnectionCommand
  calls : List ConnectionCall
  actions : List ConnectionAction

def ConnectionCall.number : ConnectionCall → Nat
  | .connect n | .disconnect n => n

namespace WolkInterface

variable (w : WolkInterface)

def create : WolkInterface := ⟨false, false, [], [], []⟩

def addToCommandBuffer (command : ConnectionCommand) : WolkInterface :=
  { w with commandBuffer := w.commandBuffer ++ [command] }

def tryConnect (call : Nat) (firstTime : Bool) : WolkInterface :=
  w.addToCommandBuffer (.tryConnect call firstTime)

def connect : WolkInterface :=
  { w.tryConnect w.calls.length true with calls := w.calls ++ [.connect w.calls.length] }

def disconnect : WolkInterface :=
  { w.addToCommandBuffer (.disconnect w.calls.length) with
    calls := w.calls ++ [.disconnect w.calls.length] }

def publish : WolkInterface := w.addToCommandBuffer .publish

def notifyConnectionStatusListener : WolkInterface :=
  if w.connectionStatusListener then w.addToCommandBuffer .connectionStatusListener else w

def notifyConnected : WolkInterface :=
  ({ w with connected := true } : WolkInterface).notifyConnectionStatusListener.publish

def notifyDisconnected : WolkInterface :=
  ({ w with connected := false } : WolkInterface).notifyConnectionStatusListener

def act (action : ConnectionAction) : WolkInterface := { w with actions := w.actions ++ [action] }

def executeCommand (success : Bool) : ConnectionCommand → WolkInterface
  | .tryConnect call firstTime =>
    let w := w.act (.connect call firstTime success)
    if success then w.notifyConnected else w.tryConnect call false
  | .disconnect call => (w.act (.disconnect call)).notifyDisconnected
  | .publish => w.act .flush
  | .connectionStatusListener =>
    if w.connectionStatusListener then w.act (.connectionStatus w.connected) else w

def step (w : WolkInterface) : ConnectionEvent → Except Empty WolkInterface
  | .connect => .ok w.connect
  | .disconnect => .ok w.disconnect
  | .publish => .ok w.publish
  | .setConnectionStatusListener listener => .ok { w with connectionStatusListener := listener }
  | .execute success =>
    match w.commandBuffer with
    | [] => .ok w
    | command :: rest => .ok ({ w with commandBuffer := rest }.executeCommand success command)

end WolkInterface

end WolkConnect
