import WolkConnect.Lib.Run
import WolkConnect.Lib.OrderedMap
import Mathlib.Data.String.Basic

/-!
# Installing packages with APT

`APTPackageInstaller.cpp`. One thread at a time is in `installPackage`, with `m_connectionMutex`, and
another handles the signals, which does not take it.
-/

namespace WolkConnect

inductive InstallationResult
  | installing | installed | failedToConnectToAPT | invalidResponseReceived
  | failedToSubscribeToSignal | packageNotFound
  deriving DecidableEq, Repr

/-- A callback with its arguments. The callback is that of the call with this number. -/
structure InstallationCommand where
  callback : Nat
  absolutePath : String
  result : InstallationResult
  deriving DecidableEq

/-- `commandBuffer` has all commands that were ever pushed. -/
structure APTPackageInstaller where
  transactions : OrderedMap String String
  callbacks : OrderedMap String Nat
  commandBuffer : List InstallationCommand

/-- What the string of a `Finished` signal says. -/
def finishedResult (value : String) : InstallationResult :=
  if value = "exit-success" then .installed else .packageNotFound

namespace APTPackageInstaller

variable (x : APTPackageInstaller)

def create : APTPackageInstaller := ⟨.empty, .empty, []⟩

def handleFinishedSignal (objectPath value : String) : APTPackageInstaller :=
  match x.callbacks.find? objectPath, x.transactions.find? objectPath with
  | some callback, some absolutePath =>
    { commandBuffer := x.commandBuffer ++ [⟨callback, absolutePath, finishedResult value⟩]
      callbacks := x.callbacks.erase objectPath
      transactions := x.transactions.erase objectPath }
  | _, _ => x

end APTPackageInstaller

/-! ## `installPackage` step by step -/

inductive AptSignal
  | finished | configFileConflict | propertiesChanged
  deriving DecidableEq

/-- What a call of the DBus connection comes to: a variant or a subscription, null or zero, an
exception. -/
inductive DBusAnswer
  | value (text : String)
  | null
  | exception
  deriving DecidableEq

inductive InstallPhase
  /-- Before `InstallFile` is called. -/
  | creating
  /-- The transaction is there, and these signals are still to be subscribed to. -/
  | subscribing (transaction : String) (signals : List AptSignal)
  /-- `Run` was called. -/
  | running (transaction : String)
  | recordingPath (transaction : String)
  | recordingCallback (transaction : String)
  | returning (transaction : String)
  deriving DecidableEq

namespace InstallPhase

def transaction : InstallPhase → Option String
  | .creating => none
  | .subscribing name _ | .running name | .recordingPath name | .recordingCallback name
  | .returning name => some name

/-- The next phase, or what `installPackage` returns. -/
def next (answer : DBusAnswer) : InstallPhase → Except InstallationResult InstallPhase
  | .creating =>
    match answer with
    | .value name => .ok (.subscribing name [.finished, .configFileConflict, .propertiesChanged])
    | .null => .error .failedToConnectToAPT
    | .exception => .error .invalidResponseReceived
  | .subscribing name [] => .ok (.running name)
  | .subscribing name (signal :: rest) =>
    match answer with
    | .value _ => .ok (.subscribing name rest)
    | .null =>
      if signal = .finished then .error .failedToSubscribeToSignal
      else .ok (.subscribing name rest)
    | .exception => .error .failedToSubscribeToSignal
  | .running name =>
    match answer with
    | .value _ | .null => .ok (.recordingPath name)
    | .exception => .error .failedToConnectToAPT
  | .recordingPath name => .ok (.recordingCallback name)
  | .recordingCallback name => .ok (.returning name)
  | .returning _ => .error .installing

/-- `Run` has not failed. -/
def accepted : InstallPhase → Bool
  | .recordingPath _ | .recordingCallback _ | .returning _ => true
  | .creating | .subscribing _ _ | .running _ => false

end InstallPhase

structure InstallCall where
  absolutePath : String
  phase : InstallPhase

structure InstallReturn where
  absolutePath : String
  transaction : Option String
  result : InstallationResult

inductive AptEvent
  /-- A call of `installPackage` takes the mutex. -/
  | installPackage (absolutePath : String)
  /-- The call that has the mutex takes its next step. -/
  | next (answer : DBusAnswer)
  /-- The `Finished` signal of a transaction is handled. -/
  | finished (objectPath value : String)

/-- The calls are numbered, and `returned` has those that have returned, in their order: the call in
progress comes next. `owners` tells which call made a transaction, `started` has the transactions that
`Run` was called for, and `finished` the signals that were handled. -/
structure AptSystem where
  installer : APTPackageInstaller
  returned : List InstallReturn
  current : Option InstallCall
  owners : OrderedMap String Nat
  started : List String
  finished : OrderedMap String String

namespace AptSystem

variable (sys : AptSystem)

def create : AptSystem := ⟨.create, [], none, .empty, [], .empty⟩

/-- What a step of `installPackage` does to the members. -/
def record (c : InstallCall) : APTPackageInstaller :=
  match c.phase with
  | .recordingPath name =>
    { sys.installer with transactions := sys.installer.transactions.emplace name c.absolutePath }
  | .recordingCallback name =>
    { sys.installer with callbacks := sys.installer.callbacks.emplace name sys.returned.length }
  | .creating | .subscribing _ _ | .running _ | .returning _ => sys.installer

/-- The transactions with their calls, once there is an answer to `InstallFile`. -/
def created (c : InstallCall) (answer : DBusAnswer) : OrderedMap String Nat :=
  match c.phase, answer with
  | .creating, .value name => sys.owners.insert name sys.returned.length
  | _, _ => sys.owners

/-- The transactions that were started, once `Run` is called. -/
def begun (c : InstallCall) : List String :=
  match c.phase with
  | .subscribing name [] => sys.started ++ [name]
  | _ => sys.started

def next (c : InstallCall) (answer : DBusAnswer) : AptSystem :=
  let sys' :=
    { sys with
      installer := sys.record c, owners := sys.created c answer, started := sys.begun c }
  match c.phase.next answer with
  | .ok phase => { sys' with current := some { c with phase := phase } }
  | .error result =>
    { sys' with
      current := none
      returned := sys.returned ++ [⟨c.absolutePath, c.phase.transaction, result⟩] }

def step (sys : AptSystem) : AptEvent → Except Empty AptSystem
  | .installPackage absolutePath =>
    match sys.current with
    | some _ => .ok sys
    | none => .ok { sys with current := some ⟨absolutePath, .creating⟩ }
  | .next answer =>
    match sys.current with
    | some c => .ok (sys.next c answer)
    | none => .ok sys
  | .finished objectPath value =>
    .ok { sys with
      installer := sys.installer.handleFinishedSignal objectPath value
      finished := sys.finished.insert objectPath value }

/-- A transaction has an object path of its own, and its `Finished` signal is handled once and not before
`Run` is called. -/
def Delivers (sys : AptSystem) : AptEvent → Prop
  | .installPackage _ => True
  | .next (.value name) =>
    sys.current.map (·.phase) = some .creating → sys.owners.find? name = none
  | .next .null | .next .exception => True
  | .finished objectPath _ => objectPath ∈ sys.started ∧ sys.finished.find? objectPath = none

instance (sys : AptSystem) : (e : AptEvent) → Decidable (sys.Delivers e)
  | .installPackage _ | .next .null | .next .exception => inferInstanceAs (Decidable True)
  | .next (.value _) => inferInstanceAs (Decidable (_ → _))
  | .finished _ _ => inferInstanceAs (Decidable (_ ∧ _))

/-- The transaction that `Run` was called for and has not returned. -/
def running : Option String :=
  match sys.current with
  | some ⟨_, .running name⟩ => some name
  | _ => none

/-- The transaction that `Run` has returned for and whose callback is not recorded. -/
def recording : Option String :=
  match sys.current with
  | some ⟨_, .recordingPath name⟩ | some ⟨_, .recordingCallback name⟩ => some name
  | _ => none

/-- A signal is not handled before the callback is recorded, unless `Run` fails. -/
def InTime (sys : AptSystem) : AptEvent → Prop
  | .installPackage _ => True
  | .next answer => answer ≠ .exception → ∀ name ∈ sys.running, sys.finished.find? name = none
  | .finished objectPath _ => sys.recording ≠ some objectPath

instance (sys : AptSystem) : (e : AptEvent) → Decidable (sys.InTime e)
  | .installPackage _ => inferInstanceAs (Decidable True)
  | .next _ => inferInstanceAs (Decidable (_ → ∀ _ ∈ _, _))
  | .finished _ _ => inferInstanceAs (Decidable (_ ≠ _))

/-- The commands that were pushed for a call. -/
def queued (k : Nat) : List InstallationCommand :=
  sys.installer.commandBuffer.filter fun command => command.callback = k

/-- The callback of a call, as the signal of its transaction says, if that was handled. -/
def answers (k : Nat) (name absolutePath : String) : List InstallationCommand :=
  (sys.finished.find? name).toList.map fun value => ⟨k, absolutePath, finishedResult value⟩

/-- Each call that returned `Installing` has its callback queued once its transaction has finished, and
no other call has. -/
structure Reaches : Prop where
  installing : ∀ k r, sys.returned[k]? = some r → r.result = .installing →
    ∃ name, r.transaction = some name ∧ sys.queued k = sys.answers k name r.absolutePath
  failed : ∀ k r, sys.returned[k]? = some r → r.result ≠ .installing → sys.queued k = []

end AptSystem

end WolkConnect
