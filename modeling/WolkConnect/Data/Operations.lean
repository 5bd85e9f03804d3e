import WolkConnect.Data.System

/-!
# The data service at work

The calls that `DataService.cpp` serves, one after the other in any order. What the
service has of readings and of entries changes by few of them, and messages are only
ever added to those that were sent.
-/

namespace WolkConnect

inductive DataOperation (ρ : Type)
  | addReading (deviceKey : String) (reading : Reading)
  | addReadings (deviceKey : String) (readings : List Reading)
  | addAttribute (deviceKey : String) (entry : Attribute)
  | updateParameter (deviceKey : String) (parameter : Parameter)
  | synchronizeParameters (deviceKey : String) (parameters : List ParameterName)
    (callback : Option ρ)
  | detailsSynchronizationAsync (deviceKey : String) (callback : Option ρ)
  | publishReadings
  | publishReadingsOf (deviceKey : String)
  | publishAttributes
  | publishAttributesOf (deviceKey : String)
  | publishParameters
  | publishParametersOf (deviceKey : String)
  | messageReceived (deviceKey : String) (message : DataService.Inbound)
  /-- The service's own command buffer takes out its first command. -/
  | runCommand

/-- The readings in a message. -/
def DataMessage.readings : DataMessage → List Reading
  | .feedValues readings => readings
  | _ => []

/-- A message that asks for something. -/
def DataMessage.asks : DataMessage → Prop
  | .synchronizeParameters _ | .detailsSynchronizationRequest => True
  | _ => False

namespace DataOperation

variable {ρ : Type} {op : DataOperation ρ}

/-- The readings that are added, each with its device. -/
def readings : DataOperation ρ → List (String × Reading)
  | addReading d reading => [(d, reading)]
  | addReadings d readings => readings.map fun reading => (d, reading)
  | _ => []

/-- The attributes that are put, each with its device. -/
def attributes : DataOperation ρ → List (String × Attribute)
  | addAttribute d entry => [(d, entry)]
  | _ => []

def parameters : DataOperation ρ → List (String × Parameter)
  | updateParameter d parameter => [(d, parameter)]
  | _ => []

/-- The devices for which readings are put into the store. -/
def readingKeys : DataOperation ρ → List String
  | addReading d _ | addReadings d _ => [d]
  | _ => []

/-- The devices for which an entry is put into the store, or something is asked for. -/
def otherKeys : DataOperation ρ → List String
  | addAttribute d _ | updateParameter d _ | synchronizeParameters d _ _
  | detailsSynchronizationAsync d _ => [d]
  | _ => []

theorem mem_readingKeys {add : String × Reading} (h : add ∈ op.readings) :
    add.1 ∈ op.readingKeys := by
  cases op with
  | addReading d reading =>
    rw [List.mem_singleton.mp h]
    exact List.mem_cons_self
  | addReadings d readings =>
    obtain ⟨reading, -, rfl⟩ := List.mem_map.mp h
    exact List.mem_cons_self
  | _ => cases h

theorem mem_otherKeys_of_attributes {put : String × Attribute} (h : put ∈ op.attributes) :
    put.1 ∈ op.otherKeys := by
  cases op with
  | addAttribute d entry =>
    rw [List.mem_singleton.mp h]
    exact List.mem_cons_self
  | _ => cases h

theorem mem_otherKeys_of_parameters {put : String × Parameter} (h : put ∈ op.parameters) :
    put.1 ∈ op.otherKeys := by
  cases op with
  | updateParameter d parameter =>
    rw [List.mem_singleton.mp h]
    exact List.mem_cons_self
  | _ => cases h

end DataOperation

namespace DataService

variable {ρ α : Type} {ctx : DataContext} {kind : EntryKind α} {svc svc' svc'' : DataService ρ}

def perform (ctx : DataContext) (svc : DataService ρ) : DataOperation ρ → DataService ρ
  | .addReading d reading => svc.addReading d reading
  | .addReadings d readings => svc.addReadings d readings
  | .addAttribute d entry => svc.addAttribute d entry
  | .updateParameter d parameter => svc.updateParameter d parameter
  | .synchronizeParameters d parameters callback =>
    (svc.synchronizeParameters ctx d parameters callback).2
  | .detailsSynchronizationAsync d callback => (svc.detailsSynchronizationAsync ctx d callback).2
  | .publishReadings => svc.publishReadings ctx
  | .publishReadingsOf d => svc.publishReadingsOf ctx d
  | .publishAttributes => svc.publishAttributes ctx
  | .publishAttributesOf d => svc.publishAttributesOf ctx d
  | .publishParameters => svc.publishParameters ctx
  | .publishParametersOf d => svc.publishParametersOf ctx d
  | .messageReceived d message => svc.messageReceived ctx d message
  | .runCommand => { svc with commandBuffer := svc.commandBuffer.tail }

/-- A service after these calls. -/
def performed (ctx : DataContext) (ops : List (DataOperation ρ)) : DataService ρ :=
  ops.foldl (perform ctx) (.create .empty)

theorem performed_append (ctx : DataContext) (ops : List (DataOperation ρ)) (op : DataOperation ρ) :
    performed ctx (ops ++ [op]) = (performed ctx ops).perform ctx op := by
  rw [performed, List.foldl_append]
  rfl

/-! ## Calls that only send -/

/-- The store is as before, and what was sent asks for something for one of these devices. -/
structure OnlyAsks (ds : List String) (svc svc' : DataService ρ) : Prop where
  persistence : svc'.persistence = svc.persistence
  sends : ∃ more, svc'.sends = svc.sends ++ more ∧
    ∀ send ∈ more, send.message.asks ∧ send.deviceKey ∈ ds

theorem OnlyAsks.silent {ds : List String} (hp : svc'.persistence = svc.persistence)
    (hs : svc'.sends = svc.sends) : OnlyAsks ds svc svc' :=
  ⟨hp, [], by rw [hs, List.append_nil], by simp⟩

theorem OnlyAsks.one (send : Send) (hp : svc'.persistence = svc.persistence)
    (hs : svc'.sends = svc.sends ++ [send]) (hasks : send.message.asks) :
    OnlyAsks [send.deviceKey] svc svc' :=
  ⟨hp, [send], hs, by simpa using hasks⟩

theorem synchronizeParameters_onlyAsks (ctx : DataContext) (svc : DataService ρ) (d : String)
    (parameters : List ParameterName) (callback : Option ρ) :
    OnlyAsks [d] svc (svc.synchronizeParameters ctx d parameters callback).2 := by
  rcases synchronizeParameters_cases ctx svc d parameters callback with
    ⟨c, -, -, hsvc⟩ | ⟨-, hsvc⟩
  · rw [hsvc]
    exact .one ⟨d, .synchronizeParameters parameters, _⟩ rfl rfl trivial
  · rw [hsvc]
    exact .one ⟨d, .synchronizeParameters parameters, _⟩ rfl rfl trivial

theorem detailsSynchronizationAsync_onlyAsks (ctx : DataContext) (svc : DataService ρ) (d : String)
    (callback : Option ρ) : OnlyAsks [d] svc (svc.detailsSynchronizationAsync ctx d callback).2 := by
  unfold detailsSynchronizationAsync
  split_ifs
  · cases callback <;>
      exact .one ⟨d, .detailsSynchronizationRequest, .published⟩ rfl rfl trivial
  · exact .one ⟨d, .detailsSynchronizationRequest, .unserialisable⟩ rfl rfl trivial

/-- A message that comes in is not answered by one. -/
theorem messageReceived_onlyAsks (ctx : DataContext) (svc : DataService ρ) (d : String)
    (message : Inbound) : OnlyAsks [] svc (svc.messageReceived ctx d message) := by
  rcases messageReceived_cases ctx svc d message with
    ⟨_, _, _, -, -, hsvc⟩ | ⟨_, _, _, -, -, hsvc⟩ | ⟨_, hsvc⟩ <;>
  · rw [hsvc]
    exact .silent rfl rfl

end DataService

end WolkConnect
