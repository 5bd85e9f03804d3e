import WolkConnect.Connector.Delivery

/-!
# The last attributes and parameters, and the requests about feeds

Of the attributes, and of the parameters that a connector does not report about itself, the
ones that users set last are what the platform hears last, as long as messages can be made. What users ask of the feeds goes out in
their order.
-/

namespace WolkConnect

namespace DataRequest

variable {ρ φ : Type}

/-- The attributes in a request, each with its device. -/
def attributes (d : String) : DataRequest ρ φ → List (String × Attribute)
  | .addAttribute entry => [(d, entry)]
  | _ => []

def parameters (d : String) : DataRequest ρ φ → List (String × Parameter)
  | .updateParameter parameter => [(d, parameter)]
  | _ => []

theorem operations_attributes (d : String) (request : DataRequest ρ φ) :
    (request.operations d).flatMap DataOperation.attributes = request.attributes d := by
  cases request <;> rfl

theorem operations_parameters (d : String) (request : DataRequest ρ φ) :
    (request.operations d).flatMap DataOperation.parameters = request.parameters d := by
  cases request <;> rfl

end DataRequest

namespace DataService

variable {ρ α : Type} {kind : EntryKind α} {entriesIn : DataMessage → List α}
  {puts : List (String × α)} {svc : DataService ρ} {d name : String} {entry : α}

/-- Entries of other names do not matter. -/
theorem latest_filter {keep : α → Bool} (hkeep : ∀ entry, kind.name entry = name → keep entry = true)
    (l : List (String × α)) :
    latest kind (l.filter fun put => keep put.2) d name = latest kind l d name := by
  rw [latest, latest, ← List.filter_reverse, List.find?_filter]
  refine congrArg (Option.map Prod.snd) (congrArg (l.reverse.find? ·) (funext fun put => ?_))
  rw [decide_eq_decide, decide_eq_true_eq]
  exact and_iff_right_of_imp fun h => hkeep put.2 h.2

/-- Where the store is empty, what was put last was taken out of it last. -/
theorem Current.taken (h : Current kind entriesIn puts svc) (hd : Plain d)
    (hempty : ∀ key, (kind.stored svc.persistence).find? key = none)
    (hlatest : latest kind puts d name = some entry) :
    latest kind (takenEntries entriesIn svc.sends) d name = some entry := by
  rcases h.current d name hd with hstored | ⟨-, htaken⟩
  · rw [hempty, hlatest] at hstored
    cases hstored
  · rw [htaken, hlatest]

end DataService

namespace Connector

open DataService (latest takenEntries carriedEntries)

variable {ρ φ η α : Type} {type : WolkInterfaceType} {ctx : ConnectorContext φ}
  {w w' init : Connector ρ φ η type} {es : List (WolkClientEvent ρ φ type)}
  {services : ConnectorServices ρ} {feedUpdateHandler parameterHandler : Handler η}
  {devices : type.Devices} {d name : String} {asked executed : List (String × DataRequest ρ φ)}

/-- The attributes that users added in a run, each with its device. -/
def attributesIn (requests : List (String × DataRequest ρ φ)) : List (String × Attribute) :=
  requests.flatMap fun request => request.2.attributes request.1

/-- The parameters that they set. -/
def parametersIn (requests : List (String × DataRequest ρ φ)) : List (String × Parameter) :=
  requests.flatMap fun request => request.2.parameters request.1

/-- What users put last under a name is what the service got last under it, where the connector itself
puts nothing under the name. -/
theorem Executes.latest_eq (h : Executes asked executed w) {kind : EntryKind α}
    {f : DataOperation ρ → List (String × α)} (keep : α → Bool)
    (hown : ∀ op, op.own = true → (f op).filter (fun put => keep put.2) = [])
    (hkeep : ∀ entry, kind.name entry = name → keep entry = true) :
    latest kind (w.performed.flatMap f) d name =
      latest kind (executed.flatMap fun request => (request.2.operations request.1).flatMap f) d name := by
  have hsame : (w.performed.flatMap f).filter (fun put => keep put.2) =
      (executed.flatMap fun request => (request.2.operations request.1).flatMap f).filter
        fun put => keep put.2 := by
    rw [List.filter_flatMap, h.flatMap hown, List.filter_flatMap]
    exact congrArg executed.flatMap (funext fun request => List.filter_flatMap.symm)
  rw [← DataService.latest_filter hkeep (w.performed.flatMap f), hsame, DataService.latest_filter hkeep]

theorem Executes.latest_attributes (h : Executes asked executed w) :
    latest attributeKind (w.performed.flatMap DataOperation.attributes) d name =
      latest attributeKind (attributesIn executed) d name := by
  have hown : ∀ op : DataOperation ρ, op.own = true → op.attributes.filter (fun _ => true) = [] := by
    intro op hown
    cases op <;> first | rfl | exact Bool.noConfusion hown
  rw [h.latest_eq (fun _ => true) hown fun _ _ => rfl]
  exact congrArg (latest attributeKind · d name)
    (congrArg executed.flatMap (funext fun request => request.2.operations_attributes request.1))

theorem Executes.latest_parameters (h : Executes asked executed w)
    (hname : name ∉ reported.map ParameterName.text) :
    latest parameterKind (w.performed.flatMap DataOperation.parameters) d name =
      latest parameterKind (parametersIn executed) d name := by
  have hown : ∀ op : DataOperation ρ, op.own = true →
      op.parameters.filter (fun put => !decide (put.2.1 ∈ reported)) = [] := by
    intro op hown
    cases op with
    | updateParameter d parameter => simpa [DataOperation.parameters, DataOperation.own] using hown
    | _ => rfl
  have hkeep : ∀ parameter, parameterKind.name parameter = name →
      (!decide (parameter.1 ∈ reported)) = true := by
    rintro parameter rfl
    rw [Bool.not_eq_true', decide_eq_false_iff_not]
    exact fun hmem => hname (List.mem_map_of_mem hmem)
  rw [h.latest_eq _ hown hkeep]
  exact congrArg (latest parameterKind · d name)
    (congrArg executed.flatMap (funext fun request => request.2.operations_parameters request.1))

/-- **Requests about feeds.** At any time, the messages that users asked for by registering and removing
feeds and by pulling feed values and parameters are those that the connector has tried to send, once
each and in the order of the calls, and those whose commands wait. -/
theorem feeds_in_order (hrun : Machine.Run (step ctx) (fun _ _ => True)
      (build ctx services feedUpdateHandler parameterHandler devices) es w) :
    (askedIn ctx (build ctx services feedUpdateHandler parameterHandler devices) es).flatMap
        (fun request => request.2.messages request.1) =
      w.feeds.sends.map FeedSend.request ++
        w.waiting.flatMap fun request => request.2.messages request.1 := by
  obtain ⟨executed, hexecutes⟩ := executes_run
    (executes_build ctx services feedUpdateHandler parameterHandler devices) hrun
  rw [hexecutes.order, List.flatMap_append, hexecutes.messages]

/-- Of two requests one was sent, and the one for a device that is not there is none. -/
theorem feeds_in_order_unlisted : ∃ w : Connector Unit Empty Unit .multiDevice,
    (askedIn reliably oneDevice [.multi "D" .pullParameters, .multi "E" .pullFeedValues,
        .multi "D" (.removeFeed "T"), .link (.event (.execute true))]).flatMap
        (fun request => request.2.messages request.1) =
      w.feeds.sends.map FeedSend.request ++
        w.waiting.flatMap (fun request => request.2.messages request.1) ∧
    w.feeds.sends.map FeedSend.request = [("D", .parametersPull)] ∧
    w.waiting.flatMap (fun request => request.2.messages request.1) = [("D", .feedRemoval ["T"])] := by
  obtain ⟨w, hrun, hw⟩ := Machine.Run.exists_of_check (step reliably) (fun _ _ => True) oneDevice
    [.multi "D" .pullParameters, .multi "E" .pullFeedValues, .multi "D" (.removeFeed "T"),
      .link (.event (.execute true))]
    (fun w => (w.feeds.sends.map FeedSend.request,
      w.waiting.flatMap fun request => request.2.messages request.1))
    ([("D", .parametersPull)], [("D", .feedRemoval ["T"])]) (by decide +kernel)
  obtain ⟨hsent, hwaiting⟩ := Prod.mk.inj hw
  exact ⟨w, feeds_in_order hrun, hsent, hwaiting⟩

end Connector

end WolkConnect
