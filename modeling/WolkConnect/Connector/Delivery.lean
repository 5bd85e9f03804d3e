import WolkConnect.Connector.Devices

/-!
# From a call to a message

Over any run of a connector: the readings that users added have left in messages or were given up with
a message that could not be made, are in the store, or wait in the command buffer. Calling `publish` gets all of them out once the command
buffer has come to it, while messages can be made and published.
-/

namespace WolkConnect

namespace DataService

variable {ρ α : Type} {ctx : DataContext} {kind : EntryKind α} {svc : DataService ρ} {n : Nat}

theorem Delivers.silent {svc' : DataService ρ} (h : svc'.sends = svc.sends) : Delivers svc svc' :=
  ⟨[], by rw [h, List.append_nil], by simp⟩

theorem Delivers.one {svc' : DataService ρ} (send : Send) (h : svc'.sends = svc.sends ++ [send])
    (hpublished : send.outcome = .published) : Delivers svc svc' :=
  ⟨[send], h, by simpa using hpublished⟩

theorem publishEntriesOf_delivers (hctx : ctx.ReliableFrom n) (hn : n ≤ svc.sends.length)
    (d : String) : Delivers svc (svc.publishEntriesOf ctx kind d) := by
  by_cases hnil : entriesOf kind svc.persistence d = []
  · rw [publishEntriesOf, if_pos hnil]
    exact .refl svc
  · have hpublished : outcomeOf ctx kind svc (d, entriesOf kind svc.persistence d) = .published :=
      hctx _ hn _ _
    rw [publishEntriesOf_eq ctx kind svc hnil, hpublished]
    have hsent := Sent.single kind svc (d, entriesOf kind svc.persistence d) .published
    exact .one _ hsent.sends rfl

theorem publishEntries_only_delivers (hctx : ctx.ReliableFrom n) (hn : n ≤ svc.sends.length) :
    Delivers svc (svc.publishEntries ctx kind) := by
  have hsent : Sent kind svc (svc.publishEntries ctx kind) (groups kind svc.persistence).entries
      fun _ => .published := publishGroups_delivers hctx _ svc hn
  refine ⟨_, hsent.sends, fun send hsend => ?_⟩
  obtain ⟨g, -, rfl⟩ := List.mem_map.mp hsend
  rfl

theorem perform_delivers (hctx : ctx.ReliableFrom n) (hn : n ≤ svc.sends.length)
    (op : DataOperation ρ) : Delivers svc (svc.perform ctx op) := by
  cases op with
  | addReading | addAttribute | updateParameter | runCommand => exact .silent rfl
  | addReadings d readings =>
    exact .silent (List.foldlRecOn (motive := fun s : DataService ρ => s.sends = svc.sends) readings
      _ rfl fun _ h _ _ => h)
  | synchronizeParameters d parameters callback =>
    rcases synchronizeParameters_cases ctx svc d parameters callback with
      ⟨c, -, -, hsvc⟩ | ⟨-, hsvc⟩
    · refine .one ⟨d, .synchronizeParameters parameters, _⟩ (congrArg DataService.sends hsvc) ?_
      exact hctx _ hn _ _
    · refine .one ⟨d, .synchronizeParameters parameters, _⟩ (congrArg DataService.sends hsvc) ?_
      exact hctx _ hn _ _
  | detailsSynchronizationAsync d callback =>
    have hmade : ctx.makeOutboundMessage svc.sends.length d .detailsSynchronizationRequest = true := by
      have hpublished := hctx _ hn d .detailsSynchronizationRequest
      unfold DataContext.outcome at hpublished
      split_ifs at hpublished with hmade
      exact hmade
    have hsends : (svc.detailsSynchronizationAsync ctx d callback).2.sends =
        svc.sends ++ [⟨d, .detailsSynchronizationRequest, .published⟩] := by
      unfold detailsSynchronizationAsync
      rw [if_pos hmade]
      cases callback <;> rfl
    exact .one _ hsends rfl
  | publishReadings => exact (publishReadings_delivers hctx svc hn).1
  | publishReadingsOf d => exact (publishReadingsForPersistenceKey_delivers hctx svc d hn).1
  | publishAttributes | publishParameters => exact publishEntries_only_delivers hctx hn
  | publishAttributesOf d | publishParametersOf d => exact publishEntriesOf_delivers hctx hn d
  | messageReceived d message =>
    obtain ⟨more, hsends, hmore⟩ := (messageReceived_onlyAsks ctx svc d message).sends
    have hnil : more = [] := List.eq_nil_iff_forall_not_mem.mpr fun send hsend => by
      cases (hmore send hsend).2
    rw [hnil, List.append_nil] at hsends
    exact .silent hsends

theorem performs_deliver (hctx : ctx.ReliableFrom n) (ops : List (DataOperation ρ))
    (hn : n ≤ svc.sends.length) : Delivers svc (ops.foldl (perform ctx) svc) := by
  induction ops generalizing svc with
  | nil => exact .refl svc
  | cons op ops ih =>
    have hfirst : Delivers svc (svc.perform ctx op) := perform_delivers hctx hn op
    exact hfirst.trans (ih (hfirst.le hn))

end DataService

namespace Connector

variable {ρ φ η : Type} {type : WolkInterfaceType} {ctx : ConnectorContext φ}
  {w w' init : Connector ρ φ η type} {es : List (WolkClientEvent ρ φ type)}
  {services : ConnectorServices ρ} {feedUpdateHandler parameterHandler : Handler η}
  {devices : type.Devices} {d r : String}

/-- The readings that users added in a run, each with its device. -/
def addedIn (ctx : ConnectorContext φ) (init : Connector ρ φ η type)
    (es : List (WolkClientEvent ρ φ type)) : List (String × Reading) :=
  (askedIn ctx init es).flatMap fun request => request.2.readings request.1

/-- The readings that wait in the command buffer. -/
def waitingReadings (w : Connector ρ φ η type) : List (String × Reading) :=
  w.waiting.flatMap fun request => request.2.readings request.1

/-- The readings that a device has in the store under a reference. -/
def storedReadings (w : Connector ρ φ η type) (d r : String) : List Reading :=
  w.dataService.persistence.readingsAt (makePersistenceKey d r)

/-- A connector whose data service is what its calls have made of it, for device keys without
delimiters. -/
structure Settled (ctx : ConnectorContext φ) (w : Connector ρ φ η type) : Prop where
  within : Within Plain Plain w
  dataService : w.dataService = .performed ctx.built w.performed

theorem Settled.balanced (h : Settled ctx w) {asked executed : List (String × DataRequest ρ φ)}
    (hexecutes : Executes asked executed w) (hd : Plain d) (r : String) :
    readingsFor (asked.flatMap fun request => request.2.readings request.1) d r =
      takenReadings w.dataService.sends d r ++ w.storedReadings d r ++
        readingsFor w.waitingReadings d r := by
  have hledger := DataService.ledger_performed ctx.built w.performed fun add hadd => by
    obtain ⟨op, hop, hadd⟩ := List.mem_flatMap.mp hadd
    exact (h.within.performed op hop).1 _ (DataOperation.mem_readingKeys hadd)
  rw [← h.dataService, hexecutes.readings] at hledger
  rw [hexecutes.order, List.flatMap_append, readingsFor_append, hledger.balanced d r hd]
  rfl

theorem settled_run (hdevices : ∀ key ∈ type.keys devices, Plain key)
    (hrun : Machine.Run (step ctx) (fun _ e => e.PlainKeys)
      (build ctx services feedUpdateHandler parameterHandler devices) es w) : Settled ctx w :=
  ⟨within_plain (within_build ctx services feedUpdateHandler parameterHandler hdevices) hrun,
    dataService_run (build_dataService ctx services feedUpdateHandler parameterHandler devices)
      (hrun.mono fun _ _ _ => trivial)⟩

/-- **The account of the readings.** At any time, the readings that users have added for a device and
a reference are those that were taken out of the store, then those that are in it, then those that wait
in the command buffer: none is doubled or overtaken. Those that were taken were published, unless a
message could not be made, with which its readings are given up. -/
theorem readings_accounted (hdevices : ∀ key ∈ type.keys devices, Plain key)
    (hrun : Machine.Run (step ctx) (fun _ e => e.PlainKeys)
      (build ctx services feedUpdateHandler parameterHandler devices) es w) (hd : Plain d) :
    readingsFor (addedIn ctx (build ctx services feedUpdateHandler parameterHandler devices) es) d r =
      takenReadings w.dataService.sends d r ++ w.storedReadings d r ++
        readingsFor w.waitingReadings d r ∧
    (AllMade w.dataService.sends d →
      takenReadings w.dataService.sends d r = carriedReadings w.dataService.sends d r) := by
  obtain ⟨executed, hexecutes⟩ := executes_run
    (executes_build ctx services feedUpdateHandler parameterHandler devices)
    (hrun.mono fun _ _ _ => trivial)
  exact ⟨(settled_run hdevices hrun).balanced hexecutes hd r, fun hmade => hmade.takenReadings r⟩

/-- A reading that is stored, and one that waits. -/
theorem readings_accounted_waiting : ∃ w : Connector Unit Empty Unit .multiDevice,
    w.storedReadings "D" "T" = [⟨"T", ["1"], 7⟩] ∧
    readingsFor w.waitingReadings "D" "T" = [⟨"T", ["2"], 9⟩] ∧
    readingsFor (addedIn reliably oneDevice [.multi "D" (.addReadingValue "T" "1" 7 8),
      .multi "D" (.addReadingValue "T" "2" 0 9), .link (.event (.execute true))]) "D" "T" =
        takenReadings w.dataService.sends "D" "T" ++ w.storedReadings "D" "T" ++
          readingsFor w.waitingReadings "D" "T" := by
  obtain ⟨w, hrun, hw⟩ := Machine.Run.exists_of_check (step reliably) (fun _ e => e.PlainKeys)
    oneDevice [.multi "D" (.addReadingValue "T" "1" 7 8), .multi "D" (.addReadingValue "T" "2" 0 9),
      .link (.event (.execute true))]
    (fun w => (w.storedReadings "D" "T", readingsFor w.waitingReadings "D" "T"))
    ([⟨"T", ["1"], 7⟩], [⟨"T", ["2"], 9⟩]) (by decide +kernel)
  obtain ⟨hstored, hwaiting⟩ := Prod.mk.inj hw
  exact ⟨w, hstored, hwaiting, (readings_accounted plain_oneDevice hrun (by decide)).1⟩

/-! ## Calling `publish` -/

/-- The entries that were put last are in the store, or messages took them. -/
theorem Settled.current (h : Settled ctx w) :
    DataService.Current attributeKind DataMessage.attributes
        (w.performed.flatMap DataOperation.attributes) w.dataService ∧
      DataService.Current parameterKind DataMessage.parameters
        (w.performed.flatMap DataOperation.parameters) w.dataService := by
  rw [h.dataService]
  refine DataService.current_performed ctx.built w.performed (fun put hput => ?_) fun put hput => ?_
  · obtain ⟨op, hop, hput⟩ := List.mem_flatMap.mp hput
    exact (h.within.performed op hop).2 _ (DataOperation.mem_otherKeys_of_attributes hput)
  · obtain ⟨op, hop, hput⟩ := List.mem_flatMap.mp hput
    exact (h.within.performed op hop).2 _ (DataOperation.mem_otherKeys_of_parameters hput)

theorem Settled.step (h : Settled ctx w) {e : WolkClientEvent ρ φ type} (he : e.PlainKeys) :
    Settled ctx (w.after ctx e) := by
  obtain ⟨hasked, hadded⟩ := plain_event he h.within.devices
  refine ⟨h.within.step ctx e hasked hadded, ?_⟩
  rcases after_cases ctx w e with ⟨success, command, rest, -, -, hdoes⟩ | hdoes
  · exact hdoes.performed_eq h.dataService
  · exact hdoes.performed_eq h.dataService

def executes (successes : List Bool) : List (WolkClientEvent ρ φ type) :=
  successes.map fun success => .link (.event (.execute success))

theorem after_execute (ctx : ConnectorContext φ) {command : ConnectorCommand ρ φ} {rest : List (ConnectorCommand ρ φ)}
    (hbuffer : w.commandBuffer = command :: rest) (success : Bool) :
    Does ctx { w with commandBuffer := rest } (w.after ctx (.link (.event (.execute success))))
      (({ w with commandBuffer := rest } : Connector ρ φ η type).commandWork success command) := by
  change Does ctx _ (w.execute ctx success) _
  unfold execute
  rw [hbuffer]
  exact does_executeCommand ctx _ success command

/-- Executing a buffer up to a `publish`, behind which no requests wait, gets everything out. -/
theorem executes_to_publish {n : Nat} (hctx : ctx.built.ReliableFrom n) (h : Settled ctx w)
    (hn : n ≤ w.dataService.sends.length) {commands rest : List (ConnectorCommand ρ φ)}
    (hbuffer : w.commandBuffer = commands ++ .connection .publish :: rest)
    (hrest : rest.flatMap ConnectorCommand.requests = []) {successes : List Bool}
    (hlength : successes.length = commands.length + 1) :
    ∃ w', Machine.Run (step ctx) (fun _ e => e.PlainKeys) w (executes successes) w' ∧
      DataService.Delivers w.dataService w'.dataService ∧ DataService.Emptied w'.dataService ∧
      w'.waiting = [] ∧ askedIn ctx w (executes successes) = [] := by
  induction commands generalizing w rest successes with
  | nil =>
    obtain ⟨success, rfl⟩ := List.length_eq_one_iff.mp hlength
    have hdoes := after_execute ctx hbuffer success
    have hflush : (w.after ctx (.link (.event (.execute success)))).dataService =
        w.dataService.flush ctx.built := hdoes.dataService
    obtain ⟨hattributes, hparameters⟩ := h.current
    obtain ⟨hdelivers, hemptied⟩ :=
      DataService.flush_empties hctx hn hattributes.filed hparameters.filed
    refine ⟨_, .snoc .nil trivial rfl, hflush ▸ hdelivers, hflush ▸ hemptied, ?_, rfl⟩
    rw [waiting, hdoes.commandBuffer, List.flatMap_append, hrest, commandWork_requests]
    rfl
  | cons command commands ih =>
    cases successes with
    | nil => cases hlength
    | cons success successes =>
      have hdoes := after_execute ctx hbuffer success
      have hfirst : DataService.Delivers w.dataService
          (w.after ctx (.link (.event (.execute success)))).dataService := by
        rw [hdoes.dataService]
        exact DataService.performs_deliver hctx _ hn
      have hnext : (w.after ctx (.link (.event (.execute success)))).commandBuffer =
          commands ++ .connection .publish :: (rest ++
            (({ w with commandBuffer := commands ++ .connection .publish :: rest } :
              Connector ρ φ η type).commandWork success command).commands) := by
        rw [hdoes.commandBuffer]
        exact List.append_assoc commands _ _
      obtain ⟨w', hrun, hdelivers, hemptied, hwaiting, hasked⟩ := ih
        (h.step (e := .link (.event (.execute success))) trivial) (hfirst.le hn) hnext
        (by rw [List.flatMap_append, hrest, commandWork_requests]; rfl) (Nat.succ.inj hlength)
      have hone : Machine.Run (step ctx) (fun _ e => e.PlainKeys) w
          [.link (.event (.execute success))] _ := .snoc .nil trivial rfl
      refine ⟨w', hone.append hrun, hfirst.trans hdelivers, hemptied, hwaiting, ?_⟩
      have hsplit : askedIn ctx w (executes (success :: successes)) =
          askedIn ctx _ (executes successes) := hone.gathered_append (executes successes)
      exact hsplit.trans hasked

/-- Once the buffer has come to a `publish`, all that was asked for until then has been executed, and
the store is empty. -/
theorem publish_settles (hdevices : ∀ key ∈ type.keys devices, Plain key)
    (hrun : Machine.Run (step ctx) (fun _ e => e.PlainKeys)
      (build ctx services feedUpdateHandler parameterHandler devices) es w)
    (hctx : ctx.data.ReliableFrom w.dataService.sends.length) {successes : List Bool}
    (hlength : successes.length = w.commandBuffer.length + 1) :
    ∃ w', Machine.Run (step ctx) (fun _ e => e.PlainKeys) w
        (.link (.event .publish) :: executes successes) w' ∧ Settled ctx w' ∧
      DataService.Delivers w.dataService w'.dataService ∧ DataService.Emptied w'.dataService ∧
      w'.waiting = [] ∧
      Executes (askedIn ctx (build ctx services feedUpdateHandler parameterHandler devices) es)
        (askedIn ctx (build ctx services feedUpdateHandler parameterHandler devices) es) w' := by
  have hone : Machine.Run (step ctx) (fun _ e => e.PlainKeys) w [.link (.event .publish)] w.publish :=
    .snoc .nil trivial rfl
  have hbuffer : w.publish.commandBuffer = w.commandBuffer ++ .connection .publish :: [] := rfl
  obtain ⟨w', hexecuted, hdelivers, hemptied, hwaiting, hasked⟩ :=
    executes_to_publish (fun attempt hle d message => hctx attempt hle d message)
      (settled_run hdevices (hrun.append hone)) (Nat.le_refl _) hbuffer rfl hlength
  have hafter : Machine.Run (step ctx) (fun _ e => e.PlainKeys) w
      (.link (.event .publish) :: executes successes) w' := hone.append hexecuted
  refine ⟨w', hafter, settled_run hdevices (hrun.append hafter), hdelivers, hemptied, hwaiting, ?_⟩
  obtain ⟨executed, hexecutes⟩ := executes_run
    (executes_build ctx services feedUpdateHandler parameterHandler devices)
    ((hrun.append hafter).mono fun _ _ _ => trivial)
  have hsame : askedIn ctx (build ctx services feedUpdateHandler parameterHandler devices)
      (es ++ .link (.event .publish) :: executes successes) =
        askedIn ctx (build ctx services feedUpdateHandler parameterHandler devices) es := by
    have hnone : askedIn ctx w (.link (.event .publish) :: executes successes) = [] :=
      (hone.gathered_append (executes successes)).trans hasked
    have hsplit : askedIn ctx (build ctx services feedUpdateHandler parameterHandler devices)
        (es ++ .link (.event .publish) :: executes successes) = _ ++ askedIn ctx w _ :=
      hrun.gathered_append _
    rw [hsplit, hnone, List.append_nil]
    rfl
  rw [hsame] at hexecutes
  have hall : askedIn ctx (build ctx services feedUpdateHandler parameterHandler devices) es =
      executed := by rw [hexecutes.order, hwaiting, List.append_nil]
  rwa [← hall] at hexecutes

/-- **Publishing.** When `publish` is called, all readings that are in the store by then, or wait in the
command buffer, leave in published messages until the buffer has come to the call, in their order and
whatever attempts to connect come to, as long as messages can be made and published from then on.
Nothing is left in the store, but for readings under the empty device key. -/
theorem publish_delivers (hdevices : ∀ key ∈ type.keys devices, Plain key)
    (hrun : Machine.Run (step ctx) (fun _ e => e.PlainKeys)
      (build ctx services feedUpdateHandler parameterHandler devices) es w)
    (hctx : ctx.data.ReliableFrom w.dataService.sends.length) {successes : List Bool}
    (hlength : successes.length = w.commandBuffer.length + 1) :
    ∃ w', Machine.Run (step ctx) (fun _ e => e.PlainKeys) w
        (.link (.event .publish) :: executes successes) w' ∧
      DataService.Emptied w'.dataService ∧
      ∃ more, w'.dataService.sends = w.dataService.sends ++ more ∧
        (∀ send ∈ more, send.outcome = .published) ∧
        ∀ d r, Plain d → d ≠ "" →
          carriedReadings more d r = w.storedReadings d r ++ readingsFor w.waitingReadings d r := by
  obtain ⟨w', hafter, hsettled, ⟨more, hsends, hmore⟩, hemptied, hwaiting, hexecutes'⟩ :=
    publish_settles hdevices hrun hctx hlength
  refine ⟨w', hafter, hemptied, more, hsends, hmore, fun d r hd hne => ?_⟩
  obtain ⟨executed, hexecutes⟩ := executes_run
    (executes_build ctx services feedUpdateHandler parameterHandler devices)
    (hrun.mono fun _ _ _ => trivial)
  have hbefore := (settled_run hdevices hrun).balanced hexecutes hd r
  have hdone := hsettled.balanced hexecutes' hd r
  have hstored : w'.storedReadings d r = [] :=
    hemptied.readings _ (by rwa [deviceOf_make r hd])
  have hleft : w'.waitingReadings = [] := by
    rw [waitingReadings, hwaiting]
    rfl
  rw [hbefore, hsends, hstored, hleft, takenReadings_append, List.append_nil,
    List.append_assoc, List.append_assoc] at hdone
  have hmade : AllMade more d := fun send hsend _ => by
    rw [hmore send hsend]
    exact Outcome.noConfusion
  rw [← hmade.takenReadings]
  exact ((List.append_cancel_left hdone).trans (List.append_nil _)).symm

/-- A stored reading and a waiting one leave in messages, though the attempt to connect fails. -/
theorem publish_delivers_both : ∃ w w' : Connector Unit Empty Unit .multiDevice,
    Machine.Run (step reliably) (fun _ e => e.PlainKeys) w
      (.link (.event .publish) :: executes [true, false, true]) w' ∧
    DataService.Emptied w'.dataService ∧
    ∃ more, w'.dataService.sends = w.dataService.sends ++ more ∧
      (∀ send ∈ more, send.outcome = .published) ∧
      carriedReadings more "D" "T" = [⟨"T", ["1"], 7⟩, ⟨"T", ["2"], 9⟩] := by
  obtain ⟨w, hrun, hw⟩ := Machine.Run.exists_of_check (step reliably) (fun _ e => e.PlainKeys)
    oneDevice [.multi "D" (.addReadingValue "T" "1" 7 8), .multi "D" (.addReadingValue "T" "2" 0 9),
      .link (.event (.execute true)), .link (.event .connect)]
    (fun w => (w.storedReadings "D" "T", readingsFor w.waitingReadings "D" "T", w.commandBuffer.length))
    ([⟨"T", ["1"], 7⟩], [⟨"T", ["2"], 9⟩], 2) (by decide +kernel)
  simp only [Prod.mk.injEq] at hw
  obtain ⟨hstored, hwaiting, hlength⟩ := hw
  have hsuccesses : [true, false, true].length = w.commandBuffer.length + 1 := by rw [hlength]; rfl
  obtain ⟨w', hexecuted, hemptied, more, hsends, hmore, htaken⟩ :=
    publish_delivers plain_oneDevice hrun (fun _ _ _ _ => rfl) hsuccesses
  refine ⟨w, w', hexecuted, hemptied, more, hsends, hmore, ?_⟩
  rw [htaken "D" "T" (by decide) (by decide), hstored, hwaiting]
  rfl

end Connector

end WolkConnect
