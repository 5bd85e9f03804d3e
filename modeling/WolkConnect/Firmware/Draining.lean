import WolkConnect.Firmware.System

/-!
# The loop that publishes the queue

`WolkSingle::notifyConnected` and `WolkMulti::reportFirmwareUpdateForDevice` have the same loop: it
publishes the front of the queue and pops it, whatever `publish` returned. Here it goes message by
message, and anything else of the connector may come between two messages.
-/

namespace WolkConnect

inductive DrainingEvent
  | connect
  | disconnect
  | addDevice (deviceKey : String)
  /-- The next task, if it is `loadState`. -/
  | loadState (ctx : FirmwareContext)
  /-- The loop looks at the queue, if it is what the connector is at. -/
  | iterate
  | install (ctx : FirmwareContext) (deviceKey : String)
  | respond (ctx : FirmwareContext) (response : InstallResponse)
  | abort (ctx : FirmwareContext) (deviceKey : String)

/-- `queued` has all that was ever in the queue, and `attempts` what the loop gave to `publish`, with
what that returned. -/
structure DrainingConnector where
  connector : FirmwareConnector
  queued : List FirmwareReport
  attempts : List (FirmwareReport × Bool)

namespace DrainingConnector

variable (publish : Nat → FirmwareReport → Bool) (s : DrainingConnector)

def queue : List FirmwareReport := s.connector.sys.svc.queue

/-- The messages that `publish` returned true for. -/
def sent : List FirmwareReport := (s.attempts.filter (·.2)).map Prod.fst

def start (c : FirmwareConnector) : DrainingConnector := ⟨c, c.sys.svc.queue, []⟩

/-- The loop is what the connector is at. -/
def Draining : Prop := s.connector.tasks.head? = some .publishQueue

instance : Decidable s.Draining := inferInstanceAs (Decidable (_ = _))

/-- The body of the loop. -/
def publishFront (message : FirmwareReport) (rest : List FirmwareReport) : DrainingConnector :=
  let svc := s.connector.sys.svc
  { s with
    connector := { s.connector with
      sys := { s.connector.sys with
        svc := { svc with queue := rest, published := svc.published ++ [message] } } }
    attempts := s.attempts ++ [(message, publish s.attempts.length message)] }

def iterate : DrainingConnector :=
  if s.Draining then
    match s.queue with
    | [] => { s with connector := { s.connector with tasks := s.connector.tasks.tail } }
    | message :: rest => s.publishFront publish message rest
  else s

/-- A step of the connector, which puts what is new at the end of the queue. -/
def follow (e : ConnectorEvent) : Except Empty DrainingConnector := do
  let c ← s.connector.step e
  .ok { s with
    connector := c, queued := s.queued ++ c.sys.svc.queue.drop s.connector.sys.svc.queue.length }

def step (s : DrainingConnector) : DrainingEvent → Except Empty DrainingConnector
  | .connect => s.follow .connect
  | .disconnect => s.follow .disconnect
  | .addDevice deviceKey => s.follow (.addDevice deviceKey)
  | .loadState ctx => if s.Draining then .ok s else s.follow (.task ctx)
  | .iterate => .ok (s.iterate publish)
  | .install ctx deviceKey => s.follow (.install ctx deviceKey)
  | .respond ctx response => s.follow (.respond ctx response)
  | .abort ctx deviceKey => s.follow (.abort ctx deviceKey)

/-- What left the queue was published successfully, in the order of the queue and once each. -/
def Survives : Prop := s.queued = s.sent ++ s.queue

/-- The message that the loop takes is published successfully. -/
def Publishes (s : DrainingConnector) : DrainingEvent → Prop
  | .iterate =>
    s.Draining → ∀ message ∈ s.queue.head?, publish s.attempts.length message = true
  | _ => True

instance (s : DrainingConnector) : (e : DrainingEvent) → Decidable (s.Publishes publish e)
  | .iterate => inferInstanceAs (Decidable (_ → ∀ _ ∈ _, _))
  | .connect | .disconnect | .addDevice _ | .loadState _ | .install _ _ | .respond _ _ | .abort _ _ =>
    inferInstanceAs (Decidable True)

/-- What was in the queue was given to `publish`, in its order and once each, or is still there. -/
def Attempted : Prop := s.queued = s.attempts.map Prod.fst ++ s.queue

variable {publish} {s} {s' : DrainingConnector} {e : DrainingEvent}

/-! ## The steps -/

theorem beginInstall_queue (svc : FirmwareUpdateService) (ctx : FirmwareContext) (deviceKey : String)
    (installer : FirmwareInstaller) : (svc.beginInstall ctx deviceKey installer).queue = svc.queue := by
  unfold FirmwareUpdateService.beginInstall FirmwareUpdateService.storeSessionFile
  rw [FirmwareUpdateService.sendStatusMessage_eq]
  split_ifs <;> rfl

theorem finishInstall_queue (svc : FirmwareUpdateService) (ctx : FirmwareContext) (deviceKey : String)
    (response : InstallResponse) : (svc.finishInstall ctx deviceKey response).queue = svc.queue := by
  cases response <;>
  · simp only [FirmwareUpdateService.finishInstall, FirmwareUpdateService.sendStatusMessage_eq]
    try rw [FirmwareUpdateService.deleteSessionFile_eq]

/-- Nothing else takes from the queue. -/
theorem prefix_queue (sys : FirmwareSystem) (op : FirmwareEvent) (hdrain : op ≠ .publishQueue)
    (hrestart : op ≠ .restart) : sys.svc.queue <+: (sys.step op).svc.queue := by
  cases op with
  | install ctx deviceKey =>
    simp only [FirmwareSystem.step, FirmwareSystem.install]
    split
    · split_ifs
      · exact List.prefix_refl _
      · exact (beginInstall_queue ..).symm ▸ List.prefix_refl _
    · exact List.prefix_refl _
  | respond ctx response =>
    simp only [FirmwareSystem.step, FirmwareSystem.respond]
    split
    · exact List.prefix_refl _
    · exact (finishInstall_queue ..).symm ▸ List.prefix_refl _
  | abort ctx deviceKey =>
    simp only [FirmwareSystem.step, FirmwareSystem.abort]
    split_ifs <;> exact List.prefix_refl _
  | loadState ctx deviceKey =>
    rw [FirmwareSystem.step, FirmwareUpdateService.loadState_eq]
    exact List.prefix_append ..
  | publishQueue => exact absurd rfl hdrain
  | restart => exact absurd rfl hrestart

/-- A step that is not of the loop gives nothing to `publish`. -/
theorem follow_spec {e : ConnectorEvent} (hs : s.follow e = .ok s')
    (hdrain : s.connector.operation e ≠ some .publishQueue)
    (hrestart : s.connector.operation e ≠ some .restart) :
    s'.attempts = s.attempts ∧ ∃ new, s'.queue = s.queue ++ new ∧ s'.queued = s.queued ++ new := by
  obtain ⟨c, hc, hs⟩ := Machine.bind_eq_ok.mp hs
  cases hs
  have hprefix : s.queue <+: c.sys.svc.queue := by
    rcases FirmwareConnector.step_sys hc with ⟨-, hsys⟩ | ⟨op, hop, hsys⟩
    · rw [hsys]
      exact List.prefix_refl _
    · rw [hsys]
      exact prefix_queue _ op (fun h => hdrain (h ▸ hop)) fun h => hrestart (h ▸ hop)
  obtain ⟨new, hnew⟩ := hprefix
  refine ⟨rfl, new, hnew.symm, ?_⟩
  change s.queued ++ c.sys.svc.queue.drop s.queue.length = _
  rw [← hnew, List.drop_left]

/-- A step gives the front of the queue to `publish`, or only adds to the queue. -/
theorem step_cases (hs : step publish s e = .ok s') :
    (∃ message rest, e = .iterate ∧ s.Draining ∧ s.queue = message :: rest ∧
      s' = s.publishFront publish message rest) ∨
    s.Publishes publish e ∧ s'.attempts = s.attempts ∧
      ∃ new, s'.queue = s.queue ++ new ∧ s'.queued = s.queued ++ new := by
  cases e with
  | iterate =>
    cases hs
    unfold iterate
    split_ifs with hdraining
    · cases hqueue : s.queue with
      | nil =>
        refine .inr ⟨fun _ message hmem => ?_, rfl, [], ?_, ?_⟩
        · rw [hqueue] at hmem
          cases hmem
        · rw [List.append_nil]
          exact hqueue
        · rw [List.append_nil]
      | cons message rest => exact .inl ⟨message, rest, rfl, hdraining, rfl, rfl⟩
    · exact .inr ⟨fun h => absurd h hdraining, rfl, [], (List.append_nil _).symm,
        (List.append_nil _).symm⟩
  | loadState ctx =>
    simp only [step] at hs
    split_ifs at hs with hdraining
    · cases hs
      exact .inr ⟨trivial, rfl, [], (List.append_nil _).symm, (List.append_nil _).symm⟩
    · have hloads : s.connector.operation (.task ctx) = none ∨
          ∃ deviceKey, s.connector.operation (.task ctx) = some (.loadState ctx deviceKey) := by
        unfold Draining at hdraining
        cases htasks : s.connector.tasks with
        | nil => exact .inl (by simp [FirmwareConnector.operation, htasks])
        | cons task tasks =>
          cases task with
          | loadState deviceKey =>
            exact .inr ⟨deviceKey, by simp [FirmwareConnector.operation, htasks]⟩
          | publishQueue => simp [htasks] at hdraining
      refine .inr ⟨trivial, follow_spec hs ?_ ?_⟩ <;>
      · rcases hloads with hnone | ⟨deviceKey, hload⟩
        · rw [hnone]
          exact nofun
        · rw [hload]
          exact nofun
  | connect | disconnect | addDevice _ | respond _ _ =>
    exact .inr ⟨trivial, follow_spec hs nofun nofun⟩
  | install _ _ | abort _ _ =>
    refine .inr ⟨trivial, follow_spec hs ?_ ?_⟩ <;>
    · simp only [FirmwareConnector.operation]
      split_ifs <;> exact nofun

/-! ## Runs -/

theorem Attempted.step (h : s.Attempted) (hs : step publish s e = .ok s') : s'.Attempted := by
  unfold Attempted at h ⊢
  rcases step_cases hs with ⟨message, rest, -, -, hqueue, rfl⟩ | ⟨-, hattempts, new, hnew, hqueued⟩
  · change s.queued = (s.attempts ++ [(message, publish s.attempts.length message)]).map Prod.fst ++ rest
    rw [h, hqueue, List.map_append, List.append_assoc]
    rfl
  · rw [hqueued, hattempts, hnew, h, List.append_assoc]

/-- What was published successfully is in the order in which it was queued, and once each. -/
theorem Attempted.sent_sublist (h : s.Attempted) : s.sent.Sublist s.queued := by
  rw [h]
  exact ((List.filter_sublist).map Prod.fst).trans (List.sublist_append_left ..)

/-- A message that was published in vain has left the queue all the same. -/
theorem Attempted.survives_iff (h : s.Attempted) :
    s.Survives ↔ ∀ attempt ∈ s.attempts, attempt.2 = true := by
  unfold Survives
  rw [h, List.append_left_inj]
  constructor
  · intro hsent
    refine List.length_filter_eq_length_iff.mp ?_
    have hlength := congrArg List.length hsent
    rw [sent, List.length_map, List.length_map] at hlength
    exact hlength.symm
  · intro hall
    rw [sent, List.filter_eq_self.mpr hall]

theorem publishQueue_of_nil {svc : FirmwareUpdateService} (h : svc.queue = []) :
    svc.publishQueue = svc := by
  cases svc
  cases h
  simp [FirmwareUpdateService.publishQueue]

/-- The loop, when nothing comes in between, publishes the queue and ends. -/
theorem drain_terminates (hdraining : s.Draining) : ∃ s',
    Machine.Run (DrainingConnector.step publish) (fun _ _ => True) s
      (List.replicate (s.queue.length + 1) .iterate) s' ∧
      s'.connector = { s.connector with
        tasks := s.connector.tasks.tail
        sys := { s.connector.sys with svc := s.connector.sys.svc.publishQueue } } := by
  generalize hqueue : s.queue = messages
  induction messages generalizing s with
  | nil =>
    refine ⟨s.iterate publish, .snoc .nil trivial rfl, ?_⟩
    rw [publishQueue_of_nil hqueue]
    simp only [iterate, if_pos hdraining, hqueue]
  | cons message rest ih =>
    obtain ⟨s', hrun, hs'⟩ := ih (s := s.publishFront publish message rest) hdraining rfl
    have hfirst : DrainingConnector.step publish s .iterate =
        .ok (s.publishFront publish message rest) := by
      simp only [DrainingConnector.step, iterate, if_pos hdraining, hqueue]
    refine ⟨s', ?_, ?_⟩
    · exact (Machine.Run.snoc .nil trivial hfirst).append hrun
    · simp only [queue] at hqueue
      simp [hs', publishFront, FirmwareUpdateService.publishQueue, hqueue]

/-- **A status message leaves the queue only when it was published**, in the runs in which each `publish`
of the loop succeeds, and in no others. In all runs the order is that of the queue, no message is
published twice, and the loop ends. -/
theorem statuses_survive_iff {c : FirmwareConnector} {es : List DrainingEvent}
    (h : Machine.Run (DrainingConnector.step publish) (fun _ _ => True) (start c) es s) :
    (s.Survives ↔ Machine.Run (DrainingConnector.step publish) (Publishes publish) (start c) es s) ∧
      s.sent.Sublist s.queued ∧
      (s.Draining → ∃ s', Machine.Run (DrainingConnector.step publish) (fun _ _ => True) s
        (List.replicate (s.queue.length + 1) .iterate) s' ∧
        s'.connector = { s.connector with
          tasks := s.connector.tasks.tail
          sys := { s.connector.sys with svc := s.connector.sys.svc.publishQueue } }) := by
  have hattempted : s.Attempted :=
    h.invariant Attempted (by rfl) fun _ _ _ hattempted _ hs => hattempted.step hs
  refine ⟨?_, hattempted.sent_sublist, drain_terminates⟩
  rw [hattempted.survives_iff]
  refine h.iff_meets (fun s => ∀ attempt ∈ s.attempts, attempt.2 = true)
    (fun s => ∃ attempt ∈ s.attempts, attempt.2 = false) nofun ?_ ?_ ?_ id ?_
  · intro s e s' hall hok hs
    rcases step_cases hs with ⟨message, rest, rfl, hdraining, hqueue, rfl⟩ | ⟨-, hattempts, -⟩
    · intro attempt hattempt
      rcases List.mem_append.mp hattempt with hold | hnew
      · exact hall attempt hold
      · rw [List.mem_singleton.mp hnew]
        exact hok hdraining message (by rw [hqueue]; rfl)
    · rw [hattempts]
      exact hall
  · intro s e s' _ _ hnot hs
    rcases step_cases hs with ⟨message, rest, rfl, hdraining, hqueue, rfl⟩ | ⟨hpublishes, -⟩
    · refine ⟨_, List.mem_append_right _ List.mem_cons_self, ?_⟩
      refine Bool.eq_false_of_not_eq_true fun htrue => hnot fun _ message' hmem => ?_
      rw [hqueue] at hmem
      cases hmem
      exact htrue
    · exact absurd hpublishes hnot
  · intro s e s' ⟨attempt, hattempt, hfalse⟩ _ hs
    rcases step_cases hs with ⟨message, rest, rfl, -, -, rfl⟩ | ⟨-, hattempts, -⟩
    · exact ⟨attempt, List.mem_append_left _ hattempt, hfalse⟩
    · exact ⟨attempt, hattempts ▸ hattempt, hfalse⟩
  · rintro ⟨attempt, hattempt, hfalse⟩ hall
    rw [hall attempt hattempt] at hfalse
    cases hfalse

/-- A `WolkMulti` with one device, of an earlier process that left a session file. -/
def leftOver : FirmwareConnector :=
  let c := FirmwareConnector.create .multiDevice ["d"]
  { c with sys := { c.sys with
    svc := { c.sys.svc with sessionFiles := OrderedMap.empty.insert "d" "1.0" } } }

/-- The state is loaded twice, and what it comes to is published. -/
def draining : List DrainingEvent :=
  [.loadState .working, .connect, .loadState .working, .iterate, .iterate, .iterate]

theorem statuses_survive_iff_published : ∃ s : DrainingConnector, s.Survives ∧
    s.attempts.map (·.2) = [true, true] := by
  obtain ⟨s, hrun, hs⟩ := Machine.Run.exists_of_check (step fun _ _ => true)
    (Publishes fun _ _ => true) (start leftOver) draining (fun s => s.attempts.map (·.2)) [true, true]
    (by decide +kernel)
  exact ⟨s, (statuses_survive_iff (hrun.mono fun _ _ _ => trivial)).1.mpr hrun, hs⟩

/-- The first `publish` fails, and the success of the installation is not reported. -/
theorem status_lost : ∃ s : DrainingConnector,
    Machine.Run (step fun attempt _ => decide (attempt ≠ 0)) (fun _ _ => True) (start leftOver)
      draining s ∧ ¬ s.Survives := by
  obtain ⟨s, hrun, hs⟩ := Machine.Run.exists_of_check (step fun attempt _ => decide (attempt ≠ 0))
    (fun _ _ => True) (start leftOver) draining
    (fun s => (s.queued.length, s.sent.length, s.queue.length)) (2, 1, 0) (by decide +kernel)
  simp only [Prod.mk.injEq] at hs
  refine ⟨s, hrun, fun hsurvives => ?_⟩
  have hlength := congrArg List.length hsurvives
  rw [List.length_append, hs.1, hs.2.1, hs.2.2] at hlength
  cases hlength

end DrainingConnector

end WolkConnect
