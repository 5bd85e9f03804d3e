import WolkConnect.Service.Uploads

/-!
# A session is deleted at its own request

The deletion is queued by device key. A session that starts while an older deletion
for its device is still queued is deleted by that one.
-/

namespace WolkConnect

open FileTransferSession (Invariant Kept)

/-- The event does not start an upload while a deletion for its device is queued. -/
def System.StartsAfterDeletions {δ μ φ : Type} (sys : System δ φ) : Event μ → Prop
  | .receive d (.fileUploadInit m) _ => FileManagementService.isValid m = true →
      sys.svc.session? d = none → ∀ command ∈ sys.svc.commandBuffer, command.deletes d = false
  | _ => True

instance {δ μ φ : Type} (sys : System δ φ) :
    (e : Event μ) → Decidable (sys.StartsAfterDeletions e)
  | .receive _ (.fileUploadInit _) _ => inferInstanceAs (Decidable (_ → _ → ∀ _ ∈ _, _))
  | .receive _ (.fileUploadAbort _) _ | .receive _ (.fileBinaryResponse _) _
  | .receive _ (.fileUrlDownloadInit _) _ | .receive _ (.fileUrlDownloadAbort _) _
  | .receive _ .fileListRequest _ | .receive _ (.fileDelete _) _ | .receive _ .filePurge _
  | .receive _ .invalid _ | .report | .runCommand | .downloader _ => isTrue trivial

/-- Every session that was destroyed had asked for it, and was not transferring any more. -/
def DestroyedAtRequest (log : List Effect) : Prop :=
  ∀ requester s, Effect.destroyed requester s ∈ log →
    s.ptr = requester ∧ s.status ≠ .fileTransfer

/-- What is queued to end a live session was queued by it, when it was over. -/
structure Paired {δ μ : Type} (bu : ByteUtils) (es : List (Event μ)) (c : Core δ) : Prop
    extends Uploads bu es c where
  finished : ∀ p a s, Command.sessionStatus p a ∈ c.queue → deletion p a.status ≠ [] →
    c.session p.deviceKey = some s → s.ptr = p → s.status ≠ .fileTransfer
  asked : ∀ d p s, Command.resetSession d p ∈ c.queue → c.session d = some s →
    s.ptr = p ∧ s.status ≠ .fileTransfer
  destroyed : DestroyedAtRequest c.log

variable {δ μ φ : Type} {ctx : Context δ μ φ} {bu : ByteUtils} {es : List (Event μ)} {e : Event μ}
  {c c' : Core δ} {s : FileTransferSession} {r : FileTransferSession × List Announcement}
  {d : String}

theorem Declared.pushChunk_over (h : Declared bu es s) (past : Nat → UInt8)
    (m : FileBinaryResponseMessage) (hst : s.status ≠ .fileTransfer) :
    (s.pushChunk bu past m).1.status ≠ .fileTransfer := by
  rw [FileTransferSession.pushChunk_done h.platform (h.done_iff.mpr hst)]
  exact hst

theorem abort_over (h : s.url = "") : s.abort.1.status ≠ .fileTransfer := by
  rw [(FileTransferSession.abort_spec h).1]
  simp

/-- A call that leaves an ended session ended keeps both clauses about the queue. -/
theorem Paired.put (h : Paired bu es c) (hs : c.session d = some s) (hr : s.Kept r)
    (hover : s.status ≠ .fileTransfer → r.1.status ≠ .fileTransfer) :
    (∀ p a t, Command.sessionStatus p a ∈ (c.put d r).queue → deletion p a.status ≠ [] →
      (c.put d r).session p.deviceKey = some t → t.ptr = p → t.status ≠ .fileTransfer) ∧
    ∀ d' p t, Command.resetSession d' p ∈ (c.put d r).queue → (c.put d r).session d' = some t →
      t.ptr = p ∧ t.status ≠ .fileTransfer := by
  have hptr := hr.ptr
  constructor
  · intro p a t ha hdel ht hp
    rcases Core.session_of_put ht with ⟨hd, rfl⟩ | ⟨hd, ht⟩
    · rcases Core.mem_put hr ha with ha | ⟨a', ha', heq⟩
      · exact hover (h.finished p a s ha hdel (hd ▸ hs) (hptr ▸ hp))
      · cases heq
        rw [← hr.announced a ha']
        exact deletion_eq_nil hdel
    · rcases Core.mem_put hr ha with ha | ⟨a', -, heq⟩
      · exact h.finished p a t ha hdel ht hp
      · cases heq
        exact absurd (h.key d s hs) hd
  · intro d' p t hp ht
    rcases Core.mem_put hr hp with hqueued | ⟨_, -, heq⟩
    · rcases Core.session_of_put ht with ⟨rfl, rfl⟩ | ⟨-, ht⟩
      · obtain ⟨hp', hst⟩ := h.asked d' p s hqueued hs
        exact ⟨hptr.trans hp', hover hst⟩
      · exact h.asked d' p t hqueued ht
    · cases heq

/-- Less queued and no new session keeps both clauses about the queue. -/
theorem Paired.le (h : Paired bu es c) (c' : Core δ)
    (hsession : ∀ d t, c'.session d = some t → c.session d = some t)
    (hqueue : ∀ command ∈ c'.queue, command ∈ c.queue) :
    (∀ p a t, Command.sessionStatus p a ∈ c'.queue → deletion p a.status ≠ [] →
      c'.session p.deviceKey = some t → t.ptr = p → t.status ≠ .fileTransfer) ∧
    ∀ d p t, Command.resetSession d p ∈ c'.queue → c'.session d = some t →
      t.ptr = p ∧ t.status ≠ .fileTransfer :=
  ⟨fun p a t ha hdel ht => h.finished p a t (hqueue _ ha) hdel (hsession _ t ht),
    fun d p t hp ht => h.asked d p t (hqueue _ hp) (hsession _ t ht)⟩

def Core.StartsAfterDeletions (c : Core δ) (e : Event μ) : Prop :=
  ∀ d m past, e = .receive d (.fileUploadInit m) past → FileManagementService.isValid m = true →
    c.session d = none → ∀ p, Command.resetSession d p ∉ c.queue

theorem Paired.move_queue (h : Paired ctx.bytes es c) (ht : e.isUploadTraffic = true)
    (hstart : c.StartsAfterDeletions e) (hm : Moves ctx e c c') :
    (∀ p a t, Command.sessionStatus p a ∈ c'.queue → deletion p a.status ≠ [] →
      c'.session p.deviceKey = some t → t.ptr = p → t.status ≠ .fileTransfer) ∧
    ∀ d p t, Command.resetSession d p ∈ c'.queue → c'.session d = some t →
      t.ptr = p ∧ t.status ≠ .fileTransfer := by
  cases hm with
  | idle => exact ⟨h.finished, h.asked⟩
  | @upload d m past _ hnone hvalid =>
    refine ⟨fun p a t ha hdel hsession hp => ?_, fun d' p t hp hsession => ?_⟩
    · rcases Core.session_of_start hsession with ⟨-, rfl⟩ | ⟨-, hsession⟩
      · -- the new session has a serial number that nothing queued names
        have hfresh := h.status p a ha
        rw [← hp] at hfresh
        simp [FileTransferSession.ptr, FileTransferSession.ofUpload] at hfresh
      · exact h.finished p a t ha hdel hsession hp
    · rcases Core.session_of_start hsession with ⟨rfl, -⟩ | ⟨-, hsession⟩
      · exact absurd hp (hstart _ m past rfl hvalid hnone p)
      · exact h.asked d' p t hp hsession
  | download => simp [Event.isUploadTraffic] at ht
  | @chunk d m past _ s hs =>
    exact h.put hs (FileTransferSession.kept_pushChunk _ _ _)
      ((h.declared d s hs).pushChunk_over past m)
  | @abort d m past _ s x hs =>
    have h' : Paired ctx.bytes es { c with downloader := x } :=
      ⟨⟨h.withDownloader x, h.declared⟩, h.finished, h.asked, h.destroyed⟩
    exact h'.put hs FileTransferSession.kept_abort fun _ => abort_over (h.declared d s hs).platform
  | @status _ p a rest s effects hq hs hserial =>
    have hrest : ∀ command ∈ rest, command ∈ c.queue := fun _ hc => hq ▸ List.mem_cons_of_mem _ hc
    obtain ⟨hover, hasked⟩ := h.le { c with queue := rest } (fun _ _ ht => ht) hrest
    have hptr := h.ptr_eq hs hserial
    refine ⟨fun q b t hb => ?_, fun d q t hq' hsession => ?_⟩
    · rcases List.mem_append.mp hb with hb | hb
      · exact hover q b t hb
      · cases mem_deletion hb
    · rcases List.mem_append.mp hq' with hq' | hq'
      · exact hasked d q t hq' hsession
      · have hdel : deletion p a.status ≠ [] := List.ne_nil_of_mem hq'
        cases mem_deletion hq'
        have heq : t = s := Option.some.inj (hsession.symm.trans hs)
        subst heq
        exact ⟨hptr, h.finished p a t (hq ▸ List.mem_cons_self) hdel hs hptr⟩
  | dropped hq =>
    exact h.le _ (fun _ _ ht => ht) fun _ hc => hq ▸ List.mem_cons_of_mem _ hc
  | reset hq =>
    exact h.le _ (fun _ _ hsession => Core.session_of_drop hsession)
      fun _ hc => hq ▸ List.mem_cons_of_mem _ hc
  | moved => simp [Event.isUploadTraffic] at ht
  | called => simp [Event.isUploadTraffic] at ht

theorem Paired.move_destroyed (h : Paired ctx.bytes es c) (ht : e.isUploadTraffic = true)
    (hm : Moves ctx e c c') : DestroyedAtRequest c'.log := by
  cases hm with
  | @status _ p a rest s effects hq hs hserial hstores =>
    intro q t hmem
    rcases List.mem_append.mp hmem with hmem | hmem
    · exact h.destroyed q t hmem
    · obtain ⟨-, _, _, _, heq, -⟩ := hstores.mem hmem
      cases heq
  | @reset _ d p rest hq =>
    intro q t hmem
    rcases List.mem_append.mp hmem with hmem | hmem
    · exact h.destroyed q t hmem
    · simp only [List.mem_map, Option.mem_toList, Effect.destroyed.injEq] at hmem
      obtain ⟨s, hs, rfl, rfl⟩ := hmem
      exact h.asked d p s (hq ▸ List.mem_cons_self) hs
  | moved => simp [Event.isUploadTraffic] at ht
  | called => simp [Event.isUploadTraffic] at ht
  | _ => exact h.destroyed

theorem Paired.move (h : Paired ctx.bytes es c) (ht : e.isUploadTraffic = true)
    (hstart : c.StartsAfterDeletions e) (hm : Moves ctx e c c') :
    Paired ctx.bytes (es ++ [e]) c' :=
  ⟨h.toUploads.move ht hm, (h.move_queue ht hstart hm).1, (h.move_queue ht hstart hm).2,
    h.move_destroyed ht hm⟩

theorem paired_create (config : Configuration) (x : Option δ) (disk : φ) :
    Paired bu ([] : List (Event μ)) (System.create config x disk).svc.core where
  toUploads := uploads_create config x disk
  finished p a s ha := by cases ha
  asked d p s hp := by cases hp
  destroyed p s h := by cases h

namespace System

theorem StartsAfterDeletions.core {sys : System δ φ} (h : sys.StartsAfterDeletions e) :
    sys.svc.core.StartsAfterDeletions e := by
  rintro d m past rfl hvalid hnone p hp
  have := h hvalid hnone _ (List.mem_of_mem_filter hp)
  simp [Command.deletes] at this

/-- **A deletion deletes the session that asked for it.** This holds in a run of upload traffic in
which no upload starts while a deletion for its device is queued. -/
theorem destroyed_at_request (config : Configuration) (x : Option δ) (disk : φ) {t : System δ φ}
    (h : Machine.Run (step ctx)
      (fun sys e => e.isUploadTraffic = true ∧ sys.StartsAfterDeletions e)
      (create config x disk) es t) : DestroyedAtRequest t.svc.log := by
  have hinv : Paired ctx.bytes es t.svc.core :=
    h.history (fun es sys => Paired ctx.bytes es sys.svc.core) (paired_create config x disk)
      fun es s e t hs hok hstep => hs.move hok.1 hok.2.core (step_moves hstep)
  intro requester s hmem
  exact hinv.destroyed requester s (List.mem_filter.mpr ⟨hmem, rfl⟩)

/-- The destroyed sessions: the one that asked, the one it was, and its status. -/
def destroyedSessions (sys : System δ φ) : List (Nat × Nat × FileTransferStatus) :=
  sys.svc.log.filterMap fun
    | .destroyed p s => some (p.serial, s.serial, s.status)
    | _ => none

theorem mem_destroyedSessions {sys : System δ φ} {i j : Nat} {status : FileTransferStatus}
    (h : (i, j, status) ∈ sys.destroyedSessions) : ∃ p s, p.serial = i ∧ s.serial = j ∧
      s.status = status ∧ Effect.destroyed p s ∈ sys.svc.log := by
  obtain ⟨e, he, heq⟩ := List.mem_filterMap.mp h
  cases e with
  | destroyed p s =>
    simp only [Option.some.injEq, Prod.mk.injEq] at heq
    exact ⟨p, s, heq.1, heq.2.1, heq.2.2, he⟩
  | _ => simp at heq

theorem destroyed_at_request_twice : ∃ t : System Empty PathDisk, DestroyedAtRequest t.svc.log ∧
    t.destroyedSessions = [(0, 0, .fileReady), (1, 1, .aborted)] := by
  obtain ⟨t, hrun, hdestroyed⟩ := Machine.Run.exists_of_check (step uploadContext)
    (fun sys e => e.isUploadTraffic = true ∧ sys.StartsAfterDeletions e) uploadSystem
    [Event.initA, .chunkA, .runCommand, .runCommand, .runCommand,
      .initA, .abortA, .runCommand, .runCommand]
    destroyedSessions [(0, 0, .fileReady), (1, 1, .aborted)] (by decide +kernel)
  exact ⟨t, destroyed_at_request _ _ _ hrun, hdestroyed⟩

/-- An upload that is aborted when it is complete asks for two deletions. The second one hits the
next upload of the device. -/
theorem second_deletion_hits_next_upload : ∃ t : System Empty PathDisk,
    Machine.Run (step uploadContext) (fun _ e => e.isUploadTraffic = true) uploadSystem
      [Event.initA, .chunkA, .abortA, .runCommand, .runCommand, .runCommand, .runCommand,
        .initA, .runCommand] t ∧ ¬ DestroyedAtRequest t.svc.log := by
  obtain ⟨t, hrun, hdestroyed⟩ := Machine.Run.exists_of_check (step uploadContext)
    (fun _ e => e.isUploadTraffic = true) uploadSystem
    [Event.initA, .chunkA, .abortA, .runCommand, .runCommand, .runCommand, .runCommand,
      .initA, .runCommand]
    destroyedSessions [(0, 0, .aborted), (0, 1, .fileTransfer)] (by decide +kernel)
  refine ⟨t, hrun, fun h => ?_⟩
  have hlast : (0, 1, .fileTransfer) ∈ t.destroyedSessions := by simp [hdestroyed]
  obtain ⟨p, s, -, -, hstatus, hmem⟩ := mem_destroyedSessions hlast
  exact (h p s hmem).2 hstatus

end System

end WolkConnect
