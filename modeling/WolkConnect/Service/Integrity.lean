import WolkConnect.Service.Uploads

/-!
# What is stored is what was declared

The chunks are verified when the last one arrives, and stored when the queued status
runs. An abort in between empties them.
-/

namespace WolkConnect

open FileTransferSession (Invariant Kept)

/-- A queued call that announces `FILE_READY` for the session. -/
def Command.announcesReady (p : SessionPtr) : Command → Bool
  | .sessionStatus q a => q = p ∧ a.status = .fileReady
  | _ => false

/-- The event does not abort an upload whose `FILE_READY` is still queued. -/
def System.SparesReady {δ μ φ : Type} (sys : System δ φ) : Event μ → Prop
  | .receive d (.fileUploadAbort m) _ => ∀ s ∈ sys.svc.session? d, s.name = m.name →
      ∀ command ∈ sys.svc.commandBuffer, command.announcesReady s.ptr = false
  | _ => True

instance {δ μ φ : Type} (sys : System δ φ) : (e : Event μ) → Decidable (sys.SparesReady e)
  | .receive _ (.fileUploadAbort _) _ => inferInstanceAs (Decidable (∀ _ ∈ _, _ → ∀ _ ∈ _, _))
  | .receive _ (.fileUploadInit _) _ | .receive _ (.fileBinaryResponse _) _
  | .receive _ (.fileUrlDownloadInit _) _ | .receive _ (.fileUrlDownloadAbort _) _
  | .receive _ .fileListRequest _ | .receive _ (.fileDelete _) _ | .receive _ .filePurge _
  | .receive _ .invalid _ | .report | .runCommand | .downloader _ => isTrue trivial

/-- Every file in the log is one that a message of the run declared, in size and in hash. -/
def StoredAsDeclared {μ : Type} (bu : ByteUtils) (es : List (Event μ)) (log : List Effect) : Prop :=
  ∀ s path bytes success, Effect.stored s path bytes success ∈ log → s.url = "" →
    s.size ≤ bytes.length ∧ bu.toHexString (bu.hashMDA5 bytes) = s.hash ∧
    ∃ m past, Event.receive s.deviceKey (.fileUploadInit m) past ∈ es ∧
      s.size = m.size ∧ s.hash = m.hash

/-- While `FILE_READY` is queued for a live session, it is the status of the session. -/
structure Intact {δ μ : Type} (bu : ByteUtils) (es : List (Event μ)) (c : Core δ) : Prop
    extends Uploads bu es c where
  ready : ∀ d s a, c.session d = some s → Command.sessionStatus s.ptr a ∈ c.queue →
    a.status = .fileReady → s.status = .fileReady
  stored : StoredAsDeclared bu es c.log

variable {δ μ φ : Type} {ctx : Context δ μ φ} {bu : ByteUtils} {es : List (Event μ)} {e : Event μ}
  {c c' : Core δ} {s : FileTransferSession} {r : FileTransferSession × List Announcement}
  {d : String}

theorem StoredAsDeclared.later {log : List Effect} (h : StoredAsDeclared bu es log)
    (es' : List (Event μ)) : StoredAsDeclared bu (es ++ es') log := by
  intro s path bytes success hmem hurl
  obtain ⟨hsize, hhash, m, past, hm, heq⟩ := h s path bytes success hmem hurl
  exact ⟨hsize, hhash, m, past, List.mem_append_left _ hm, heq⟩

theorem Declared.stored (h : Declared bu es s) (hready : s.status = .fileReady) :
    s.size ≤ (content s.chunks).length ∧
    bu.toHexString (bu.hashMDA5 (content s.chunks)) = s.hash ∧
    ∃ m past, Event.receive s.deviceKey (.fileUploadInit m) past ∈ es ∧
      s.size = m.size ∧ s.hash = m.hash := by
  obtain ⟨m, past, hm, hinv⟩ := h
  obtain ⟨hsize, -, hhash⟩ := hinv.ready hready
  rw [length_content, hinv.size, hinv.hash]
  exact ⟨hsize, hhash, m, past, hm, rfl, rfl⟩

/-- A call keeps `ready`, when no queued `FILE_READY` of the session is left to a changed one. -/
theorem Intact.ready_put (h : Intact bu es c) (hs : c.session d = some s) (hr : s.Kept r)
    (hold : ∀ a, Command.sessionStatus s.ptr a ∈ c.queue → a.status = .fileReady →
      r.1.status = .fileReady) :
    ∀ d' t a, (c.put d r).session d' = some t →
      Command.sessionStatus t.ptr a ∈ (c.put d r).queue → a.status = .fileReady →
      t.status = .fileReady := by
  intro d' t a ht ha hready
  have hptr := hr.ptr
  rcases Core.session_of_put ht with ⟨-, rfl⟩ | ⟨hd, ht⟩
  · rcases Core.mem_put hr ha with ha | ⟨a', ha', heq⟩
    · rw [hptr] at ha
      exact hold a ha hready
    · obtain ⟨-, rfl⟩ := Command.sessionStatus.inj heq
      rw [← hr.announced a ha']
      exact hready
  · rcases Core.mem_put hr ha with ha | ⟨a', -, heq⟩
    · exact h.ready d' t a ht ha hready
    · exact absurd (h.ptr_inj ht hs (Command.sessionStatus.inj heq).1) hd

theorem Intact.ready_of_le (h : Intact bu es c)
    (hsession : ∀ d t, c'.session d = some t → c.session d = some t)
    (hqueue : ∀ p a, Command.sessionStatus p a ∈ c'.queue → Command.sessionStatus p a ∈ c.queue) :
    ∀ d t a, c'.session d = some t → Command.sessionStatus t.ptr a ∈ c'.queue →
      a.status = .fileReady → t.status = .fileReady :=
  fun d t a ht ha => h.ready d t a (hsession d t ht) (hqueue _ _ ha)

def Core.SparesReady (c : Core δ) (e : Event μ) : Prop :=
  ∀ d m past s, e = .receive d (.fileUploadAbort m) past → c.session d = some s →
    s.name = m.name → ∀ a, Command.sessionStatus s.ptr a ∈ c.queue → a.status ≠ .fileReady

theorem Intact.move_ready (h : Intact ctx.bytes es c) (ht : e.isUploadTraffic = true)
    (hspare : c.SparesReady e) (hm : Moves ctx e c c') :
    ∀ d s a, c'.session d = some s → Command.sessionStatus s.ptr a ∈ c'.queue →
      a.status = .fileReady → s.status = .fileReady := by
  cases hm with
  | idle => exact h.ready
  | upload =>
    -- the new session has a serial number that nothing queued names
    intro d' t a hsession ha hready
    rcases Core.session_of_start hsession with ⟨-, rfl⟩ | ⟨-, hsession⟩
    · have hfresh := h.status _ _ ha
      simp [FileTransferSession.ptr, FileTransferSession.ofUpload] at hfresh
    · exact h.ready d' t a hsession ha hready
  | download => simp [Event.isUploadTraffic] at ht
  | @chunk d m past _ s hs =>
    refine h.ready_put hs (FileTransferSession.kept_pushChunk _ _ _) fun a ha hready => ?_
    have hst := h.ready d s a hs ha hready
    have hdecl := h.declared d s hs
    have hdone : s.done = true := hdecl.done_iff.mpr (by simp [hst])
    rw [FileTransferSession.pushChunk_done hdecl.platform hdone]
    exact hst
  | @abort d m past _ s x hs hby =>
    have h' : Intact ctx.bytes es { c with downloader := x } :=
      ⟨⟨h.withDownloader x, h.declared⟩, h.ready, h.stored⟩
    refine h'.ready_put hs FileTransferSession.kept_abort fun a ha hready => ?_
    cases m with
    | fileUploadAbort m =>
      have hname : s.name = m.name := by simpa [FileTransferSession.abortedBy] using hby
      exact absurd hready (hspare d m past s rfl hs hname a ha)
    | _ => simp [FileTransferSession.abortedBy, Event.isUploadTraffic] at hby ht
  | @status _ p a rest _ _ hq =>
    refine h.ready_of_le (fun d t ht => ht) fun q b hb => ?_
    rw [hq]
    rcases List.mem_append.mp hb with hb | hb
    · exact List.mem_cons_of_mem _ hb
    · obtain ⟨status, error⟩ := a
      cases status <;> simp [deletion] at hb
  | dropped hq =>
    refine h.ready_of_le (fun d t ht => ht) fun q b hb => ?_
    rw [hq]; exact List.mem_cons_of_mem _ hb
  | @reset _ d p rest hq =>
    refine h.ready_of_le (fun d' t ht => ?_) fun q b hb => ?_
    · simp only [Core.record, Core.drop, Function.update_apply] at ht
      split_ifs at ht
      exact ht
    · rw [hq]; exact List.mem_cons_of_mem _ hb
  | moved => simp [Event.isUploadTraffic] at ht
  | called => simp [Event.isUploadTraffic] at ht

theorem Intact.move_stored (h : Intact ctx.bytes es c) (ht : e.isUploadTraffic = true)
    (hm : Moves ctx e c c') : StoredAsDeclared ctx.bytes (es ++ [e]) c'.log := by
  have hlater := h.stored.later [e]
  cases hm with
  | @status _ p a rest s effects hq hs hserial hstores =>
    intro t path bytes success hmem hurl
    rcases List.mem_append.mp hmem with hmem | hmem
    · exact hlater t path bytes success hmem hurl
    have hdecl := h.declared _ _ hs
    have hptr : s.ptr = p := h.ptr_eq hs hserial
    have hqueued : Command.sessionStatus s.ptr a ∈ c.queue := by
      rw [hptr, hq]; exact List.mem_cons_self
    obtain ⟨hready, _, _, _, heq, ⟨-, hbytes⟩ | ⟨hne, -⟩⟩ := hstores.mem hmem
    · cases heq
      rw [hbytes]
      exact (hdecl.later [_]).stored (h.ready _ _ a hs hqueued hready)
    · exact absurd hdecl.platform hne
  | @reset _ d p =>
    intro t path bytes success hmem hurl
    rcases List.mem_append.mp hmem with hmem | hmem
    · exact hlater t path bytes success hmem hurl
    · simp at hmem
  | moved => simp [Event.isUploadTraffic] at ht
  | called => simp [Event.isUploadTraffic] at ht
  | _ => exact hlater

theorem Intact.move (h : Intact ctx.bytes es c) (ht : e.isUploadTraffic = true)
    (hspare : c.SparesReady e) (hm : Moves ctx e c c') : Intact ctx.bytes (es ++ [e]) c' :=
  ⟨h.toUploads.move ht hm, h.move_ready ht hspare hm, h.move_stored ht hm⟩

theorem intact_create (config : Configuration) (x : Option δ) (disk : φ) :
    Intact bu ([] : List (Event μ)) (System.create config x disk).svc.core where
  toUploads := uploads_create config x disk
  ready d s a hs := by cases hs
  stored s path bytes success h := by cases h

namespace System

theorem SparesReady.core {sys : System δ φ} (h : sys.SparesReady e) : sys.svc.core.SparesReady e := by
  rintro d m past s rfl hs hname a ha hready
  have hmem : Command.sessionStatus s.ptr a ∈ sys.svc.commandBuffer := List.mem_of_mem_filter ha
  have := h s hs hname _ hmem
  simp [Command.announcesReady, hready] at this

/-- **Stored file integrity.** In a run of upload traffic in which no upload is aborted while its
`FILE_READY` is queued, every stored file has the size and the hash its message declared. -/
theorem stored_as_declared (config : Configuration) (x : Option δ) (disk : φ) {t : System δ φ}
    (h : Machine.Run (step ctx) (fun sys e => e.isUploadTraffic = true ∧ sys.SparesReady e)
      (create config x disk) es t) : StoredAsDeclared ctx.bytes es t.svc.log := by
  have hinv : Intact ctx.bytes es t.svc.core :=
    h.history (fun es sys => Intact ctx.bytes es sys.svc.core) (intact_create config x disk)
      fun es s e t hs hok hstep => hs.move hok.1 hok.2.core (step_moves hstep)
  intro s path bytes success hmem
  exact hinv.stored s path bytes success (List.mem_filter.mpr ⟨hmem, rfl⟩)

/-- The stored files: the size that was declared, where the file went, and what it holds. -/
def storedFiles (sys : System δ φ) : List (Nat × String × Bytes) :=
  sys.svc.log.filterMap fun
    | .stored s path bytes _ => if s.url = "" then some (s.size, path, bytes) else none
    | _ => none

theorem mem_storedFiles {sys : System δ φ} {size : Nat} {path : String} {bytes : Bytes}
    (h : (size, path, bytes) ∈ sys.storedFiles) : ∃ s success, s.url = "" ∧ s.size = size ∧
      Effect.stored s path bytes success ∈ sys.svc.log := by
  obtain ⟨e, he, heq⟩ := List.mem_filterMap.mp h
  cases e with
  | stored s p b success =>
    simp only [Option.ite_none_right_eq_some, Option.some.injEq, Prod.mk.injEq] at heq
    obtain ⟨hurl, hsize, rfl, rfl⟩ := heq
    exact ⟨s, success, hurl, hsize, he⟩
  | _ => simp at heq

theorem stored_as_declared_a : ∃ t : System Empty PathDisk,
    StoredAsDeclared tableByteUtils [Event.initA (μ := Empty), .chunkA, .runCommand] t.svc.log ∧
    t.storedFiles = [(1, "files/d/f", [97])] := by
  obtain ⟨t, hrun, hstored⟩ := Machine.Run.exists_of_check (step uploadContext)
    (fun sys e => e.isUploadTraffic = true ∧ sys.SparesReady e) uploadSystem
    [Event.initA, .chunkA, .runCommand] storedFiles [(1, "files/d/f", [97])] (by decide +kernel)
  exact ⟨t, stored_as_declared _ _ _ hrun, hstored⟩

/-- An upload that is aborted between its last chunk and its queued `FILE_READY` is stored empty. -/
theorem aborted_upload_stored_empty : ∃ t : System Empty PathDisk,
    Machine.Run (step uploadContext) (fun _ e => e.isUploadTraffic = true) uploadSystem
      [Event.initA, .chunkA, .abortA, .runCommand] t ∧
    ¬ StoredAsDeclared tableByteUtils [Event.initA (μ := Empty), .chunkA, .abortA, .runCommand]
      t.svc.log := by
  obtain ⟨t, hrun, hstored⟩ := Machine.Run.exists_of_check (step uploadContext)
    (fun _ e => e.isUploadTraffic = true) uploadSystem
    [Event.initA, .chunkA, .abortA, .runCommand] storedFiles [(1, "files/d/f", [])]
    (by decide +kernel)
  refine ⟨t, hrun, fun h => ?_⟩
  have hlast : (1, "files/d/f", []) ∈ t.storedFiles := by
    rw [hstored]; exact List.mem_singleton_self _
  obtain ⟨s, success, hurl, hsize, hmem⟩ := mem_storedFiles hlast
  have := (h s _ _ _ hmem hurl).1
  simp [hsize] at this

end System

end WolkConnect
