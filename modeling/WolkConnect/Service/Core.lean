import Mathlib.Logic.Function.Basic
import WolkConnect.Service.System
import WolkConnect.Session.Frame

/-!
# Sessions and their commands

The service without its files: the session of each device, the queued commands
that concern sessions, and what was done with them. Every step of the service is
a move of this core, or leaves it alone.
-/

namespace WolkConnect

def Command.isNotice : Command → Bool
  | .onAddedFile _ _ _ => true
  | .onRemovedFile _ _ => true
  | _ => false

def Command.deletes (deviceKey : String) : Command → Bool
  | .resetSession d _ => d = deviceKey
  | _ => false

/-- What was done with a session, apart from messages about it. -/
def Effect.isDeed : Effect → Bool
  | .stored _ _ _ _ => true
  | .destroyed _ _ => true
  | .delivered _ => true
  | _ => false

structure Core (δ : Type) where
  session : String → Option FileTransferSession
  queue : List Command
  downloader : Option δ
  created : Nat
  log : List Effect

namespace Core

variable {δ : Type} (c : Core δ)

def start (s : FileTransferSession) : Core δ :=
  { c with session := Function.update c.session s.deviceKey (some s), created := c.created + 1 }

/-- A session after a call of one of its methods. -/
def put (deviceKey : String) (r : FileTransferSession × List Announcement) : Core δ :=
  { c with
    session := Function.update c.session deviceKey (some r.1)
    queue := c.queue ++ r.2.map (Command.sessionStatus r.1.ptr) }

def drop (deviceKey : String) : Core δ :=
  { c with session := Function.update c.session deviceKey none }

def record (effects : List Effect) : Core δ := { c with log := c.log ++ effects }

def push (commands : List Command) : Core δ := { c with queue := c.queue ++ commands }

end Core

/-- The message asks for this session to be aborted. -/
def FileTransferSession.abortedBy (s : FileTransferSession) :
    FileManagementService.Inbound → Bool
  | .fileUploadAbort message => s.name = message.name
  | .fileUrlDownloadAbort message => s.url = message.path
  | _ => false

def FileManagementService.Inbound.startsDownload : FileManagementService.Inbound → Bool
  | .fileUrlDownloadInit message => message.path ≠ ""
  | _ => false

/-- The deletion that a status asks for. -/
def deletion (ptr : SessionPtr) : FileTransferStatus → List Command
  | .fileReady | .error | .aborted => [.resetSession ptr.deviceKey ptr]
  | _ => []

theorem deletion_eq_nil {p : SessionPtr} {status : FileTransferStatus}
    (h : deletion p status ≠ []) : status ≠ .fileTransfer := by
  rintro rfl
  exact h rfl

theorem mem_deletion {p : SessionPtr} {status : FileTransferStatus} {command : Command}
    (h : command ∈ deletion p status) : command = .resetSession p.deviceKey p := by
  cases status <;> simp_all [deletion]

/-! ## Moves -/

section Moves

variable {δ μ φ : Type} (ctx : Context δ μ φ)

/-- What an abort of the session makes of the downloader. -/
def Aborts (s : FileTransferSession) (downloader downloader' : Option δ) : Prop :=
  (s.url = "" ∧ downloader' = downloader) ∨
  (s.url ≠ "" ∧ ∃ x x', downloader = some x ∧ ctx.downloads.abortDownload x = some x' ∧
    downloader' = some x')

/-- What a new session makes of the downloader. -/
def triggered (s : FileTransferSession) (downloader : Option δ) : Option δ :=
  if s.url = "" then downloader
  else downloader.map fun x => ctx.downloads.downloadFile x s.url s.ptr

/-- The file that a `FILE_READY` status of the session stores. -/
inductive Stores (s : FileTransferSession) (downloader : Option δ) :
    FileTransferStatus → List Effect → Prop
  | upload {folder success} : s.url = "" → Stores s downloader .fileReady
      [.stored s (ctx.fs.composePath s.name folder) (content s.chunks) success]
  | download {folder success x} : s.url ≠ "" → downloader = some x → Stores s downloader .fileReady
      [.stored s (ctx.fs.composePath s.name folder) (ctx.downloads.getBytes x) success]
  | nothing {status} : status ≠ .fileReady → Stores s downloader status []

inductive Moves : Event μ → Core δ → Core δ → Prop
  | idle {e c} : Moves e c c
  | upload {d m past c} : c.session d = none → FileManagementService.isValid m = true →
      Moves (.receive d (.fileUploadInit m) past) c (c.start (.ofUpload c.created d m true))
  | download {d m past c s} : c.session d = none → s = .ofUrlDownload c.created d m true →
      Moves (.receive d (.fileUrlDownloadInit m) past) c
        { c.start s with downloader := triggered ctx s c.downloader }
  | chunk {d m past c s} : c.session d = some s → s.url = "" →
      Moves (.receive d (.fileBinaryResponse m) past) c
        (c.put d ((s.pushChunk ctx.bytes past m).1, (s.pushChunk ctx.bytes past m).2.2))
  | abort {d m past c s x} : c.session d = some s → s.abortedBy m = true →
      Aborts ctx s c.downloader x →
      Moves (.receive d m past) c ({ c with downloader := x }.put d s.abort)
  | status {c p a rest s effects} : c.queue = .sessionStatus p a :: rest →
      c.session p.deviceKey = some s → s.serial = p.serial →
      Stores ctx s c.downloader a.status effects →
      Moves .runCommand c (({ c with queue := rest }.push (deletion p a.status)).record effects)
  | dropped {c p a rest s} : c.queue = .sessionStatus p a :: rest →
      c.session p.deviceKey = some s → s.callback = false →
      Moves .runCommand c { c with queue := rest }
  | reset {c d p rest} : c.queue = .resetSession d p :: rest →
      Moves .runCommand c (({ c with queue := rest }.drop d).record
        ((c.session d).toList.map (Effect.destroyed p)))
  | moved {move c x x'} : c.downloader = some x → ctx.downloads.move x move = (x', none) →
      Moves (.downloader move) c { c with downloader := some x' }
  | called {move c x x' callback s} : c.downloader = some x →
      ctx.downloads.move x move = (x', some callback) →
      c.session callback.target.deviceKey = some s → s.serial = callback.target.serial →
      Moves (.downloader move) c
        (({ c with downloader := some x' }.put callback.target.deviceKey
          (s.onDownloadStatus callback.status callback.error callback.fileName)).record
            [.delivered callback])

variable {ctx}

theorem triggered_of_empty {s : FileTransferSession} (h : s.url = "") (x : Option δ) :
    triggered ctx s x = x := by
  rw [triggered, if_pos h]

theorem triggered_of_url {s : FileTransferSession} (h : s.url ≠ "") (x : δ) :
    triggered ctx s (some x) = some (ctx.downloads.downloadFile x s.url s.ptr) := by
  rw [triggered, if_neg h]
  rfl

theorem Stores.mem {s : FileTransferSession} {x : Option δ} {status : FileTransferStatus}
    {effects : List Effect} {e : Effect} (h : Stores ctx s x status effects) (he : e ∈ effects) :
    status = .fileReady ∧ ∃ folder bytes success,
      e = .stored s (ctx.fs.composePath s.name folder) bytes success ∧
      (s.url = "" ∧ bytes = content s.chunks ∨
        s.url ≠ "" ∧ ∃ y, x = some y ∧ bytes = ctx.downloads.getBytes y) := by
  cases h with
  | upload hurl => exact ⟨rfl, _, _, _, List.mem_singleton.mp he, Or.inl ⟨hurl, rfl⟩⟩
  | download hurl hx => exact ⟨rfl, _, _, _, List.mem_singleton.mp he, Or.inr ⟨hurl, _, hx, rfl⟩⟩
  | nothing => simp at he

end Moves

namespace FileManagementService

variable {δ μ φ : Type} {ctx : Context δ μ φ} {svc svc' : FileManagementService δ φ}

def core (svc : FileManagementService δ φ) : Core δ where
  session := svc.session?
  queue := svc.commandBuffer.filter fun c => !c.isNotice
  downloader := svc.downloader
  created := svc.created
  log := svc.log.filter Effect.isDeed

/-! ## What does not touch the core -/

theorem core_noted (files : OrderedMap String DeviceFiles) (disk : φ) {e : Effect}
    (he : e.isDeed = false) :
    { svc with files := files, disk := disk, log := svc.log ++ [e] }.core = svc.core := by
  simp only [core, List.filter_append]
  simp [he]; rfl

@[simp] theorem core_publish (deviceKey : String) (message : Outbound) (session : Option SessionPtr) :
    (svc.publish ctx deviceKey message session).core = svc.core := by
  unfold publish
  split
  · exact core_noted _ _ rfl
  · rfl

@[simp] theorem core_notifyListenerAddedFile (deviceKey fileName absolutePath : String) :
    (svc.notifyListenerAddedFile deviceKey fileName absolutePath).core = svc.core := by
  unfold notifyListenerAddedFile
  split
  · simp only [core, pushCommand, List.filter_append]
    simp [Command.isNotice]; rfl
  · rfl

@[simp] theorem core_notifyListenerRemovedFile (deviceKey fileName : String) :
    (svc.notifyListenerRemovedFile deviceKey fileName).core = svc.core := by
  unfold notifyListenerRemovedFile
  split
  · simp only [core, pushCommand, List.filter_append]
    simp [Command.isNotice]; rfl
  · rfl

theorem core_with_files (files : OrderedMap String DeviceFiles) :
    { svc with files := files }.core = svc.core := rfl

theorem core_reportFile (deviceKey file : String) (vector : List FileInformation) :
    (reportFile ctx deviceKey (svc, vector) file).1.core = svc.core := by
  simp only [reportFile]
  split
  · rfl
  · split
    · rfl
    · simp [core_with_files]

theorem core_foldl_reportFile (deviceKey : String) (files : List String)
    (acc : FileManagementService δ φ × List FileInformation) :
    (files.foldl (reportFile ctx deviceKey) acc).1.core = acc.1.core := by
  induction files generalizing acc with
  | nil => rfl
  | cons file files ih => rw [List.foldl_cons, ih, core_reportFile]

@[simp] theorem core_reportPresentFiles (deviceKey : String) :
    (svc.reportPresentFiles ctx deviceKey).core = svc.core := by
  simp only [reportPresentFiles]
  rw [core_publish]
  split
  · rw [core_foldl_reportFile, core_with_files]
  · rfl

theorem core_deleteFile (deviceKey file : String) :
    (deleteFile ctx deviceKey svc file).core = svc.core := by
  simp only [deleteFile]
  split
  · rw [core_notifyListenerRemovedFile]
    exact core_noted _ _ rfl
  · exact core_noted _ _ rfl

theorem core_foldl_deleteFile (deviceKey : String) (files : List String) :
    (files.foldl (deleteFile ctx deviceKey) svc).core = svc.core := by
  induction files generalizing svc with
  | nil => rfl
  | cons file files ih => rw [List.foldl_cons, ih, core_deleteFile]

theorem core_reportStatus {deviceKey : String} {status : FileTransferStatus}
    {error : FileTransferError} (h : svc.reportStatus ctx deviceKey status error = .ok svc') :
    svc'.core = svc.core := by
  unfold reportStatus at h
  split at h
  · cases h; rfl
  · cases h
  · cases h; simp

/-! ## What does -/

theorem session?_insert (deviceKey : String) (v : Option FileTransferSession) :
    { svc with sessions := svc.sessions.insert deviceKey v }.session? =
      Function.update svc.session? deviceKey v := by
  funext d
  simp only [session?, OrderedMap.find?_insert, Function.update_apply]
  by_cases h : deviceKey = d
  · simp [h]
  · simp [h, Ne.symm h]

@[simp] theorem core_addSession (s : FileTransferSession) :
    (svc.addSession s).core = svc.core.start s := by
  simp only [Core.start, core, ← session?_insert]; rfl

@[simp] theorem core_putSession (deviceKey : String) (r : FileTransferSession × List Announcement) :
    (svc.putSession deviceKey r).core = svc.core.put deviceKey r := by
  have hkeep : (r.2.map (Command.sessionStatus r.1.ptr)).filter (fun c => !c.isNotice) =
      r.2.map (Command.sessionStatus r.1.ptr) := by
    rw [List.filter_eq_self]
    simp [Command.isNotice]
  simp only [Core.put, core, ← session?_insert, putSession, List.filter_append, hkeep]; rfl

theorem core_pushReset (deviceKey : String) (requester : SessionPtr) :
    (svc.pushCommand (.resetSession deviceKey requester)).core =
      svc.core.push [.resetSession deviceKey requester] := by
  simp only [core, Core.push, pushCommand, List.filter_append]; rfl

theorem core_session (deviceKey : String) : svc.core.session deviceKey = svc.session? deviceKey := rfl

theorem resolve_eq_ok {ptr : SessionPtr} {s : FileTransferSession} :
    svc.resolve ptr = .ok s ↔ svc.session? ptr.deviceKey = some s ∧ s.serial = ptr.serial := by
  unfold resolve
  cases svc.session? ptr.deviceKey with
  | none => simp
  | some t =>
    by_cases h : t.serial = ptr.serial
    · simp only [h, if_true, Except.ok.injEq, Option.some.injEq]
      constructor
      · rintro rfl; exact ⟨rfl, h⟩
      · exact fun h => h.1
    · simp only [h, if_false, reduceCtorEq, Option.some.injEq, false_iff, not_and]
      rintro rfl; exact h

/-! ## Messages -/

theorem onFileUploadInit_moves {d : String} {m : FileUploadInitiateMessage} (past : Nat → UInt8)
    (h : svc.onFileUploadInit ctx d m = .ok svc') :
    Moves ctx (.receive d (.fileUploadInit m) past) svc.core svc'.core := by
  unfold onFileUploadInit at h
  split_ifs at h with hvalid hongoing
  · cases h; exact .idle
  · cases h; exact .idle
  · have hcore : svc'.core = svc.core.start (.ofUpload svc.created d m true) := by
      dsimp only at h
      split_ifs at h
      · obtain ⟨svc1, h1, h2⟩ := Machine.bind_eq_ok.mp h
        cases h2
        rw [sendChunkRequest, core_publish, core_reportStatus h1, core_addSession]
      · cases h
        rw [core_addSession]
    rw [hcore]
    exact .upload (by simpa [core] using hongoing) (by simpa using hvalid)

theorem abortSession_moves {d : String} {m : Inbound} (past : Nat → UInt8) {s : FileTransferSession}
    (hs : svc.session? d = some s) (hm : s.abortedBy m = true)
    (h : svc.abortSession ctx d s = .ok svc') :
    Moves ctx (.receive d m past) svc.core svc'.core := by
  unfold abortSession at h
  split_ifs at h with hplat
  · cases h
    rw [core_putSession]
    exact .abort (x := svc.downloader) hs hm (Or.inl ⟨by simpa [FileTransferSession.isPlatformTransfer] using hplat, rfl⟩)
  · split at h
    · cases h
    · rename_i x hx
      split at h
      · cases h
      · rename_i x' hx'
        cases h
        rw [core_putSession]
        exact .abort (x := some x') hs hm (Or.inr ⟨by simpa [FileTransferSession.isPlatformTransfer] using hplat,
          x, x', hx, hx', rfl⟩)

theorem onFileUploadAbort_moves {d : String} {m : FileUploadAbortMessage} (past : Nat → UInt8)
    (h : svc.onFileUploadAbort ctx d m = .ok svc') :
    Moves ctx (.receive d (.fileUploadAbort m) past) svc.core svc'.core := by
  unfold onFileUploadAbort at h
  split at h
  · cases h; exact .idle
  · rename_i s hs
    split_ifs at h with hname
    · exact abortSession_moves past hs (by simpa [FileTransferSession.abortedBy] using hname) h
    · cases h; exact .idle

theorem onFileUrlDownloadAbort_moves {d : String} {m : FileUrlDownloadAbortMessage}
    (past : Nat → UInt8) (h : svc.onFileUrlDownloadAbort ctx d m = .ok svc') :
    Moves ctx (.receive d (.fileUrlDownloadAbort m) past) svc.core svc'.core := by
  unfold onFileUrlDownloadAbort at h
  split at h
  · cases h; exact .idle
  · cases h
  · rename_i s hs
    split_ifs at h with hurl
    · have hs' : svc.session? d = some s := by simp [session?, hs]
      exact abortSession_moves past hs' (by simpa [FileTransferSession.abortedBy] using hurl) h
    · cases h; exact .idle

theorem onFileBinaryResponse_moves (past : Nat → UInt8) (d : String)
    (m : FileBinaryResponseMessage) :
    Moves ctx (.receive d (.fileBinaryResponse m) past) svc.core
      (svc.onFileBinaryResponse ctx past d m).core := by
  unfold onFileBinaryResponse
  split
  · exact .idle
  · rename_i s hs
    split
    · rename_i hplat
      have hmove : Moves ctx (.receive d (.fileBinaryResponse m) past) svc.core
          (svc.core.put d ((s.pushChunk ctx.bytes past m).1, (s.pushChunk ctx.bytes past m).2.2)) :=
        .chunk hs (by simpa [FileTransferSession.isPlatformTransfer] using hplat)
      dsimp only
      split
      · rw [sendChunkRequest, core_publish, core_putSession]; exact hmove
      · rw [core_putSession]; exact hmove
    · exact .idle

theorem core_triggerDownload (s : FileTransferSession) :
    (svc.triggerDownload ctx s).core =
      { svc.core with downloader := triggered ctx s svc.downloader } := by
  unfold triggerDownload triggered
  by_cases h : s.url = ""
  · simp [FileTransferSession.isPlatformTransfer, h, core]
  · simp only [FileTransferSession.isPlatformTransfer, h, decide_false, Bool.false_eq_true, if_false]
    cases hx : svc.downloader with
    | none => simp [core, hx]
    | some x => rfl

theorem startUrlDownload_moves {d : String} {m : FileUrlDownloadInitMessage} (past : Nat → UInt8)
    (h : svc.startUrlDownload ctx d m = some svc') :
    Moves ctx (.receive d (.fileUrlDownloadInit m) past) svc.core svc'.core := by
  unfold startUrlDownload at h
  split_ifs at h with hongoing
  cases h
  rw [core_triggerDownload, core_addSession]
  exact .download (by simpa [core] using hongoing) rfl

theorem onFileUrlDownloadInit_moves {d : String} {m : FileUrlDownloadInitMessage}
    (past : Nat → UInt8) (h : svc.onFileUrlDownloadInit ctx d m = .ok svc') :
    Moves ctx (.receive d (.fileUrlDownloadInit m) past) svc.core svc'.core := by
  unfold onFileUrlDownloadInit at h
  split at h
  · cases h; exact .idle
  · rename_i svc1 hstart
    rw [core_reportStatus h]
    exact startUrlDownload_moves past hstart

theorem messageReceived_moves {d : String} {m : Inbound} (past : Nat → UInt8)
    (h : svc.messageReceived ctx past d m = .ok svc') :
    Moves ctx (.receive d m past) svc.core svc'.core := by
  cases m <;> simp only [messageReceived] at h
  case fileUploadInit m =>
    split_ifs at h
    · exact onFileUploadInit_moves past h
    · cases h; rw [reportTransferProtocolDisabled, core_publish]; exact .idle
  case fileUploadAbort m =>
    split_ifs at h
    · exact onFileUploadAbort_moves past h
    · cases h; rw [reportTransferProtocolDisabled, core_publish]; exact .idle
  case fileBinaryResponse m =>
    split_ifs at h
    · cases h; exact onFileBinaryResponse_moves past d m
    · cases h; exact .idle
  case fileUrlDownloadInit m =>
    split_ifs at h
    · exact onFileUrlDownloadInit_moves past h
    · cases h; rw [reportUrlTransferProtocolDisabled, core_publish]; exact .idle
  case fileUrlDownloadAbort m =>
    split_ifs at h
    · exact onFileUrlDownloadAbort_moves past h
    · cases h; rw [reportUrlTransferProtocolDisabled, core_publish]; exact .idle
  case fileListRequest =>
    cases h; rw [onFileListRequest, core_reportPresentFiles]; exact .idle
  case fileDelete m =>
    cases h; rw [onFileDelete, core_reportPresentFiles, core_foldl_deleteFile]; exact .idle
  case filePurge =>
    cases h; rw [onFilePurge, core_reportPresentFiles, core_foldl_deleteFile]; exact .idle
  case invalid => cases h; exact .idle

/-! ## Commands -/

theorem core_placeFile (s : FileTransferSession) (bytes : Bytes) :
    (svc.placeFile ctx s bytes).2.core = svc.core.record
      [.stored s (ctx.fs.composePath s.name (svc.deviceFolder ctx s.deviceKey)) bytes
        (svc.placeFile ctx s bytes).1] := by
  simp only [placeFile, core, Core.record, List.filter_append]
  rfl

theorem collectBytes_spec {s : FileTransferSession} {bytes : Bytes}
    (h : svc.collectBytes ctx s = .ok bytes) (folder : String) (success : Bool) :
    Stores ctx s svc.downloader .fileReady
      [.stored s (ctx.fs.composePath s.name folder) bytes success] := by
  unfold collectBytes at h
  split_ifs at h with hplat
  · cases h
    exact .upload (by simpa [FileTransferSession.isPlatformTransfer] using hplat)
  · split at h
    · cases h
    · rename_i x hx
      cases h
      exact .download (by simpa [FileTransferSession.isPlatformTransfer] using hplat) hx

theorem storeFile_core {d : String} {s : FileTransferSession} (hs : svc.session? d = some s)
    (h : svc.storeFile ctx d = .ok svc') :
    ∃ effects, Stores ctx s svc.downloader .fileReady effects ∧
      svc'.core = svc.core.record effects := by
  unfold storeFile at h
  obtain ⟨s', hs', h⟩ := Machine.bind_eq_ok.mp h
  have heq : s = s' := by
    rw [sessionAt, hs] at hs'
    cases hs'; rfl
  subst heq
  obtain ⟨bytes, hbytes, h⟩ := Machine.bind_eq_ok.mp h
  refine ⟨_, collectBytes_spec hbytes (svc.deviceFolder ctx s.deviceKey)
    (svc.placeFile ctx s bytes).1, ?_⟩
  rw [← core_placeFile]
  dsimp only at h
  split_ifs at h
  · cases h; rw [core_notifyListenerAddedFile]
  · exact core_reportStatus h

theorem onFileSessionStatus_core {p : SessionPtr} {s : FileTransferSession}
    {status : FileTransferStatus} {error : FileTransferError}
    (hs : svc.session? p.deviceKey = some s)
    (h : svc.onFileSessionStatus ctx p p.deviceKey status error = .ok svc') :
    ∃ effects, Stores ctx s svc.downloader status effects ∧
      svc'.core = (svc.core.push (deletion p status)).record effects := by
  unfold onFileSessionStatus at h
  obtain ⟨svc1, h1, h⟩ := Machine.bind_eq_ok.mp h
  have hcore := core_reportStatus h1
  have hsession : svc1.session? p.deviceKey = some s := by
    rw [← core_session, hcore]; exact hs
  have hdown : svc1.downloader = svc.downloader := congrArg Core.downloader hcore
  cases status <;> dsimp only at h
  case fileReady =>
    obtain ⟨svc2, h2, h⟩ := Machine.bind_eq_ok.mp h
    obtain ⟨effects, hstores, heff⟩ := storeFile_core hsession h2
    refine ⟨effects, hdown ▸ hstores, ?_⟩
    cases h
    rw [core_pushReset, heff, hcore]
    rfl
  case error | aborted =>
    refine ⟨[], .nothing (by simp), ?_⟩
    cases h
    rw [core_pushReset, hcore]
    simp [Core.record, Core.push, deletion]
  case fileTransfer | awaitingDevice =>
    refine ⟨[], .nothing (by simp), ?_⟩
    cases h
    rw [hcore]
    simp [Core.record, Core.push, deletion]

def taken (svc : FileManagementService δ φ) (rest : List Command) : FileManagementService δ φ :=
  { svc with commandBuffer := rest }

theorem core_queue_cons {command : Command} {rest : List Command}
    (h : svc.commandBuffer = command :: rest) (hc : command.isNotice = false) :
    svc.core.queue = command :: (svc.taken rest).core.queue := by
  simp [core, taken, h, hc]

theorem core_taken (rest : List Command) :
    (svc.taken rest).core = { svc.core with queue := (svc.taken rest).core.queue } := rfl

theorem core_taken_notice {command : Command} {rest : List Command}
    (h : svc.commandBuffer = command :: rest) (hc : command.isNotice = true) :
    (svc.taken rest).core = svc.core := by
  rw [core_taken]
  simp [core, taken, h, hc]

theorem core_resetSession (d : String) (p : SessionPtr) :
    (svc.resetSession d p).core =
      (svc.core.drop d).record ((svc.session? d).toList.map (Effect.destroyed p)) := by
  have hkeep : ((svc.session? d).toList.map (Effect.destroyed p)).filter Effect.isDeed =
      (svc.session? d).toList.map (Effect.destroyed p) := by
    rw [List.filter_eq_self]
    simp [Effect.isDeed]
  simp only [resetSession, core, Core.drop, Core.record, ← session?_insert, List.filter_append,
    hkeep]
  rfl

theorem runCommand_moves (h : svc.runCommand ctx = .ok svc') :
    Moves (μ := μ) ctx .runCommand svc.core svc'.core := by
  unfold runCommand at h
  split at h
  · cases h; exact .idle
  · rename_i command rest hbuffer
    change (svc.taken rest).execute ctx command = _ at h
    cases command with
    | sessionStatus p a =>
      have hqueue := core_queue_cons hbuffer rfl
      obtain ⟨s, hs, h⟩ := Machine.bind_eq_ok.mp h
      obtain ⟨hsession, hserial⟩ := resolve_eq_ok.mp hs
      split_ifs at h with hcallback
      · obtain ⟨effects, hstores, heff⟩ := onFileSessionStatus_core hsession h
        rw [heff]
        exact .status hqueue hsession hserial hstores
      · cases h
        rw [core_taken]
        exact .dropped hqueue hsession (by simpa using hcallback)
    | resetSession d p =>
      have hqueue := core_queue_cons hbuffer rfl
      cases h
      rw [core_resetSession]
      exact .reset hqueue
    | onAddedFile d n a =>
      cases h
      rw [← core_taken_notice hbuffer rfl, core_noted _ _ rfl]
      exact .idle
    | onRemovedFile d n =>
      cases h
      rw [← core_taken_notice hbuffer rfl, core_noted _ _ rfl]
      exact .idle

/-! ## Callbacks -/

theorem deliver_core {callback : Callback} (h : svc.deliver callback = .ok svc') :
    ∃ s, svc.session? callback.target.deviceKey = some s ∧ s.serial = callback.target.serial ∧
      svc'.core = (svc.core.put callback.target.deviceKey
        (s.onDownloadStatus callback.status callback.error callback.fileName)).record
          [.delivered callback] := by
  obtain ⟨s, hs, h⟩ := Machine.bind_eq_ok.mp h
  obtain ⟨hsession, hserial⟩ := resolve_eq_ok.mp hs
  refine ⟨s, hsession, hserial, ?_⟩
  cases h
  rw [← core_putSession]
  simp only [core, Core.record, putSession, List.filter_append]
  rfl

end FileManagementService

namespace System

variable {δ μ φ : Type} {ctx : Context δ μ φ} {sys sys' : System δ φ}

theorem receive_moves {d : String} {m : FileManagementService.Inbound} {past : Nat → UInt8}
    (h : sys.receive ctx d m past = .ok sys') :
    Moves ctx (.receive d m past) sys.svc.core sys'.svc.core := by
  unfold receive at h
  split at h
  · split at h
    · cases h; exact .idle
    · rename_i hstart
      cases h
      exact FileManagementService.startUrlDownload_moves past hstart
  · obtain ⟨svc, hsvc, h⟩ := Machine.bind_eq_ok.mp h
    cases h
    exact FileManagementService.messageReceived_moves past hsvc

theorem moveDownloader_moves {move : μ} (h : sys.moveDownloader ctx move = .ok sys') :
    Moves ctx (.downloader move) sys.svc.core sys'.svc.core := by
  unfold moveDownloader at h
  split at h
  · cases h; exact .idle
  · rename_i x hx
    split at h
    · rename_i x' hmove
      cases h
      exact .moved hx hmove
    · rename_i x' callback hmove
      obtain ⟨svc, hsvc, h⟩ := Machine.bind_eq_ok.mp h
      cases h
      obtain ⟨s, hs, hserial, hcore⟩ := FileManagementService.deliver_core hsvc
      rw [hcore]
      exact .called hx hmove hs hserial

/-- **The service refines its core.** Every defined step is a move. -/
theorem step_moves {e : Event μ} (h : sys.step ctx e = .ok sys') :
    Moves ctx e sys.svc.core sys'.svc.core := by
  cases e with
  | receive d m past =>
    simp only [step] at h
    split at h
    · exact receive_moves h
    · cases h; exact .idle
  | report =>
    simp only [step] at h
    split at h
    · cases h; exact .idle
    · split_ifs at h
      · obtain ⟨svc, hsvc, h⟩ := Machine.bind_eq_ok.mp h
        cases h
        rw [FileManagementService.core_reportStatus hsvc]
        exact .idle
      · cases h; exact .idle
  | runCommand =>
    obtain ⟨svc, hsvc, h⟩ := Machine.bind_eq_ok.mp h
    cases h
    exact FileManagementService.runCommand_moves hsvc
  | downloader move => exact moveDownloader_moves h

/-- The event is not a message that comes while another one is handled, or that is rejected. -/
def hears (sys : System δ φ) : Event μ → Bool
  | .receive _ m _ => sys.reporting.isNone &&
    match m with
    | .fileUploadInit _ | .fileUploadAbort _ | .fileBinaryResponse _ =>
      sys.svc.config.fileTransferEnabled
    | .fileUrlDownloadInit _ | .fileUrlDownloadAbort _ => sys.svc.config.fileTransferUrlEnabled
    | _ => true
  | _ => true

theorem messageReceived_deaf {svc svc' : FileManagementService δ φ} {d : String}
    {m : FileManagementService.Inbound} {past : Nat → UInt8}
    (hdeaf : (System.mk svc none).hears (Event.receive (μ := μ) d m past) = false)
    (h : svc.messageReceived ctx past d m = .ok svc') : svc'.core = svc.core := by
  cases m <;> simp only [hears, Option.isNone_none, Bool.true_and, reduceCtorEq] at hdeaf <;>
    simp only [FileManagementService.messageReceived, hdeaf, Bool.false_eq_true, if_false] at h
  all_goals
    cases h
    simp [FileManagementService.reportTransferProtocolDisabled,
      FileManagementService.reportUrlTransferProtocolDisabled]

theorem step_deaf {e : Event μ} (hdeaf : sys.hears e = false) (h : sys.step ctx e = .ok sys') :
    sys'.svc.core = sys.svc.core := by
  cases e with
  | receive d m past =>
    obtain ⟨svc, reporting⟩ := sys
    cases reporting with
    | some _ => cases h; rfl
    | none =>
      simp only [step, receive] at h
      split at h
      · rename_i hflag
        simp [hears, hflag] at hdeaf
      · obtain ⟨svc', hsvc, h⟩ := Machine.bind_eq_ok.mp h
        cases h
        exact messageReceived_deaf hdeaf hsvc
  | report => simp [hears] at hdeaf
  | runCommand => simp [hears] at hdeaf
  | downloader => simp [hears] at hdeaf

end System

end WolkConnect
