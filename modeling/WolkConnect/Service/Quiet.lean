import WolkConnect.Service.Core

/-!
# Steps that do not touch files

Most handlers leave the files, the registry and the listener alone. The others are the
three that handle files, and the storing of a transferred file.
-/

namespace WolkConnect

/-- A notification of the file listener: `onAddedFile`, or else `onRemovedFile`. -/
structure FileNotice where
  deviceKey : String
  fileName : String
  added : Bool
  deriving DecidableEq

def Command.fileNotice : Command → Option FileNotice
  | .onAddedFile deviceKey fileName _ => some ⟨deviceKey, fileName, true⟩
  | .onRemovedFile deviceKey fileName => some ⟨deviceKey, fileName, false⟩
  | _ => none

def Effect.fileNotice : Effect → Option FileNotice
  | .addedFile deviceKey fileName _ => some ⟨deviceKey, fileName, true⟩
  | .removedFile deviceKey fileName => some ⟨deviceKey, fileName, false⟩
  | _ => none

/-- The path that a file was written to, or deleted at. -/
def Effect.path : Effect → Option String
  | .stored _ path _ _ => some path
  | .deleted path _ => some path
  | _ => none

/-- Neither a message about the files of a device, nor the run of a command. -/
def Event.isQuiet {μ : Type} : Event μ → Bool
  | .receive _ .fileListRequest _ | .receive _ (.fileDelete _) _ | .receive _ .filePurge _ => false
  | .runCommand => false
  | _ => true

/-- No list of files, and nothing done to a file or said to the listener. -/
def Effect.isQuiet : Effect → Bool
  | .published _ (.fileListResponse _) _ => false
  | .published _ _ _ | .destroyed _ _ | .delivered _ => true
  | .stored _ _ _ _ | .deleted _ _ | .addedFile _ _ _ | .removedFile _ _ => false

theorem Effect.fileNotice_of_quiet {e : Effect} (h : e.isQuiet = true) : e.fileNotice = none := by
  cases e <;> first | rfl | cases h

theorem Effect.path_of_quiet {e : Effect} (h : e.isQuiet = true) : e.path = none := by
  cases e <;> first | rfl | cases h

theorem Command.fileNotice_of_not {c : Command} (h : c.isNotice = false) : c.fileNotice = none := by
  cases c <;> first | rfl | cases h

theorem filterMap_of_none {α β : Type} {f : α → Option β} {l : List α} (h : ∀ a ∈ l, f a = none) :
    l.filterMap f = [] := List.filterMap_eq_nil_iff.mpr h

namespace FileManagementService

variable {δ μ φ : Type} {ctx : Context δ μ φ} {svc svc' svc'' : FileManagementService δ φ} {d : String}

/-- The notifications that were queued so far, in order: those that were made, and those that wait. -/
def notices (svc : FileManagementService δ φ) : List FileNotice :=
  svc.log.filterMap Effect.fileNotice ++ svc.commandBuffer.filterMap Command.fileNotice

/-- The paths that were given to the file system to write or delete. -/
def paths (svc : FileManagementService δ φ) : List String := svc.log.filterMap Effect.path

structure Quiet (svc svc' : FileManagementService δ φ) : Prop where
  config : svc'.config = svc.config
  files : svc'.files = svc.files
  disk : svc'.disk = svc.disk
  log : ∃ said, svc'.log = svc.log ++ said ∧ ∀ e ∈ said, e.isQuiet = true
  buffer : ∃ queued, svc'.commandBuffer = svc.commandBuffer ++ queued ∧
    ∀ c ∈ queued, c.isNotice = false

/-! ## Quiet functions -/

theorem Quiet.refl (svc : FileManagementService δ φ) : Quiet svc svc :=
  ⟨rfl, rfl, rfl, ⟨[], by simp⟩, ⟨[], by simp⟩⟩

theorem Quiet.trans (h : Quiet svc svc') (h' : Quiet svc' svc'') : Quiet svc svc'' := by
  obtain ⟨said, hlog, hsaid⟩ := h.log
  obtain ⟨said', hlog', hsaid'⟩ := h'.log
  obtain ⟨queued, hbuffer, hqueued⟩ := h.buffer
  obtain ⟨queued', hbuffer', hqueued'⟩ := h'.buffer
  refine ⟨h'.config.trans h.config, h'.files.trans h.files, h'.disk.trans h.disk,
    ⟨said ++ said', ?_, ?_⟩, ⟨queued ++ queued', ?_, ?_⟩⟩
  · rw [hlog', hlog, List.append_assoc]
  · exact fun e he => (List.mem_append.mp he).elim (hsaid e) (hsaid' e)
  · rw [hbuffer', hbuffer, List.append_assoc]
  · exact fun c hc => (List.mem_append.mp hc).elim (hqueued c) (hqueued' c)

theorem Quiet.notices (h : Quiet svc svc') : svc'.notices = svc.notices := by
  obtain ⟨said, hlog, hsaid⟩ := h.log
  obtain ⟨queued, hbuffer, hqueued⟩ := h.buffer
  rw [FileManagementService.notices, FileManagementService.notices, hlog, hbuffer,
    List.filterMap_append, List.filterMap_append,
    filterMap_of_none fun e he => Effect.fileNotice_of_quiet (hsaid e he),
    filterMap_of_none fun c hc => Command.fileNotice_of_not (hqueued c hc), List.append_nil,
    List.append_nil]

theorem Quiet.paths (h : Quiet svc svc') : svc'.paths = svc.paths := by
  obtain ⟨said, hlog, hsaid⟩ := h.log
  rw [FileManagementService.paths, FileManagementService.paths, hlog, List.filterMap_append,
    filterMap_of_none fun e he => Effect.path_of_quiet (hsaid e he), List.append_nil]

theorem quiet_publish (svc : FileManagementService δ φ) (d : String) {message : Outbound}
    (session : Option SessionPtr) (h : (Effect.published d message session).isQuiet = true) :
    Quiet svc (svc.publish ctx d message session) := by
  unfold publish
  split_ifs
  · exact ⟨rfl, rfl, rfl, ⟨_, rfl, by simpa using h⟩, ⟨[], by simp⟩⟩
  · exact .refl svc

theorem quiet_putSession (svc : FileManagementService δ φ) (d : String)
    (r : FileTransferSession × List Announcement) : Quiet svc (svc.putSession d r) := by
  refine ⟨rfl, rfl, rfl, ⟨[], by simp [putSession]⟩, ⟨_, rfl, fun c hc => ?_⟩⟩
  obtain ⟨a, -, rfl⟩ := List.mem_map.mp hc
  rfl

theorem quiet_sessions (svc : FileManagementService δ φ)
    (sessions : OrderedMap String (Option FileTransferSession)) (downloader : Option δ)
    (created : Nat) :
    Quiet svc { svc with sessions := sessions, downloader := downloader, created := created } :=
  ⟨rfl, rfl, rfl, ⟨[], by simp⟩, ⟨[], by simp⟩⟩

theorem quiet_reportStatus {status : FileTransferStatus} {error : FileTransferError}
    (h : svc.reportStatus ctx d status error = .ok svc') : Quiet svc svc' := by
  unfold reportStatus at h
  split at h
  · cases h
    exact .refl svc
  · cases h
  · cases h
    apply quiet_publish
    unfold statusMessage
    split_ifs <;> rfl

theorem quiet_onFileUploadInit {m : FileUploadInitiateMessage}
    (h : svc.onFileUploadInit ctx d m = .ok svc') : Quiet svc svc' := by
  have hadd : ∀ s, Quiet svc (svc.addSession s) := fun s => quiet_sessions svc _ _ _
  unfold onFileUploadInit at h
  split_ifs at h
  · cases h
    exact .refl svc
  · cases h
    exact .refl svc
  · dsimp only at h
    split_ifs at h
    · obtain ⟨svc1, h1, h2⟩ := Machine.bind_eq_ok.mp h
      cases h2
      exact ((hadd _).trans (quiet_reportStatus h1)).trans (quiet_publish _ _ _ rfl)
    · cases h
      exact hadd _

theorem quiet_abortSession {s : FileTransferSession} (h : svc.abortSession ctx d s = .ok svc') :
    Quiet svc svc' := by
  unfold abortSession at h
  split_ifs at h
  · cases h
    exact quiet_putSession _ _ _
  · split at h
    · cases h
    · split at h
      · cases h
      · cases h
        exact (quiet_sessions svc _ _ _).trans (quiet_putSession _ _ _)

theorem quiet_onFileUploadAbort {m : FileUploadAbortMessage}
    (h : svc.onFileUploadAbort ctx d m = .ok svc') : Quiet svc svc' := by
  unfold onFileUploadAbort at h
  split at h
  · cases h
    exact .refl svc
  · split_ifs at h
    · exact quiet_abortSession h
    · cases h
      exact .refl svc

theorem quiet_onFileUrlDownloadAbort {m : FileUrlDownloadAbortMessage}
    (h : svc.onFileUrlDownloadAbort ctx d m = .ok svc') : Quiet svc svc' := by
  unfold onFileUrlDownloadAbort at h
  split at h
  · cases h
    exact .refl svc
  · cases h
  · split_ifs at h
    · exact quiet_abortSession h
    · cases h
      exact .refl svc

theorem quiet_onFileBinaryResponse (svc : FileManagementService δ φ) (past : Nat → UInt8) (d : String)
    (m : FileBinaryResponseMessage) : Quiet svc (svc.onFileBinaryResponse ctx past d m) := by
  unfold onFileBinaryResponse
  split
  · exact .refl svc
  · split_ifs
    · dsimp only
      split_ifs
      · exact (quiet_putSession _ _ _).trans (quiet_publish _ _ _ rfl)
      · exact quiet_putSession _ _ _
    · exact .refl svc

theorem quiet_startUrlDownload {m : FileUrlDownloadInitMessage}
    (h : svc.startUrlDownload ctx d m = some svc') : Quiet svc svc' := by
  unfold startUrlDownload at h
  split_ifs at h
  cases h
  unfold triggerDownload
  split_ifs
  · exact quiet_sessions svc _ _ _
  · split
    · exact quiet_sessions svc _ _ _
    · exact quiet_sessions svc _ _ _

theorem quiet_onFileUrlDownloadInit {m : FileUrlDownloadInitMessage}
    (h : svc.onFileUrlDownloadInit ctx d m = .ok svc') : Quiet svc svc' := by
  unfold onFileUrlDownloadInit at h
  split at h
  · cases h
    exact .refl svc
  · rename_i hstart
    exact (quiet_startUrlDownload hstart).trans (quiet_reportStatus h)

theorem quiet_resetSession (svc : FileManagementService δ φ) (d : String) (requester : SessionPtr) :
    Quiet svc (svc.resetSession d requester) := by
  refine ⟨rfl, rfl, rfl, ⟨_, rfl, fun e he => ?_⟩, ⟨[], by simp [resetSession]⟩⟩
  obtain ⟨s, -, rfl⟩ := List.mem_map.mp he
  rfl

theorem quiet_deliver {callback : Callback} (h : svc.deliver callback = .ok svc') :
    Quiet svc svc' := by
  obtain ⟨s, -, h⟩ := Machine.bind_eq_ok.mp h
  cases h
  have hput := quiet_putSession svc callback.target.deviceKey
    (s.onDownloadStatus callback.status callback.error callback.fileName)
  exact hput.trans ⟨rfl, rfl, rfl, ⟨_, rfl, by simp [Effect.isQuiet]⟩, ⟨[], by simp⟩⟩

/-! ## Functions that only look at files -/

/-- The disk is as it was, and nothing was written or deleted. -/
structure Fixed (svc svc' : FileManagementService δ φ) : Prop where
  config : svc'.config = svc.config
  disk : svc'.disk = svc.disk
  paths : svc'.paths = svc.paths

theorem Fixed.trans (h : Fixed svc svc') (h' : Fixed svc' svc'') : Fixed svc svc'' :=
  ⟨h'.config.trans h.config, h'.disk.trans h.disk, h'.paths.trans h.paths⟩

theorem Fixed.of_files {files : OrderedMap String DeviceFiles}
    (h : Fixed { svc with files := files } svc') : Fixed svc svc' := ⟨h.config, h.disk, h.paths⟩

theorem fixed_notifyListenerAddedFile (svc : FileManagementService δ φ) (d n path : String) :
    Fixed svc (svc.notifyListenerAddedFile d n path) := by
  unfold notifyListenerAddedFile
  split_ifs <;> exact ⟨rfl, rfl, rfl⟩

theorem fixed_notifyListenerRemovedFile (svc : FileManagementService δ φ) (d n : String) :
    Fixed svc (svc.notifyListenerRemovedFile d n) := by
  unfold notifyListenerRemovedFile
  split_ifs <;> exact ⟨rfl, rfl, rfl⟩

theorem fixed_reportFile (d : String) (acc : FileManagementService δ φ × List FileInformation)
    (file : String) : Fixed acc.1 (reportFile ctx d acc file).1 := by
  obtain ⟨svc, vector⟩ := acc
  simp only [reportFile]
  split
  · exact ⟨rfl, rfl, rfl⟩
  · split_ifs
    · exact ⟨rfl, rfl, rfl⟩
    · exact .of_files (fixed_notifyListenerAddedFile _ _ _ _)

theorem fixed_foldl_reportFile (d : String) (files : List String)
    (acc : FileManagementService δ φ × List FileInformation) :
    Fixed acc.1 (files.foldl (reportFile ctx d) acc).1 := by
  induction files generalizing acc with
  | nil => exact ⟨rfl, rfl, rfl⟩
  | cons file files ih => exact (fixed_reportFile d acc file).trans (ih _)

theorem fixed_publish (svc : FileManagementService δ φ) (d : String) (message : Outbound)
    (session : Option SessionPtr) : Fixed svc (svc.publish ctx d message session) := by
  unfold publish
  split_ifs
  · exact ⟨rfl, rfl, by simp [paths, List.filterMap_append, Effect.path]⟩
  · exact ⟨rfl, rfl, rfl⟩

theorem fixed_reportPresentFiles (ctx : Context δ μ φ) (svc : FileManagementService δ φ)
    (d : String) : Fixed svc (svc.reportPresentFiles ctx d) := by
  unfold reportPresentFiles
  dsimp only
  split_ifs
  · exact .trans (.of_files (fixed_foldl_reportFile d _ (_, []))) (fixed_publish _ _ _ _)
  · exact fixed_publish _ _ _ _

/-- A deletion gives one path to the file system. -/
theorem deleteFile_paths (ctx : Context δ μ φ) (svc : FileManagementService δ φ) (d file : String) :
    (deleteFile ctx d svc file).config = svc.config ∧
      (deleteFile ctx d svc file).paths = svc.paths ++ [svc.pathOf ctx d file] := by
  have hpaths : ∀ success, (svc.log ++ [Effect.deleted (svc.pathOf ctx d file) success]).filterMap
      Effect.path = svc.paths ++ [svc.pathOf ctx d file] := by
    intro success
    simp [paths, List.filterMap_append, Effect.path]
  simp only [deleteFile]
  split_ifs
  · have hremoved := fixed_notifyListenerRemovedFile
      { svc with
        disk := (ctx.fs.deleteFile svc.disk (svc.pathOf ctx d file)).2
        log := svc.log ++
          [Effect.deleted (svc.pathOf ctx d file) (ctx.fs.deleteFile svc.disk (svc.pathOf ctx d file)).1]
        files := svc.files.erase file } d file
    exact ⟨hremoved.config, hremoved.paths.trans (hpaths _)⟩
  · exact ⟨rfl, hpaths _⟩

theorem pathOf_config (h : svc'.config = svc.config) (file : String) :
    svc'.pathOf ctx d file = svc.pathOf ctx d file := by
  rw [pathOf, deviceFolder, h, pathOf, deviceFolder]

theorem foldl_deleteFile_paths (ctx : Context δ μ φ) (svc : FileManagementService δ φ) (d : String)
    (files : List String) :
    (files.foldl (deleteFile ctx d) svc).config = svc.config ∧
      (files.foldl (deleteFile ctx d) svc).paths = svc.paths ++ files.map (svc.pathOf ctx d) := by
  induction files generalizing svc with
  | nil => exact ⟨rfl, (List.append_nil _).symm⟩
  | cons file files ih =>
    obtain ⟨hconfig, hpaths⟩ := deleteFile_paths ctx svc d file
    obtain ⟨hconfig', hpaths'⟩ := ih (deleteFile ctx d svc file)
    have hsame : (deleteFile ctx d svc file).pathOf ctx d = svc.pathOf ctx d :=
      funext fun f => pathOf_config hconfig f
    refine ⟨hconfig'.trans hconfig, ?_⟩
    rw [List.foldl_cons, hpaths', hpaths, List.append_assoc, List.map_cons, List.singleton_append,
      hsame]

/-! ## What a message does to files -/

/-- A message is quiet, or one of the three about files. -/
theorem messageReceived_files {m : Inbound} (past : Nat → UInt8)
    (h : svc.messageReceived ctx past d m = .ok svc') :
    Quiet svc svc' ∨ (m = .fileListRequest ∧ svc' = svc.onFileListRequest ctx d) ∨
      (∃ message, m = .fileDelete message ∧ svc' = svc.onFileDelete ctx d message) ∨
      (m = .filePurge ∧ svc' = svc.onFilePurge ctx d) := by
  cases m <;> simp only [messageReceived] at h
  case fileUploadInit m =>
    split_ifs at h
    · exact .inl (quiet_onFileUploadInit h)
    · cases h
      exact .inl (quiet_publish _ _ _ rfl)
  case fileUploadAbort m =>
    split_ifs at h
    · exact .inl (quiet_onFileUploadAbort h)
    · cases h
      exact .inl (quiet_publish _ _ _ rfl)
  case fileBinaryResponse m =>
    split_ifs at h
    · cases h
      exact .inl (quiet_onFileBinaryResponse svc past d m)
    · cases h
      exact .inl (.refl svc)
  case fileUrlDownloadInit m =>
    split_ifs at h
    · exact .inl (quiet_onFileUrlDownloadInit h)
    · cases h
      exact .inl (quiet_publish _ _ _ rfl)
  case fileUrlDownloadAbort m =>
    split_ifs at h
    · exact .inl (quiet_onFileUrlDownloadAbort h)
    · cases h
      exact .inl (quiet_publish _ _ _ rfl)
  case fileListRequest =>
    cases h
    exact .inr (.inl ⟨rfl, rfl⟩)
  case fileDelete m =>
    cases h
    exact .inr (.inr (.inl ⟨m, rfl, rfl⟩))
  case filePurge =>
    cases h
    exact .inr (.inr (.inr ⟨rfl, rfl⟩))
  case invalid =>
    cases h
    exact .inl (.refl svc)

/-! ## What a command does to files -/

/-- The session whose file the next command stores. -/
def storing (svc : FileManagementService δ φ) : Option FileTransferSession :=
  match svc.commandBuffer with
  | .sessionStatus p a :: _ =>
    if a.status = .fileReady then (svc.session? p.deviceKey).filter FileTransferSession.callback
    else none
  | _ => none

/-- The service once the file of a session has been placed, and the listener told. -/
def placed (ctx : Context δ μ φ) (svc : FileManagementService δ φ) (s : FileTransferSession)
    (d : String) (bytes : Bytes) : FileManagementService δ φ :=
  let (success, svc) := svc.placeFile ctx s bytes
  if success then svc.notifyListenerAddedFile d s.name (svc.absolutePathOfFile ctx d s.name) else svc

/-- What the first command of the buffer does, as far as files go. -/
inductive Ran (ctx : Context δ μ φ) (svc svc' : FileManagementService δ φ) : Prop
  | idle : svc.commandBuffer = [] → svc' = svc → Ran ctx svc svc'
  | notice {command rest e} : svc.commandBuffer = command :: rest → command.isNotice = true →
      e.fileNotice = command.fileNotice → e.path = none →
      svc' = { svc.taken rest with log := svc.log ++ [e] } → Ran ctx svc svc'
  | quiet {command rest} : svc.commandBuffer = command :: rest → command.isNotice = false →
      svc.storing = none → Quiet (svc.taken rest) svc' → Ran ctx svc svc'
  | stored {p a rest s svc1 bytes} : svc.commandBuffer = .sessionStatus p a :: rest →
      svc.storing = some s → svc.session? p.deviceKey = some s →
      svc.collectBytes ctx s = .ok bytes → Quiet (svc.taken rest) svc1 →
      Quiet (svc1.placed ctx s p.deviceKey bytes) svc' → Ran ctx svc svc'

theorem storeFile_places {s : FileTransferSession} (hs : svc.session? d = some s)
    (h : svc.storeFile ctx d = .ok svc') :
    ∃ bytes, svc.collectBytes ctx s = .ok bytes ∧ Quiet (svc.placed ctx s d bytes) svc' := by
  unfold storeFile at h
  obtain ⟨s', hs', h⟩ := Machine.bind_eq_ok.mp h
  rw [sessionAt, hs] at hs'
  cases hs'
  obtain ⟨bytes, hbytes, h⟩ := Machine.bind_eq_ok.mp h
  refine ⟨bytes, hbytes, ?_⟩
  unfold placed
  dsimp only at h ⊢
  split_ifs at h ⊢
  · cases h
    exact .refl _
  · exact quiet_reportStatus h

theorem onFileSessionStatus_ready {p : SessionPtr} {error : FileTransferError}
    {s : FileTransferSession} (hs : svc.session? d = some s)
    (h : svc.onFileSessionStatus ctx p d .fileReady error = .ok svc') :
    ∃ svc1 bytes, svc.collectBytes ctx s = .ok bytes ∧ Quiet svc svc1 ∧
      Quiet (svc1.placed ctx s d bytes) svc' := by
  obtain ⟨svc1, h1, h⟩ := Machine.bind_eq_ok.mp h
  obtain ⟨svc2, h2, h⟩ := Machine.bind_eq_ok.mp h
  cases h
  have hs1 : svc1.session? d = some s :=
    (congrFun (congrArg Core.session (core_reportStatus h1)) d).trans hs
  have hdownloader : svc1.downloader = svc.downloader :=
    congrArg Core.downloader (core_reportStatus h1)
  obtain ⟨bytes, hbytes, hplaced⟩ := storeFile_places hs1 h2
  rw [collectBytes, hdownloader] at hbytes
  refine ⟨svc1, bytes, hbytes, quiet_reportStatus h1, hplaced.trans ?_⟩
  exact ⟨rfl, rfl, rfl, ⟨[], by simp [pushCommand]⟩, ⟨_, rfl, by simp [Command.isNotice]⟩⟩

theorem onFileSessionStatus_quiet {p : SessionPtr} {status : FileTransferStatus}
    {error : FileTransferError} (hstatus : status ≠ .fileReady)
    (h : svc.onFileSessionStatus ctx p d status error = .ok svc') : Quiet svc svc' := by
  obtain ⟨svc1, h1, h⟩ := Machine.bind_eq_ok.mp h
  have hpush : Quiet svc1 (svc1.pushCommand (.resetSession d p)) :=
    ⟨rfl, rfl, rfl, ⟨[], by simp [pushCommand]⟩, ⟨_, rfl, by simp [Command.isNotice]⟩⟩
  cases status <;> dsimp only at h
  case fileReady => exact absurd rfl hstatus
  case error | aborted =>
    cases h
    exact (quiet_reportStatus h1).trans hpush
  case fileTransfer | awaitingDevice =>
    cases h
    exact quiet_reportStatus h1

theorem runCommand_ran (h : svc.runCommand ctx = .ok svc') : Ran ctx svc svc' := by
  unfold runCommand at h
  split at h
  · rename_i hempty
    cases h
    exact .idle hempty rfl
  · rename_i command rest hbuffer
    change (svc.taken rest).execute ctx command = _ at h
    cases command with
    | sessionStatus p a =>
      obtain ⟨s, hs, h⟩ := Machine.bind_eq_ok.mp h
      obtain ⟨hsession, -⟩ := resolve_eq_ok.mp hs
      have hsession' : svc.session? p.deviceKey = some s := hsession
      split_ifs at h with hcallback
      · by_cases hready : a.status = .fileReady
        · rw [hready] at h
          obtain ⟨svc1, bytes, hbytes, hquiet, hplaced⟩ := onFileSessionStatus_ready hsession h
          refine .stored hbuffer ?_ hsession' hbytes hquiet hplaced
          simp [storing, hbuffer, hready, hsession', hcallback]
        · refine .quiet hbuffer rfl ?_ (onFileSessionStatus_quiet hready h)
          simp [storing, hbuffer, hready]
      · cases h
        refine .quiet hbuffer rfl ?_ (.refl _)
        simp [storing, hbuffer, hsession', hcallback]
    | resetSession d p =>
      cases h
      refine .quiet hbuffer rfl ?_ (quiet_resetSession _ d p)
      simp [storing, hbuffer]
    | onAddedFile d n a =>
      cases h
      exact .notice hbuffer rfl rfl rfl rfl
    | onRemovedFile d n =>
      cases h
      exact .notice hbuffer rfl rfl rfl rfl

/-- Placing a file gives one path to the file system. -/
theorem placed_paths (ctx : Context δ μ φ) (svc : FileManagementService δ φ)
    (s : FileTransferSession) (d : String) (bytes : Bytes) :
    (svc.placed ctx s d bytes).config = svc.config ∧
      (svc.placed ctx s d bytes).paths = svc.paths ++ [svc.pathOf ctx s.deviceKey s.name] := by
  have hpaths : (svc.placeFile ctx s bytes).2.paths =
      svc.paths ++ [svc.pathOf ctx s.deviceKey s.name] := by
    simp [placeFile, paths, List.filterMap_append, Effect.path, pathOf]
  unfold placed
  dsimp only
  split_ifs
  · have hadded := fixed_notifyListenerAddedFile (svc.placeFile ctx s bytes).2 d s.name
      ((svc.placeFile ctx s bytes).2.absolutePathOfFile ctx d s.name)
    exact ⟨hadded.config, hadded.paths.trans hpaths⟩
  · exact ⟨rfl, hpaths⟩

theorem Ran.config (h : Ran ctx svc svc') : svc'.config = svc.config := by
  cases h with
  | idle _ heq => rw [heq]
  | notice _ _ _ _ heq => rw [heq]; rfl
  | quiet _ _ _ hquiet => exact hquiet.config
  | stored _ _ _ _ hquiet hplaced =>
    exact (hplaced.config.trans (placed_paths _ _ _ _ _).1).trans hquiet.config

theorem taken_notices {command : Command} {rest : List Command}
    (hbuffer : svc.commandBuffer = command :: rest) (hc : command.isNotice = false) :
    (svc.taken rest).notices = svc.notices := by
  simp [notices, taken, hbuffer, Command.fileNotice_of_not hc]

/-- A notification that is made was queued. -/
theorem told_notices {command : Command} {rest : List Command} {e : Effect}
    (hbuffer : svc.commandBuffer = command :: rest) (he : e.fileNotice = command.fileNotice) :
    { svc.taken rest with log := svc.log ++ [e] }.notices = svc.notices := by
  simp only [notices, taken, hbuffer, List.filterMap_append, List.filterMap_cons, List.filterMap_nil,
    he, List.append_assoc]
  split <;> rfl

end FileManagementService

namespace System

variable {δ μ φ : Type} {ctx : Context δ μ φ} {sys sys' : System δ φ}

open FileManagementService (Quiet Ran)

/-- What a step does to files. -/
inductive FileStep (ctx : Context δ μ φ) (sys sys' : System δ φ) : Event μ → Prop
  | quiet {e} : e.isQuiet = true → Quiet sys.svc sys'.svc → FileStep ctx sys sys' e
  | waiting {d m past} : sys.reporting.isSome = true → sys' = sys →
      FileStep ctx sys sys' (.receive d m past)
  | list {d past} : sys.reporting = none → sys'.svc = sys.svc.onFileListRequest ctx d →
      FileStep ctx sys sys' (.receive d .fileListRequest past)
  | delete {d m past} : sys.reporting = none → sys'.svc = sys.svc.onFileDelete ctx d m →
      FileStep ctx sys sys' (.receive d (.fileDelete m) past)
  | purge {d past} : sys.reporting = none → sys'.svc = sys.svc.onFilePurge ctx d →
      FileStep ctx sys sys' (.receive d .filePurge past)
  | ran : Ran ctx sys.svc sys'.svc → FileStep ctx sys sys' .runCommand

theorem receive_files {d : String} {m : FileManagementService.Inbound} {past : Nat → UInt8}
    (hidle : sys.reporting = none) (h : sys.receive ctx d m past = .ok sys') :
    FileStep ctx sys sys' (.receive d m past) := by
  unfold receive at h
  split at h
  · refine .quiet rfl ?_
    split at h
    · cases h
      exact .refl _
    · rename_i hstart
      cases h
      exact FileManagementService.quiet_startUrlDownload hstart
  · rename_i message _ _ _
    obtain ⟨svc, hsvc, h⟩ := Machine.bind_eq_ok.mp h
    cases h
    rcases FileManagementService.messageReceived_files past hsvc with
      hquiet | ⟨rfl, hlist⟩ | ⟨files, rfl, hdelete⟩ | ⟨rfl, hpurge⟩
    · cases message with
      | fileListRequest => exact .list hidle (Except.ok.inj hsvc).symm
      | fileDelete message => exact .delete hidle (Except.ok.inj hsvc).symm
      | filePurge => exact .purge hidle (Except.ok.inj hsvc).symm
      | _ => exact .quiet rfl hquiet
    · exact .list hidle hlist
    · exact .delete hidle hdelete
    · exact .purge hidle hpurge

/-- Every defined step either leaves files alone, or is one of the steps above. -/
theorem step_files {e : Event μ} (h : sys.step ctx e = .ok sys') : FileStep ctx sys sys' e := by
  cases e with
  | receive d m past =>
    simp only [step] at h
    split at h
    · rename_i hidle
      exact receive_files hidle h
    · rename_i hbusy
      cases h
      exact .waiting (by rw [hbusy]; rfl) rfl
  | report =>
    refine .quiet rfl ?_
    simp only [step] at h
    split at h
    · cases h
      exact .refl _
    · split_ifs at h
      · obtain ⟨svc, hsvc, h⟩ := Machine.bind_eq_ok.mp h
        cases h
        exact FileManagementService.quiet_reportStatus hsvc
      · cases h
        exact .refl _
  | runCommand =>
    obtain ⟨svc, hsvc, h⟩ := Machine.bind_eq_ok.mp h
    cases h
    exact .ran (FileManagementService.runCommand_ran hsvc)
  | downloader move =>
    refine .quiet rfl ?_
    simp only [step, moveDownloader] at h
    split at h
    · cases h
      exact .refl _
    · split at h
      · cases h
        exact FileManagementService.quiet_sessions sys.svc _ _ _
      · obtain ⟨svc, hsvc, h⟩ := Machine.bind_eq_ok.mp h
        cases h
        exact (FileManagementService.quiet_sessions sys.svc _ _ _).trans
          (FileManagementService.quiet_deliver hsvc)

theorem FileStep.config {e : Event μ} (h : FileStep ctx sys sys' e) :
    sys'.svc.config = sys.svc.config := by
  cases h with
  | quiet _ hquiet => exact hquiet.config
  | waiting _ heq => rw [heq]
  | list _ heq => rw [heq]; exact (FileManagementService.fixed_reportPresentFiles _ _ _).config
  | delete _ heq =>
    rw [heq]
    exact (FileManagementService.fixed_reportPresentFiles _ _ _).config.trans
      (FileManagementService.foldl_deleteFile_paths _ _ _ _).1
  | purge _ heq =>
    rw [heq]
    exact (FileManagementService.fixed_reportPresentFiles _ _ _).config.trans
      (FileManagementService.foldl_deleteFile_paths _ _ _ _).1
  | ran hran => exact hran.config

end System

end WolkConnect
