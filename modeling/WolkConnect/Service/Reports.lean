import WolkConnect.Service.Core

/-!
# What the service says about sessions

The status messages about sessions, and the chunk requests. `Acts` refines the moves of
the core: every step of the service is an act, and says what the act has it say.
-/

namespace WolkConnect

/-- A status message about a session, or a chunk request. -/
def Effect.isSaid : Effect → Bool
  | .published _ (.fileBinaryRequest _) _ => true
  | .published _ _ session => session.isSome
  | _ => false

def Outbound.status? : Outbound → Option FileTransferStatus
  | .fileUploadStatus _ status _ => some status
  | .fileUrlDownloadStatus _ _ status _ => some status
  | .fileBinaryRequest _ | .fileListResponse _ => none

/-- The status that the effect reports about the session. -/
def Effect.statusOf (p : SessionPtr) : Effect → Option FileTransferStatus
  | .published _ message session => if session = some p then message.status? else none
  | _ => none

/-- The statuses that were published for a session. -/
def statuses (log : List Effect) (p : SessionPtr) : List FileTransferStatus :=
  log.filterMap (Effect.statusOf p)

theorem statuses_append (log log' : List Effect) (p : SessionPtr) :
    statuses (log ++ log') p = statuses log p ++ statuses log' p := List.filterMap_append

/-- What is read off the effects that are said can be read off the whole log. -/
theorem filterMap_isSaid {α : Type} {f : Effect → Option α}
    (hf : ∀ e, e.isSaid = false → f e = none) (log : List Effect) :
    (log.filter Effect.isSaid).filterMap f = log.filterMap f := by
  rw [List.filterMap_filter]
  apply List.filterMap_congr
  intro e _
  split_ifs with he
  · rfl
  · exact (hf e (Bool.eq_false_iff.mpr he)).symm

theorem statuses_filter (log : List Effect) (p : SessionPtr) :
    statuses (log.filter Effect.isSaid) p = statuses log p := by
  apply filterMap_isSaid
  intro e he
  cases e with
  | published d message session =>
    cases session with
    | none => rw [Effect.statusOf, if_neg (Option.some_ne_none p).symm]
    | some q => cases message <;> cases he
  | _ => rfl

section Acts

variable {δ μ φ : Type} (ctx : Context δ μ φ)

/-- The message, when the protocol makes one. -/
def Context.spoken (deviceKey : String) (message : Outbound) (session : Option SessionPtr) :
    List Effect :=
  if ctx.makeOutboundMessage deviceKey message then [.published deviceKey message session] else []

def Context.spokenStatus (deviceKey : String) (s : FileTransferSession) (status : FileTransferStatus)
    (error : FileTransferError) : List Effect :=
  ctx.spoken deviceKey (FileManagementService.statusMessage s status error) (some s.ptr)

def Context.spokenRequest (deviceKey : String) (s : FileTransferSession) : List Effect :=
  ctx.spoken deviceKey (.fileBinaryRequest s.getNextChunkRequest) none

theorem isSaid_spokenStatus (d : String) (s : FileTransferSession) (status : FileTransferStatus)
    (error : FileTransferError) :
    (ctx.spokenStatus d s status error).filter Effect.isSaid = ctx.spokenStatus d s status error := by
  unfold Context.spokenStatus Context.spoken FileManagementService.statusMessage
  split_ifs <;> rfl

theorem isSaid_spokenRequest (d : String) (s : FileTransferSession) :
    (ctx.spokenRequest d s).filter Effect.isSaid = ctx.spokenRequest d s := by
  unfold Context.spokenRequest Context.spoken
  split_ifs <;> rfl

theorem statuses_spokenStatus (d : String) (s : FileTransferSession) (status : FileTransferStatus)
    (error : FileTransferError) : ∃ told, (told = [] ∨ told = [status]) ∧
      (ctx.makeOutboundMessage d (FileManagementService.statusMessage s status error) = true →
        told = [status]) ∧
      ∀ p, statuses (ctx.spokenStatus d s status error) p = if s.ptr = p then told else [] := by
  unfold Context.spokenStatus Context.spoken
  split_ifs with hmade
  · refine ⟨[status], Or.inr rfl, fun _ => rfl, fun p => ?_⟩
    unfold statuses Effect.statusOf FileManagementService.statusMessage
    split_ifs <;> simp_all [Outbound.status?]
  · refine ⟨[], Or.inl rfl, fun h => absurd h hmade, fun p => ?_⟩
    rw [ite_self]
    rfl

theorem statuses_spokenRequest (d : String) (s : FileTransferSession) (p : SessionPtr) :
    statuses (ctx.spokenRequest d s) p = [] := by
  unfold Context.spokenRequest Context.spoken
  split_ifs <;> rfl

/-- The core and the device whose URL download is being reported. -/
structure Scene (δ : Type) where
  core : Core δ
  reporting : Option String

def System.scene {δ φ : Type} (sys : System δ φ) : Scene δ := ⟨sys.svc.core, sys.reporting⟩

/-- A file that could not be stored. -/
def Effect.isFailure : Effect → Bool
  | .stored _ _ _ success => !success
  | _ => false

/-- What is said when a file was not stored. -/
def Context.spokenFailure (deviceKey : String) (s : FileTransferSession) (effects : List Effect) :
    List Effect :=
  if effects.any Effect.isFailure then ctx.spokenStatus deviceKey s .error .fileSystemError else []

end Acts

namespace FileManagementService

variable {δ μ φ : Type} {ctx : Context δ μ φ} {svc svc' svc'' : FileManagementService δ φ}
  {said said' : List Effect}

/-- Between the two states the service said this about sessions. -/
def Says (svc svc' : FileManagementService δ φ) (said : List Effect) : Prop :=
  ∃ more, svc'.log = svc.log ++ more ∧ more.filter Effect.isSaid = said

/-- A file in these effects is stored as well as it can be in this state. -/
def Writes (ctx : Context δ μ φ) (svc : FileManagementService δ φ) (effects : List Effect) : Prop :=
  ∀ s path bytes success, Effect.stored s path bytes success ∈ effects →
    (svc.placeFile ctx s bytes).1 = success

end FileManagementService

/-- The steps, with what is said in each. -/
inductive Acts {δ μ φ : Type} (ctx : Context δ μ φ) (sys sys' : System δ φ) :
    Event μ → List Effect → Prop
  | idle {e} : sys'.scene = sys.scene → Acts ctx sys sys' e []
  | upload {d m past s} : sys.hears (Event.receive (μ := μ) d (.fileUploadInit m) past) = true →
      sys.reporting = none → sys.svc.session? d = none → FileManagementService.isValid m = true →
      s = .ofUpload sys.svc.created d m true → sys'.scene = ⟨sys.svc.core.start s, none⟩ →
      Acts ctx sys sys' (.receive d (.fileUploadInit m) past)
        (ctx.spokenStatus d s .fileTransfer .none ++ ctx.spokenRequest d s)
  | download {d m past s} :
      sys.hears (Event.receive (μ := μ) d (.fileUrlDownloadInit m) past) = true →
      sys.reporting = none → sys.svc.session? d = none →
      s = .ofUrlDownload sys.svc.created d m true →
      sys'.scene = ⟨{ sys.svc.core.start s with
        downloader := triggered ctx s sys.svc.downloader }, some d⟩ →
      Acts ctx sys sys' (.receive d (.fileUrlDownloadInit m) past) []
  | chunk {d m past s r} : sys.reporting = none → sys.svc.session? d = some s → s.url = "" →
      r = s.pushChunk ctx.bytes past m → sys'.scene = ⟨sys.svc.core.put d (r.1, r.2.2), none⟩ →
      Acts ctx sys sys' (.receive d (.fileBinaryResponse m) past)
        (if r.2.1 = .fileHashMismatch ∨ r.1.isDone = false then ctx.spokenRequest d r.1 else [])
  | abort {d m past s x} : sys.hears (Event.receive (μ := μ) d m past) = true →
      sys.reporting = none → sys.svc.session? d = some s → s.abortedBy m = true →
      Aborts ctx s sys.svc.downloader x →
      sys'.scene = ⟨{ sys.svc.core with downloader := x }.put d s.abort, none⟩ →
      Acts ctx sys sys' (.receive d m past) []
  | report {d s} : sys.reporting = some d → sys.triggered ctx = true → sys.svc.session? d = some s →
      sys'.scene = ⟨sys.svc.core, none⟩ →
      Acts ctx sys sys' .report (ctx.spokenStatus d s .fileTransfer .none)
  | unreported {d} : sys.reporting = some d → sys.svc.session? d = none →
      sys'.scene = ⟨sys.svc.core, none⟩ → Acts ctx sys sys' .report []
  | status {p a buffer rest s effects} : sys.svc.commandBuffer = .sessionStatus p a :: buffer →
      sys.svc.core.queue = .sessionStatus p a :: rest → sys.svc.session? p.deviceKey = some s →
      s.serial = p.serial → Stores ctx s sys.svc.downloader a.status effects →
      sys.svc.Writes ctx effects →
      sys'.scene = ⟨({ sys.svc.core with queue := rest }.push (deletion p a.status)).record effects,
        sys.reporting⟩ →
      Acts ctx sys sys' .runCommand
        (ctx.spokenStatus p.deviceKey s a.status a.error ++ ctx.spokenFailure p.deviceKey s effects)
  | dropped {p a rest s} : sys.svc.core.queue = .sessionStatus p a :: rest →
      sys.svc.session? p.deviceKey = some s → s.callback = false →
      sys'.scene = ⟨{ sys.svc.core with queue := rest }, sys.reporting⟩ →
      Acts ctx sys sys' .runCommand []
  | reset {d p rest} : sys.svc.core.queue = .resetSession d p :: rest →
      sys'.scene = ⟨({ sys.svc.core with queue := rest }.drop d).record
        ((sys.svc.session? d).toList.map (Effect.destroyed p)), sys.reporting⟩ →
      Acts ctx sys sys' .runCommand []
  | moved {move x x'} : sys.svc.downloader = some x → ctx.downloads.move x move = (x', none) →
      sys'.scene = ⟨{ sys.svc.core with downloader := some x' }, sys.reporting⟩ →
      Acts ctx sys sys' (.downloader move) []
  | called {move x x' callback s} : sys.svc.downloader = some x →
      ctx.downloads.move x move = (x', some callback) →
      sys.svc.session? callback.target.deviceKey = some s → s.serial = callback.target.serial →
      sys'.scene = ⟨({ sys.svc.core with downloader := some x' }.put callback.target.deviceKey
        (s.onDownloadStatus callback.status callback.error callback.fileName)).record
          [.delivered callback], sys.reporting⟩ →
      Acts ctx sys sys' (.downloader move) []

namespace FileManagementService

variable {δ μ φ : Type} {ctx : Context δ μ φ} {svc svc' svc'' : FileManagementService δ φ}
  {said said' : List Effect}

theorem Says.refl (svc : FileManagementService δ φ) : Says svc svc [] :=
  ⟨[], (List.append_nil _).symm, rfl⟩

theorem Says.trans (h : Says svc svc' said) (h' : Says svc' svc'' said') :
    Says svc svc'' (said ++ said') := by
  obtain ⟨more, hlog, hsaid⟩ := h
  obtain ⟨more', hlog', hsaid'⟩ := h'
  refine ⟨more ++ more', ?_, ?_⟩
  · rw [hlog', hlog, List.append_assoc]
  · rw [List.filter_append, hsaid, hsaid']

/-- Steps in which nothing is said can be put behind any other. -/
theorem Says.silent (h : Says svc svc' said) (h' : Says svc' svc'' []) : Says svc svc'' said := by
  have htrans := h.trans h'
  rwa [List.append_nil] at htrans

theorem says_log {effects : List Effect} (h : svc'.log = svc.log ++ effects) :
    Says svc svc' (effects.filter Effect.isSaid) := ⟨effects, h, rfl⟩

theorem says_same (h : svc'.log = svc.log) : Says svc svc' [] :=
  ⟨[], h.trans (List.append_nil _).symm, rfl⟩

theorem says_publish (svc : FileManagementService δ φ) (d : String) (message : Outbound)
    (session : Option SessionPtr) : Says svc (svc.publish ctx d message session)
      ((ctx.spoken d message session).filter Effect.isSaid) := by
  apply says_log
  unfold publish Context.spoken
  split_ifs
  · rfl
  · exact (List.append_nil _).symm

/-- A message about no session that asks for no chunk. -/
theorem says_publish_other (svc : FileManagementService δ φ) (d : String) {message : Outbound}
    (hmessage : ∀ request, message ≠ .fileBinaryRequest request) :
    Says svc (svc.publish ctx d message none) [] := by
  have hsaid : Says svc (svc.publish ctx d message none) _ := says_publish svc d message none
  have hnone : (ctx.spoken d message none).filter Effect.isSaid = [] := by
    unfold Context.spoken
    split_ifs
    · cases message with
      | fileBinaryRequest request => exact absurd rfl (hmessage request)
      | _ => rfl
    · rfl
  rwa [hnone] at hsaid

theorem Says.statuses (h : Says svc svc' said) (p : SessionPtr) :
    statuses svc'.log p = statuses svc.log p ++ statuses said p := by
  obtain ⟨more, hlog, hsaid⟩ := h
  rw [hlog, statuses_append, ← hsaid, statuses_filter]

/-! ## Handlers that say nothing about sessions -/

theorem says_notifyListenerAddedFile (svc : FileManagementService δ φ)
    (d fileName absolutePath : String) :
    Says svc (svc.notifyListenerAddedFile d fileName absolutePath) [] := by
  unfold notifyListenerAddedFile
  split_ifs <;> exact says_same rfl

theorem says_reportFile (d : String) (acc : FileManagementService δ φ × List FileInformation)
    (file : String) : Says acc.1 (reportFile ctx d acc file).1 [] := by
  unfold reportFile
  dsimp only
  split
  · exact .refl _
  · split_ifs
    · exact .refl _
    · exact (says_same rfl).silent (says_notifyListenerAddedFile _ _ _ _)

theorem says_foldl_reportFile (d : String) (files : List String)
    (acc : FileManagementService δ φ × List FileInformation) :
    Says acc.1 (files.foldl (reportFile ctx d) acc).1 [] := by
  induction files generalizing acc with
  | nil => exact .refl _
  | cons file files ih => exact (says_reportFile d acc file).silent (ih _)

theorem says_reportPresentFiles (svc : FileManagementService δ φ) (d : String) :
    Says svc (svc.reportPresentFiles ctx d) [] := by
  unfold reportPresentFiles
  dsimp only
  split_ifs
  · have hfiles : Says svc { svc with files := svc.files.insert d (pruneRegistry (svc.deviceFiles d)
        (ctx.fs.listFiles svc.disk (svc.deviceFolder ctx d))) } [] := says_same rfl
    refine (hfiles.silent (says_foldl_reportFile d _ _)).silent (says_publish_other _ d ?_)
    exact fun _ => Outbound.noConfusion
  · exact says_publish_other svc d fun _ => Outbound.noConfusion

theorem says_deleteFile (d : String) (svc : FileManagementService δ φ) (file : String) :
    Says svc (deleteFile ctx d svc file) [] := by
  unfold deleteFile notifyListenerRemovedFile
  dsimp only
  split_ifs <;> exact ⟨_, rfl, rfl⟩

theorem says_foldl_deleteFile (d : String) (files : List String) (svc : FileManagementService δ φ) :
    Says svc (files.foldl (deleteFile ctx d) svc) [] := by
  induction files generalizing svc with
  | nil => exact .refl _
  | cons file files ih => exact (says_deleteFile d svc file).silent (ih _)

theorem says_triggerDownload (svc : FileManagementService δ φ) (s : FileTransferSession) :
    Says svc (svc.triggerDownload ctx s) [] := by
  unfold triggerDownload
  split_ifs
  · exact .refl _
  · split
    · exact .refl _
    · exact says_same rfl

/-! ## Handlers that do -/

theorem reportStatus_none {d : String} {status : FileTransferStatus} {error : FileTransferError}
    (hs : svc.session? d = none) (h : svc.reportStatus ctx d status error = .ok svc') : svc' = svc := by
  unfold reportStatus at h
  split at h
  · cases h
    rfl
  · cases h
  · rename_i hfind
    rw [session?, hfind] at hs
    cases hs

theorem reportStatus_eq {d : String} {status : FileTransferStatus} {error : FileTransferError}
    {s : FileTransferSession} (hs : svc.session? d = some s) :
    svc.reportStatus ctx d status error =
      .ok (svc.publish ctx d (statusMessage s status error) (some s.ptr)) := by
  unfold reportStatus
  unfold session? at hs
  rw [Option.join_eq_some_iff.mp hs]

theorem says_reportStatus {d : String} {status : FileTransferStatus} {error : FileTransferError}
    {s : FileTransferSession} (hs : svc.session? d = some s)
    (h : svc.reportStatus ctx d status error = .ok svc') :
    Says svc svc' (ctx.spokenStatus d s status error) := by
  rw [reportStatus_eq hs] at h
  cases h
  have hsaid : Says svc (svc.publish ctx d _ _) _ :=
    says_publish svc d (statusMessage s status error) (some s.ptr)
  rwa [← Context.spokenStatus, isSaid_spokenStatus] at hsaid

theorem says_sendChunkRequest (svc : FileManagementService δ φ) (d : String)
    (s : FileTransferSession) :
    Says svc (svc.sendChunkRequest ctx d s.getNextChunkRequest) (ctx.spokenRequest d s) := by
  have hsaid : Says svc (svc.publish ctx d _ _) _ :=
    says_publish svc d (.fileBinaryRequest s.getNextChunkRequest) none
  rwa [← Context.spokenRequest, isSaid_spokenRequest] at hsaid

theorem session?_addSession (s : FileTransferSession) :
    (svc.addSession s).session? s.deviceKey = some s := by
  rw [← core_session, core_addSession]
  exact Function.update_self _ _ _

theorem session?_of_core {d : String} (h : svc'.core = svc.core) :
    svc'.session? d = svc.session? d := by
  rw [← core_session, h, core_session]

/-! ## Messages -/

def Acted (ctx : Context δ μ φ) (e : Event μ) (svc svc' : FileManagementService δ φ) : Prop :=
  ∃ said, Says svc svc' said ∧ Acts ctx ⟨svc, none⟩ ⟨svc', none⟩ e said

theorem acted_idle {e : Event μ} (hcore : svc'.core = svc.core) (hspoken : Says svc svc' []) :
    Acted ctx e svc svc' :=
  ⟨[], hspoken, .idle (by rw [System.scene, System.scene, hcore])⟩

theorem onFileUploadInit_acts {d : String} {m : FileUploadInitiateMessage} (past : Nat → UInt8)
    (hflag : svc.config.fileTransferEnabled = true) (h : svc.onFileUploadInit ctx d m = .ok svc') :
    Acted ctx (.receive d (.fileUploadInit m) past) svc svc' := by
  unfold onFileUploadInit at h
  split_ifs at h with hvalid hongoing
  · cases h
    exact acted_idle rfl (.refl _)
  · cases h
    exact acted_idle rfl (.refl _)
  · rw [Bool.not_eq_true', Bool.not_eq_false] at hvalid
    have hfirst : (FileTransferSession.ofUpload svc.created d m true).getNextChunkRequest.name ≠ "" := by
      have hfields := hvalid
      simp only [isValid, ne_eq, decide_eq_true_eq] at hfields
      have hsize : ¬ m.size ≤ 0 := by omega
      simp [FileTransferSession.getNextChunkRequest, FileTransferSession.isUrlDownload,
        FileTransferSession.isPlatformTransfer, FileTransferSession.isDone,
        FileTransferSession.ofUpload, collected, hsize, hfields.1]
    dsimp only at h
    rw [if_pos hfirst] at h
    obtain ⟨svc1, h1, h2⟩ := Machine.bind_eq_ok.mp h
    cases h2
    have hadd : Says svc (svc.addSession (.ofUpload svc.created d m true)) [] := says_same rfl
    refine ⟨_, (hadd.trans (says_reportStatus (session?_addSession _) h1)).trans
      (says_sendChunkRequest _ _ _), ?_⟩
    refine .upload hflag rfl (by simpa using hongoing) hvalid rfl ?_
    rw [System.scene, sendChunkRequest, core_publish, core_reportStatus h1, core_addSession]

theorem onFileBinaryResponse_acts (past : Nat → UInt8) (d : String) (m : FileBinaryResponseMessage) :
    Acted ctx (.receive d (.fileBinaryResponse m) past) svc (svc.onFileBinaryResponse ctx past d m) := by
  unfold onFileBinaryResponse
  split
  · exact acted_idle rfl (.refl _)
  · rename_i s hs
    split
    · rename_i hplat
      have hurl : s.url = "" := by simpa [FileTransferSession.isPlatformTransfer] using hplat
      have hput : Says svc (svc.putSession d ((s.pushChunk ctx.bytes past m).1,
        (s.pushChunk ctx.bytes past m).2.2)) [] := says_same rfl
      dsimp only
      refine ⟨_, ?_, .chunk rfl hs hurl rfl ?_⟩
      · split_ifs
        · exact hput.trans (says_sendChunkRequest _ _ _)
        · exact hput
      · rw [System.scene]
        split_ifs
        · rw [sendChunkRequest, core_publish, core_putSession]
        · rw [core_putSession]
    · exact acted_idle rfl (.refl _)

theorem abortSession_acts {d : String} {m : Inbound} (past : Nat → UInt8) {s : FileTransferSession}
    (hhears : (System.mk svc none).hears (Event.receive (μ := μ) d m past) = true)
    (hs : svc.session? d = some s) (hm : s.abortedBy m = true)
    (h : svc.abortSession ctx d s = .ok svc') : Acted ctx (.receive d m past) svc svc' := by
  unfold abortSession at h
  split_ifs at h with hplat
  · cases h
    have hurl : s.url = "" := by simpa [FileTransferSession.isPlatformTransfer] using hplat
    refine ⟨[], says_same rfl, .abort hhears rfl hs hm (Or.inl ⟨hurl, rfl⟩) ?_⟩
    rw [System.scene, core_putSession]
    rfl
  · have hurl : s.url ≠ "" := by simpa [FileTransferSession.isPlatformTransfer] using hplat
    split at h
    · cases h
    · rename_i x hx
      split at h
      · cases h
      · rename_i x' hx'
        cases h
        refine ⟨[], says_same rfl,
          .abort hhears rfl hs hm (Or.inr ⟨hurl, x, x', hx, hx', rfl⟩) ?_⟩
        rw [System.scene, core_putSession]
        rfl

theorem onFileUploadAbort_acts {d : String} {m : FileUploadAbortMessage} (past : Nat → UInt8)
    (hflag : svc.config.fileTransferEnabled = true) (h : svc.onFileUploadAbort ctx d m = .ok svc') :
    Acted ctx (.receive d (.fileUploadAbort m) past) svc svc' := by
  unfold onFileUploadAbort at h
  split at h
  · cases h
    exact acted_idle rfl (.refl _)
  · rename_i s hs
    split_ifs at h with hname
    · exact abortSession_acts past hflag hs (by simpa [FileTransferSession.abortedBy] using hname) h
    · cases h
      exact acted_idle rfl (.refl _)

theorem onFileUrlDownloadAbort_acts {d : String} {m : FileUrlDownloadAbortMessage}
    (past : Nat → UInt8) (hflag : svc.config.fileTransferUrlEnabled = true)
    (h : svc.onFileUrlDownloadAbort ctx d m = .ok svc') :
    Acted ctx (.receive d (.fileUrlDownloadAbort m) past) svc svc' := by
  unfold onFileUrlDownloadAbort at h
  split at h
  · cases h
    exact acted_idle rfl (.refl _)
  · cases h
  · rename_i s hs
    split_ifs at h with hurl
    · have hs' : svc.session? d = some s := by simp [session?, hs]
      exact abortSession_acts past hflag hs' (by simpa [FileTransferSession.abortedBy] using hurl) h
    · cases h
      exact acted_idle rfl (.refl _)

/-- All messages but those that start a download. -/
theorem messageReceived_acts {d : String} {m : Inbound} (past : Nat → UInt8)
    (hm : ∀ init, m = .fileUrlDownloadInit init → svc.config.fileTransferUrlEnabled = false)
    (h : svc.messageReceived ctx past d m = .ok svc') : Acted ctx (.receive d m past) svc svc' := by
  cases m <;> simp only [messageReceived] at h
  case fileUploadInit m =>
    split_ifs at h with hflag
    · exact onFileUploadInit_acts past hflag h
    · cases h
      exact acted_idle (core_publish _ _ _) (says_publish_other _ d fun _ => Outbound.noConfusion)
  case fileUploadAbort m =>
    split_ifs at h with hflag
    · exact onFileUploadAbort_acts past hflag h
    · cases h
      exact acted_idle (core_publish _ _ _) (says_publish_other _ d fun _ => Outbound.noConfusion)
  case fileBinaryResponse m =>
    split_ifs at h
    · cases h
      exact onFileBinaryResponse_acts past d m
    · cases h
      exact acted_idle rfl (.refl _)
  case fileUrlDownloadInit m =>
    rw [if_neg (by simp [hm m rfl])] at h
    cases h
    exact acted_idle (core_publish _ _ _) (says_publish_other _ d fun _ => Outbound.noConfusion)
  case fileUrlDownloadAbort m =>
    split_ifs at h with hflag
    · exact onFileUrlDownloadAbort_acts past hflag h
    · cases h
      exact acted_idle (core_publish _ _ _) (says_publish_other _ d fun _ => Outbound.noConfusion)
  case fileListRequest =>
    cases h
    exact acted_idle (core_reportPresentFiles _) (says_reportPresentFiles _ d)
  case fileDelete m =>
    cases h
    refine acted_idle ?_ ((says_foldl_deleteFile d _ _).silent (says_reportPresentFiles _ d))
    rw [onFileDelete, core_reportPresentFiles, core_foldl_deleteFile]
  case filePurge =>
    cases h
    refine acted_idle ?_ ((says_foldl_deleteFile d _ _).silent (says_reportPresentFiles _ d))
    rw [onFilePurge, core_reportPresentFiles, core_foldl_deleteFile]
  case invalid =>
    cases h
    exact acted_idle rfl (.refl _)

/-! ## Commands -/

theorem placeFile_publish (svc : FileManagementService δ φ) (d : String) (message : Outbound)
    (session : Option SessionPtr) (s : FileTransferSession) (bytes : Bytes) :
    ((svc.publish ctx d message session).placeFile ctx s bytes).1 = (svc.placeFile ctx s bytes).1 := by
  unfold publish
  split_ifs <;> rfl

theorem storeFile_says {d : String} {s : FileTransferSession} (hs : svc.session? d = some s)
    (h : svc.storeFile ctx d = .ok svc') :
    ∃ effects, Stores ctx s svc.downloader .fileReady effects ∧
      svc'.core = svc.core.record effects ∧ Says svc svc' (ctx.spokenFailure d s effects) ∧
      svc.Writes ctx effects := by
  unfold storeFile at h
  obtain ⟨s', hs', h⟩ := Machine.bind_eq_ok.mp h
  have heq : s = s' := by
    rw [sessionAt, hs] at hs'
    cases hs'
    rfl
  subst heq
  obtain ⟨bytes, hbytes, h⟩ := Machine.bind_eq_ok.mp h
  have hplace : Says svc (svc.placeFile ctx s bytes).2 [] := ⟨_, rfl, rfl⟩
  have hcore : (svc.placeFile ctx s bytes).2.core = _ := core_placeFile s bytes
  have hsession : (svc.placeFile ctx s bytes).2.session? d = some s := hs
  have hwrites : svc.Writes ctx [.stored s (ctx.fs.composePath s.name
      (svc.deviceFolder ctx s.deviceKey)) bytes (svc.placeFile ctx s bytes).1] := by
    intro s' path bytes' success hmem
    cases List.mem_singleton.mp hmem
    rfl
  refine ⟨_, collectBytes_spec hbytes (svc.deviceFolder ctx s.deviceKey)
    (svc.placeFile ctx s bytes).1, ?_⟩
  rw [← hcore]
  dsimp only at h
  split_ifs at h with hsuccess
  · cases h
    refine ⟨core_notifyListenerAddedFile _ _ _, ?_, hwrites⟩
    rw [Context.spokenFailure, if_neg (by simp [Effect.isFailure, hsuccess])]
    exact hplace.silent (says_notifyListenerAddedFile _ _ _ _)
  · refine ⟨core_reportStatus h, ?_, hwrites⟩
    rw [Context.spokenFailure, if_pos (by simp [Effect.isFailure, hsuccess])]
    exact hplace.trans (says_reportStatus hsession h)

theorem onFileSessionStatus_says {p : SessionPtr} {s : FileTransferSession}
    {status : FileTransferStatus} {error : FileTransferError}
    (hs : svc.session? p.deviceKey = some s)
    (h : svc.onFileSessionStatus ctx p p.deviceKey status error = .ok svc') :
    ∃ effects, Stores ctx s svc.downloader status effects ∧
      svc'.core = (svc.core.push (deletion p status)).record effects ∧
      Says svc svc' (ctx.spokenStatus p.deviceKey s status error ++
        ctx.spokenFailure p.deviceKey s effects) ∧ svc.Writes ctx effects := by
  unfold onFileSessionStatus at h
  obtain ⟨svc1, h1, h⟩ := Machine.bind_eq_ok.mp h
  have hplace : ∀ s bytes, (svc1.placeFile ctx s bytes).1 = (svc.placeFile ctx s bytes).1 := by
    intro s' bytes
    rw [reportStatus_eq hs] at h1
    cases h1
    exact placeFile_publish svc _ _ _ _ _
  have hcore := core_reportStatus h1
  have hsession : svc1.session? p.deviceKey = some s := (session?_of_core hcore).trans hs
  have hdown : svc1.downloader = svc.downloader := congrArg Core.downloader hcore
  have hspoken := says_reportStatus hs h1
  have hreset : ∀ svc2 : FileManagementService δ φ,
      Says svc2 (svc2.pushCommand (.resetSession p.deviceKey p)) [] := fun _ => says_same rfl
  have hsilent : ctx.spokenFailure p.deviceKey s [] = [] := rfl
  have hnone : svc.Writes ctx [] := fun _ _ _ _ hmem => absurd hmem List.not_mem_nil
  cases status <;> dsimp only at h
  case fileReady =>
    obtain ⟨svc2, h2, h⟩ := Machine.bind_eq_ok.mp h
    obtain ⟨effects, hstores, heff, hfailure, hwrites⟩ := storeFile_says hsession h2
    cases h
    refine ⟨effects, hdown ▸ hstores, ?_, (hspoken.trans hfailure).silent (hreset svc2), ?_⟩
    · rw [core_pushReset, heff, hcore]
      rfl
    · intro s' path bytes success hmem
      rw [← hplace]
      exact hwrites s' path bytes success hmem
  case error | aborted =>
    cases h
    refine ⟨[], .nothing (by simp), ?_, ?_, hnone⟩
    · rw [core_pushReset, hcore]
      simp [Core.record, Core.push, deletion]
    · rw [hsilent, List.append_nil]
      exact hspoken.silent (hreset svc1)
  case fileTransfer | awaitingDevice =>
    cases h
    refine ⟨[], .nothing (by simp), ?_, ?_, hnone⟩
    · rw [hcore]
      simp [Core.record, Core.push, deletion]
    · rw [hsilent, List.append_nil]
      exact hspoken

theorem runCommand_acts (reporting : Option String) (h : svc.runCommand ctx = .ok svc') :
    ∃ said, Says svc svc' said ∧ Acts ctx ⟨svc, reporting⟩ ⟨svc', reporting⟩ .runCommand said := by
  unfold runCommand at h
  split at h
  · cases h
    exact ⟨[], .refl _, .idle rfl⟩
  · rename_i command rest hbuffer
    change (svc.taken rest).execute ctx command = _ at h
    have htaken : Says svc (svc.taken rest) [] := says_same rfl
    cases command with
    | sessionStatus p a =>
      have hqueue := core_queue_cons hbuffer rfl
      obtain ⟨s, hs, h⟩ := Machine.bind_eq_ok.mp h
      obtain ⟨hsession, hserial⟩ := resolve_eq_ok.mp hs
      split_ifs at h with hcallback
      · obtain ⟨effects, hstores, heff, hspoken, hwrites⟩ := onFileSessionStatus_says hsession h
        refine ⟨_, htaken.trans hspoken,
          .status hbuffer hqueue hsession hserial hstores hwrites ?_⟩
        rw [System.scene, heff]
        rfl
      · cases h
        exact ⟨[], htaken, .dropped hqueue hsession (by simpa using hcallback) rfl⟩
    | resetSession d p =>
      have hqueue := core_queue_cons hbuffer rfl
      cases h
      have hdestroyed : (((svc.taken rest).session? d).toList.map (Effect.destroyed p)).filter
          Effect.isSaid = [] := by
        rw [List.filter_eq_nil_iff]
        simp [Effect.isSaid]
      refine ⟨[], ⟨_, rfl, hdestroyed⟩, .reset hqueue ?_⟩
      rw [System.scene, core_resetSession]
      rfl
    | onAddedFile d n a =>
      cases h
      refine ⟨[], ⟨_, rfl, rfl⟩, .idle ?_⟩
      rw [System.scene, System.scene, ← core_taken_notice hbuffer rfl]
      exact congrArg (Scene.mk · reporting) (core_noted _ _ rfl)
    | onRemovedFile d n =>
      cases h
      refine ⟨[], ⟨_, rfl, rfl⟩, .idle ?_⟩
      rw [System.scene, System.scene, ← core_taken_notice hbuffer rfl]
      exact congrArg (Scene.mk · reporting) (core_noted _ _ rfl)

end FileManagementService

namespace System

variable {δ μ φ : Type} {ctx : Context δ μ φ} {sys sys' : System δ φ}

open FileManagementService (Says says_same)

theorem moveDownloader_acts {move : μ} (h : sys.moveDownloader ctx move = .ok sys') :
    Says sys.svc sys'.svc [] ∧ Acts ctx sys sys' (.downloader move) [] := by
  unfold moveDownloader at h
  split at h
  · cases h
    exact ⟨.refl _, .idle rfl⟩
  · rename_i x hx
    split at h
    · rename_i x' hmove
      cases h
      exact ⟨says_same rfl, .moved hx hmove rfl⟩
    · rename_i x' callback hmove
      obtain ⟨svc, hsvc, h⟩ := Machine.bind_eq_ok.mp h
      cases h
      obtain ⟨s, hs, hserial, hcore⟩ := FileManagementService.deliver_core hsvc
      refine ⟨?_, .called hx hmove hs hserial ?_⟩
      · obtain ⟨s', -, h⟩ := Machine.bind_eq_ok.mp hsvc
        cases h
        exact ⟨_, rfl, rfl⟩
      · rw [System.scene, hcore]
        rfl

/-- **Every defined step is an act**, and says what the act has it say. -/
theorem step_acts {e : Event μ} (h : sys.step ctx e = .ok sys') :
    ∃ said, Says sys.svc sys'.svc said ∧ Acts ctx sys sys' e said := by
  cases e with
  | receive d m past =>
    obtain ⟨svc, reporting⟩ := sys
    cases reporting with
    | some key =>
      cases h
      exact ⟨[], .refl _, .idle rfl⟩
    | none =>
      simp only [step, receive] at h
      split at h
      · rename_i init hflag
        split at h
        · cases h
          exact ⟨[], .refl _, .idle rfl⟩
        · rename_i svc' hstart
          cases h
          unfold FileManagementService.startUrlDownload at hstart
          split_ifs at hstart with hongoing
          cases hstart
          have hadd : Says svc (svc.addSession (.ofUrlDownload svc.created d init true)) [] :=
            says_same rfl
          refine ⟨[], hadd.silent (FileManagementService.says_triggerDownload _ _),
            .download hflag rfl (by simpa using hongoing) rfl ?_⟩
          rw [System.scene, FileManagementService.core_triggerDownload,
            FileManagementService.core_addSession]
          rfl
      · rename_i hnot
        obtain ⟨svc', hsvc, h⟩ := Machine.bind_eq_ok.mp h
        cases h
        refine FileManagementService.messageReceived_acts past (fun init hm => ?_) hsvc
        rw [Bool.eq_false_iff]
        exact fun hflag => hnot init hm hflag
  | report =>
    obtain ⟨svc, reporting⟩ := sys
    cases reporting with
    | none =>
      cases h
      exact ⟨[], .refl _, .idle rfl⟩
    | some d =>
      simp only [step] at h
      split_ifs at h with htriggered
      · obtain ⟨svc', hsvc, h⟩ := Machine.bind_eq_ok.mp h
        cases h
        have hscene : (System.mk svc' none).scene = ⟨svc.core, none⟩ := by
          rw [System.scene, FileManagementService.core_reportStatus hsvc]
        rcases Option.eq_none_or_eq_some (svc.session? d) with hnone | ⟨s, hs⟩
        · refine ⟨[], ?_, .unreported rfl hnone hscene⟩
          rw [FileManagementService.reportStatus_none hnone hsvc]
          exact .refl _
        · exact ⟨_, FileManagementService.says_reportStatus hs hsvc, .report rfl htriggered hs hscene⟩
      · cases h
        exact ⟨[], .refl _, .idle rfl⟩
  | runCommand =>
    obtain ⟨svc, hsvc, h⟩ := Machine.bind_eq_ok.mp h
    cases h
    exact FileManagementService.runCommand_acts sys.reporting hsvc
  | downloader move => exact ⟨[], moveDownloader_acts h⟩

end System

end WolkConnect
