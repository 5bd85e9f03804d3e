import WolkConnect.Service.System

/-!
# Null pointers under inbound messages

A device keeps its entry in `m_sessions` when its session is reset, and a URL session
may have no downloader. Two handlers do not look before they call.
-/

namespace WolkConnect

def Fault.isNull : Fault → Bool
  | .nullSession _ => true
  | .nullDownloader => true
  | _ => false

/-- The call ends at a null session or at a null downloader. -/
def DereferencesNull {α : Type} (r : Except Fault α) : Prop := ∃ f, r = .error f ∧ f.isNull = true

namespace FileManagementService

variable {δ μ φ : Type} {ctx : Context δ μ φ} {svc : FileManagementService δ φ} {d : String}

/-- An abort of the session calls a downloader that is there. -/
def CanAbort (svc : FileManagementService δ φ) (s : FileTransferSession) : Prop :=
  s.url = "" ∨ svc.downloader.isSome = true

/-- A URL abort finds no null entry, and no abort that matches a URL session finds no downloader. -/
def MeetsNoNull (svc : FileManagementService δ φ) (d : String) : Inbound → Prop
  | .fileUploadAbort m => svc.config.fileTransferEnabled = true →
      ∀ s ∈ svc.session? d, s.name = m.name → svc.CanAbort s
  | .fileUrlDownloadAbort m => svc.config.fileTransferUrlEnabled = true →
      svc.sessions.find? d ≠ some none ∧ ∀ s ∈ svc.session? d, s.url = m.path → svc.CanAbort s
  | _ => True

/-! ## What the handlers return -/

@[simp] theorem dereferencesNull_ok {α : Type} (a : α) :
    ¬ DereferencesNull (.ok a : Except Fault α) := by
  rintro ⟨f, hf, -⟩
  cases hf

@[simp] theorem dereferencesNull_error {α : Type} (f : Fault) :
    DereferencesNull (.error f : Except Fault α) ↔ f.isNull = true := by
  constructor
  · rintro ⟨f', hf, hnull⟩
    cases hf
    exact hnull
  · exact fun h => ⟨f, rfl, h⟩

theorem reportStatus_ok (ctx : Context δ μ φ) {s : FileTransferSession}
    (hs : svc.sessions.find? d = some (some s))
    (status : FileTransferStatus) (error : FileTransferError) :
    ∃ svc', svc.reportStatus ctx d status error = .ok svc' := by
  simp [reportStatus, hs]

theorem find?_addSession {s : FileTransferSession} (hd : s.deviceKey = d) :
    (svc.addSession s).sessions.find? d = some (some s) := by
  simp [addSession, hd]

theorem onFileUploadInit_ok (ctx : Context δ μ φ) (svc : FileManagementService δ φ) (d : String)
    (m : FileUploadInitiateMessage) :
    ∃ svc', svc.onFileUploadInit ctx d m = .ok svc' := by
  unfold onFileUploadInit
  split_ifs
  · exact ⟨_, rfl⟩
  · exact ⟨_, rfl⟩
  · dsimp only
    split_ifs
    · have hs : (svc.addSession (.ofUpload svc.created d m true)).sessions.find? d = some (some _) :=
        find?_addSession rfl
      obtain ⟨svc', h⟩ := reportStatus_ok ctx hs .fileTransfer .none
      exact ⟨_, by rw [h]; rfl⟩
    · exact ⟨_, rfl⟩

theorem onFileUrlDownloadInit_ok (ctx : Context δ μ φ) (svc : FileManagementService δ φ)
    (d : String) (m : FileUrlDownloadInitMessage) :
    ∃ svc', svc.onFileUrlDownloadInit ctx d m = .ok svc' := by
  unfold onFileUrlDownloadInit
  split
  · exact ⟨_, rfl⟩
  · rename_i svc1 hstart
    unfold startUrlDownload at hstart
    split_ifs at hstart
    cases hstart
    apply reportStatus_ok ctx (s := .ofUrlDownload svc.created d m true)
    have hsessions : ∀ s : FileTransferSession,
        (svc.addSession s |>.triggerDownload ctx s).sessions = (svc.addSession s).sessions := by
      intro s
      unfold triggerDownload
      split
      · rfl
      · split <;> rfl
    rw [hsessions]
    exact find?_addSession rfl

theorem abortSession_null (s : FileTransferSession) :
    DereferencesNull (svc.abortSession ctx d s) ↔ ¬ svc.CanAbort s := by
  unfold abortSession CanAbort
  by_cases hurl : s.url = ""
  · simp [FileTransferSession.isPlatformTransfer, hurl]
  · simp only [FileTransferSession.isPlatformTransfer, hurl, decide_false, Bool.false_eq_true,
      if_false, false_or]
    cases svc.downloader with
    | none => simp [Fault.isNull]
    | some x =>
      dsimp only
      split <;> simp [Fault.isNull]

theorem onFileUploadAbort_null (m : FileUploadAbortMessage) :
    DereferencesNull (svc.onFileUploadAbort ctx d m) ↔
      ∃ s ∈ svc.session? d, s.name = m.name ∧ ¬ svc.CanAbort s := by
  unfold onFileUploadAbort
  cases svc.session? d with
  | none => simp
  | some s =>
    by_cases hname : s.name = m.name
    · simp [hname, abortSession_null]
    · simp [hname]

theorem onFileUrlDownloadAbort_null (m : FileUrlDownloadAbortMessage) :
    DereferencesNull (svc.onFileUrlDownloadAbort ctx d m) ↔
      svc.sessions.find? d = some none ∨
      ∃ s ∈ svc.session? d, s.url = m.path ∧ ¬ svc.CanAbort s := by
  unfold onFileUrlDownloadAbort session?
  cases svc.sessions.find? d with
  | none => simp
  | some entry =>
    cases entry with
    | none => simp [Fault.isNull]
    | some s =>
      by_cases hurl : s.url = m.path
      · simp [hurl, abortSession_null]
      · simp [hurl]

theorem messageReceived_null (past : Nat → UInt8) (m : Inbound) :
    ¬ DereferencesNull (svc.messageReceived ctx past d m) ↔ svc.MeetsNoNull d m := by
  cases m with
  | fileUploadInit m =>
    obtain ⟨svc', h⟩ := onFileUploadInit_ok ctx svc d m
    simp only [messageReceived, h, MeetsNoNull]
    split_ifs <;> simp
  | fileUploadAbort m =>
    simp only [messageReceived, MeetsNoNull]
    split_ifs with hflag
    · rw [onFileUploadAbort_null]
      simp [hflag]
    · simp [hflag]
  | fileBinaryResponse m =>
    simp only [messageReceived, MeetsNoNull]
    split_ifs <;> simp
  | fileUrlDownloadInit m =>
    obtain ⟨svc', h⟩ := onFileUrlDownloadInit_ok ctx svc d m
    simp only [messageReceived, h, MeetsNoNull]
    split_ifs <;> simp
  | fileUrlDownloadAbort m =>
    simp only [messageReceived, MeetsNoNull]
    split_ifs with hflag
    · rw [onFileUrlDownloadAbort_null]
      simp [hflag]
    · simp [hflag]
  | fileListRequest => simp [messageReceived, MeetsNoNull]
  | fileDelete m => simp [messageReceived, MeetsNoNull]
  | filePurge => simp [messageReceived, MeetsNoNull]
  | invalid => simp [messageReceived, MeetsNoNull]

end FileManagementService

namespace System

open FileManagementService (MeetsNoNull)

variable {δ μ φ : Type} {ctx : Context δ μ φ} {es : List (Event μ)} {sys : System δ φ}

/-- **Null pointers.** After any run, a message dereferences null exactly when it aborts a download
of a device whose session was reset, or a URL session that has no downloader. -/
theorem message_meets_no_null (config : Configuration) (x : Option δ) (disk : φ)
    (_h : Machine.Run (step ctx) (fun _ _ => True) (create config x disk) es sys)
    (past : Nat → UInt8) (d : String) (m : FileManagementService.Inbound) :
    ¬ DereferencesNull (sys.svc.messageReceived ctx past d m) ↔ MeetsNoNull sys.svc d m :=
  FileManagementService.messageReceived_null past m

def faultOf (sys : System δ φ) (m : FileManagementService.Inbound) (ctx : Context δ μ φ) :
    Option Fault :=
  match sys.svc.messageReceived ctx (fun _ => 0) "d" m with
  | .ok _ => none
  | .error f => some f

theorem dereferencesNull_of_faultOf {m : FileManagementService.Inbound} {f : Fault}
    (h : sys.faultOf m ctx = some f) (hf : f.isNull = true) :
    DereferencesNull (sys.svc.messageReceived ctx (fun _ => 0) "d" m) := by
  unfold faultOf at h
  split at h
  · cases h
  · rename_i hm
    cases h
    exact ⟨f, hm, hf⟩

theorem message_meets_no_null_a : ∃ sys : System Empty PathDisk,
    (sys.svc.session? "d").map FileTransferSession.url = some "" ∧
    ¬ DereferencesNull (sys.svc.messageReceived uploadContext (fun _ => 0) "d"
      (.fileUploadAbort ⟨"f"⟩)) := by
  obtain ⟨t, hrun, hurl⟩ := Machine.Run.exists_of_check (step uploadContext) (fun _ _ => True)
    uploadSystem [Event.initA, .chunkA]
    (fun sys => (sys.svc.session? "d").map FileTransferSession.url) (some "") (by decide +kernel)
  refine ⟨t, hurl, (message_meets_no_null _ _ _ hrun _ _ _).mpr fun _ s hs _ => ?_⟩
  rw [hs] at hurl
  exact Or.inl (Option.some.inj hurl)

/-- A URL abort for a device whose upload was aborted and reset, and one of a download for which
there is no downloader. -/
theorem url_abort_dereferences_null :
    (∃ sys : System Empty PathDisk,
      Machine.Run (step uploadContext) (fun _ _ => True) uploadSystem
        [Event.initA, .abortA, .runCommand, .runCommand] sys ∧
      DereferencesNull (sys.svc.messageReceived uploadContext (fun _ => 0) "d"
        (.fileUrlDownloadAbort ⟨"u"⟩))) ∧
    ∃ sys : System Empty PathDisk,
      Machine.Run (step uploadContext) (fun _ _ => True) uploadSystem
        [Event.receive "d" (.fileUrlDownloadInit ⟨"u"⟩) fun _ => 0, .report] sys ∧
      DereferencesNull (sys.svc.messageReceived uploadContext (fun _ => 0) "d"
        (.fileUrlDownloadAbort ⟨"u"⟩)) := by
  constructor
  · obtain ⟨t, hrun, hf⟩ := Machine.Run.exists_of_check (step uploadContext) (fun _ _ => True)
      uploadSystem [Event.initA, .abortA, .runCommand, .runCommand]
      (fun sys => sys.faultOf (.fileUrlDownloadAbort ⟨"u"⟩) uploadContext)
      (some (.nullSession "d")) (by decide +kernel)
    exact ⟨t, hrun, dereferencesNull_of_faultOf hf rfl⟩
  · obtain ⟨t, hrun, hf⟩ := Machine.Run.exists_of_check (step uploadContext) (fun _ _ => True)
      uploadSystem [Event.receive "d" (.fileUrlDownloadInit ⟨"u"⟩) fun _ => 0, .report]
      (fun sys => sys.faultOf (.fileUrlDownloadAbort ⟨"u"⟩) uploadContext)
      (some .nullDownloader) (by decide +kernel)
    exact ⟨t, hrun, dereferencesNull_of_faultOf hf rfl⟩

end System

end WolkConnect
