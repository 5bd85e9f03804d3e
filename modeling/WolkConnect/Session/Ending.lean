import WolkConnect.Session.Frame
import WolkConnect.Session.Invariant

/-!
# How a session ends

A session is in transfer until one call gives it a terminal status and queues the
announcement of that status.
-/

namespace WolkConnect

def FileTransferStatus.isTerminal : FileTransferStatus → Bool
  | fileReady | error | aborted => true
  | fileTransfer | awaitingDevice => false

namespace FileTransferSession

variable {s t : FileTransferSession}

/-- The status is the session's own, or ends its transfer. -/
def Settles (s : FileTransferSession) (status : FileTransferStatus) (error : FileTransferError) :
    Prop :=
  (status = s.status ∧ error = s.error) ∨ (s.status = .fileTransfer ∧ status.isTerminal = true)

instance (s : FileTransferSession) (status : FileTransferStatus) (error : FileTransferError) :
    Decidable (s.Settles status error) :=
  inferInstanceAs (Decidable (_ ∨ _))

/-- `r` is `s` after a call that queues nothing, or ends the transfer and announces it. -/
inductive Advances (s : FileTransferSession) (r : FileTransferSession × List Announcement) : Prop
  | same : r.1.status = s.status → r.2 = [] → Advances s r
  | ends {a : Announcement} : s.status = .fileTransfer → a.status.isTerminal = true →
      r.1.status = a.status → r.2 = [a] → Advances s r

/-- A platform upload that is not done is in transfer, and the callback is set. -/
structure Regular (s : FileTransferSession) : Prop where
  callback : s.callback = true
  ongoing : s.url = "" → s.done = false → s.status = .fileTransfer

theorem isTerminal_ne {status : FileTransferStatus} (h : status.isTerminal = true) :
    status ≠ .fileTransfer := by
  rintro rfl
  cases h

theorem advances_of_queued {status : FileTransferStatus} {error : FileTransferError}
    {r : FileTransferSession × List Announcement} (hstatus : t.status = s.status)
    (herror : t.error = s.error) (hcallback : t.callback = true) (h : s.Settles status error)
    (hr : r.1.status = status) (hqueued : r.2 = (t.changeStatusAndError status error).2) :
    s.Advances r := by
  rcases h with ⟨hsame, herr⟩ | ⟨hongoing, hterminal⟩
  · have hno : ¬ (status ≠ t.status ∨ error ≠ t.error) := by
      rw [hstatus, herror]
      exact fun hne => hne.elim (fun hne => hne hsame) fun hne => hne herr
    rw [changeStatusAndError, if_neg hno] at hqueued
    exact .same (hr.trans hsame) hqueued
  · have hne : status ≠ t.status := by
      rw [hstatus, hongoing]
      exact isTerminal_ne hterminal
    rw [changeStatusAndError_of_ne hne, announce, if_pos hcallback] at hqueued
    exact .ends (a := ⟨status, error⟩) hongoing hterminal hr hqueued

theorem status_changeStatusAndError (s : FileTransferSession) (status : FileTransferStatus)
    (error : FileTransferError) : (s.changeStatusAndError status error).1.status = status := by
  rw [changeStatusAndError_fst]

theorem done_changeStatusAndError (s : FileTransferSession) (status : FileTransferStatus)
    (error : FileTransferError) : (s.changeStatusAndError status error).1.done = s.done := by
  rw [changeStatusAndError_fst]

theorem advances_abort (h : s.Regular) (hsettles : s.Settles .aborted .none) :
    s.Advances s.abort := by
  unfold abort
  split_ifs
  · exact advances_of_queued (t := { s with chunks := [], done := true }) rfl rfl h.callback
      hsettles (status_changeStatusAndError _ _ _) rfl
  · exact advances_of_queued (t := { s with done := true }) rfl rfl h.callback hsettles
      (status_changeStatusAndError _ _ _) rfl

theorem done_abort (s : FileTransferSession) : s.abort.1.done = true := by
  unfold abort
  split_ifs <;> exact done_changeStatusAndError _ _ _

theorem regular_abort (h : s.Regular) : s.abort.1.Regular where
  callback := (kept_abort (s := s)).callback.trans h.callback
  ongoing _ hdone := by
    rw [done_abort] at hdone
    cases hdone

theorem status_onDownloadStatus (s : FileTransferSession) (status : FileTransferStatus)
    (error : FileTransferError) (fileName : String) :
    (s.onDownloadStatus status error fileName).1.status = status := by
  unfold onDownloadStatus
  dsimp only
  split_ifs <;> exact status_changeStatusAndError _ _ _

theorem advances_onDownloadStatus {status : FileTransferStatus} {error : FileTransferError}
    (fileName : String) (h : s.Regular) (hsettles : s.Settles status error) :
    s.Advances (s.onDownloadStatus status error fileName) := by
  have hr := s.status_onDownloadStatus status error fileName
  by_cases hname : fileName ≠ ""
  · refine advances_of_queued (t := { s with name := fileName }) rfl rfl h.callback hsettles hr ?_
    rw [onDownloadStatus, if_pos hname]
  · refine advances_of_queued rfl rfl h.callback hsettles hr ?_
    rw [onDownloadStatus, if_neg hname]

theorem regular_onDownloadStatus (status : FileTransferStatus) (error : FileTransferError)
    (fileName : String) (h : s.Regular) (hurl : s.url ≠ "") :
    (s.onDownloadStatus status error fileName).1.Regular where
  callback := (kept_onDownloadStatus status error fileName).callback.trans h.callback
  ongoing hempty := absurd ((kept_onDownloadStatus status error fileName).url.symm.trans hempty) hurl

/-- What a chunk does to a platform upload. -/
theorem pushChunk_cases (bu : ByteUtils) (past : Nat → UInt8) (m : FileBinaryResponseMessage)
    (h : s.Regular) (hurl : s.url = "") :
    ((s.pushChunk bu past m).1.status = s.status ∧ (s.pushChunk bu past m).2.2 = [] ∧
      (s.pushChunk bu past m).1.done = s.done) ∨
    ∃ status error, status.isTerminal = true ∧ s.status = .fileTransfer ∧
      (s.pushChunk bu past m).1.status = status ∧ (s.pushChunk bu past m).1.done = true ∧
      (s.pushChunk bu past m).2.2 = s.announce status error := by
  by_cases hdone : s.done = true
  · rw [pushChunk_done hurl hdone]
    exact Or.inl ⟨rfl, rfl, rfl⟩
  · rw [Bool.not_eq_true] at hdone
    have hongoing := h.ongoing hurl hdone
    rcases Nat.lt_or_ge (collected s.chunks) s.size with hfit | hfull
    · rcases pushChunk_open bu past m hurl hdone hfit with heq | ⟨-, -, heq⟩
      · rw [heq]
        rcases rejectChunk_spec hongoing with ⟨-, hr⟩ | ⟨-, hr⟩
        · rw [hr]
          exact Or.inl ⟨rfl, rfl, rfl⟩
        · rw [hr]
          exact Or.inr ⟨.error, _, rfl, hongoing, rfl, rfl, rfl⟩
      · rw [heq]
        rcases acceptChunk_spec bu m hongoing with ⟨-, hr⟩ | ⟨-, -, hr⟩ | ⟨-, -, hr⟩
        · rw [hr]
          exact Or.inl ⟨rfl, rfl, rfl⟩
        · rw [hr]
          exact Or.inr ⟨.fileReady, _, rfl, hongoing, rfl, rfl, rfl⟩
        · rw [hr]
          exact Or.inr ⟨.error, _, rfl, hongoing, rfl, rfl, rfl⟩
    · have hunsupported : s.pushChunk bu past m = (s, .unsupportedFileSize, []) := by
        simp [pushChunk, isUrlDownload_of_platform hurl, isDone, hdone, hfull]
      rw [hunsupported]
      exact Or.inl ⟨rfl, rfl, rfl⟩

theorem advances_pushChunk (bu : ByteUtils) (past : Nat → UInt8) (m : FileBinaryResponseMessage)
    (h : s.Regular) (hurl : s.url = "") :
    s.Advances ((s.pushChunk bu past m).1, (s.pushChunk bu past m).2.2) := by
  rcases pushChunk_cases bu past m h hurl with
    ⟨hstatus, hqueued, -⟩ | ⟨status, error, hterminal, hongoing, hstatus, -, hqueued⟩
  · exact .same hstatus hqueued
  · rw [announce, if_pos h.callback] at hqueued
    exact .ends (a := ⟨status, error⟩) hongoing hterminal hstatus hqueued

theorem regular_pushChunk (bu : ByteUtils) (past : Nat → UInt8) (m : FileBinaryResponseMessage)
    (h : s.Regular) (hurl : s.url = "") : (s.pushChunk bu past m).1.Regular where
  callback := (kept_pushChunk bu past m).callback.trans h.callback
  ongoing _ hdone := by
    rcases pushChunk_cases bu past m h hurl with ⟨hstatus, -, hsame⟩ | ⟨_, _, -, -, -, hover, -⟩
    · rw [hstatus]
      exact h.ongoing hurl (hsame ▸ hdone)
    · rw [hover] at hdone
      cases hdone

theorem regular_ofUpload (serial : Nat) (d : String) (m : FileUploadInitiateMessage) :
    (ofUpload serial d m true).Regular := ⟨rfl, fun _ _ => rfl⟩

theorem regular_ofUrlDownload (serial : Nat) (d : String) (m : FileUrlDownloadInitMessage) :
    (ofUrlDownload serial d m true).Regular := ⟨rfl, fun _ _ => rfl⟩

/-! ## Announcements -/

/-- `r` is `s` after a call that leaves the status, or announces the new one. -/
def Announced (s : FileTransferSession) (r : FileTransferSession × List Announcement) : Prop :=
  (r.1.status = s.status ∧ r.2 = []) ∨ ∃ a : Announcement, r.2 = [a] ∧ a.status = r.1.status

theorem Announced.of_queued {status : FileTransferStatus} (error : FileTransferError)
    {r : FileTransferSession × List Announcement} (hstatus : t.status = s.status)
    (hcallback : t.callback = true) (hr : r.1.status = status)
    (hqueued : r.2 = (t.changeStatusAndError status error).2) : s.Announced r := by
  unfold changeStatusAndError at hqueued
  split_ifs at hqueued with hchanged
  · exact Or.inr ⟨⟨status, error⟩, hqueued, hr.symm⟩
  · rw [not_or, not_not] at hchanged
    exact Or.inl ⟨(hr.trans hchanged.1).trans hstatus, hqueued⟩

theorem announced_abort (h : s.Regular) : s.Announced s.abort := by
  unfold abort
  split_ifs
  · exact .of_queued .none (t := { s with chunks := [], done := true }) rfl h.callback
      (status_changeStatusAndError _ _ _) rfl
  · exact .of_queued .none (t := { s with done := true }) rfl h.callback
      (status_changeStatusAndError _ _ _) rfl

theorem announced_onDownloadStatus (status : FileTransferStatus) (error : FileTransferError)
    (fileName : String) (h : s.Regular) : s.Announced (s.onDownloadStatus status error fileName) := by
  have hr := s.status_onDownloadStatus status error fileName
  by_cases hname : fileName ≠ ""
  · refine .of_queued error (t := { s with name := fileName }) rfl h.callback hr ?_
    rw [onDownloadStatus, if_pos hname]
  · refine .of_queued error rfl h.callback hr ?_
    rw [onDownloadStatus, if_neg hname]

theorem Advances.announced {r : FileTransferSession × List Announcement} (h : s.Advances r) :
    s.Announced r := by
  cases h with
  | same hstatus hqueued => exact Or.inl ⟨hstatus, hqueued⟩
  | ends _ _ hstatus hqueued => exact Or.inr ⟨_, hqueued, hstatus.symm⟩

theorem status_abort (s : FileTransferSession) : s.abort.1.status = .aborted := by
  unfold abort
  split_ifs <;> exact status_changeStatusAndError _ _ _

/-- A call that ends an ongoing transfer announces the end. -/
theorem Announced.ends {r : FileTransferSession × List Announcement} (h : s.Announced r)
    (hongoing : s.status.isTerminal = false) (hterminal : r.1.status.isTerminal = true) :
    ∃ a ∈ r.2, a.status.isTerminal = true := by
  rcases h with ⟨hsame, -⟩ | ⟨a, hqueued, hstatus⟩
  · rw [hsame, hongoing] at hterminal
    cases hterminal
  · exact ⟨a, hqueued ▸ List.mem_singleton_self a, hstatus ▸ hterminal⟩

/-- A chunk that does not end the transfer leaves bytes to be asked for. -/
theorem pushChunk_unfinished (bu : ByteUtils) (past : Nat → UInt8) (m : FileBinaryResponseMessage)
    (h : s.Regular) (hurl : s.url = "") (hdone : s.done = false) (hfit : collected s.chunks < s.size)
    (hopen : (s.pushChunk bu past m).1.done = false) :
    collected (s.pushChunk bu past m).1.chunks < (s.pushChunk bu past m).1.size := by
  have hongoing := h.ongoing hurl hdone
  rcases pushChunk_open bu past m hurl hdone hfit with heq | ⟨-, -, heq⟩
  · rw [heq] at hopen ⊢
    rcases rejectChunk_spec hongoing with ⟨-, hr⟩ | ⟨-, hr⟩
    · rw [hr]
      exact hfit
    · rw [hr] at hopen
      cases hopen
  · rw [heq] at hopen ⊢
    rcases acceptChunk_spec bu m hongoing with ⟨hsize, hr⟩ | ⟨-, -, hr⟩ | ⟨-, -, hr⟩
    · rw [hr]
      exact hsize
    · rw [hr] at hopen
      cases hopen
    · rw [hr] at hopen
      cases hopen

end FileTransferSession

end WolkConnect
