import WolkConnect.Session.Model

/-!
# What the methods of a session leave alone

A method may change how far the transfer is, never what it is about. The calls it
queues announce the status it leaves behind.
-/

namespace WolkConnect.FileTransferSession

/-- `r` is `s` after a call, with the calls it queued. -/
structure Kept (s : FileTransferSession) (r : FileTransferSession × List Announcement) : Prop where
  serial : r.1.serial = s.serial
  deviceKey : r.1.deviceKey = s.deviceKey
  url : r.1.url = s.url
  size : r.1.size = s.size
  hash : r.1.hash = s.hash
  callback : r.1.callback = s.callback
  announced : ∀ a ∈ r.2, a.status = r.1.status

variable {s s' : FileTransferSession}

theorem kept_self : Kept s (s, []) := ⟨rfl, rfl, rfl, rfl, rfl, rfl, by simp⟩

theorem changeStatusAndError_fst (status : FileTransferStatus) (error : FileTransferError) :
    (s.changeStatusAndError status error).1 = { s with status := status, error := error } := by
  unfold changeStatusAndError
  split
  · rfl
  · rename_i h
    simp only [ne_eq, not_or, not_not] at h
    rw [h.1, h.2]

theorem mem_changeStatusAndError {status : FileTransferStatus} {error : FileTransferError}
    {a : Announcement} (h : a ∈ (s.changeStatusAndError status error).2) :
    a = ⟨status, error⟩ ∧ s.callback = true ∧ (status ≠ s.status ∨ error ≠ s.error) := by
  unfold changeStatusAndError at h
  split at h
  · rename_i hne
    cases hc : s.callback <;> simp only [hc] at h
    · simp at h
    · exact ⟨by simpa using h, rfl, hne⟩
  · simp at h

theorem kept_changeStatusAndError (status : FileTransferStatus) (error : FileTransferError)
    (h : Kept s (s', [])) : Kept s (s'.changeStatusAndError status error) := by
  have hfst := changeStatusAndError_fst (s := s') status error
  refine ⟨?_, ?_, ?_, ?_, ?_, ?_, ?_⟩
  · rw [hfst]; exact h.serial
  · rw [hfst]; exact h.deviceKey
  · rw [hfst]; exact h.url
  · rw [hfst]; exact h.size
  · rw [hfst]; exact h.hash
  · rw [hfst]; exact h.callback
  · intro a ha
    rw [hfst, (mem_changeStatusAndError ha).1]

theorem name_changeStatusAndError (status : FileTransferStatus) (error : FileTransferError) :
    (s.changeStatusAndError status error).1.name = s.name := by
  rw [changeStatusAndError_fst]

theorem name_abort : s.abort.1.name = s.name := by
  unfold abort
  split <;> exact name_changeStatusAndError _ _

theorem kept_abort : Kept s s.abort := by
  unfold abort
  split
  · exact kept_changeStatusAndError _ _ ⟨rfl, rfl, rfl, rfl, rfl, rfl, by simp⟩
  · exact kept_changeStatusAndError _ _ ⟨rfl, rfl, rfl, rfl, rfl, rfl, by simp⟩

theorem kept_rejectChunk : Kept s (s.rejectChunk.1, s.rejectChunk.2.2) := by
  unfold rejectChunk
  dsimp only
  split
  · exact kept_changeStatusAndError _ _ ⟨rfl, rfl, rfl, rfl, rfl, rfl, by simp⟩
  · exact ⟨rfl, rfl, rfl, rfl, rfl, rfl, by simp⟩

theorem kept_acceptChunk (bu : ByteUtils) (m : FileBinaryResponseMessage) :
    Kept s ((s.acceptChunk bu m).1, (s.acceptChunk bu m).2.2) := by
  unfold acceptChunk
  dsimp only
  split
  · dsimp only
    split
    · exact kept_changeStatusAndError _ _ ⟨rfl, rfl, rfl, rfl, rfl, rfl, by simp⟩
    · exact kept_changeStatusAndError _ _ ⟨rfl, rfl, rfl, rfl, rfl, rfl, by simp⟩
  · exact ⟨rfl, rfl, rfl, rfl, rfl, rfl, by simp⟩

theorem kept_pushChunk (bu : ByteUtils) (past : Nat → UInt8) (m : FileBinaryResponseMessage) :
    Kept s ((s.pushChunk bu past m).1, (s.pushChunk bu past m).2.2) := by
  unfold pushChunk
  split_ifs
  · exact kept_self
  · exact kept_self
  · exact kept_self
  · exact kept_rejectChunk
  · exact kept_rejectChunk
  · exact kept_acceptChunk bu m

theorem kept_onDownloadStatus (status : FileTransferStatus) (error : FileTransferError)
    (fileName : String) : Kept s (s.onDownloadStatus status error fileName) := by
  have hname : Kept s ((if fileName ≠ "" then { s with name := fileName } else s), []) := by
    split
    · exact ⟨rfl, rfl, rfl, rfl, rfl, rfl, by simp⟩
    · exact kept_self
  have h := kept_changeStatusAndError status error hname
  unfold onDownloadStatus
  dsimp only
  split
  · exact ⟨h.serial, h.deviceKey, h.url, h.size, h.hash, h.callback, h.announced⟩
  · exact h

theorem mem_onDownloadStatus {status : FileTransferStatus} {error : FileTransferError}
    {fileName : String} {a : Announcement}
    (h : a ∈ (s.onDownloadStatus status error fileName).2) : a.status = status := by
  unfold onDownloadStatus at h
  dsimp only at h
  rw [(mem_changeStatusAndError h).1]

end WolkConnect.FileTransferSession
