import Mathlib.Data.List.Chain
import WolkConnect.Session.Model

/-!
# What holds of a platform session at any time

One spec per method of `FileTransferSession`, then the representation invariant
over any sequence of calls.
-/

namespace WolkConnect

@[simp] theorem collected_nil : collected [] = 0 := rfl

@[simp] theorem collected_append (l l' : List FileChunk) :
    collected (l ++ l') = collected l + collected l' := by
  simp [collected]

@[simp] theorem collected_singleton (c : FileChunk) : collected [c] = c.bytes.length := by
  simp [collected]

@[simp] theorem content_nil : content [] = [] := rfl

@[simp] theorem content_append (l l' : List FileChunk) :
    content (l ++ l') = content l ++ content l' := by
  simp [content]

@[simp] theorem content_singleton (c : FileChunk) : content [c] = c.bytes := by
  simp [content]

theorem length_content (l : List FileChunk) : (content l).length = collected l := by
  simp [content, collected, List.length_flatMap]

def FileBinaryResponseMessage.chunk (m : FileBinaryResponseMessage) : FileChunk :=
  ⟨m.previousHash, m.data, m.currentHash⟩

@[simp] theorem chunk_bytes (m : FileBinaryResponseMessage) : m.chunk.bytes = m.data := rfl
@[simp] theorem chunk_hash (m : FileBinaryResponseMessage) : m.chunk.hash = m.currentHash := rfl
@[simp] theorem chunk_previousHash (m : FileBinaryResponseMessage) :
    m.chunk.previousHash = m.previousHash := rfl

namespace FileTransferSession

variable {bu : ByteUtils} {past : Nat → UInt8} {s : FileTransferSession}
  {m : FileBinaryResponseMessage}

/-! ## The methods -/

theorem isUrlDownload_of_platform (h : s.url = "") : s.isUrlDownload = false := by
  simp [isUrlDownload, isPlatformTransfer, h]

/-- The callback call that a change of status queues. -/
def announce (s : FileTransferSession) (status : FileTransferStatus) (error : FileTransferError) :
    List Announcement :=
  if s.callback then [⟨status, error⟩] else []

def finished (s : FileTransferSession) (status : FileTransferStatus) (error : FileTransferError) :
    FileTransferSession :=
  { s with done := true, status := status, error := error }

theorem changeStatusAndError_of_ne {status : FileTransferStatus} (h : status ≠ s.status)
    (error : FileTransferError) :
    s.changeStatusAndError status error =
      ({ s with status := status, error := error }, s.announce status error) := by
  rw [changeStatusAndError, if_pos (Or.inl h)]
  rfl

theorem pushChunk_done (hp : s.url = "") (hd : s.done = true) :
    s.pushChunk bu past m = (s, .none, []) := by
  simp [pushChunk, isUrlDownload_of_platform hp, isDone, hd]

theorem rejectChunk_spec (hst : s.status = .fileTransfer) :
    (s.retryCount < 3 ∧
      s.rejectChunk = ({ s with retryCount := s.retryCount + 1 }, .fileHashMismatch, [])) ∨
    (3 ≤ s.retryCount ∧ s.rejectChunk =
      (({ s with retryCount := s.retryCount + 1 }).finished .error .retryCountExceeded,
        .retryCountExceeded, s.announce .error .retryCountExceeded)) := by
  rcases Nat.lt_or_ge s.retryCount 3 with h | h
  · left
    refine ⟨h, ?_⟩
    rw [rejectChunk, if_neg (by omega)]
  · right
    refine ⟨h, ?_⟩
    rw [rejectChunk, if_pos h, changeStatusAndError_of_ne (by simp [hst])]
    rfl

def store (s : FileTransferSession) (m : FileBinaryResponseMessage) : FileTransferSession :=
  { s with chunks := s.chunks ++ [m.chunk] }

/-- The hash of the stored bytes, as the session compares it with the declared one. -/
def fileHash (bu : ByteUtils) (s : FileTransferSession) : String :=
  bu.toHexString (bu.hashMDA5 (content s.chunks))

theorem acceptChunk_spec (bu : ByteUtils) (m : FileBinaryResponseMessage)
    (hst : s.status = .fileTransfer) :
    (collected (s.store m).chunks < s.size ∧ s.acceptChunk bu m = (s.store m, .none, [])) ∨
    (s.size ≤ collected (s.store m).chunks ∧ (s.store m).fileHash bu = s.hash ∧
      s.acceptChunk bu m = ((s.store m).finished .fileReady .none, .none, s.announce .fileReady .none)) ∨
    (s.size ≤ collected (s.store m).chunks ∧ (s.store m).fileHash bu ≠ s.hash ∧
      s.acceptChunk bu m = ((s.store m).finished .error .fileHashMismatch, .none,
        s.announce .error .fileHashMismatch)) := by
  have hsize : collected (s.store m).chunks = collected s.chunks + m.data.length := by
    simp [store]
  rw [hsize]
  rcases Nat.lt_or_ge (collected s.chunks + m.data.length) s.size with h | h
  · left
    refine ⟨h, ?_⟩
    rw [acceptChunk, if_neg (by omega)]
    rfl
  · right
    by_cases hh : (s.store m).fileHash bu = s.hash
    · left
      refine ⟨h, hh, ?_⟩
      rw [acceptChunk, if_pos h]
      simp only [fileHash, store, FileBinaryResponseMessage.chunk] at hh
      simp only [hh, if_true]
      rw [changeStatusAndError_of_ne (by simp [hst])]
      rfl
    · right
      refine ⟨h, hh, ?_⟩
      rw [acceptChunk, if_pos h]
      simp only [fileHash, store, FileBinaryResponseMessage.chunk] at hh
      simp only [hh, if_false]
      rw [changeStatusAndError_of_ne (by simp [hst])]
      rfl

/-- A message is turned down for one of its hashes, or its chunk is stored. -/
theorem pushChunk_open (bu : ByteUtils) (past : Nat → UInt8) (m : FileBinaryResponseMessage)
    (hp : s.url = "") (hd : s.done = false)
    (hfit : collected s.chunks < s.size) :
    s.pushChunk bu past m = s.rejectChunk ∨
    (s.previousHashDiffers m = false ∧
      hashesDiffer past (bu.hashSHA256 m.data) 0 (bu.toByteArray m.currentHash) = false ∧
      s.pushChunk bu past m = s.acceptChunk bu m) := by
  simp only [pushChunk, isUrlDownload_of_platform hp, isDone, hd, if_neg (by omega : ¬ s.size ≤ collected s.chunks),
    Bool.false_eq_true, if_false]
  split_ifs with h1 h2
  · exact Or.inl rfl
  · exact Or.inl rfl
  · exact Or.inr ⟨by simpa using h1, by simpa using h2, rfl⟩

theorem abort_spec (hp : s.url = "") :
    s.abort.1 = { s with chunks := [], done := true, status := .aborted, error := .none } ∧
    (s.abort.2 = s.announce .aborted .none ∨
      s.abort.2 = [] ∧ s.status = .aborted ∧ s.error = .none) := by
  have hplat : s.isPlatformTransfer = true := by simp [isPlatformTransfer, hp]
  by_cases h : FileTransferStatus.aborted ≠ s.status ∨ FileTransferError.none ≠ s.error
  · simp only [abort, hplat, if_true, changeStatusAndError, if_pos h, true_and]
    exact Or.inl rfl
  · simp only [abort, hplat, if_true, changeStatusAndError, if_neg h]
    simp only [ne_eq, not_or, not_not] at h
    exact ⟨by rw [← h.1, ← h.2], Or.inr ⟨trivial, h.1.symm, h.2.symm⟩⟩

/-! ## The invariant -/

/-- Each chunk but the first names the hash of the chunk before it. -/
def Chained (chunks : List FileChunk) : Prop :=
  ∀ i, ∀ h : i + 1 < chunks.length, (chunks[i + 1]).previousHash = (chunks[i]).hash

/-- The representation invariant of a session that `message` created. -/
structure Invariant (bu : ByteUtils) (message : FileUploadInitiateMessage)
    (s : FileTransferSession) : Prop where
  platform : s.url = ""
  size : s.size = message.size
  hash : s.hash = message.hash
  done_iff : s.done = true ↔ s.status ≠ .fileTransfer
  ongoing : s.done = false → s.error = .none ∧ collected s.chunks < message.size ∧ s.retryCount ≤ 3
  chained : Chained s.chunks
  ready : s.status = .fileReady → message.size ≤ collected s.chunks ∧
    collected s.chunks.dropLast < message.size ∧ s.fileHash bu = message.hash
  aborted : s.status = .aborted → s.chunks = []

theorem chained_nil : Chained [] := fun i h => absurd h (by simp)

theorem chained_snoc {chunks : List FileChunk} {c : FileChunk} (h : Chained chunks)
    (hc : ∀ last, chunks.getLast? = some last → c.previousHash = last.hash) :
    Chained (chunks ++ [c]) := by
  intro i hi
  simp only [List.length_append, List.length_singleton] at hi
  rcases Nat.lt_or_ge (i + 1) chunks.length with hlt | hge
  · rw [List.getElem_append_left hlt, List.getElem_append_left (by omega)]
    exact h i hlt
  · have hi' : i < chunks.length := by omega
    have hlast : chunks.getLast? = some chunks[i] := by
      rw [List.getLast?_eq_getElem?, show chunks.length - 1 = i by omega,
        List.getElem?_eq_getElem (by omega)]
    rw [List.getElem_append_right hge, List.getElem_append_left (by omega)]
    simpa using hc _ hlast

theorem invariant_ofUpload (bu : ByteUtils) (serial : Nat) (deviceKey : String)
    (message : FileUploadInitiateMessage) (callback : Bool) (hsize : 0 < message.size) :
    Invariant bu message (ofUpload serial deviceKey message callback) where
  platform := rfl
  size := rfl
  hash := rfl
  done_iff := by simp [ofUpload]
  ongoing _ := ⟨rfl, hsize, Nat.zero_le 3⟩
  chained := chained_nil
  ready h := by simp [ofUpload] at h
  aborted _ := rfl

variable {message : FileUploadInitiateMessage}

theorem Invariant.status_eq (h : Invariant bu message s) (hd : s.done = false) :
    s.status = .fileTransfer := by
  by_contra hne
  rw [h.done_iff.mpr hne] at hd
  exact Bool.noConfusion hd

theorem Invariant.fits (h : Invariant bu message s) (hd : s.done = false) :
    collected s.chunks < s.size := by
  rw [h.size]; exact (h.ongoing hd).2.1

theorem Invariant.chained_store (h : Invariant bu message s) (hm : s.previousHashDiffers m = false) :
    Chained (s.store m).chunks := by
  apply chained_snoc h.chained
  intro last hlast
  simp only [previousHashDiffers, hlast, decide_eq_false_iff_not, ne_eq, not_not] at hm
  exact hm.symm

theorem Invariant.reject (h : Invariant bu message s) (hd : s.done = false) :
    Invariant bu message s.rejectChunk.1 := by
  have hst := h.status_eq hd
  obtain ⟨herr, hfit, hretry⟩ := h.ongoing hd
  rcases rejectChunk_spec hst with ⟨hlt, heq⟩ | ⟨hge, heq⟩ <;> rw [heq]
  · exact { h with ongoing := fun _ => ⟨herr, hfit, by simp only; omega⟩ }
  · exact
      { h with
        done_iff := by simp [finished]
        ongoing := by simp [finished]
        ready := by simp [finished]
        aborted := by simp [finished] }

theorem Invariant.accept (h : Invariant bu message s) (hd : s.done = false)
    (hm : s.previousHashDiffers m = false) : Invariant bu message (s.acceptChunk bu m).1 := by
  have hst := h.status_eq hd
  have hchain := h.chained_store hm
  obtain ⟨herr, hfit, hretry⟩ := h.ongoing hd
  rcases acceptChunk_spec bu m hst with
    ⟨hlt, heq⟩ | ⟨hge, hhash, heq⟩ | ⟨hge, hhash, heq⟩ <;> rw [heq]
  · exact
      { h with
        ongoing := fun _ => ⟨herr, h.size ▸ hlt, hretry⟩
        chained := hchain
        ready := fun hr => absurd (hst.symm.trans hr) (by simp)
        aborted := fun ha => absurd (hst.symm.trans ha) (by simp) }
  · exact
      { h with
        done_iff := by simp [finished]
        ongoing := by simp [finished]
        chained := hchain
        ready := fun _ => ⟨h.size ▸ hge, by simpa [finished, store] using hfit, by rw [← h.hash]; exact hhash⟩
        aborted := by simp [finished] }
  · exact
      { h with
        done_iff := by simp [finished]
        ongoing := by simp [finished]
        chained := hchain
        ready := by simp [finished]
        aborted := by simp [finished] }

theorem Invariant.pushChunk (h : Invariant bu message s) :
    Invariant bu message (s.pushChunk bu past m).1 := by
  cases hd : s.done with
  | true => rw [pushChunk_done h.platform hd]; exact h
  | false =>
    rcases pushChunk_open bu past m h.platform hd (h.fits hd) with
      heq | ⟨hm, -, heq⟩
    · rw [heq]; exact h.reject hd
    · rw [heq]; exact h.accept hd hm

theorem Invariant.abort (h : Invariant bu message s) : Invariant bu message s.abort.1 := by
  rw [(abort_spec h.platform).1]
  exact
    { h with
      done_iff := by simp
      ongoing := by simp
      chained := chained_nil
      ready := by simp
      aborted := fun _ => rfl }

/-- The size check of `pushChunk` never fails: a session that has enough bytes is finished. -/
theorem Invariant.pushChunk_supported (h : Invariant bu message s) :
    (s.pushChunk bu past m).2.1 ≠ .unsupportedFileSize := by
  cases hd : s.done with
  | true => rw [pushChunk_done h.platform hd]; simp
  | false =>
    have hst := h.status_eq hd
    rcases pushChunk_open bu past m h.platform hd (h.fits hd) with
      heq | ⟨-, -, heq⟩ <;> rw [heq]
    · rcases rejectChunk_spec hst with ⟨-, hr⟩ | ⟨-, hr⟩ <;> rw [hr] <;> simp
    · rcases acceptChunk_spec bu m hst with ⟨-, hr⟩ | ⟨-, -, hr⟩ | ⟨-, -, hr⟩ <;>
        rw [hr] <;> simp

/-! ## Any sequence of calls -/

inductive Call
  | pushChunk (message : FileBinaryResponseMessage) (past : Nat → UInt8)
  | getNextChunkRequest
  | abort

def after (bu : ByteUtils) (s : FileTransferSession) : Call → FileTransferSession
  | .pushChunk message past => (s.pushChunk bu past message).1
  | .getNextChunkRequest => s
  | .abort => s.abort.1

theorem Invariant.after (h : Invariant bu message s) (call : Call) :
    Invariant bu message (s.after bu call) := by
  cases call with
  | pushChunk m past => exact h.pushChunk
  | getNextChunkRequest => exact h
  | abort => exact h.abort

theorem Invariant.calls (h : Invariant bu message s) (calls : List Call) :
    Invariant bu message (calls.foldl (FileTransferSession.after bu) s) := by
  induction calls generalizing s with
  | nil => exact h
  | cons call calls ih => exact ih (h.after call)

/-- **The representation invariant.** After any calls on a platform session of positive size,
the invariant holds and `pushChunk` does not return `UNSUPPORTED_FILE_SIZE`. -/
theorem session_invariant (bu : ByteUtils) (serial : Nat) (deviceKey : String)
    (message : FileUploadInitiateMessage) (callback : Bool) (hsize : 0 < message.size)
    (calls : List Call) :
    Invariant bu message (calls.foldl (after bu) (ofUpload serial deviceKey message callback)) ∧
    ∀ past m, ((calls.foldl (after bu) (ofUpload serial deviceKey message callback)).pushChunk
      bu past m).2.1 ≠ .unsupportedFileSize := by
  have h := (invariant_ofUpload bu serial deviceKey message callback hsize).calls calls
  exact ⟨h, fun _ _ => h.pushChunk_supported⟩

theorem session_invariant_aborted :
    let message : FileUploadInitiateMessage := ⟨"f", 1, "0cc175b9c0f1b6a831c399e269772661"⟩
    let calls := [Call.pushChunk ⟨"", [97], rawString (sha256Table [97])⟩ fun _ => 0, .abort]
    Invariant tableByteUtils message
        (calls.foldl (after tableByteUtils) (ofUpload 0 "d" message true)) ∧
      ∀ past m, ((calls.foldl (after tableByteUtils) (ofUpload 0 "d" message true)).pushChunk
        tableByteUtils past m).2.1 ≠ .unsupportedFileSize :=
  session_invariant tableByteUtils 0 "d" _ true (by decide) _

end FileTransferSession

end WolkConnect
