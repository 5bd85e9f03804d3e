import WolkConnect.Session.Invariant

/-!
# The retry budget of a session

Both hash checks of `pushChunk` count their failures in `m_retryCount`, and nothing else
does. A session can turn three messages down, whatever is stored in between.
-/

namespace WolkConnect.FileTransferSession

/-- A call of `pushChunk`. `past` is what a read past the end of the digest would give. -/
structure Push where
  message : FileBinaryResponseMessage
  past : Nat → UInt8

variable (bu : ByteUtils)

/-- The session takes messages, and one of the two hash checks turns this one down. -/
def mismatches (s : FileTransferSession) (p : Push) : Bool :=
  !s.done && (s.previousHashDiffers p.message ||
    hashesDiffer p.past (bu.hashSHA256 p.message.data) 0 (bu.toByteArray p.message.currentHash))

/-- A session with the number of mismatches so far, and of the pushes that returned
`FILE_HASH_MISMATCH`. -/
structure Tally where
  session : FileTransferSession
  mismatched : Nat
  rejected : Nat

namespace Tally

def start (s : FileTransferSession) : Tally := ⟨s, 0, 0⟩

def push (t : Tally) (p : Push) : Tally :=
  let (session, error, _) := t.session.pushChunk bu p.past p.message
  { session := session
    mismatched := if t.session.mismatches bu p then t.mismatched + 1 else t.mismatched
    rejected := if error = .fileHashMismatch then t.rejected + 1 else t.rejected }

end Tally

variable {bu} {message : FileUploadInitiateMessage} {s : FileTransferSession} {p : Push} {t : Tally}

/-! ## One push -/

theorem Invariant.push_mismatch (h : Invariant bu message s) (hm : s.mismatches bu p = true) :
    s.done = false ∧ s.pushChunk bu p.past p.message = s.rejectChunk := by
  simp only [mismatches, Bool.and_eq_true, Bool.not_eq_true', Bool.or_eq_true] at hm
  obtain ⟨hopen, hdiffer⟩ := hm
  refine ⟨hopen, ?_⟩
  rcases pushChunk_open bu p.past p.message h.platform hopen (h.fits hopen) with
    heq | ⟨hprevious, hcurrent, -⟩
  · exact heq
  · rw [hprevious, hcurrent] at hdiffer
    simp at hdiffer

theorem Invariant.push_match (h : Invariant bu message s) (hopen : s.done = false)
    (hm : s.mismatches bu p = false) :
    s.pushChunk bu p.past p.message = s.acceptChunk bu p.message := by
  simp only [mismatches, hopen, Bool.not_false, Bool.true_and, Bool.or_eq_false_iff] at hm
  have hfit := h.fits hopen
  simp only [FileTransferSession.pushChunk, isUrlDownload_of_platform h.platform, isDone, hopen,
    hm.1, hm.2, if_neg (by omega : ¬ s.size ≤ collected s.chunks), Bool.false_eq_true, if_false]

theorem acceptChunk_returns_none (s : FileTransferSession) (m : FileBinaryResponseMessage) :
    (s.acceptChunk bu m).2.1 = .none := by
  unfold acceptChunk
  dsimp only
  split_ifs <;> rfl

/-- A mismatch is one retry, or the end of the session when there is none left. -/
theorem Invariant.push_retry (h : Invariant bu message s) (hm : s.mismatches bu p = true) :
    (s.retryCount < 3 ∧ s.pushChunk bu p.past p.message =
      ({ s with retryCount := s.retryCount + 1 }, .fileHashMismatch, [])) ∨
    (s.retryCount = 3 ∧ s.pushChunk bu p.past p.message =
      (({ s with retryCount := s.retryCount + 1 }).finished .error .retryCountExceeded,
        .retryCountExceeded, s.announce .error .retryCountExceeded)) := by
  obtain ⟨hopen, hpush⟩ := h.push_mismatch hm
  have hretry := (h.ongoing hopen).2.2
  rw [hpush]
  rcases rejectChunk_spec (h.status_eq hopen) with hspare | ⟨hspent, heq⟩
  · exact .inl hspare
  · exact .inr ⟨by omega, heq⟩

/-- Only a mismatch returns `FILE_HASH_MISMATCH`. -/
theorem Invariant.mismatch_of_returned (h : Invariant bu message s)
    (hr : (s.pushChunk bu p.past p.message).2.1 = .fileHashMismatch) :
    s.mismatches bu p = true := by
  by_contra hm
  rw [Bool.not_eq_true] at hm
  cases hdone : s.done with
  | true =>
    rw [pushChunk_done h.platform hdone] at hr
    cases hr
  | false =>
    rw [h.push_match hdone hm, acceptChunk_returns_none] at hr
    cases hr

/-! ## Any number of pushes -/

/-- While the session is open, its retry count is the number of mismatches, which have all been
rejections. -/
structure Counted (bu : ByteUtils) (message : FileUploadInitiateMessage) (t : Tally) : Prop where
  session : Invariant bu message t.session
  counted : t.session.done = false →
    t.session.retryCount = t.mismatched ∧ t.rejected = t.mismatched
  bound : t.rejected ≤ 3

theorem counted_start (h : Invariant bu message s) (hretry : s.retryCount = 0) :
    Counted bu message (.start s) :=
  ⟨h, fun _ => ⟨hretry, rfl⟩, Nat.zero_le 3⟩

theorem Counted.push_mismatch (h : Counted bu message t) (hm : t.session.mismatches bu p = true) :
    Counted bu message (t.push bu p) := by
  obtain ⟨hretry, hsame⟩ := h.counted (h.session.push_mismatch hm).1
  have hinv : Invariant bu message (t.session.pushChunk bu p.past p.message).1 := h.session.pushChunk
  rcases h.session.push_retry hm with ⟨hspare, heq⟩ | ⟨-, heq⟩
  · rw [heq] at hinv
    simp only [Tally.push, heq, hm, if_true]
    exact ⟨hinv, fun _ => ⟨by simp only; omega, by simp only; omega⟩, by simp only; omega⟩
  · rw [heq] at hinv
    simp only [Tally.push, heq, hm, if_true]
    exact ⟨hinv, fun hopen => by simp [finished] at hopen, h.bound⟩

theorem Counted.push_match (h : Counted bu message t) (hm : t.session.mismatches bu p = false) :
    Counted bu message (t.push bu p) := by
  have hinv : Invariant bu message (t.session.pushChunk bu p.past p.message).1 := h.session.pushChunk
  have hrejected : (t.session.pushChunk bu p.past p.message).2.1 ≠ .fileHashMismatch := by
    intro hr
    rw [h.session.mismatch_of_returned hr] at hm
    cases hm
  simp only [Tally.push, hm, if_neg hrejected, Bool.false_eq_true, if_false]
  refine ⟨hinv, fun hopen => ?_, h.bound⟩
  cases hdone : t.session.done with
  | true =>
    rw [pushChunk_done h.session.platform hdone] at hopen
    exact absurd hopen (by simp [hdone])
  | false =>
    obtain ⟨hretry, hsame⟩ := h.counted hdone
    refine ⟨?_, hsame⟩
    rw [← hretry]
    rw [h.session.push_match hdone hm] at hopen ⊢
    rcases acceptChunk_spec bu p.message (h.session.status_eq hdone) with
      ⟨-, heq⟩ | ⟨-, -, heq⟩ | ⟨-, -, heq⟩ <;> rw [heq] <;> rfl

theorem Counted.push (h : Counted bu message t) (p : Push) : Counted bu message (t.push bu p) := by
  cases hm : t.session.mismatches bu p with
  | true => exact h.push_mismatch hm
  | false => exact h.push_match hm

theorem Counted.foldl (h : Counted bu message t) (ps : List Push) :
    Counted bu message (ps.foldl (Tally.push bu) t) := by
  induction ps generalizing t with
  | nil => exact h
  | cons p ps ih => exact ih (h.push p)

/-- **Rejections are atomic and share one budget.** After any pushes on a platform session of
positive size, a push that returns `FILE_HASH_MISMATCH` changes the retry count only, at most three
have done so, the fourth mismatch ends the session, and a session that is done stays as it is. -/
theorem rejections_share_budget (bu : ByteUtils) (serial : Nat) (deviceKey : String)
    (message : FileUploadInitiateMessage) (callback : Bool) (hsize : 0 < message.size)
    (ps : List Push) (p : Push) :
    let t := ps.foldl (Tally.push bu) (.start (ofUpload serial deviceKey message callback))
    let s := t.session
    let r := s.pushChunk bu p.past p.message
    (r.2.1 = .fileHashMismatch →
      r = ({ s with retryCount := s.retryCount + 1 }, .fileHashMismatch, [])) ∧
    t.rejected ≤ 3 ∧
    (s.mismatches bu p = true → t.mismatched = 3 →
      r.2.1 = .retryCountExceeded ∧ r.1.done = true ∧ r.1.status = .error ∧
        r.1.error = .retryCountExceeded ∧ r.1.chunks = s.chunks) ∧
    (s.done = true → r = (s, .none, [])) := by
  intro t s r
  have h : Counted bu message t :=
    (counted_start (invariant_ofUpload bu serial deviceKey message callback hsize) rfl).foldl ps
  refine ⟨fun hr => ?_, h.bound, fun hm hfour => ?_, pushChunk_done h.session.platform⟩
  · rcases h.session.push_retry (h.session.mismatch_of_returned hr) with ⟨-, heq⟩ | ⟨-, heq⟩
    · exact heq
    · rw [show r = _ from heq] at hr
      cases hr
  · have hretry := (h.counted (h.session.push_mismatch hm).1).1
    rcases h.session.push_retry hm with ⟨hspare, -⟩ | ⟨-, heq⟩
    · omega
    · rw [show r = _ from heq]
      exact ⟨rfl, rfl, rfl, rfl, rfl⟩

/-- A message of the one byte "a" with the hash of "b". -/
def Push.wrongHash : Push := ⟨⟨"", [97], rawString (sha256Table [98])⟩, fun _ => 0⟩

theorem rejections_share_budget_four :
    let t := (List.replicate 3 Push.wrongHash).foldl (Tally.push tableByteUtils)
      (.start (ofUpload 0 "d" ⟨"f", 1, "0cc175b9c0f1b6a831c399e269772661"⟩ true))
    let r := t.session.pushChunk tableByteUtils (fun _ => 0) Push.wrongHash.message
    r.2.1 = .retryCountExceeded ∧ r.1.done = true ∧ r.1.status = .error ∧
      r.1.error = .retryCountExceeded ∧ r.1.chunks = t.session.chunks :=
  (rejections_share_budget tableByteUtils 0 "d" _ true (by decide) _ Push.wrongHash).2.2.1
    (by decide +kernel) (by decide +kernel)

end WolkConnect.FileTransferSession
