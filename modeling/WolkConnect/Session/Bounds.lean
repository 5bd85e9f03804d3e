import WolkConnect.Lib.Run
import WolkConnect.Session.Retries

/-!
# How long a transfer can take

A push on an open session stores a chunk or spends a retry. Chunks that bring bytes can
only be as many as the bytes of the file. Chunks that bring none cost nothing.
-/

namespace WolkConnect.FileTransferSession

def pushStep (bu : ByteUtils) (s : FileTransferSession) (p : Push) : Except Empty FileTransferSession :=
  .ok (s.pushChunk bu p.past p.message).1

/-- The session is done, or turns the message down, or the message has data. -/
def BringsData (bu : ByteUtils) (s : FileTransferSession) (p : Push) : Prop :=
  s.done = true ∨ s.mismatches bu p = true ∨ p.message.data ≠ []

instance (bu : ByteUtils) (s : FileTransferSession) (p : Push) : Decidable (s.BringsData bu p) :=
  inferInstanceAs (Decidable (_ ∨ _ ∨ _))

/-- An open session has stored a chunk or spent a retry with every push, and has no more chunks than
bytes. -/
structure Bounded (bu : ByteUtils) (message : FileUploadInitiateMessage) (ps : List Push)
    (s : FileTransferSession) : Prop where
  session : Invariant bu message s
  chunks : s.chunks.length ≤ message.size
  ongoing : s.done = false →
    s.chunks.length ≤ collected s.chunks ∧ ps.length = s.chunks.length + s.retryCount

variable {bu : ByteUtils} {message : FileUploadInitiateMessage} {s t : FileTransferSession}
  {ps : List Push} {p : Push}

theorem bounded_ofUpload (bu : ByteUtils) (serial : Nat) (deviceKey : String)
    (message : FileUploadInitiateMessage) (callback : Bool) (hsize : 0 < message.size) :
    Bounded bu message [] (ofUpload serial deviceKey message callback) :=
  ⟨invariant_ofUpload bu serial deviceKey message callback hsize, Nat.zero_le _,
    fun _ => ⟨Nat.zero_le _, rfl⟩⟩

theorem Bounded.push_mismatch (h : Bounded bu message ps s) (hm : s.mismatches bu p = true) :
    Bounded bu message (ps ++ [p]) (s.pushChunk bu p.past p.message).1 := by
  have hinv : Invariant bu message (s.pushChunk bu p.past p.message).1 := h.session.pushChunk
  obtain ⟨hbytes, hpushes⟩ := h.ongoing (h.session.push_mismatch hm).1
  rcases h.session.push_retry hm with ⟨-, heq⟩ | ⟨-, heq⟩
  · rw [heq] at hinv ⊢
    refine ⟨hinv, h.chunks, fun _ => ⟨hbytes, ?_⟩⟩
    simp only [List.length_append, List.length_singleton]
    omega
  · rw [heq] at hinv ⊢
    exact ⟨hinv, h.chunks, fun hopen => by simp [finished] at hopen⟩

theorem Bounded.push_match (h : Bounded bu message ps s) (hopen : s.done = false)
    (hm : s.mismatches bu p = false) (hdata : p.message.data ≠ []) :
    Bounded bu message (ps ++ [p]) (s.pushChunk bu p.past p.message).1 := by
  have hinv : Invariant bu message (s.pushChunk bu p.past p.message).1 := h.session.pushChunk
  obtain ⟨hbytes, hpushes⟩ := h.ongoing hopen
  have hfit : collected s.chunks < message.size := (h.session.ongoing hopen).2.1
  have hone : 0 < p.message.data.length := List.length_pos_of_ne_nil hdata
  have hstore : (s.store p.message).chunks.length ≤ message.size := by
    simp only [store, List.length_append, List.length_singleton]
    omega
  rw [h.session.push_match hopen hm] at hinv ⊢
  rcases acceptChunk_spec bu p.message (h.session.status_eq hopen) with
    ⟨-, heq⟩ | ⟨-, -, heq⟩ | ⟨-, -, heq⟩
  · rw [heq] at hinv ⊢
    refine ⟨hinv, hstore, fun _ => ?_⟩
    simp only [store, List.length_append, List.length_singleton, collected_append,
      collected_singleton, chunk_bytes]
    omega
  · rw [heq] at hinv ⊢
    exact ⟨hinv, hstore, fun hopen' => by simp [finished] at hopen'⟩
  · rw [heq] at hinv ⊢
    exact ⟨hinv, hstore, fun hopen' => by simp [finished] at hopen'⟩

theorem Bounded.step (h : Bounded bu message ps s) (hok : s.BringsData bu p)
    (hs : pushStep bu s p = .ok t) : Bounded bu message (ps ++ [p]) t := by
  cases hs
  cases hdone : s.done with
  | true =>
    rw [pushChunk_done h.session.platform hdone]
    exact ⟨h.session, h.chunks, fun hopen => by simp [hdone] at hopen⟩
  | false =>
    cases hm : s.mismatches bu p with
    | true => exact h.push_mismatch hm
    | false =>
      rcases hok with hok | hok | hdata
      · exact absurd hok (by simp [hdone])
      · exact absurd hok (by simp [hm])
      · exact h.push_match hdone hm hdata

/-- **A transfer ends.** If every chunk that is stored has data, a session for `N` bytes never has more
than `N` chunks, and is done after `N + 4` pushes. -/
theorem transfer_bounded (bu : ByteUtils) (serial : Nat) (deviceKey : String)
    (message : FileUploadInitiateMessage) (callback : Bool) (hsize : 0 < message.size)
    (h : Machine.Run (pushStep bu) (BringsData bu) (ofUpload serial deviceKey message callback) ps s) :
    s.chunks.length ≤ message.size ∧ (message.size + 4 ≤ ps.length → s.done = true) := by
  have hbounded : Bounded bu message ps s :=
    h.history (Bounded bu message)
      (bounded_ofUpload bu serial deviceKey message callback hsize) fun _ _ _ _ hs hok hstep =>
        hs.step hok hstep
  refine ⟨hbounded.chunks, fun hlong => ?_⟩
  by_contra hdone
  rw [Bool.not_eq_true] at hdone
  obtain ⟨hbytes, hpushes⟩ := hbounded.ongoing hdone
  obtain ⟨-, hfit, hretry⟩ := hbounded.session.ongoing hdone
  omega

theorem transfer_bounded_a : ∃ s, Machine.Run (pushStep tableByteUtils) (BringsData tableByteUtils)
      (ofUpload 0 "d" ⟨"f", 1, "0cc175b9c0f1b6a831c399e269772661"⟩ true)
      (List.replicate 5 Push.wrongHash) s ∧
    s.chunks.length ≤ 1 ∧ (1 + 4 ≤ 5 → s.done = true) := by
  obtain ⟨s, hrun, -⟩ := Machine.Run.exists_of_check (pushStep tableByteUtils)
    (BringsData tableByteUtils) (ofUpload 0 "d" ⟨"f", 1, "0cc175b9c0f1b6a831c399e269772661"⟩ true)
    (List.replicate 5 Push.wrongHash) (fun s => s.done) true (by decide +kernel)
  exact ⟨s, hrun, transfer_bounded tableByteUtils 0 "d" _ true (by decide) hrun⟩

/-! ## Messages without content -/

def Push.empty : Push := ⟨⟨"", [], ""⟩, fun _ => 0⟩

/-- Without a hash there is nothing to compare. -/
theorem mismatches_empty (bu : ByteUtils) (hempty : bu.toByteArray "" = [])
    (hchunks : ∀ c ∈ s.chunks, c.hash = "") : s.mismatches bu Push.empty = false := by
  have hprevious : s.previousHashDiffers Push.empty.message = false := by
    unfold previousHashDiffers
    split
    · rename_i last hlast
      have hhash := hchunks last (List.mem_of_getLast? hlast)
      simp [Push.empty, hhash]
    · rfl
  rw [mismatches, hprevious]
  simp [Push.empty, hempty, hashesDiffer]

/-- Any number of messages without content is stored, and the session stays open. -/
theorem empty_messages_stored (bu : ByteUtils) (hempty : bu.toByteArray "" = []) (serial : Nat)
    (deviceKey : String) (message : FileUploadInitiateMessage) (callback : Bool)
    (hsize : 0 < message.size) (n : Nat) :
    ∃ s, Machine.Run (pushStep bu) (fun _ _ => True) (ofUpload serial deviceKey message callback)
        (List.replicate n Push.empty) s ∧
      Invariant bu message s ∧ s.done = false ∧ s.chunks = List.replicate n Push.empty.message.chunk := by
  induction n with
  | zero =>
    exact ⟨_, .nil, invariant_ofUpload bu serial deviceKey message callback hsize, rfl, rfl⟩
  | succ n ih =>
    obtain ⟨s, hrun, hinv, hopen, hchunks⟩ := ih
    have hhash : ∀ c ∈ s.chunks, c.hash = "" := by
      rw [hchunks]
      intro c hc
      rw [List.eq_of_mem_replicate hc]
      rfl
    have hfit := hinv.fits hopen
    have hinv' : Invariant bu message (s.pushChunk bu Push.empty.past Push.empty.message).1 :=
      hinv.pushChunk
    have hstore : (s.store Push.empty.message).chunks =
        List.replicate (n + 1) Push.empty.message.chunk := by
      rw [store, hchunks, List.replicate_succ']
    have hsame : collected (s.store Push.empty.message).chunks = collected s.chunks := by
      simp [store, Push.empty, FileBinaryResponseMessage.chunk]
    refine ⟨_, List.replicate_succ' ▸ .snoc hrun trivial rfl, hinv', ?_⟩
    rw [hinv.push_match hopen (mismatches_empty bu hempty hhash)]
    rcases acceptChunk_spec bu Push.empty.message (hinv.status_eq hopen) with
      ⟨-, heq⟩ | ⟨hfull, -⟩ | ⟨hfull, -⟩
    · rw [heq]
      exact ⟨hopen, hstore⟩
    · omega
    · omega

/-- Five messages without content leave a session for one byte open, with five chunks. -/
theorem not_transfer_bounded_empty : ∃ s, Machine.Run (pushStep tableByteUtils) (fun _ _ => True)
      (ofUpload 0 "d" ⟨"f", 1, "0cc175b9c0f1b6a831c399e269772661"⟩ true)
      (List.replicate 5 Push.empty) s ∧
    ¬ s.chunks.length ≤ 1 ∧ ¬ (1 + 4 ≤ 5 → s.done = true) := by
  obtain ⟨s, hrun, -, hopen, hchunks⟩ := empty_messages_stored tableByteUtils rfl 0 "d"
    ⟨"f", 1, "0cc175b9c0f1b6a831c399e269772661"⟩ true (by decide) 5
  refine ⟨s, hrun, ?_, ?_⟩
  · rw [hchunks, List.length_replicate]
    decide
  · rw [hopen]
    decide

end WolkConnect.FileTransferSession
