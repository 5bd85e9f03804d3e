import WolkConnect.Session.Invariant

/-!
# A platform transfer is complete

A file that arrives in chunks, in order, with at most three bad messages in
between, ends as a ready session that holds exactly the file.
-/

namespace WolkConnect

/-! ## The hash comparison -/

theorem hashesDiffer_eq_false_iff (past : Nat → UInt8) (digest : Bytes) (sendHash : Bytes) (i : Nat)
    (hlen : i + sendHash.length = digest.length) :
    hashesDiffer past digest i sendHash = false ↔ sendHash = digest.drop i := by
  induction sendHash generalizing i with
  | nil =>
    simp only [List.length_nil, Nat.add_zero] at hlen
    simp [hashesDiffer, hlen]
  | cons b rest ih =>
    simp only [List.length_cons] at hlen
    have hi : i < digest.length := by omega
    have hget : digest.getD i (past i) = digest[i] := by
      simp [List.getD_eq_getElem?_getD, List.getElem?_eq_getElem hi]
    rw [hashesDiffer, hget, List.drop_eq_getElem_cons hi, List.cons.injEq]
    split_ifs with hb
    · simp [hb]
    · rw [ih (i + 1) (by omega)]
      simp only [ne_eq, not_not] at hb
      simp [hb]

/-- Over two hashes of one length, the loop is the comparison of the whole hashes. -/
theorem hashesDiffer_of_length {past : Nat → UInt8} {digest sendHash : Bytes}
    (hlen : sendHash.length = digest.length) :
    hashesDiffer past digest 0 sendHash = decide (sendHash ≠ digest) := by
  have h := hashesDiffer_eq_false_iff past digest sendHash 0 (by omega)
  rw [List.drop_zero] at h
  by_cases heq : sendHash = digest
  · simpa [heq] using h.mpr heq
  · have : hashesDiffer past digest 0 sendHash ≠ false := fun hf => heq (h.mp hf)
    simpa [heq] using this

namespace FileTransferSession

/-! ## Messages of a transfer -/

/-- A message that brings `bytes` after a chunk with hash `last`, if there is one. -/
structure Carries (bu : ByteUtils) (last : Option String) (bytes : Bytes)
    (m : FileBinaryResponseMessage) : Prop where
  data : m.data = bytes
  currentHash : bu.toByteArray m.currentHash = bu.hashSHA256 m.data
  previousHash : ∀ h, last = some h → m.previousHash = h

/-- A message with a 32-byte hash that is not its data's, or with another previous hash. -/
def Bad (bu : ByteUtils) (last : Option String) (m : FileBinaryResponseMessage) : Prop :=
  ((bu.toByteArray m.currentHash).length = 32 ∧
    bu.toByteArray m.currentHash ≠ bu.hashSHA256 m.data) ∨
  ∃ h, last = some h ∧ m.previousHash ≠ h

/-- The messages bring the chunks in order, with `k` bad ones in between. -/
inductive Transmission (bu : ByteUtils) :
    Option String → List Bytes → Nat → List FileBinaryResponseMessage → Prop
  | finished {last} : Transmission bu last [] 0 []
  | chunk {last bytes chunks k m ms} : Carries bu last bytes m →
      Transmission bu (some m.currentHash) chunks k ms →
      Transmission bu last (bytes :: chunks) k (m :: ms)
  | bad {last bytes chunks k m ms} : Bad bu last m →
      Transmission bu last (bytes :: chunks) k ms →
      Transmission bu last (bytes :: chunks) (k + 1) (m :: ms)

/-- One push, with the callback calls queued so far. -/
def push (bu : ByteUtils) (past : Nat → UInt8) (st : FileTransferSession × List Announcement)
    (m : FileBinaryResponseMessage) : FileTransferSession × List Announcement :=
  let (s, _, queued) := st.1.pushChunk bu past m
  (s, st.2 ++ queued)

/-! ## Progress -/

/-- An open session of `F` that still waits for `chunks` and can take `k` bad messages. -/
structure Waiting (bu : ByteUtils) (F : Bytes) (last : Option String) (chunks : List Bytes) (k : Nat)
    (s : FileTransferSession) : Prop where
  platform : s.url = ""
  done : s.done = false
  status : s.status = .fileTransfer
  callback : s.callback = true
  size : s.size = F.length
  hash : s.hash = bu.toHexString (bu.hashMDA5 F)
  retry : s.retryCount + k ≤ 3
  bytes : content s.chunks ++ chunks.flatten = F
  last : last = s.chunks.getLast?.map FileChunk.hash

structure Complete (F : Bytes) (s : FileTransferSession) : Prop where
  done : s.done = true
  status : s.status = .fileReady
  error : s.error = .none
  content : content s.chunks = F

variable {bu : ByteUtils} {past : Nat → UInt8} {F : Bytes} {last : Option String}
  {bytes : Bytes} {chunks : List Bytes} {k : Nat} {s : FileTransferSession}
  {m : FileBinaryResponseMessage}

theorem Waiting.fits (h : Waiting bu F last (bytes :: chunks) k s) (hb : bytes ≠ []) :
    collected s.chunks < s.size := by
  have hlen := congrArg List.length h.bytes
  have hpos : 0 < bytes.length := List.length_pos_of_ne_nil hb
  simp only [List.flatten_cons, List.length_append, length_content] at hlen
  rw [h.size]
  omega

theorem Waiting.previousHash (h : Waiting bu F last chunks k s) :
    s.previousHashDiffers m = true ↔ ∃ hash, last = some hash ∧ m.previousHash ≠ hash := by
  rw [h.last]
  cases hl : s.chunks.getLast? with
  | none => simp [previousHashDiffers, hl]
  | some c =>
    simp only [previousHashDiffers, hl, Option.map_some, Option.some.injEq, exists_eq_left',
      decide_eq_true_eq]
    exact ne_comm

theorem Waiting.push_bad (h : Waiting bu F last (bytes :: chunks) (k + 1) s)
    (past : Nat → UInt8) (hb : bytes ≠ [])
    (hm : Bad bu last m) :
    Waiting bu F last (bytes :: chunks) k (s.pushChunk bu past m).1 ∧
      (s.pushChunk bu past m).2.2 = [] := by
  have hrej : s.pushChunk bu past m = s.rejectChunk := by
    rcases pushChunk_open bu past m h.platform h.done (h.fits hb) with
      heq | ⟨hprev, hcur, -⟩
    · exact heq
    · exfalso
      rcases hm with ⟨hlen, hne⟩ | hdiff
      · rw [hashesDiffer_of_length (by rw [hlen, bu.hashSHA256_length])] at hcur
        simp [hne] at hcur
      · rw [h.previousHash.mpr hdiff] at hprev
        exact Bool.noConfusion hprev
  have hretry := h.retry
  rcases rejectChunk_spec h.status with ⟨-, heq⟩ | ⟨hge, -⟩
  · rw [hrej, heq]
    exact ⟨{ h with retry := by simp only; omega }, rfl⟩
  · omega

theorem Waiting.accepts (h : Waiting bu F last (bytes :: chunks) k s) (hb : bytes ≠ [])
    (hm : Carries bu last bytes m) : s.pushChunk bu past m = s.acceptChunk bu m := by
  have hprev : s.previousHashDiffers m = false := by
    by_contra hne
    rw [Bool.not_eq_false] at hne
    obtain ⟨hash, hlast, hdiff⟩ := h.previousHash.mp hne
    exact hdiff (hm.previousHash hash hlast)
  have hcur : hashesDiffer past (bu.hashSHA256 m.data) 0 (bu.toByteArray m.currentHash) = false := by
    rw [hashesDiffer_of_length (by rw [hm.currentHash])]
    simp [hm.currentHash]
  have hfit := h.fits hb
  simp only [pushChunk, isUrlDownload_of_platform h.platform, isDone, h.done, hprev, hcur,
    if_neg (by omega : ¬ s.size ≤ collected s.chunks), Bool.false_eq_true, if_false]

theorem Waiting.store (h : Waiting bu F last (bytes :: chunks) k s) (hm : m.data = bytes) :
    content (s.store m).chunks ++ chunks.flatten = F := by
  have := h.bytes
  simp only [List.flatten_cons] at this
  simp [FileTransferSession.store, hm, this]

theorem Waiting.collected_store (h : Waiting bu F last (bytes :: chunks) k s) (hm : m.data = bytes) :
    collected (s.store m).chunks + chunks.flatten.length = s.size := by
  rw [h.size, ← h.store hm, List.length_append, length_content]

theorem Waiting.push_chunk (h : Waiting bu F last (bytes :: chunks) k s)
    (past : Nat → UInt8) (hb : bytes ≠ [])
    (hrest : 0 < chunks.flatten.length) (hm : Carries bu last bytes m) :
    Waiting bu F (some m.currentHash) chunks k (s.pushChunk bu past m).1 ∧
      (s.pushChunk bu past m).2.2 = [] := by
  have hsize := h.collected_store hm.data
  rw [h.accepts hb hm]
  rcases acceptChunk_spec bu m h.status with ⟨-, heq⟩ | ⟨hge, -⟩ | ⟨hge, -⟩
  · rw [heq]
    exact ⟨{ h with bytes := h.store hm.data, last := by simp [FileTransferSession.store] }, rfl⟩
  · omega
  · omega

theorem Waiting.push_last (h : Waiting bu F last [bytes] k s) (past : Nat → UInt8)
    (hb : bytes ≠ [])
    (hm : Carries bu last bytes m) :
    Complete F (s.pushChunk bu past m).1 ∧ (s.pushChunk bu past m).2.2 = [⟨.fileReady, .none⟩] := by
  have hsize := h.collected_store hm.data
  have hcontent : content (s.store m).chunks = F := by simpa using h.store hm.data
  simp only [List.flatten_nil, List.length_nil, Nat.add_zero] at hsize
  rw [h.accepts hb hm]
  rcases acceptChunk_spec bu m h.status with ⟨hlt, -⟩ | ⟨-, -, heq⟩ | ⟨-, hne, -⟩
  · omega
  · rw [heq]
    exact ⟨⟨rfl, rfl, rfl, hcontent⟩, by simp [announce, h.callback]⟩
  · exact absurd (by rw [fileHash, hcontent, h.hash]) hne

theorem flatten_pos (hne : ∀ c ∈ chunks, c ≠ []) (h : chunks ≠ []) : 0 < chunks.flatten.length := by
  cases chunks with
  | nil => exact absurd rfl h
  | cons c cs =>
    have := List.length_pos_of_ne_nil (hne c List.mem_cons_self)
    simp only [List.flatten_cons, List.length_append]
    omega

theorem push_fst (st : FileTransferSession × List Announcement) (m : FileBinaryResponseMessage) :
    (push bu past st m).1 = (st.1.pushChunk bu past m).1 := rfl

theorem push_snd (st : FileTransferSession × List Announcement) (m : FileBinaryResponseMessage) :
    (push bu past st m).2 = st.2 ++ (st.1.pushChunk bu past m).2.2 := rfl

/-- A session is open before each message but the last if it is before the first, and before the
rest. -/
theorem open_of_cons {m : FileBinaryResponseMessage} {ms : List FileBinaryResponseMessage}
    {st : FileTransferSession × List Announcement} (hopen : st.1.done = false)
    (hrest : ∀ front, front <+: ms → front ≠ ms →
      (front.foldl (push bu past) (push bu past st m)).1.done = false) :
    ∀ front, front <+: m :: ms → front ≠ m :: ms → (front.foldl (push bu past) st).1.done = false := by
  intro front hfront hproper
  rcases List.prefix_cons_iff.mp hfront with rfl | ⟨t, rfl, ht⟩
  · exact hopen
  · rw [List.foldl_cons]
    exact hrest t ht fun he => hproper (by rw [he])

/-- A waiting session that gets the rest of its messages is open until the last one and then
complete. The induction is on the transmission; `Waiting` carries the hash chain, the collected
bytes and the retries. -/
theorem transmission_completes {ms : List FileBinaryResponseMessage}
    (ht : Transmission bu last chunks k ms) (hchunks : chunks ≠ []) (hne : ∀ c ∈ chunks, c ≠ [])
    (queued : List Announcement) (h : Waiting bu F last chunks k s) :
    Complete F (ms.foldl (push bu past) (s, queued)).1 ∧
      (ms.foldl (push bu past) (s, queued)).2 = queued ++ [⟨.fileReady, .none⟩] ∧
      ∀ front, front <+: ms → front ≠ ms →
        (front.foldl (push bu past) (s, queued)).1.done = false := by
  induction ht generalizing s queued with
  | finished => exact absurd rfl hchunks
  | @chunk last bytes chunks k m ms hm ht ih =>
    have hb : bytes ≠ [] := hne bytes List.mem_cons_self
    have hne' : ∀ c ∈ chunks, c ≠ [] := fun c hc => hne c (List.mem_cons_of_mem _ hc)
    rw [List.foldl_cons]
    by_cases hlast : chunks = []
    · subst hlast
      cases ht
      obtain ⟨hc, hq⟩ := h.push_last past hb hm
      refine ⟨hc, by rw [List.foldl_nil, push_snd, hq], open_of_cons h.done ?_⟩
      intro front hfront hproper
      exact absurd (List.prefix_nil.mp hfront) hproper
    · obtain ⟨hw, hq⟩ := h.push_chunk past hb (flatten_pos hne' hlast) hm
      have hstep : push bu past (s, queued) m = ((s.pushChunk bu past m).1, queued) := by
        rw [Prod.ext_iff, push_fst, push_snd, hq]; simp
      rw [hstep]
      obtain ⟨hcomplete, hqueued, hopen⟩ := ih hlast hne' queued hw
      exact ⟨hcomplete, hqueued, open_of_cons h.done (hstep ▸ hopen)⟩
  | @bad last bytes chunks k m ms hm ht ih =>
    have hb : bytes ≠ [] := hne bytes List.mem_cons_self
    obtain ⟨hw, hq⟩ := h.push_bad past hb hm
    have hstep : push bu past (s, queued) m = ((s.pushChunk bu past m).1, queued) := by
      rw [Prod.ext_iff, push_fst, push_snd, hq]; simp
    rw [List.foldl_cons, hstep]
    obtain ⟨hcomplete, hqueued, hopen⟩ := ih hchunks hne queued hw
    exact ⟨hcomplete, hqueued, open_of_cons h.done (hstep ▸ hopen)⟩

theorem waiting_ofUpload (bu : ByteUtils) (serial : Nat) (deviceKey name : String) (F : Bytes)
    (hk : k ≤ 3) (hsplit : chunks.flatten = F) :
    Waiting bu F none chunks k
      (ofUpload serial deviceKey ⟨name, F.length, bu.toHexString (bu.hashMDA5 F)⟩ true) where
  platform := rfl
  done := rfl
  status := rfl
  callback := rfl
  size := rfl
  hash := rfl
  retry := by simpa [ofUpload] using hk
  bytes := by simpa [ofUpload] using hsplit
  last := rfl

/-- **Transfer completeness.** -/
theorem transfer_complete (bu : ByteUtils) (past : Nat → UInt8) (serial : Nat)
    (deviceKey name : String) (F : Bytes) (chunks : List Bytes) (k : Nat)
    (ms : List FileBinaryResponseMessage) (hF : 0 < F.length) (hsplit : chunks.flatten = F)
    (hne : ∀ c ∈ chunks, c ≠ []) (hk : k ≤ 3) (ht : Transmission bu none chunks k ms) :
    let start := ofUpload serial deviceKey ⟨name, F.length, bu.toHexString (bu.hashMDA5 F)⟩ true
    Complete F (ms.foldl (push bu past) (start, [])).1 ∧
      (ms.foldl (push bu past) (start, [])).2 = [⟨.fileReady, .none⟩] ∧
      ∀ front, front <+: ms → front ≠ ms →
        (front.foldl (push bu past) (start, [])).1.done = false := by
  have hchunks : chunks ≠ [] := by
    rintro rfl
    rw [← hsplit] at hF
    simp at hF
  exact transmission_completes ht hchunks hne []
    (waiting_ofUpload bu serial deviceKey name F hk hsplit)

/-- Two chunks of one byte, where the second one comes with a wrong previous hash first. -/
def twoChunkMessages : List FileBinaryResponseMessage :=
  [⟨"", [97], rawString (sha256Table [97])⟩,
    ⟨"", [98], rawString (sha256Table [98])⟩,
    ⟨rawString (sha256Table [97]), [98], rawString (sha256Table [98])⟩]

theorem twoChunkMessages_transmission :
    Transmission tableByteUtils none [[97], [98]] 1 twoChunkMessages := by
  refine .chunk ⟨rfl, rawBytes_rawString _, by simp⟩ (.bad (Or.inr ⟨_, rfl, by decide⟩) ?_)
  exact .chunk ⟨rfl, rawBytes_rawString _, by simp⟩ .finished

theorem transfer_complete_ab :
    let start := ofUpload 0 "d" ⟨"f", 2, hexStream (md5Table [97, 98])⟩ true
    let ends := twoChunkMessages.foldl (push tableByteUtils fun _ => 0) (start, [])
    Complete [97, 98] ends.1 ∧ ends.2 = [⟨.fileReady, .none⟩] ∧
      ∀ front, front <+: twoChunkMessages → front ≠ twoChunkMessages →
        (front.foldl (push tableByteUtils fun _ => 0) (start, [])).1.done = false :=
  transfer_complete tableByteUtils (fun _ => 0) 0 "d" "f" [97, 98] [[97], [98]] 1 twoChunkMessages
    (by decide) rfl (by decide) (by decide) twoChunkMessages_transmission

end FileTransferSession

end WolkConnect
