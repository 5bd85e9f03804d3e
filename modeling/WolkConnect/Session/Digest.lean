import WolkConnect.Session.Frame
import WolkConnect.Session.Invariant

/-!
# The hash of a chunk

`pushChunk` compares as many bytes as the received hash has. A shorter hash is compared in
part, and a longer one with what lies behind the digest.
-/

namespace WolkConnect

/-- The indices at which the loop of `hashesDiffer` reads `currentHash`. -/
def digestReads (past : Nat → UInt8) (currentHash : Bytes) : Nat → Bytes → List Nat
  | _, [] => []
  | i, b :: sendHash =>
    i :: if b ≠ currentHash.getD i (past i) then [] else digestReads past currentHash (i + 1) sendHash

section
variable {past past' : Nat → UInt8} {digest sendHash : Bytes} {i : Nat}

/-- The loop reads nothing but the bytes at these indices. -/
theorem hashesDiffer_congr (h : ∀ j ∈ digestReads past digest i sendHash, past j = past' j) :
    hashesDiffer past digest i sendHash = hashesDiffer past' digest i sendHash := by
  induction sendHash generalizing i with
  | nil => rfl
  | cons b sendHash ih =>
    simp only [digestReads, List.forall_mem_cons] at h
    rw [hashesDiffer, hashesDiffer, ← h.1]
    split_ifs at h ⊢ with hb
    · rfl
    · exact ih h.2

theorem getD_of_lt {l : Bytes} (h : i < l.length) (b : UInt8) : l.getD i b = l[i] := by
  rw [List.getD_eq_getElem?_getD, List.getElem?_eq_getElem h, Option.getD_some]

theorem hashesDiffer_of_prefix (h : sendHash <+: digest.drop i) :
    hashesDiffer past digest i sendHash = false := by
  induction sendHash generalizing i with
  | nil => rfl
  | cons b sendHash ih =>
    have hi : i < digest.length := by
      by_contra hi
      rw [List.drop_eq_nil_of_le (not_lt.mp hi)] at h
      exact absurd (List.prefix_nil.mp h) (List.cons_ne_nil _ _)
    rw [List.drop_eq_getElem_cons hi, List.cons_prefix_cons] at h
    rw [hashesDiffer, getD_of_lt hi, if_neg (by simpa using h.1)]
    exact ih h.2

/-- Where the loop finds no difference, the hash is a beginning of the digest, or goes on after it. -/
theorem prefix_of_hashesDiffer (hi : i ≤ digest.length)
    (h : hashesDiffer past digest i sendHash = false) :
    sendHash <+: digest.drop i ∨ digest.drop i <+: sendHash := by
  induction sendHash generalizing i with
  | nil => exact .inl List.nil_prefix
  | cons b sendHash ih =>
    rcases Nat.lt_or_ge i digest.length with hlt | hge
    · rw [hashesDiffer, getD_of_lt hlt] at h
      split_ifs at h with hb
      rw [List.drop_eq_getElem_cons hlt, not_not.mp hb, List.cons_prefix_cons, List.cons_prefix_cons]
      exact (ih hlt h).imp (⟨rfl, ·⟩) (⟨rfl, ·⟩)
    · rw [List.drop_eq_nil_of_le hge]
      exact .inr List.nil_prefix

/-- The loop reads past the digest when the hash goes on after what is left of the digest. -/
theorem digestReads_past_iff (past : Nat → UInt8) (h : i ≤ digest.length) :
    (∃ j ∈ digestReads past digest i sendHash, digest.length ≤ j) ↔
      digest.drop i <+: sendHash ∧ digest.drop i ≠ sendHash := by
  induction sendHash generalizing i with
  | nil => simp [digestReads]
  | cons b sendHash ih =>
    rcases Nat.lt_or_ge i digest.length with hi | hi
    · rw [List.drop_eq_getElem_cons hi, List.cons_prefix_cons, ne_eq, List.cons.injEq]
      simp only [digestReads, getD_of_lt hi, List.mem_cons, exists_eq_or_imp]
      rw [or_iff_right (by omega)]
      by_cases hb : b = digest[i]
      · simp only [hb, ne_eq, not_true_eq_false, if_false, true_and]
        exact ih (by omega)
      · simp [hb, Ne.symm hb]
    · rw [List.drop_eq_nil_of_le hi]
      refine ⟨fun _ => ⟨List.nil_prefix, (List.cons_ne_nil _ _).symm⟩, fun _ => ⟨i, ?_, hi⟩⟩
      rw [digestReads]
      exact List.mem_cons_self

end

namespace FileTransferSession

variable (bu : ByteUtils) (past : Nat → UInt8) (s : FileTransferSession)
  (m : FileBinaryResponseMessage)

/-- `pushChunk` comes to the comparison of the hashes. -/
def comparesHashes : Bool :=
  s.isPlatformTransfer && !s.isDone && decide (collected s.chunks < s.size) &&
    !s.previousHashDiffers m

/-- The indices at which `pushChunk` reads the digest of the data. -/
def readsDigest : List Nat :=
  if s.comparesHashes m then
    digestReads past (bu.hashSHA256 m.data) 0 (bu.toByteArray m.currentHash)
  else []

/-- The chunk is stored only if the received hash is the digest of the data, which has 32 bytes, and
the digest is read inside its bounds. -/
structure DigestChecked : Prop where
  stored : (s.pushChunk bu past m).1.chunks = s.chunks ++ [m.chunk] →
    bu.toByteArray m.currentHash = bu.hashSHA256 m.data
  bounded : ∀ i ∈ s.readsDigest bu past m, i < 32

variable {bu past s m}

theorem chunks_rejectChunk : s.rejectChunk.1.chunks = s.chunks := by
  unfold rejectChunk
  dsimp only
  split_ifs
  · rw [changeStatusAndError_fst]
  · rfl

theorem chunks_acceptChunk : (s.acceptChunk bu m).1.chunks = s.chunks ++ [m.chunk] := by
  unfold acceptChunk
  dsimp only
  split_ifs
  · rw [changeStatusAndError_fst]
    rfl
  · rw [changeStatusAndError_fst]
    rfl
  · rfl

theorem pushChunk_compares (h : s.comparesHashes m = true) : s.pushChunk bu past m =
    if hashesDiffer past (bu.hashSHA256 m.data) 0 (bu.toByteArray m.currentHash) then s.rejectChunk
    else s.acceptChunk bu m := by
  simp only [comparesHashes, Bool.and_eq_true, Bool.not_eq_true', decide_eq_true_eq] at h
  obtain ⟨⟨⟨hplatform, hopen⟩, hfit⟩, hprevious⟩ := h
  simp only [pushChunk, isUrlDownload, hplatform, hopen, hprevious, if_neg (not_le.mpr hfit),
    Bool.not_true, Bool.false_eq_true, if_false]

theorem chunks_pushChunk_of_not_compares (h : s.comparesHashes m = false) :
    (s.pushChunk bu past m).1.chunks = s.chunks := by
  unfold pushChunk
  split_ifs with hurl hdone hfull hprevious
  · rfl
  · rfl
  · rfl
  · exact chunks_rejectChunk
  · exact chunks_rejectChunk
  · simp only [isUrlDownload, Bool.not_eq_true', Bool.not_eq_false, Bool.not_eq_true]
      at hurl hdone hprevious
    simp [comparesHashes, hurl, hdone, hprevious, not_le.mp hfull] at h

/-- The chunk is stored when the loop finds no difference. -/
theorem stored_iff : (s.pushChunk bu past m).1.chunks = s.chunks ++ [m.chunk] ↔
    s.comparesHashes m = true ∧
      hashesDiffer past (bu.hashSHA256 m.data) 0 (bu.toByteArray m.currentHash) = false := by
  cases hcompares : s.comparesHashes m with
  | false =>
    rw [chunks_pushChunk_of_not_compares hcompares]
    simp
  | true =>
    rw [pushChunk_compares hcompares]
    cases hashesDiffer past (bu.hashSHA256 m.data) 0 (bu.toByteArray m.currentHash) with
    | true => simp [chunks_rejectChunk]
    | false => simp [chunks_acceptChunk]

/-- As long as the digest is read inside its bounds, a push does not depend on what lies behind. -/
theorem pushChunk_congr {past' : Nat → UInt8} (h : ∀ i ∈ s.readsDigest bu past m, past i = past' i) :
    s.pushChunk bu past m = s.pushChunk bu past' m := by
  cases hcompares : s.comparesHashes m with
  | true =>
    rw [readsDigest, if_pos hcompares] at h
    rw [pushChunk_compares hcompares, pushChunk_compares hcompares, hashesDiffer_congr h]
  | false =>
    unfold pushChunk
    split_ifs with hurl hdone hfull hprevious <;> try rfl
    all_goals
      simp only [isUrlDownload, Bool.not_eq_true', Bool.not_eq_false, Bool.not_eq_true]
        at hurl hdone hprevious
      simp [comparesHashes, hurl, hdone, hprevious, not_le.mp hfull] at hcompares

/-- **What the comparison checks.** A push is right exactly if it does not come to the comparison, or
neither the received hash nor the digest is a proper prefix of the other. -/
theorem digestChecked_iff : DigestChecked bu past s m ↔
    (s.comparesHashes m = true →
      bu.toByteArray m.currentHash <+: bu.hashSHA256 m.data ∨
        bu.hashSHA256 m.data <+: bu.toByteArray m.currentHash →
      bu.toByteArray m.currentHash = bu.hashSHA256 m.data) := by
  have hlength := bu.hashSHA256_length m.data
  constructor
  · rintro ⟨hstored, hbounded⟩ hcompares (hshort | hlong)
    · exact hstored (stored_iff.mpr ⟨hcompares, hashesDiffer_of_prefix hshort⟩)
    · by_contra hne
      obtain ⟨j, hj, hpast⟩ := (digestReads_past_iff past (Nat.zero_le _)).mpr
        ⟨hlong, fun heq => hne heq.symm⟩
      rw [readsDigest, if_pos hcompares] at hbounded
      have := hbounded j hj
      omega
  · intro hequal
    refine ⟨fun hstored => ?_, fun j hj => ?_⟩
    · obtain ⟨hcompares, hsame⟩ := stored_iff.mp hstored
      exact hequal hcompares (prefix_of_hashesDiffer (Nat.zero_le _) hsame)
    · unfold readsDigest at hj
      split_ifs at hj with hcompares
      · by_contra hpast
        obtain ⟨hbegins, hne⟩ := (digestReads_past_iff _ (Nat.zero_le _)).mp ⟨j, hj, by omega⟩
        exact hne (hequal hcompares (.inr hbegins)).symm
      · cases hj

/-- A message without a hash is stored, and a hash of 33 bytes is compared with what lies behind the
digest. -/
theorem not_digestChecked_length :
    let s := ofUpload 0 "d" ⟨"f", 1, "0cc175b9c0f1b6a831c399e269772661"⟩ true
    ¬ DigestChecked tableByteUtils (fun _ => 0) s ⟨"", [97], ""⟩ ∧
    ¬ DigestChecked tableByteUtils (fun _ => 0) s ⟨"", [97], rawString (sha256Table [97] ++ [0])⟩ := by
  refine ⟨fun h => ?_, fun h => ?_⟩
  · exact absurd (h.stored (by decide +kernel)) (by decide)
  · exact absurd (h.bounded 32 (by decide +kernel)) (by decide)

end FileTransferSession

end WolkConnect
