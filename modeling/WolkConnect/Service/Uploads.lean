import WolkConnect.Service.Keyed
import WolkConnect.Session.Invariant

/-!
# Runs of platform uploads

Initiations, chunks and aborts of platform uploads, and the queued commands, in any
order. Every live session then keeps the invariant of the message that made it.
-/

namespace WolkConnect

open FileTransferSession (Invariant Kept)

/-- A message about a platform upload, or a queued command. -/
def Event.isUploadTraffic {μ : Type} : Event μ → Bool
  | .receive _ (.fileUploadInit _) _ => true
  | .receive _ (.fileUploadAbort _) _ => true
  | .receive _ (.fileBinaryResponse _) _ => true
  | .runCommand => true
  | _ => false

/-- The message that made the session is in the run, and the session keeps its invariant. -/
def Declared {μ : Type} (bu : ByteUtils) (es : List (Event μ)) (s : FileTransferSession) : Prop :=
  ∃ m past, Event.receive s.deviceKey (.fileUploadInit m) past ∈ es ∧ Invariant bu m s

structure Uploads {δ μ : Type} (bu : ByteUtils) (es : List (Event μ)) (c : Core δ) : Prop
    extends c.Keyed where
  declared : ∀ d s, c.session d = some s → Declared bu es s

variable {δ μ φ : Type} {ctx : Context δ μ φ} {bu : ByteUtils} {es : List (Event μ)} {e : Event μ}
  {c c' : Core δ} {s : FileTransferSession} {r : FileTransferSession × List Announcement}
  {d : String}

theorem Declared.later (h : Declared bu es s) (es' : List (Event μ)) :
    Declared bu (es ++ es') s := by
  obtain ⟨m, past, hm, hinv⟩ := h
  exact ⟨m, past, List.mem_append_left _ hm, hinv⟩

theorem Declared.platform (h : Declared bu es s) : s.url = "" := by
  obtain ⟨_, _, _, hinv⟩ := h
  exact hinv.platform

theorem Declared.done_iff (h : Declared bu es s) :
    s.done = true ↔ s.status ≠ .fileTransfer := by
  obtain ⟨_, _, _, hinv⟩ := h
  exact hinv.done_iff

theorem Declared.pushChunk (h : Declared bu es s) (past : Nat → UInt8)
    (m : FileBinaryResponseMessage) : Declared bu es (s.pushChunk bu past m).1 := by
  obtain ⟨init, past', hinit, hinv⟩ := h
  refine ⟨init, past', ?_, hinv.pushChunk⟩
  have hkept : s.Kept _ := FileTransferSession.kept_pushChunk bu past m
  rwa [hkept.deviceKey]

theorem Declared.abort (h : Declared bu es s) : Declared bu es s.abort.1 := by
  obtain ⟨init, past', hinit, hinv⟩ := h
  refine ⟨init, past', ?_, hinv.abort⟩
  have hkept : s.Kept _ := FileTransferSession.kept_abort
  rwa [hkept.deviceKey]

theorem declared_put (h : ∀ d s, c.session d = some s → Declared bu es s)
    (hr : Declared bu es r.1) :
    ∀ d' t, (c.put d r).session d' = some t → Declared bu (es ++ [e]) t := by
  intro d' t ht
  rcases Core.session_of_put ht with ⟨-, rfl⟩ | ⟨-, ht⟩
  · exact hr.later _
  · exact (h d' t ht).later _

theorem Uploads.move (h : Uploads ctx.bytes es c) (ht : e.isUploadTraffic = true)
    (hm : Moves ctx e c c') : Uploads ctx.bytes (es ++ [e]) c' := by
  refine ⟨h.toKeyed.move hm, ?_⟩
  have hlater : ∀ d s, c.session d = some s → Declared ctx.bytes (es ++ [e]) s :=
    fun d s hs => (h.declared d s hs).later _
  cases hm with
  | idle => exact hlater
  | @upload d m past _ hnone hvalid =>
    have hsize : 0 < m.size := by
      simp only [FileManagementService.isValid, ne_eq, decide_eq_true_eq] at hvalid
      omega
    intro d' t ht
    rcases Core.session_of_start ht with ⟨rfl, rfl⟩ | ⟨-, ht⟩
    · exact ⟨m, past, by simp [FileTransferSession.ofUpload],
        FileTransferSession.invariant_ofUpload _ _ _ _ _ hsize⟩
    · exact hlater d' t ht
  | download => simp [Event.isUploadTraffic] at ht
  | chunk hs => exact declared_put h.declared ((h.declared _ _ hs).pushChunk _ _)
  | abort hs => exact declared_put h.declared (h.declared _ _ hs).abort
  | status => exact hlater
  | dropped => exact hlater
  | @reset _ d =>
    intro d' t ht
    exact hlater d' t (Core.session_of_drop ht)
  | moved => simp [Event.isUploadTraffic] at ht
  | called => simp [Event.isUploadTraffic] at ht

theorem uploads_create (config : Configuration) (x : Option δ) (disk : φ) :
    Uploads bu ([] : List (Event μ)) (System.create config x disk).svc.core where
  toKeyed := Core.keyed_create config x disk
  declared d s hs := by cases hs

end WolkConnect
