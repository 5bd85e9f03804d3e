import WolkConnect.Service.Quiet
import WolkConnect.Service.Reports
import WolkConnect.Service.Uploads
import WolkConnect.Session.Retries

/-!
# Chunk requests

A chunk is asked for when a session is made, and after every push that leaves it open.
-/

namespace WolkConnect

/-- The device and the request of a published chunk request. -/
def Effect.chunkRequest : Effect → Option (String × FileBinaryRequestMessage)
  | .published deviceKey (.fileBinaryRequest request) _ => some (deviceKey, request)
  | _ => none

/-- The chunk requests among these effects. -/
def chunkRequests (effects : List Effect) : List (String × FileBinaryRequestMessage) :=
  effects.filterMap Effect.chunkRequest

/-- What is to be asked for in this state of a session: the chunk after those that are stored. -/
def due (d : String) : Option FileTransferSession → List (String × FileBinaryRequestMessage)
  | some s => if s.done then [] else [(d, ⟨s.name, s.chunks.length⟩)]
  | none => []

theorem chunkRequests_append (l l' : List Effect) :
    chunkRequests (l ++ l') = chunkRequests l ++ chunkRequests l' :=
  List.filterMap_append

theorem chunkRequests_filter (log : List Effect) :
    chunkRequests (log.filter Effect.isSaid) = chunkRequests log := by
  apply filterMap_isSaid
  intro e he
  cases e with
  | published d message session =>
    cases message with
    | fileBinaryRequest request => cases he
    | _ => rfl
  | _ => rfl

namespace FileTransferSession

variable {bu : ByteUtils} {message : FileUploadInitiateMessage} {s : FileTransferSession}

theorem name_pushChunk (bu : ByteUtils) (past : Nat → UInt8) (m : FileBinaryResponseMessage) :
    (s.pushChunk bu past m).1.name = s.name := by
  unfold pushChunk rejectChunk acceptChunk
  dsimp only
  split_ifs <;> first | rfl | exact name_changeStatusAndError _ _

/-- An open session asks for its next chunk. -/
theorem Invariant.getNextChunkRequest (h : Invariant bu message s) (hopen : s.done = false) :
    s.getNextChunkRequest = ⟨s.name, s.chunks.length⟩ := by
  have hfit := h.fits hopen
  simp [FileTransferSession.getNextChunkRequest, isUrlDownload_of_platform h.platform, isDone, hopen,
    not_le.mpr hfit]

/-- The request that follows a push depends on the state that the push leaves only. -/
theorem Invariant.asks_iff (h : Invariant bu message s) (past : Nat → UInt8)
    (m : FileBinaryResponseMessage) :
    ((s.pushChunk bu past m).2.1 = .fileHashMismatch ∨ (s.pushChunk bu past m).1.isDone = false) ↔
      (s.pushChunk bu past m).1.done = false := by
  constructor
  · rintro (hreturned | hopen)
    · have hm := h.mismatch_of_returned (p := ⟨m, past⟩) hreturned
      have hopen := (h.push_mismatch hm).1
      rcases h.push_retry hm with ⟨-, heq⟩ | ⟨-, heq⟩
      · rw [heq]
        exact hopen
      · rw [heq] at hreturned
        cases hreturned
    · exact hopen
  · exact .inr

end FileTransferSession

namespace FileManagementService

variable {δ μ φ : Type} {ctx : Context δ μ φ} {svc : FileManagementService δ φ} {d : String}

theorem chunkRequests_publish (hserial : ∀ d m, ctx.makeOutboundMessage d m = true) (d : String)
    (message : Outbound) (session : Option SessionPtr) :
    chunkRequests (svc.publish ctx d message session).log =
      chunkRequests svc.log ++ chunkRequests [.published d message session] := by
  rw [publish, if_pos (hserial d message), chunkRequests_append]

theorem session?_putSession (r : FileTransferSession × List Announcement) :
    (svc.putSession d r).session? d = some r.1 := by
  simp [session?, putSession]

/-- One request for each chunk that is still to come. -/
theorem chunkRequests_onFileBinaryResponse (hserial : ∀ d m, ctx.makeOutboundMessage d m = true)
    (past : Nat → UInt8) (m : FileBinaryResponseMessage)
    (hinv : ∀ s, svc.session? d = some s → ∃ message, FileTransferSession.Invariant ctx.bytes message s) :
    chunkRequests (svc.onFileBinaryResponse ctx past d m).log =
      chunkRequests svc.log ++ due d ((svc.onFileBinaryResponse ctx past d m).session? d) := by
  unfold onFileBinaryResponse
  cases hs : svc.session? d with
  | none => simp [hs, due]
  | some s =>
    obtain ⟨message, h⟩ := hinv s hs
    have hplatform : s.isPlatformTransfer = true := by
      simp [FileTransferSession.isPlatformTransfer, h.platform]
    have hafter : FileTransferSession.Invariant ctx.bytes message
        (s.pushChunk ctx.bytes past m).1 := h.pushChunk
    dsimp only
    rw [if_pos hplatform]
    simp only [h.asks_iff]
    split_ifs with hopen
    · rw [sendChunkRequest, chunkRequests_publish hserial, session?_of_core (core_publish _ _ _),
        session?_putSession, hafter.getNextChunkRequest hopen, due,
        if_neg (by rw [hopen]; exact Bool.false_ne_true)]
      rfl
    · rw [session?_putSession, due, if_pos (by simpa using hopen), List.append_nil]
      rfl

end FileManagementService

namespace System

open FileManagementService (Says)

variable {δ μ φ : Type} {ctx : Context δ μ φ} {sys sys' : System δ φ} {e : Event μ}
  {es : List (Event μ)}

/-- What holds in runs of platform uploads: every session is of the platform and has a name, there is
none if platform transfers are disabled, and every request so far has a name. -/
structure Asking (ctx : Context δ μ φ) (es : List (Event μ)) (sys : System δ φ) : Prop where
  uploads : Uploads ctx.bytes es sys.svc.core
  idle : sys.reporting = none
  named : ∀ d s, sys.svc.session? d = some s → s.name ≠ ""
  disabled : ∀ d s, sys.svc.session? d = some s → sys.svc.config.fileTransferEnabled = true
  asked : ∀ r ∈ chunkRequests sys.svc.log, r.2.name ≠ ""

theorem asking_create (config : Configuration) (x : Option δ) (disk : φ) :
    Asking ctx [] (create config x disk) where
  uploads := uploads_create config x disk
  idle := rfl
  named d s hs := by cases hs
  disabled d s hs := by cases hs
  asked r hr := by cases hr

theorem Asking.invariant (h : Asking ctx es sys) {d : String} {s : FileTransferSession}
    (hs : sys.svc.session? d = some s) :
    ∃ message, FileTransferSession.Invariant ctx.bytes message s := by
  obtain ⟨message, -, -, hinv⟩ := h.uploads.declared d s hs
  exact ⟨message, hinv⟩

theorem Asking.session (h : Asking ctx es sys) {d : String} {s : FileTransferSession}
    (hs : sys.svc.session? d = some s) :
    s.name ≠ "" ∧ sys.svc.config.fileTransferEnabled = true :=
  ⟨h.named d s hs, h.disabled d s hs⟩

theorem names_spokenRequest (d : String) {s : FileTransferSession} {request : FileBinaryRequestMessage}
    (hs : s.getNextChunkRequest = request) (hname : request.name ≠ "") :
    ∀ r ∈ chunkRequests (ctx.spokenRequest d s), r.2.name ≠ "" := by
  unfold Context.spokenRequest Context.spoken
  split_ifs
  · simpa [chunkRequests, Effect.chunkRequest, hs] using hname
  · simp [chunkRequests]

theorem names_spokenStatus (d : String) (s : FileTransferSession) (status : FileTransferStatus)
    (error : FileTransferError) : chunkRequests (ctx.spokenStatus d s status error) = [] := by
  unfold Context.spokenStatus Context.spoken FileManagementService.statusMessage
  split_ifs <;> rfl

theorem names_spokenFailure (d : String) (s : FileTransferSession) (effects : List Effect) :
    chunkRequests (ctx.spokenFailure d s effects) = [] := by
  unfold Context.spokenFailure
  split_ifs
  · exact names_spokenStatus d s _ _
  · rfl

/-- What the sessions of the next state have to be for a step to keep `Asking`. -/
theorem Asking.next (h : Asking ctx es sys) (ht : e.isUploadTraffic = true)
    (hstep : sys.step ctx e = .ok sys') {said : List Effect} (hspoken : Says sys.svc sys'.svc said)
    (hidle : sys'.reporting = none)
    (hsessions : ∀ d s, sys'.svc.session? d = some s →
      s.name ≠ "" ∧ sys.svc.config.fileTransferEnabled = true)
    (hsaid : ∀ r ∈ chunkRequests said, r.2.name ≠ "") : Asking ctx (es ++ [e]) sys' where
  uploads := h.uploads.move ht (step_moves hstep)
  idle := hidle
  named d s hs := (hsessions d s hs).1
  disabled d s hs := by
    rw [(step_files hstep).config]
    exact (hsessions d s hs).2
  asked r hr := by
    obtain ⟨more, hlog, hmore⟩ := hspoken
    rw [hlog, chunkRequests_append, ← chunkRequests_filter more, hmore] at hr
    exact (List.mem_append.mp hr).elim (h.asked r) (hsaid r)

theorem Asking.step (h : Asking ctx es sys) (ht : e.isUploadTraffic = true)
    (hstep : sys.step ctx e = .ok sys') : Asking ctx (es ++ [e]) sys' := by
  obtain ⟨said, hspoken, hacts⟩ := step_acts hstep
  have hsession : ∀ {c : Core δ}, sys'.scene = ⟨c, none⟩ → ∀ d, sys'.svc.session? d = c.session d :=
    fun hscene d => congrFun (congrArg (fun x => x.core.session) hscene) d
  cases hacts with
  | idle hscene =>
    have hreporting : sys'.reporting = sys.reporting := congrArg Scene.reporting hscene
    refine h.next ht hstep hspoken (hreporting.trans h.idle) (fun d s hs => ?_)
      (by simp [chunkRequests])
    exact h.session ((congrFun (congrArg (fun x => x.core.session) hscene) d).symm.trans hs)
  | @upload d m past s hhears _ _ hvalid hs hscene =>
    simp only [hears, h.idle, Option.isNone_none, Bool.true_and] at hhears
    simp only [FileManagementService.isValid, ne_eq, decide_eq_true_eq] at hvalid
    have hname : s.name ≠ "" := by
      rw [hs]
      exact hvalid.1
    refine h.next ht hstep hspoken (congrArg Scene.reporting hscene) (fun d' s' hs' => ?_) ?_
    · rw [hsession hscene] at hs'
      rcases Core.session_of_start hs' with ⟨-, rfl⟩ | ⟨-, hs'⟩
      · exact ⟨hname, hhears⟩
      · exact h.session hs'
    · have hfresh : FileTransferSession.Invariant ctx.bytes m s := by
        rw [hs]
        exact FileTransferSession.invariant_ofUpload _ _ _ _ _ (by omega)
      rw [chunkRequests_append, names_spokenStatus]
      exact names_spokenRequest d (hfresh.getNextChunkRequest (by rw [hs]; rfl)) hname
  | download => simp [Event.isUploadTraffic] at ht
  | @chunk d m past s r hreporting hs hurl hr hscene =>
    obtain ⟨message, hinv⟩ := h.invariant hs
    subst hr
    have hname : (s.pushChunk ctx.bytes past m).1.name ≠ "" := by
      rw [FileTransferSession.name_pushChunk]
      exact h.named d s hs
    refine h.next ht hstep hspoken (congrArg Scene.reporting hscene) (fun d' s' hs' => ?_) ?_
    · rw [hsession hscene] at hs'
      rcases Core.session_of_put hs' with ⟨-, rfl⟩ | ⟨-, hs'⟩
      · exact ⟨hname, h.disabled d s hs⟩
      · exact h.session hs'
    · simp only [hinv.asks_iff]
      have hafter : FileTransferSession.Invariant ctx.bytes message
          (s.pushChunk ctx.bytes past m).1 := hinv.pushChunk
      split_ifs with hopen
      · exact names_spokenRequest d (hafter.getNextChunkRequest hopen) hname
      · simp [chunkRequests]
  | @abort d m past s x _ _ hs _ _ hscene =>
    refine h.next ht hstep hspoken (congrArg Scene.reporting hscene) (fun d' s' hs' => ?_)
      (by simp [chunkRequests])
    rw [hsession hscene] at hs'
    rcases Core.session_of_put hs' with ⟨-, rfl⟩ | ⟨-, hs'⟩
    · rw [FileTransferSession.name_abort]
      exact h.session hs
    · exact h.session hs'
  | report => simp [Event.isUploadTraffic] at ht
  | unreported => simp [Event.isUploadTraffic] at ht
  | status _ _ _ _ _ _ hscene =>
    rw [h.idle] at hscene
    refine h.next ht hstep hspoken (congrArg Scene.reporting hscene) (fun d' s' hs' => ?_) ?_
    · rw [hsession hscene] at hs'
      exact h.session hs'
    · rw [chunkRequests_append, names_spokenStatus, names_spokenFailure]
      simp
  | dropped _ _ _ hscene =>
    rw [h.idle] at hscene
    refine h.next ht hstep hspoken (congrArg Scene.reporting hscene) (fun d' s' hs' => ?_)
      (by simp [chunkRequests])
    rw [hsession hscene] at hs'
    exact h.session hs'
  | reset _ hscene =>
    rw [h.idle] at hscene
    refine h.next ht hstep hspoken (congrArg Scene.reporting hscene) (fun d' s' hs' => ?_)
      (by simp [chunkRequests])
    rw [hsession hscene] at hs'
    exact h.session (Core.session_of_drop hs')
  | moved => simp [Event.isUploadTraffic] at ht
  | called => simp [Event.isUploadTraffic] at ht

theorem step_fileBinaryResponse (ctx : Context δ μ φ) (hidle : sys.reporting = none) (d : String)
    (m : FileBinaryResponseMessage) (past : Nat → UInt8) :
    sys.step ctx (.receive d (.fileBinaryResponse m) past) = .ok
      ⟨if sys.svc.config.fileTransferEnabled then sys.svc.onFileBinaryResponse ctx past d m
        else sys.svc, none⟩ := by
  obtain ⟨svc, reporting⟩ := sys
  cases hidle
  simp only [System.step, receive, FileManagementService.messageReceived]
  split_ifs <;> rfl

/-- **Chunk requests drive the transfer.** In every state that platform uploads lead to, a chunk for a
device publishes the request for the chunk after those that are stored then, if the session is open,
and no other request. No request without a name was published before, or is now. -/
theorem chunk_requests (hserial : ∀ d m, ctx.makeOutboundMessage d m = true) (config : Configuration)
    (x : Option δ) (disk : φ)
    (h : Machine.Run (step ctx) (fun _ e => e.isUploadTraffic = true) (create config x disk) es sys)
    (d : String) (m : FileBinaryResponseMessage) (past : Nat → UInt8) :
    ∃ sys', sys.step ctx (.receive d (.fileBinaryResponse m) past) = .ok sys' ∧
      chunkRequests sys'.svc.log = chunkRequests sys.svc.log ++ due d (sys'.svc.session? d) ∧
      ∀ r ∈ chunkRequests sys'.svc.log, r.2.name ≠ "" := by
  have hasking : Asking ctx es sys := h.history (Asking ctx) (asking_create config x disk)
    fun _ _ _ _ hs ht hstep => hs.step ht hstep
  have hstep := step_fileBinaryResponse ctx hasking.idle d m past
  refine ⟨_, hstep, ?_, (hasking.step rfl hstep).asked⟩
  dsimp only
  split_ifs with henabled
  · exact FileManagementService.chunkRequests_onFileBinaryResponse hserial past m
      fun s hs => hasking.invariant hs
  · have hnone : sys.svc.session? d = none := by
      rw [Option.eq_none_iff_forall_ne_some]
      exact fun s hs => henabled (hasking.disabled d s hs)
    rw [hnone, due, List.append_nil]

theorem chunk_requests_wrong : ∃ sys sys' : System Empty PathDisk,
    chunkRequests sys.svc.log = [("d", ⟨"f", 0⟩)] ∧
    sys.step uploadContext (.receive "d"
      (.fileBinaryResponse FileTransferSession.Push.wrongHash.message) fun _ => 0) = .ok sys' ∧
    chunkRequests sys'.svc.log = chunkRequests sys.svc.log ++ due "d" (sys'.svc.session? "d") ∧
    ∀ r ∈ chunkRequests sys'.svc.log, r.2.name ≠ "" := by
  obtain ⟨sys, hrun, hfirst⟩ := Machine.Run.exists_of_check (step uploadContext)
    (fun _ e => e.isUploadTraffic = true) uploadSystem [Event.initA]
    (fun sys => chunkRequests sys.svc.log)
    [("d", ⟨"f", 0⟩)] (by decide +kernel)
  obtain ⟨sys', hstep, hsame, hnames⟩ := chunk_requests (fun _ _ => rfl) _ _ _ hrun "d"
    FileTransferSession.Push.wrongHash.message fun _ => 0
  exact ⟨sys, sys', hfirst, hstep, hsame, hnames⟩

end System

end WolkConnect
