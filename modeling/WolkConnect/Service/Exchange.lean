import WolkConnect.Service.Device
import WolkConnect.Session.Transfer

/-!
# An upload from both sides

The platform begins an upload and answers the chunk requests of the device, one after the
other. A few answers may arrive damaged, and uploads of other devices go on in between. The file
arrives all the same.
-/

namespace WolkConnect

open FileTransferSession (Bad Carries Waiting)

/-! ## Pushes of a waiting session -/

namespace FileTransferSession.Waiting

variable {bu : ByteUtils} {F : Bytes} {last : Option String} {bytes : Bytes} {chunks : List Bytes}
  {k : Nat} {s : FileTransferSession} {m : FileBinaryResponseMessage}

theorem getNextChunkRequest (h : Waiting bu F last (bytes :: chunks) k s) (hb : bytes ≠ []) :
    s.getNextChunkRequest = ⟨s.name, s.chunks.length⟩ := by
  have hfit := h.fits hb
  simp [FileTransferSession.getNextChunkRequest, isUrlDownload_of_platform h.platform, isDone, h.done,
    not_le.mpr hfit]

theorem rejects (h : Waiting bu F last (bytes :: chunks) (k + 1) s) (past : Nat → UInt8)
    (hb : bytes ≠ []) (hm : Bad bu last m) :
    s.pushChunk bu past m = ({ s with retryCount := s.retryCount + 1 }, .fileHashMismatch, []) := by
  have hretry := h.retry
  have hrejected : s.pushChunk bu past m = s.rejectChunk := by
    rcases pushChunk_open bu past m h.platform h.done (h.fits hb) with heq | ⟨hprevious, hcurrent, -⟩
    · exact heq
    rcases hm with ⟨hlength, hne⟩ | hdiffers
    · rw [hashesDiffer_of_length (by rw [hlength, bu.hashSHA256_length])] at hcurrent
      exact absurd (of_decide_eq_false hcurrent) (not_not.mpr hne)
    · rw [h.previousHash.mpr hdiffers] at hprevious
      cases hprevious
  rcases rejectChunk_spec h.status with ⟨-, heq⟩ | ⟨hspent, -⟩
  · rw [hrejected, heq]
  · omega

theorem stores (h : Waiting bu F last (bytes :: chunks) k s) (past : Nat → UInt8) (hb : bytes ≠ [])
    (hrest : 0 < chunks.flatten.length) (hm : Carries bu last bytes m) :
    s.pushChunk bu past m = (s.store m, .none, []) := by
  have hsize := h.collected_store hm.data
  rw [h.accepts hb hm]
  rcases acceptChunk_spec bu m h.status with ⟨-, heq⟩ | ⟨hge, -⟩ | ⟨hge, -⟩
  · exact heq
  · omega
  · omega

theorem finishes (h : Waiting bu F last [bytes] k s) (past : Nat → UInt8) (hb : bytes ≠ [])
    (hm : Carries bu last bytes m) : s.pushChunk bu past m =
      ((s.store m).finished .fileReady .none, .none, [⟨.fileReady, .none⟩]) := by
  have hsize := h.collected_store hm.data
  have hcontent : content (s.store m).chunks = F := by simpa using h.store hm.data
  simp only [List.flatten_nil, List.length_nil, Nat.add_zero] at hsize
  rw [h.accepts hb hm]
  rcases acceptChunk_spec bu m h.status with ⟨hlt, -⟩ | ⟨-, -, heq⟩ | ⟨-, hne, -⟩
  · omega
  · rw [heq, announce, if_pos h.callback]
  · exact absurd (by rw [fileHash, hcontent, h.hash]) hne

end FileTransferSession.Waiting

/-! ## The platform -/

/-- A file that the platform sends to a device in chunks. `hashText` is how it writes a hash. -/
structure Upload (bu : ByteUtils) where
  deviceKey : String
  name : String
  chunks : List Bytes
  hashText : Bytes → String
  name_ne : name ≠ ""
  chunks_ne : chunks ≠ []
  chunk_ne : ∀ bytes ∈ chunks, bytes ≠ []
  hash_ne : bu.toHexString (bu.hashMDA5 chunks.flatten) ≠ ""
  toByteArray_hashText : ∀ bytes, bu.toByteArray (hashText bytes) = bu.hashSHA256 bytes

namespace Upload

variable {bu : ByteUtils} (u : Upload bu)

def file : Bytes := u.chunks.flatten

def initiate : FileUploadInitiateMessage :=
  ⟨u.name, u.file.length, bu.toHexString (bu.hashMDA5 u.file)⟩

/-- The hash of the chunk before the one with this index. -/
def previousHash : Nat → Option String
  | 0 => none
  | n + 1 => u.chunks[n]?.map u.hashText

/-- The answer to a request for the chunk with this index. -/
def response (n : Nat) : FileBinaryResponseMessage :=
  ⟨(u.previousHash n).getD "", u.chunks.getD n [], u.hashText (u.chunks.getD n [])⟩

/-- What the device says about the upload once it has the file, which it could write or not. -/
def statuses (success : Bool) : List Outbound :=
  .fileUploadStatus u.name .fileTransfer .none :: .fileUploadStatus u.name .fileReady .none ::
    if success then [] else [.fileUploadStatus u.name .error .fileSystemError]

theorem carries_response {n : Nat} (hn : n < u.chunks.length) :
    Carries bu (u.previousHash n) u.chunks[n] (u.response n) where
  data := by simp [response, List.getD_eq_getElem?_getD, hn]
  currentHash := u.toByteArray_hashText _
  previousHash h hprevious := by simp [response, hprevious]

theorem currentHash_response {n : Nat} (hn : n < u.chunks.length) :
    some (u.response n).currentHash = u.previousHash (n + 1) := by
  simp [response, previousHash, List.getD_eq_getElem?_getD, hn]

theorem isValid_initiate : FileManagementService.isValid u.initiate = true := by
  have hpos : 0 < u.file.length := FileTransferSession.flatten_pos u.chunk_ne u.chunks_ne
  simp only [FileManagementService.isValid, decide_eq_true_eq]
  exact ⟨u.name_ne, Nat.ne_of_gt hpos, u.hash_ne⟩

end Upload

/-- The service, and what is between it and the platform. -/
structure Exchange (δ φ : Type) where
  sys : System δ φ
  begun : Bool
  /-- The chunk requests of the device that the platform has not answered. -/
  requests : List FileBinaryRequestMessage
  answers : Nat
  /-- How many answers may still get damaged. -/
  damages : Nat

inductive ExchangeEvent (μ : Type)
  | begin (past : Nat → UInt8)
  | answer (past : Nat → UInt8)
  /-- This message arrives instead of the answer. -/
  | damage (message : FileBinaryResponseMessage) (past : Nat → UInt8)
  | other (e : Event μ)

namespace Exchange

section
variable {δ μ φ : Type} (ctx : Context δ μ φ) (u : Upload ctx.bytes) (x : Exchange δ φ)

def create (config : Configuration) (downloader : Option δ) (disk : φ) (damages : Nat) :
    Exchange δ φ :=
  ⟨.create config downloader disk, false, [], 0, damages⟩

/-- The exchange after a step of the service: its new requests are on their way. -/
def follow (sys : System δ φ) : Exchange δ φ :=
  { x with
    sys := sys
    requests := x.requests ++
      (sys.svc.device u.deviceKey).asked.drop (x.sys.svc.device u.deviceKey).asked.length }

/-- The first request is taken for an answer. -/
def take (rest : List FileBinaryRequestMessage) (damages : Nat) : Exchange δ φ :=
  { x with requests := rest, answers := x.answers + 1, damages := damages }

def step : ExchangeEvent μ → Except Fault (Exchange δ φ)
  | .begin past => do
    let sys ← x.sys.step ctx (.receive u.deviceKey (.fileUploadInit u.initiate) past)
    .ok ({ x with begun := true }.follow ctx u sys)
  | .answer past =>
    match x.requests with
    | [] => .ok x
    | request :: rest => do
      let sys ← x.sys.step ctx
        (.receive u.deviceKey (.fileBinaryResponse (u.response request.chunkIndex)) past)
      .ok ((x.take rest x.damages).follow ctx u sys)
  | .damage message past =>
    match x.requests with
    | [] => .ok x
    | _ :: rest => do
      let sys ← x.sys.step ctx (.receive u.deviceKey (.fileBinaryResponse message) past)
      .ok ((x.take rest (x.damages - 1)).follow ctx u sys)
  | .other e => do
    let sys ← x.sys.step ctx e
    .ok (x.follow ctx u sys)

/-- The platform begins once, damage shows in the hashes, and the other messages are about uploads of
other devices. -/
def Fair : ExchangeEvent μ → Prop
  | .begin _ => x.begun = false
  | .answer _ => True
  | .damage message _ => 0 < x.damages ∧
    ∀ request ∈ x.requests, Bad ctx.bytes (u.previousHash request.chunkIndex) message
  | .other (.receive deviceKey message past) => deviceKey ≠ u.deviceKey ∧
    (Event.receive (μ := μ) deviceKey message past).isUploadTraffic = true
  | .other .runCommand => True
  | .other .report | .other (.downloader _) => False

instance (bu : ByteUtils) (last : Option String) (m : FileBinaryResponseMessage) :
    Decidable (Bad bu last m) :=
  decidable_of_iff ((bu.toByteArray m.currentHash).length = 32 ∧
      bu.toByteArray m.currentHash ≠ bu.hashSHA256 m.data ∨ last.any (m.previousHash ≠ ·) = true)
    (or_congr Iff.rfl (by cases last <;> simp))

instance : (e : ExchangeEvent μ) → Decidable (x.Fair ctx u e)
  | .begin _ => inferInstanceAs (Decidable (_ = _))
  | .answer _ => .isTrue trivial
  | .damage _ _ => inferInstanceAs (Decidable (_ ∧ _))
  | .other (.receive _ _ _) => inferInstanceAs (Decidable (_ ∧ _))
  | .other .runCommand => .isTrue trivial
  | .other .report | .other (.downloader _) => .isFalse id

/-- A message about the upload, or a command about the session of the device. -/
def Own : ExchangeEvent μ → Prop
  | .begin _ | .answer _ | .damage _ _ => True
  | .other .runCommand =>
    ∃ c rest, x.sys.svc.commandBuffer = c :: rest ∧ c.sessionOf = some u.deviceKey
  | .other _ => False

end

/-! ## Where an exchange is -/

variable {δ μ φ : Type} {ctx : Context δ μ φ} {u : Upload ctx.bytes} {x x' : Exchange δ φ}
  {budget : Nat}

/-- The part of the service that is about the device. -/
def device (u : Upload ctx.bytes) (x : Exchange δ φ) : DeviceState := x.sys.svc.device u.deviceKey

/-- The path of the file. -/
def path (u : Upload ctx.bytes) (x : Exchange δ φ) : String := x.sys.svc.pathOf ctx u.deviceKey u.name

/-- The file was written once, or the write failed once, and the device has said so. -/
structure Arrived (u : Upload ctx.bytes) (x : Exchange δ φ) (success : Bool) : Prop where
  told : (x.device u).told = u.statuses success
  stored : (x.device u).stored = [(x.path u, u.file, success)]

/-- The service handles messages one at a time, and takes uploads. -/
structure Serves (ctx : Context δ μ φ) (sys : System δ φ) : Prop where
  idle : sys.reporting = none
  enabled : sys.svc.config.fileTransferEnabled = true
  uploads : ∃ es : List (Event μ), Uploads ctx.bytes es sys.svc.core

/-- The stages of an upload. -/
inductive Stands (u : Upload ctx.bytes) (budget : Nat) (x : Exchange δ φ) : Prop
  | before : x.begun = false → x.requests = [] → x.answers = 0 → x.damages = budget →
      x.device u = ⟨none, [], [], [], []⟩ → Stands u budget x
  /-- The chunk after those that are stored has been asked for. -/
  | receiving {n s asked} : x.begun = true → x.requests = [⟨u.name, n⟩] →
      x.answers + x.damages = n + budget → n < u.chunks.length → s.deviceKey = u.deviceKey →
      s.name = u.name → s.chunks.length = n →
      Waiting ctx.bytes u.file (u.previousHash n) (u.chunks.drop n) x.damages s →
      x.device u = ⟨some s, [], [.fileUploadStatus u.name .fileTransfer .none], asked, []⟩ →
      Stands u budget x
  /-- The file is complete, and its status waits in the command buffer. -/
  | received {s asked} : x.begun = true → x.requests = [] →
      x.answers + x.damages = u.chunks.length + budget → s.deviceKey = u.deviceKey →
      s.name = u.name → s.url = "" → s.callback = true → content s.chunks = u.file →
      x.device u = ⟨some s, [.sessionStatus s.ptr ⟨.fileReady, .none⟩],
        [.fileUploadStatus u.name .fileTransfer .none], asked, []⟩ → Stands u budget x
  /-- The status was reported and the file written. The deletion of the session waits. -/
  | written {s asked success} : x.begun = true → x.requests = [] →
      x.answers + x.damages = u.chunks.length + budget → s.deviceKey = u.deviceKey →
      x.device u = ⟨some s, [.resetSession u.deviceKey s.ptr], u.statuses success, asked,
        [(x.path u, u.file, success)]⟩ → Stands u budget x
  | done {asked success} : x.begun = true → x.requests = [] →
      x.answers + x.damages = u.chunks.length + budget →
      x.device u = ⟨none, [], u.statuses success, asked, [(x.path u, u.file, success)]⟩ →
      Stands u budget x

theorem Serves.step {sys sys' : System δ φ} {e : Event μ} (h : Serves ctx sys)
    (htraffic : e.isUploadTraffic = true) (hstep : sys.step ctx e = .ok sys') : Serves ctx sys' := by
  obtain ⟨es, huploads⟩ := h.uploads
  refine ⟨?_, ?_, es ++ [e], huploads.move htraffic (System.step_moves hstep)⟩
  · cases e with
    | receive k m past =>
      obtain ⟨svc, -, rfl⟩ := (System.step_upload sys h.idle htraffic).mp hstep
      exact h.idle
    | runCommand =>
      obtain ⟨svc, -, hsys⟩ := Machine.bind_eq_ok.mp hstep
      cases hsys
      exact h.idle
    | report | downloader => cases htraffic
  · rw [(System.step_files hstep).config]
    exact h.enabled

/-! ## Steps -/

theorem follow_requests {sys : System δ φ} {new : List FileBinaryRequestMessage}
    (h : (sys.svc.device u.deviceKey).asked = (x.device u).asked ++ new) :
    (x.follow ctx u sys).requests = x.requests ++ new := by
  rw [follow, h]
  exact congrArg (x.requests ++ ·) List.drop_left

/-- The upload stands where it stood when nothing happened for the device. -/
theorem Stands.congr (h : Stands u budget x) (hdevice : x'.device u = x.device u)
    (hpath : x'.path u = x.path u) (hbegun : x'.begun = x.begun) (hrequests : x'.requests = x.requests)
    (hanswers : x'.answers = x.answers) (hdamages : x'.damages = x.damages) : Stands u budget x' := by
  cases h with
  | before h₁ h₂ h₃ h₄ h₅ =>
    exact .before (hbegun.trans h₁) (hrequests.trans h₂) (hanswers.trans h₃) (hdamages.trans h₄)
      (hdevice.trans h₅)
  | receiving h₁ h₂ h₃ hn hkey hname hlength hwaiting h₅ =>
    refine .receiving (hbegun.trans h₁) (hrequests.trans h₂) ?_ hn hkey hname hlength ?_
      (hdevice.trans h₅)
    · rw [hanswers, hdamages, h₃]
    · rwa [hdamages]
  | received h₁ h₂ h₃ hkey hname hurl hcallback hcontent h₅ =>
    refine .received (hbegun.trans h₁) (hrequests.trans h₂) ?_ hkey hname hurl hcallback hcontent
      (hdevice.trans h₅)
    rw [hanswers, hdamages, h₃]
  | written h₁ h₂ h₃ hkey h₅ =>
    rw [← hdevice, ← hpath] at h₅
    refine .written (hbegun.trans h₁) (hrequests.trans h₂) ?_ hkey h₅
    rw [hanswers, hdamages, h₃]
  | done h₁ h₂ h₃ h₅ =>
    rw [← hdevice, ← hpath] at h₅
    refine .done (hbegun.trans h₁) (hrequests.trans h₂) ?_ h₅
    rw [hanswers, hdamages, h₃]

theorem path_step {sys : System δ φ} {e : Event μ} (hstep : x.sys.step ctx e = .ok sys)
    {y : Exchange δ φ} (hy : y.sys = sys) : y.path u = x.path u := by
  rw [path, hy]
  exact FileManagementService.pathOf_config (System.step_files hstep).config _

theorem Stands.begin (hserial : ∀ d m, ctx.makeOutboundMessage d m = true) (hbudget : budget ≤ 3)
    (h : Stands u budget x) (hserves : Serves ctx x.sys) (hbegun : x.begun = false)
    (past : Nat → UInt8) :
    ∃ x', x.step ctx u (.begin past) = .ok x' ∧ Stands u budget x' := by
  cases h with
  | before _ hrequests hanswers hdamages hdevice =>
    have hnone : x.sys.svc.session? u.deviceKey = none := congrArg DeviceState.session hdevice
    obtain ⟨sys, hstep, hnext⟩ := System.device_fileUploadInit hserial hserves.idle hserves.enabled
      u.isValid_initiate hnone past
    have hasked : (sys.svc.device u.deviceKey).asked = (x.device u).asked ++ [⟨u.name, 0⟩] :=
      congrArg DeviceState.asked hnext
    have hbefore : x.sys.svc.device u.deviceKey = _ := hdevice
    rw [hbefore] at hnext
    refine ⟨_, Machine.bind_eq_ok.mpr ⟨sys, hstep, rfl⟩, ?_⟩
    refine .receiving rfl ?_ ?_ (List.length_pos_of_ne_nil u.chunks_ne) rfl rfl rfl ?_ hnext
    · exact (follow_requests hasked).trans (by rw [hrequests]; rfl)
    · change x.answers + x.damages = _
      rw [hanswers, hdamages]
    · change Waiting ctx.bytes u.file none u.chunks x.damages _
      exact FileTransferSession.waiting_ofUpload _ _ _ _ _ (hdamages ▸ hbudget) rfl
  | receiving h | received h | written h | done h =>
    rw [h] at hbegun
    cases hbegun

/-- The answer brings the chunk that was asked for. -/
theorem Stands.answer (hserial : ∀ d m, ctx.makeOutboundMessage d m = true)
    (h : Stands u budget x) (hserves : Serves ctx x.sys) (past : Nat → UInt8) :
    ∃ x', x.step ctx u (.answer past) = .ok x' ∧ Stands u budget x' := by
  cases hrequests : x.requests with
  | nil =>
    refine ⟨x, ?_, h⟩
    unfold step
    rw [hrequests]
  | cons request rest =>
    cases h with
    | @receiving n s asked hbegun hrequest hcount hn hkey hname hlength hwaiting hdevice =>
      obtain ⟨rfl, rfl⟩ := List.cons.inj (hrequests.symm.trans hrequest)
      have hsession : x.sys.svc.session? u.deviceKey = some s := congrArg DeviceState.session hdevice
      obtain ⟨sys, hstep, hnext⟩ := System.device_fileBinaryResponse hserial hserves.idle
        hserves.enabled hsession hkey hwaiting.platform (u.response n) past
      have hbefore : x.sys.svc.device u.deviceKey = _ := hdevice
      have hb : u.chunks[n] ≠ [] := u.chunk_ne _ (List.getElem_mem hn)
      rw [List.drop_eq_getElem_cons hn] at hwaiting
      have hstepped : x.step ctx u (.answer past) =
          .ok ((x.take [] x.damages).follow ctx u sys) := by
        unfold step
        rw [hrequests]
        exact Machine.bind_eq_ok.mpr ⟨sys, hstep, rfl⟩
      refine ⟨_, hstepped, ?_⟩
      by_cases hlast : u.chunks.drop (n + 1) = []
      · rw [hlast] at hwaiting
        have hpush := hwaiting.finishes past hb (u.carries_response hn)
        have hend : n + 1 = u.chunks.length := by
          have hle := List.drop_eq_nil_iff.mp hlast
          omega
        have hdevice' : sys.svc.device u.deviceKey =
            ⟨some ((s.store (u.response n)).finished .fileReady .none),
              [.sessionStatus s.ptr ⟨.fileReady, .none⟩],
              [.fileUploadStatus u.name .fileTransfer .none], asked, []⟩ := by
          rw [hnext, hpush, hbefore]
          simp [FileTransferSession.isDone, FileTransferSession.finished]
        refine .received (s := (s.store (u.response n)).finished .fileReady .none) hbegun ?_ ?_ hkey
          hname hwaiting.platform hwaiting.callback ?_ hdevice'
        · have hasked : (sys.svc.device u.deviceKey).asked = asked ++ [] := by
            rw [hdevice', List.append_nil]
          rw [follow_requests (hasked.trans (by rw [take, device, hbefore]))]
          rfl
        · change x.answers + 1 + x.damages = _
          omega
        · exact (List.append_nil _).symm.trans (hwaiting.store (u.carries_response hn).data)
      · have hrest : 0 < (u.chunks.drop (n + 1)).flatten.length :=
          FileTransferSession.flatten_pos (fun c hc => u.chunk_ne c (List.mem_of_mem_drop hc)) hlast
        have hpush := hwaiting.stores past hb hrest (u.carries_response hn)
        obtain ⟨hwaiting', -⟩ := hwaiting.push_chunk past hb hrest (u.carries_response hn)
        rw [hpush, u.currentHash_response hn] at hwaiting'
        have hn' : n + 1 < u.chunks.length := by
          have hlt := mt List.drop_eq_nil_iff.mpr hlast
          omega
        have hb' : u.chunks[n + 1] ≠ [] := u.chunk_ne _ (List.getElem_mem hn')
        have hlength' : (s.store (u.response n)).chunks.length = n + 1 := by
          rw [FileTransferSession.store, List.length_append, hlength]
          rfl
        have hasks : (s.store (u.response n)).getNextChunkRequest = ⟨u.name, n + 1⟩ := by
          have hcons := hwaiting'
          rw [List.drop_eq_getElem_cons hn'] at hcons
          rw [hcons.getNextChunkRequest hb', hlength']
          exact congrArg (FileBinaryRequestMessage.mk · _) hname
        have hopen : (s.store (u.response n)).isDone = false := hwaiting.done
        have hdevice' : sys.svc.device u.deviceKey = ⟨some (s.store (u.response n)), [],
            [.fileUploadStatus u.name .fileTransfer .none], asked ++ [⟨u.name, n + 1⟩], []⟩ := by
          rw [hnext, hpush, hbefore]
          simp [hopen, hasks]
        refine .receiving (s := s.store (u.response n)) hbegun ?_ ?_ hn' hkey hname hlength' hwaiting'
          hdevice'
        · rw [follow_requests (by rw [hdevice', take, device, hbefore])]
          rfl
        · change x.answers + 1 + x.damages = _
          omega
    | before _ h | received _ h | written _ h | done _ h =>
      rw [hrequests] at h
      cases h

/-- The chunk of a damaged answer is asked for again. -/
theorem Stands.damage (hserial : ∀ d m, ctx.makeOutboundMessage d m = true)
    (h : Stands u budget x) (hserves : Serves ctx x.sys) {message : FileBinaryResponseMessage}
    (hpositive : 0 < x.damages)
    (hbad : ∀ request ∈ x.requests, Bad ctx.bytes (u.previousHash request.chunkIndex) message)
    (past : Nat → UInt8) :
    ∃ x', x.step ctx u (.damage message past) = .ok x' ∧ Stands u budget x' := by
  cases hrequests : x.requests with
  | nil =>
    refine ⟨x, ?_, h⟩
    unfold step
    rw [hrequests]
  | cons request rest =>
    cases h with
    | @receiving n s asked hbegun hrequest hcount hn hkey hname hlength hwaiting hdevice =>
      obtain ⟨rfl, rfl⟩ := List.cons.inj (hrequests.symm.trans hrequest)
      have hsession : x.sys.svc.session? u.deviceKey = some s := congrArg DeviceState.session hdevice
      obtain ⟨sys, hstep, hnext⟩ := System.device_fileBinaryResponse hserial hserves.idle
        hserves.enabled hsession hkey hwaiting.platform message past
      have hbefore : x.sys.svc.device u.deviceKey = _ := hdevice
      have hb : u.chunks[n] ≠ [] := u.chunk_ne _ (List.getElem_mem hn)
      obtain ⟨k, hk⟩ : ∃ k, x.damages = k + 1 := ⟨x.damages - 1, by omega⟩
      rw [List.drop_eq_getElem_cons hn, hk] at hwaiting
      have hm := hbad _ (hrequests ▸ List.mem_cons_self)
      have hpush := hwaiting.rejects past hb hm
      obtain ⟨hwaiting', -⟩ := hwaiting.push_bad past hb hm
      rw [hpush, ← List.drop_eq_getElem_cons hn] at hwaiting'
      have hasks : ({ s with retryCount := s.retryCount + 1 } : FileTransferSession).getNextChunkRequest
          = ⟨u.name, n⟩ := by
        have hcons := hwaiting'
        rw [List.drop_eq_getElem_cons hn] at hcons
        rw [hcons.getNextChunkRequest hb]
        exact congrArg₂ FileBinaryRequestMessage.mk hname hlength
      have hdevice' : sys.svc.device u.deviceKey =
          ⟨some { s with retryCount := s.retryCount + 1 }, [],
            [.fileUploadStatus u.name .fileTransfer .none], asked ++ [⟨u.name, n⟩], []⟩ := by
        rw [hnext, hpush, hbefore]
        simp [hasks]
      have hstepped : x.step ctx u (.damage message past) =
          .ok ((x.take [] k).follow ctx u sys) := by
        unfold step
        rw [hrequests, hk]
        exact Machine.bind_eq_ok.mpr ⟨sys, hstep, rfl⟩
      refine ⟨_, hstepped, .receiving (s := { s with retryCount := s.retryCount + 1 }) hbegun ?_ ?_ hn
        hkey hname hlength hwaiting' hdevice'⟩
      · rw [follow_requests (by rw [hdevice', take, device, hbefore])]
        rfl
      · change x.answers + 1 + k = _
        omega
    | before _ h | received _ h | written _ h | done _ h =>
      rw [hrequests] at h
      cases h

/-- The first command of the buffer is about the session of the device. -/
theorem Stands.own (hserial : ∀ d m, ctx.makeOutboundMessage d m = true)
    (h : Stands u budget x) {c : Command} {rest : List Command}
    (hbuffer : x.sys.svc.commandBuffer = c :: rest) (hown : c.sessionOf = some u.deviceKey) :
    ∃ x', x.step ctx u (.other .runCommand) = .ok x' ∧ Stands u budget x' := by
  have hqueue : (x.device u).queue = c :: rest.filter fun c => c.sessionOf = some u.deviceKey := by
    change x.sys.svc.commandBuffer.filter _ = _
    rw [hbuffer, List.filter_cons_of_pos (by simpa using hown)]
  cases h with
  | before _ _ _ _ hdevice | receiving _ _ _ _ _ _ _ _ hdevice | done _ _ _ hdevice =>
    rw [hdevice] at hqueue
    cases hqueue
  | @received s asked hbegun hrequests hcount hkey hname hurl hcallback hcontent hdevice =>
    have hbefore : x.sys.svc.device u.deviceKey = _ := hdevice
    rw [hdevice] at hqueue
    obtain ⟨rfl, hrest⟩ := List.cons.inj hqueue
    have hsession : x.sys.svc.session? u.deviceKey = some s := congrArg DeviceState.session hdevice
    obtain ⟨sys, success, hstep, hnext⟩ := System.device_fileReady hserial hsession hkey hurl hcallback
      hbuffer
    rw [hbefore, ← hrest, hname, hcontent] at hnext
    have hpath : (x.follow ctx u sys).path u = x.path u := path_step hstep rfl
    have hdevice' : (x.follow ctx u sys).device u = ⟨some s, [.resetSession u.deviceKey s.ptr],
        u.statuses success, asked, [((x.follow ctx u sys).path u, u.file, success)]⟩ := by
      rw [hpath]
      exact hnext
    have hasked := (congrArg DeviceState.asked hnext).trans (congrArg DeviceState.asked hdevice).symm
    refine ⟨_, Machine.bind_eq_ok.mpr ⟨sys, hstep, rfl⟩, .written hbegun ?_ hcount hkey hdevice'⟩
    rw [follow_requests (hasked.trans (List.append_nil _).symm), hrequests]
    rfl
  | @written s asked success hbegun hrequests hcount hkey hdevice =>
    have hbefore : x.sys.svc.device u.deviceKey = _ := hdevice
    rw [hdevice] at hqueue
    obtain ⟨rfl, hrest⟩ := List.cons.inj hqueue
    obtain ⟨sys, hstep, hnext⟩ : ∃ sys, x.sys.step ctx .runCommand = .ok sys ∧ _ :=
      System.device_resetSession hbuffer
    rw [hbefore, ← hrest] at hnext
    have hpath : (x.follow ctx u sys).path u = x.path u := path_step hstep rfl
    have hdevice' : (x.follow ctx u sys).device u = ⟨none, [], u.statuses success, asked,
        [((x.follow ctx u sys).path u, u.file, success)]⟩ := by
      rw [hpath]
      exact hnext
    have hasked := (congrArg DeviceState.asked hnext).trans (congrArg DeviceState.asked hdevice).symm
    refine ⟨_, Machine.bind_eq_ok.mpr ⟨sys, hstep, rfl⟩, .done hbegun ?_ hcount hdevice'⟩
    rw [follow_requests (hasked.trans (List.append_nil _).symm), hrequests]
    rfl

theorem Stands.other (hserial : ∀ d m, ctx.makeOutboundMessage d m = true) (h : Stands u budget x)
    (hserves : Serves ctx x.sys) {e : Event μ} (hfair : x.Fair ctx u (.other e))
    (hstep : x.step ctx u (.other e) = .ok x') : Stands u budget x' := by
  obtain ⟨sys, hsys, hx⟩ := Machine.bind_eq_ok.mp hstep
  obtain ⟨es, huploads⟩ := hserves.uploads
  -- Nothing happens for the device.
  have hidle : sys.svc.device u.deviceKey = x.device u → Stands u budget x' := by
    intro hsame
    cases hx
    refine h.congr hsame (path_step hsys rfl) rfl ?_ rfl rfl
    have hasked := (congrArg DeviceState.asked hsame).trans (List.append_nil _).symm
    exact (follow_requests hasked).trans (List.append_nil _)
  cases e with
  | receive k message past =>
    exact hidle (System.device_receive huploads.toKeyed hfair.1 hfair.2 hsys)
  | runCommand =>
    by_cases hother : ∀ c rest, x.sys.svc.commandBuffer = c :: rest → c.sessionOf ≠ some u.deviceKey
    · exact hidle (System.device_runCommand huploads.toKeyed hother hsys)
    · push Not at hother
      obtain ⟨c, rest, hbuffer, hown⟩ := hother
      obtain ⟨t, ht, hstands⟩ := h.own hserial hbuffer hown
      rw [hstep] at ht
      cases ht
      exact hstands
  | report | downloader => exact absurd hfair id

theorem Stands.step (hserial : ∀ d m, ctx.makeOutboundMessage d m = true) (hbudget : budget ≤ 3)
    (h : Stands u budget x) (hserves : Serves ctx x.sys) {e : ExchangeEvent μ} (hfair : x.Fair ctx u e)
    (hstep : x.step ctx u e = .ok x') : Stands u budget x' := by
  have hsame : (∃ t, x.step ctx u e = .ok t ∧ Stands u budget t) → Stands u budget x' := by
    rintro ⟨t, ht, hstands⟩
    rw [hstep] at ht
    cases ht
    exact hstands
  cases e with
  | begin past => exact hsame (h.begin hserial hbudget hserves hfair past)
  | answer past => exact hsame (h.answer hserial hserves past)
  | damage message past => exact hsame (h.damage hserial hserves hfair.1 hfair.2 past)
  | other e => exact h.other hserial hserves hfair hstep

theorem Serves.exchange_step (hserves : Serves ctx x.sys) {e : ExchangeEvent μ}
    (hfair : x.Fair ctx u e) (hstep : x.step ctx u e = .ok x') : Serves ctx x'.sys := by
  cases e with
  | begin past =>
    obtain ⟨sys, hsys, hx⟩ := Machine.bind_eq_ok.mp hstep
    cases hx
    exact hserves.step rfl hsys
  | answer past =>
    simp only [Exchange.step] at hstep
    split at hstep
    · cases hstep
      exact hserves
    · obtain ⟨sys, hsys, hx⟩ := Machine.bind_eq_ok.mp hstep
      cases hx
      exact hserves.step rfl hsys
  | damage message past =>
    simp only [Exchange.step] at hstep
    split at hstep
    · cases hstep
      exact hserves
    · obtain ⟨sys, hsys, hx⟩ := Machine.bind_eq_ok.mp hstep
      cases hx
      exact hserves.step rfl hsys
  | other e =>
    obtain ⟨sys, hsys, hx⟩ := Machine.bind_eq_ok.mp hstep
    cases hx
    cases e with
    | receive => exact hserves.step hfair.2 hsys
    | runCommand => exact hserves.step rfl hsys
    | report | downloader => exact absurd hfair id

theorem stands_create (config : Configuration) (downloader : Option δ) (disk : φ) (budget : Nat) :
    Stands u budget (create config downloader disk budget) :=
  .before rfl rfl rfl rfl rfl

theorem Stands.requests_le (h : Stands u budget x) : x.requests.length ≤ 1 := by
  cases h with
  | receiving _ hrequests => exact le_of_eq (congrArg List.length hrequests)
  | before _ hrequests | received _ hrequests | written _ hrequests | done _ hrequests =>
    rw [hrequests]
    exact Nat.zero_le 1

theorem Stands.answers_le (h : Stands u budget x) :
    x.answers + x.damages ≤ u.chunks.length + budget := by
  cases h with
  | before _ _ hanswers hdamages => omega
  | receiving _ _ hcount hn => omega
  | received _ _ hcount | written _ _ hcount | done _ _ hcount => exact hcount.le

/-- The device has said nothing, or that the transfer goes on, until the file is there. -/
theorem Stands.heard (h : Stands u budget x) :
    ((x.device u).stored = [] ∧
      (x.device u).told <+: [.fileUploadStatus u.name .fileTransfer .none]) ∨
    ∃ success, x.Arrived u success := by
  cases h with
  | before _ _ _ _ hdevice => exact .inl (by rw [hdevice]; exact ⟨rfl, ⟨_, List.nil_append _⟩⟩)
  | receiving _ _ _ _ _ _ _ _ hdevice | received _ _ _ _ _ _ _ _ hdevice =>
    exact .inl (by rw [hdevice]; exact ⟨rfl, List.prefix_rfl⟩)
  | written _ _ _ _ hdevice | done _ _ _ hdevice =>
    exact .inr ⟨_, congrArg DeviceState.told hdevice, congrArg DeviceState.stored hdevice⟩

/-- Nothing is on its way for the device. -/
theorem Stands.settled (h : Stands u budget x) (hbegun : x.begun = true) (hrequests : x.requests = [])
    (hqueue : (x.device u).queue = []) : (∃ success, x.Arrived u success) ∧
      x.answers + x.damages = u.chunks.length + budget := by
  cases h with
  | before h => exact absurd (h.symm.trans hbegun) (by decide)
  | receiving _ h => exact absurd (h.symm.trans hrequests) (List.cons_ne_nil _ _)
  | received _ _ _ _ _ _ _ _ hdevice | written _ _ _ _ hdevice =>
    rw [hdevice] at hqueue
    exact absurd hqueue (List.cons_ne_nil _ _)
  | done _ _ hcount hdevice =>
    exact ⟨⟨_, congrArg DeviceState.told hdevice, congrArg DeviceState.stored hdevice⟩, hcount⟩

/-- With at most three damaged answers the transfer never fails: each chunk is asked for until it
comes, and no step for the device faults. Once nothing is on its way the whole file was written, once,
or the write failed. -/
theorem upload_arrives (hserial : ∀ d m, ctx.makeOutboundMessage d m = true) (config : Configuration)
    (henabled : config.fileTransferEnabled = true) (downloader : Option δ) (disk : φ)
    (hbudget : budget ≤ 3) {es : List (ExchangeEvent μ)}
    (hrun : Machine.Run (step ctx u) (Fair ctx u) (create config downloader disk budget) es x) :
    x.requests.length ≤ 1 ∧ x.answers + x.damages ≤ u.chunks.length + budget ∧
    (((x.device u).stored = [] ∧
      (x.device u).told <+: [.fileUploadStatus u.name .fileTransfer .none]) ∨
      ∃ success, x.Arrived u success) ∧
    (x.begun = true → x.requests = [] → (x.device u).queue = [] →
      (∃ success, x.Arrived u success) ∧ x.answers + x.damages = u.chunks.length + budget) ∧
    ∀ e, x.Fair ctx u e → x.Own ctx u e → ∃ t, x.step ctx u e = .ok t := by
  obtain ⟨hstands, hserves⟩ := hrun.invariant (fun x => Stands u budget x ∧ Serves ctx x.sys)
    ⟨stands_create config downloader disk budget, rfl, henabled, [],
      uploads_create config downloader disk⟩
    fun s e t ⟨hstands, hserves⟩ hfair hstep =>
      ⟨hstands.step hserial hbudget hserves hfair hstep, hserves.exchange_step hfair hstep⟩
  refine ⟨hstands.requests_le, hstands.answers_le, hstands.heard, hstands.settled, ?_⟩
  intro e hfair hown
  cases e with
  | begin past =>
    obtain ⟨t, ht, -⟩ := hstands.begin hserial hbudget hserves hfair past
    exact ⟨t, ht⟩
  | answer past =>
    obtain ⟨t, ht, -⟩ := hstands.answer hserial hserves past
    exact ⟨t, ht⟩
  | damage message past =>
    obtain ⟨t, ht, -⟩ := hstands.damage hserial hserves hfair.1 hfair.2 past
    exact ⟨t, ht⟩
  | other e =>
    cases e with
    | runCommand =>
      obtain ⟨c, rest, hbuffer, hown⟩ := hown
      obtain ⟨t, ht, -⟩ := hstands.own hserial hbuffer hown
      exact ⟨t, ht⟩
    | receive | report | downloader => exact absurd hown id

/-- The file "ab" for the device "d", in two chunks. -/
def uploadAB : Upload uploadContext.bytes where
  deviceKey := "d"
  name := "f"
  chunks := [[97], [98]]
  hashText bytes := rawString (sha256Table bytes)
  name_ne := by decide
  chunks_ne := List.cons_ne_nil _ _
  chunk_ne := by decide
  hash_ne := by decide
  toByteArray_hashText bytes := rawBytes_rawString _

/-- The second chunk comes with a wrong previous hash first, while another device gets a file too. -/
theorem upload_arrives_ab : ∃ (es : List (ExchangeEvent Empty)) (x : Exchange Empty PathDisk),
    Machine.Run (step uploadContext uploadAB) (Fair uploadContext uploadAB)
      (create openConfiguration none ⟨[], []⟩ 1) es x ∧
    x.answers = 3 ∧ (∃ success, x.Arrived uploadAB success) ∧
    (x.sys.svc.device "e").told.length = 1 := by
  obtain ⟨x, hrun, hlast⟩ := Machine.Run.exists_of_check (step uploadContext uploadAB)
    (Fair uploadContext uploadAB) (create openConfiguration none ⟨[], []⟩ 1)
    [.begin fun _ => 0, .answer fun _ => 0,
      .other (.receive "e" (.fileUploadInit ⟨"f", 1, "0cc175b9c0f1b6a831c399e269772661"⟩) fun _ => 0),
      .damage ⟨"", [98], rawString (sha256Table [98])⟩ fun _ => 0, .answer fun _ => 0,
      .other .runCommand, .other .runCommand, .other .runCommand]
    (fun x => (x.begun, x.requests, (x.sys.svc.device "d").queue, x.damages,
      (x.sys.svc.device "e").told.length))
    (true, [], [], 0, 1) (by decide +kernel)
  simp only [Prod.mk.injEq] at hlast
  obtain ⟨hbegun, hrequests, hqueue, hdamages, hother⟩ := hlast
  have hsettled := upload_arrives (fun _ _ => rfl) openConfiguration rfl none _
    (by decide : 1 ≤ 3) hrun
  obtain ⟨harrived, hcount⟩ := hsettled.2.2.2.1 hbegun hrequests hqueue
  rw [hdamages] at hcount
  exact ⟨_, x, hrun, hcount, harrived, hother⟩

end Exchange

end WolkConnect
