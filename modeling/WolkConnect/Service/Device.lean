import WolkConnect.Service.Requests
import WolkConnect.Service.Independence

/-!
# What the service does for one device

The session of a device, the commands that are queued for it, and what was said and
written for it. The uploads of other devices leave all of it alone.
-/

namespace WolkConnect

/-- The status message, when it is about a session of the device. -/
def Effect.toldTo (d : String) : Effect → Option Outbound
  | .published deviceKey message (some _) => if deviceKey = d then some message else none
  | _ => none

/-- The chunk request, when it is for the device. -/
def Effect.askedFor (d : String) (e : Effect) : Option FileBinaryRequestMessage :=
  e.chunkRequest.bind fun request => if request.1 = d then some request.2 else none

/-- The path, the content and the success of a write, when it is for a session of the device. -/
def Effect.storedFor (d : String) : Effect → Option (String × Bytes × Bool)
  | .stored session path bytes success =>
    if session.deviceKey = d then some (path, bytes, success) else none
  | _ => none

/-- The device that a command about a session is for. -/
def Command.sessionOf : Command → Option String
  | .sessionStatus session _ => some session.deviceKey
  | .resetSession deviceKey _ => some deviceKey
  | .onAddedFile _ _ _ | .onRemovedFile _ _ => none

/-- The part of a service that is about one device. -/
structure DeviceState where
  session : Option FileTransferSession
  queue : List Command
  told : List Outbound
  asked : List FileBinaryRequestMessage
  stored : List (String × Bytes × Bool)

section
variable {δ μ φ : Type} {ctx : Context δ μ φ} {d k : String}

namespace FileManagementService

variable {svc svc' : FileManagementService δ φ}

def device (d : String) (svc : FileManagementService δ φ) : DeviceState where
  session := svc.session? d
  queue := svc.commandBuffer.filter fun c => c.sessionOf = some d
  told := svc.log.filterMap (Effect.toldTo d)
  asked := svc.log.filterMap (Effect.askedFor d)
  stored := svc.log.filterMap (Effect.storedFor d)

/-! ## In terms of the core and of what is said -/

theorem device_queue : (svc.device d).queue = svc.core.queue.filter fun c => c.sessionOf = some d := by
  change svc.commandBuffer.filter _ = (svc.commandBuffer.filter _).filter _
  rw [List.filter_filter]
  refine List.filter_congr fun c _ => ?_
  cases c <;> simp [Command.sessionOf, Command.isNotice]

theorem device_stored : (svc.device d).stored = svc.core.log.filterMap (Effect.storedFor d) := by
  change svc.log.filterMap _ = (svc.log.filter _).filterMap _
  rw [List.filterMap_filter]
  refine List.filterMap_congr fun e _ => ?_
  cases e <;> simp [Effect.storedFor, Effect.isDeed]

theorem Says.told {said : List Effect} (h : Says svc svc' said) :
    (svc'.device d).told = (svc.device d).told ++ said.filterMap (Effect.toldTo d) := by
  obtain ⟨more, hlog, rfl⟩ := h
  have hnone : ∀ e : Effect, e.isSaid = false → e.toldTo d = none := by
    intro e he
    cases e with
    | published k message session =>
      cases session with
      | none => rfl
      | some p => cases message <;> cases he
    | _ => rfl
  change svc'.log.filterMap _ = svc.log.filterMap _ ++ _
  rw [hlog, List.filterMap_append, filterMap_isSaid hnone]

theorem Says.asked {said : List Effect} (h : Says svc svc' said) :
    (svc'.device d).asked = (svc.device d).asked ++ said.filterMap (Effect.askedFor d) := by
  obtain ⟨more, hlog, rfl⟩ := h
  have hnone : ∀ e : Effect, e.isSaid = false → e.askedFor d = none := by
    intro e he
    cases e with
    | published k message session =>
      cases message with
      | fileBinaryRequest request => cases he
      | _ => rfl
    | _ => rfl
  change svc'.log.filterMap _ = svc.log.filterMap _ ++ _
  rw [hlog, List.filterMap_append, filterMap_isSaid hnone]

/-- Nothing is said to the device. -/
def Unheard (d : String) (said : List Effect) : Prop :=
  said.filterMap (Effect.toldTo d) = [] ∧ said.filterMap (Effect.askedFor d) = []

theorem unheard_nil : Unheard d [] := ⟨rfl, rfl⟩

theorem Unheard.append {said said' : List Effect} (h : Unheard d said) (h' : Unheard d said') :
    Unheard d (said ++ said') := by
  refine ⟨?_, ?_⟩
  · rw [List.filterMap_append, h.1, h'.1, List.append_nil]
  · rw [List.filterMap_append, h.2, h'.2, List.append_nil]

theorem unheard_spoken (hk : k ≠ d) (message : Outbound) (session : Option SessionPtr) :
    Unheard d (ctx.spoken k message session) := by
  unfold Context.spoken
  split_ifs
  · cases session <;> cases message <;>
      simp [Unheard, Effect.toldTo, Effect.askedFor, Effect.chunkRequest, hk]
  · exact unheard_nil

theorem unheard_spokenFailure (hk : k ≠ d) (s : FileTransferSession) (effects : List Effect) :
    Unheard d (ctx.spokenFailure k s effects) := by
  unfold Context.spokenFailure
  split_ifs
  · exact unheard_spoken hk _ _
  · exact unheard_nil

/-- The core has the same of the device, and it hears nothing. -/
theorem device_eq {said : List Effect} (hspeaks : Says svc svc' said) (hunheard : Unheard d said)
    (hsession : svc'.core.session d = svc.core.session d)
    (hqueue : (svc'.core.queue.filter fun c => c.sessionOf = some d) =
      svc.core.queue.filter fun c => c.sessionOf = some d)
    (hlog : svc'.core.log.filterMap (Effect.storedFor d) =
      svc.core.log.filterMap (Effect.storedFor d)) : svc'.device d = svc.device d := by
  have htold := hspeaks.told (d := d)
  have hasked := hspeaks.asked (d := d)
  rw [hunheard.1, List.append_nil] at htold
  rw [hunheard.2, List.append_nil] at hasked
  have hq : (svc'.device d).queue = _ := device_queue
  have hs : (svc'.device d).stored = _ := device_stored
  rw [hqueue, ← device_queue] at hq
  rw [hlog, ← device_stored] at hs
  calc svc'.device d = ⟨svc'.core.session d, (svc'.device d).queue, (svc'.device d).told,
        (svc'.device d).asked, (svc'.device d).stored⟩ := rfl
    _ = svc.device d := by rw [hsession, hq, htold, hasked, hs]; rfl

end FileManagementService

/-! ## Steps for other devices -/

namespace System

open FileManagementService (Says Unheard unheard_nil unheard_spoken unheard_spokenFailure device_eq)

variable {sys sys' : System δ φ}

theorem filter_sessionStatus (hk : k ≠ d) {p : SessionPtr} (hp : p.deviceKey = k)
    (announcements : List Announcement) :
    (announcements.map (Command.sessionStatus p)).filter (fun c => c.sessionOf = some d) = [] := by
  rw [List.filter_eq_nil_iff]
  intro c hc
  obtain ⟨a, -, rfl⟩ := List.mem_map.mp hc
  simpa [Command.sessionOf, hp] using hk

/-- A session of another device is put, with what it queues. -/
theorem device_put (hk : k ≠ d) {c : Core δ} {said : List Effect}
    {r : FileTransferSession × List Announcement} (hr : r.1.deviceKey = k)
    (hspeaks : Says sys.svc sys'.svc said) (hunheard : Unheard d said)
    (hsession : c.session = sys.svc.core.session) (hqueue : c.queue = sys.svc.core.queue)
    (hlog : c.log = sys.svc.core.log) (hcore : sys'.svc.core = c.put k r) :
    sys'.svc.device d = sys.svc.device d := by
  refine device_eq hspeaks hunheard ?_ ?_ ?_
  · rw [hcore, ← hsession]
    exact Function.update_of_ne (Ne.symm hk) _ _
  · rw [hcore, Core.put, hqueue, List.filter_append, filter_sessionStatus hk hr, List.append_nil]
  · rw [hcore, Core.put, hlog]

theorem device_receive (hkeyed : sys.svc.core.Keyed) (hk : k ≠ d)
    {m : FileManagementService.Inbound} {past : Nat → UInt8}
    (htraffic : (Event.receive (μ := μ) k m past).isUploadTraffic = true)
    (hstep : sys.step ctx (.receive k m past) = .ok sys') : sys'.svc.device d = sys.svc.device d := by
  obtain ⟨said, hspeaks, hacts⟩ := step_acts hstep
  cases hacts with
  | idle hscene =>
    have hcore : sys'.svc.core = sys.svc.core := congrArg Scene.core hscene
    exact device_eq hspeaks unheard_nil (by rw [hcore]) (by rw [hcore]) (by rw [hcore])
  | @upload _ m past s _ _ _ _ hs hscene =>
    have hcore : sys'.svc.core = sys.svc.core.start s := congrArg Scene.core hscene
    have hkey : s.deviceKey = k := by rw [hs]; rfl
    refine device_eq hspeaks ((unheard_spoken hk _ _).append (unheard_spoken hk _ _)) ?_ ?_ ?_
    · rw [hcore]
      exact Function.update_of_ne (hkey ▸ Ne.symm hk) _ _
    · rw [hcore, Core.start]
    · rw [hcore, Core.start]
  | download => cases htraffic
  | @chunk _ m past s r _ hs _ hr hscene =>
    have hkey : r.1.deviceKey = k := by
      rw [hr]
      exact (FileTransferSession.kept_pushChunk ctx.bytes past m).deviceKey.trans (hkeyed.key k s hs)
    refine device_put hk hkey hspeaks ?_ rfl rfl rfl (congrArg Scene.core hscene)
    split_ifs
    · exact unheard_spoken hk _ _
    · exact unheard_nil
  | @abort _ m past s x _ _ hs _ _ hscene =>
    have hkey : s.abort.1.deviceKey = k :=
      (FileTransferSession.kept_abort).deviceKey.trans (hkeyed.key k s hs)
    have hcore : sys'.svc.core = ({ sys.svc.core with downloader := x } : Core δ).put k s.abort :=
      congrArg Scene.core hscene
    exact device_put hk (c := { sys.svc.core with downloader := x }) hkey hspeaks unheard_nil rfl rfl rfl
      hcore

theorem filter_cons_other {c : Command} (hc : c.sessionOf ≠ some d) (rest : List Command) :
    ((c :: rest).filter fun c => c.sessionOf = some d) = rest.filter fun c => c.sessionOf = some d :=
  List.filter_cons_of_neg (by simpa using hc)

theorem storedFor_effects (hkeyed : sys.svc.core.Keyed) {p : SessionPtr} {s : FileTransferSession}
    (hk : p.deviceKey ≠ d) (hs : sys.svc.session? p.deviceKey = some s) {x : Option δ}
    {status : FileTransferStatus} {effects : List Effect} (hstores : Stores ctx s x status effects) :
    effects.filterMap (Effect.storedFor d) = [] := by
  rw [List.filterMap_eq_nil_iff]
  intro e he
  obtain ⟨-, folder, bytes, success, rfl, -⟩ := hstores.mem he
  rw [Effect.storedFor, if_neg]
  rwa [hkeyed.key _ _ hs]

/-- A command that is not about a session of the device. -/
theorem device_runCommand (hkeyed : sys.svc.core.Keyed)
    (hother : ∀ c rest, sys.svc.commandBuffer = c :: rest → c.sessionOf ≠ some d)
    (hstep : sys.step ctx (.runCommand : Event μ) = .ok sys') :
    sys'.svc.device d = sys.svc.device d := by
  obtain ⟨said, hspeaks, hacts⟩ := step_acts hstep
  obtain ⟨svc, hsvc, hsys⟩ := Machine.bind_eq_ok.mp hstep
  cases hsys
  unfold FileManagementService.runCommand at hsvc
  cases hbuffer : sys.svc.commandBuffer with
  | nil =>
    rw [hbuffer] at hsvc
    cases hsvc
    rfl
  | cons c rest =>
    rw [hbuffer] at hsvc
    change (sys.svc.taken rest).execute ctx c = .ok svc at hsvc
    have hrest : (c :: rest).filter (fun c => c.sessionOf = some d) =
        rest.filter fun c => c.sessionOf = some d := filter_cons_other (hother c rest hbuffer) rest
    by_cases hnotice : c.isNotice = true
    · have htaken : (sys.svc.taken rest).device d = sys.svc.device d := by
        unfold FileManagementService.device
        rw [hbuffer, hrest]
        rfl
      cases c with
      | onAddedFile | onRemovedFile =>
        cases hsvc
        rw [← htaken]
        simp [FileManagementService.device, Effect.toldTo, Effect.askedFor, Effect.chunkRequest,
          Effect.storedFor, FileManagementService.session?]
      | sessionStatus | resetSession => cases hnotice
    · rw [Bool.not_eq_true] at hnotice
      have hqueue := FileManagementService.core_queue_cons hbuffer hnotice
      have hsame : ∀ {command : Command} {rest' : List Command},
          sys.svc.core.queue = command :: rest' → command = c :=
        fun h => (List.cons.inj (h.symm.trans hqueue)).1
      have hown := hother c rest hbuffer
      cases hacts with
      | idle hscene =>
        have hcore : svc.core = sys.svc.core := congrArg Scene.core hscene
        exact device_eq hspeaks unheard_nil (by rw [hcore]) (by rw [hcore]) (by rw [hcore])
      | @status p a _ rest' s effects _ hhead hs _ hstores _ hscene =>
        have hcore : svc.core =
            (({ sys.svc.core with queue := rest' } : Core δ).push (deletion p a.status)).record effects :=
          congrArg Scene.core hscene
        obtain rfl := hsame hhead
        have hk : p.deviceKey ≠ d := fun heq => hown (congrArg some heq)
        have hdeletion : (deletion p a.status).filter (fun c => c.sessionOf = some d) = [] := by
          rw [List.filter_eq_nil_iff]
          intro command hcommand
          rw [mem_deletion hcommand]
          simpa [Command.sessionOf] using hk
        refine device_eq hspeaks
          ((unheard_spoken hk _ _).append (unheard_spokenFailure hk s effects)) ?_ ?_ ?_
        · rw [hcore]
          rfl
        · rw [hcore, hhead, filter_cons_other hown]
          change (rest' ++ _).filter _ = _
          rw [List.filter_append, hdeletion, List.append_nil]
        · rw [hcore]
          change (sys.svc.core.log ++ effects).filterMap _ = _
          rw [List.filterMap_append, storedFor_effects hkeyed hk hs hstores, List.append_nil]
      | @dropped p a rest' s hhead _ _ hscene =>
        have hcore : svc.core = { sys.svc.core with queue := rest' } := congrArg Scene.core hscene
        obtain rfl := hsame hhead
        refine device_eq hspeaks unheard_nil (by rw [hcore]) ?_ (by rw [hcore])
        rw [hcore, hhead, filter_cons_other hown]
      | @reset k p rest' hhead hscene =>
        have hcore : svc.core = (({ sys.svc.core with queue := rest' } : Core δ).drop k).record
            ((sys.svc.session? k).toList.map (Effect.destroyed p)) := congrArg Scene.core hscene
        obtain rfl := hsame hhead
        have hk : k ≠ d := fun heq => hown (congrArg some heq)
        refine device_eq hspeaks unheard_nil ?_ ?_ ?_
        · rw [hcore]
          exact Function.update_of_ne (Ne.symm hk) _ _
        · rw [hcore, hhead, filter_cons_other hown]
          rfl
        · rw [hcore]
          change (sys.svc.core.log ++ _).filterMap _ = _
          have hnone : ((sys.svc.session? k).toList.map (Effect.destroyed p)).filterMap
              (Effect.storedFor d) = [] := by
            rw [List.filterMap_eq_nil_iff]
            intro e he
            obtain ⟨s, -, rfl⟩ := List.mem_map.mp he
            rfl
          rw [List.filterMap_append, hnone, List.append_nil]

end System

/-! ## Steps for the device -/

namespace FileManagementService

variable {svc svc' : FileManagementService δ φ} {s : FileTransferSession}

/-- A status message about a session of the device. -/
theorem device_publishStatus (hserial : ∀ d m, ctx.makeOutboundMessage d m = true)
    (svc : FileManagementService δ φ) (status : FileTransferStatus) (error : FileTransferError)
    (p : SessionPtr) (hs : s.url = "") :
    (svc.publish ctx d (statusMessage s status error) (some p)).device d = { svc.device d with
      told := (svc.device d).told ++ [.fileUploadStatus s.name status error] } := by
  have hmessage : statusMessage s status error = .fileUploadStatus s.name status error :=
    if_pos (decide_eq_true hs)
  rw [hmessage, publish, if_pos (hserial _ _)]
  simp [device, Effect.toldTo, Effect.askedFor, Effect.chunkRequest, Effect.storedFor,
    FileManagementService.session?]

theorem device_sendChunkRequest (hserial : ∀ d m, ctx.makeOutboundMessage d m = true)
    (svc : FileManagementService δ φ) (request : FileBinaryRequestMessage) :
    (svc.sendChunkRequest ctx d request).device d = { svc.device d with
      asked := (svc.device d).asked ++ [request] } := by
  rw [sendChunkRequest, publish, if_pos (hserial _ _)]
  simp [device, Effect.toldTo, Effect.askedFor, Effect.chunkRequest, Effect.storedFor,
    FileManagementService.session?]

theorem device_addSession (hs : s.deviceKey = d) :
    (svc.addSession s).device d = { svc.device d with session := some s } := by
  subst hs
  simp [device, addSession, session?]

theorem device_putSession (r : FileTransferSession × List Announcement) (hr : r.1.deviceKey = d) :
    (svc.putSession d r).device d = { svc.device d with
      session := some r.1
      queue := (svc.device d).queue ++ r.2.map (Command.sessionStatus r.1.ptr) } := by
  have hkeep : (r.2.map (Command.sessionStatus r.1.ptr)).filter (fun c => c.sessionOf = some d) =
      r.2.map (Command.sessionStatus r.1.ptr) := by
    rw [List.filter_eq_self]
    intro c hc
    obtain ⟨a, -, rfl⟩ := List.mem_map.mp hc
    simpa [Command.sessionOf, FileTransferSession.ptr] using hr
  simp [device, putSession, session?, hkeep]

theorem device_placeFile (hkey : s.deviceKey = d) (bytes : Bytes) :
    (svc.placeFile ctx s bytes).2.device d = { svc.device d with
      stored := (svc.device d).stored ++
        [(svc.pathOf ctx d s.name, bytes, (svc.placeFile ctx s bytes).1)] } := by
  subst hkey
  simp [device, placeFile, session?, pathOf, Effect.toldTo, Effect.askedFor, Effect.chunkRequest,
    Effect.storedFor]

theorem device_notifyListenerAddedFile (fileName absolutePath : String) :
    (svc.notifyListenerAddedFile d fileName absolutePath).device d = svc.device d := by
  unfold notifyListenerAddedFile
  split_ifs
  · simp [device, pushCommand, session?, Command.sessionOf]
  · rfl

theorem device_pushReset (p : SessionPtr) :
    (svc.pushCommand (.resetSession d p)).device d = { svc.device d with
      queue := (svc.device d).queue ++ [.resetSession d p] } := by
  simp [device, pushCommand, session?, Command.sessionOf]

end FileManagementService

namespace System

variable {sys sys' : System δ φ} {s : FileTransferSession}

/-- The platform begins an upload. -/
theorem device_fileUploadInit (hserial : ∀ d m, ctx.makeOutboundMessage d m = true)
    (hidle : sys.reporting = none) (henabled : sys.svc.config.fileTransferEnabled = true)
    {m : FileUploadInitiateMessage} (hvalid : FileManagementService.isValid m = true)
    (hnone : sys.svc.session? d = none) (past : Nat → UInt8) :
    ∃ sys', sys.step ctx (.receive d (.fileUploadInit m) past) = .ok sys' ∧
      sys'.svc.device d = { sys.svc.device d with
        session := some (.ofUpload sys.svc.created d m true)
        told := (sys.svc.device d).told ++ [.fileUploadStatus m.name .fileTransfer .none]
        asked := (sys.svc.device d).asked ++ [⟨m.name, 0⟩] } := by
  let s := FileTransferSession.ofUpload sys.svc.created d m true
  let svc := ((sys.svc.addSession s).publish ctx d
    (FileManagementService.statusMessage s .fileTransfer .none) (some s.ptr)).sendChunkRequest ctx d
      s.getNextChunkRequest
  have hkey : s.deviceKey = d := rfl
  have hfields := hvalid
  simp only [FileManagementService.isValid, ne_eq, decide_eq_true_eq] at hfields
  have hsize : ¬ m.size ≤ 0 := by omega
  have hfirst : s.getNextChunkRequest = ⟨m.name, 0⟩ := by
    simp [s, FileTransferSession.getNextChunkRequest, FileTransferSession.isUrlDownload,
      FileTransferSession.isPlatformTransfer, FileTransferSession.isDone, FileTransferSession.ofUpload,
      collected, hsize]
  have hnamed : s.getNextChunkRequest.name ≠ "" := by
    rw [hfirst]
    exact hfields.1
  have hreport : (sys.svc.addSession s).reportStatus ctx d .fileTransfer .none =
      .ok ((sys.svc.addSession s).publish ctx d
        (FileManagementService.statusMessage s .fileTransfer .none) (some s.ptr)) :=
    FileManagementService.reportStatus_eq (FileManagementService.session?_addSession s)
  have hreceived : sys.svc.messageReceived ctx past d (.fileUploadInit m) = .ok svc := by
    simp only [FileManagementService.messageReceived, henabled, if_true,
      FileManagementService.onFileUploadInit, hvalid, Bool.not_true, Bool.false_eq_true, if_false,
      hnone, Option.isSome_none]
    rw [if_pos hnamed]
    exact Machine.bind_eq_ok.mpr ⟨_, hreport, rfl⟩
  refine ⟨_, (step_upload sys hidle rfl).mpr ⟨svc, hreceived, rfl⟩, ?_⟩
  change svc.device d = _
  rw [FileManagementService.device_sendChunkRequest hserial,
    FileManagementService.device_publishStatus hserial _ _ _ _ rfl,
    FileManagementService.device_addSession hkey, hfirst]
  rfl

/-- A chunk arrives. -/
theorem device_fileBinaryResponse (hserial : ∀ d m, ctx.makeOutboundMessage d m = true)
    (hidle : sys.reporting = none) (henabled : sys.svc.config.fileTransferEnabled = true)
    (hs : sys.svc.session? d = some s) (hkey : s.deviceKey = d) (hurl : s.url = "")
    (m : FileBinaryResponseMessage) (past : Nat → UInt8) :
    ∃ sys', sys.step ctx (.receive d (.fileBinaryResponse m) past) = .ok sys' ∧
      sys'.svc.device d = { sys.svc.device d with
        session := some (s.pushChunk ctx.bytes past m).1
        queue := (sys.svc.device d).queue ++
          (s.pushChunk ctx.bytes past m).2.2.map (Command.sessionStatus s.ptr)
        asked := (sys.svc.device d).asked ++
          if (s.pushChunk ctx.bytes past m).2.1 = .fileHashMismatch ∨
            (s.pushChunk ctx.bytes past m).1.isDone = false
          then [(s.pushChunk ctx.bytes past m).1.getNextChunkRequest] else [] } := by
  have hkept := FileTransferSession.kept_pushChunk (s := s) ctx.bytes past m
  have hplatform : s.isPlatformTransfer = true := decide_eq_true hurl
  refine ⟨_, step_fileBinaryResponse ctx hidle d m past, ?_⟩
  change FileManagementService.device d (if _ then _ else _) = _
  rw [if_pos henabled]
  have hput : FileManagementService.device d (sys.svc.putSession d _) = _ :=
    FileManagementService.device_putSession ((s.pushChunk ctx.bytes past m).1,
      (s.pushChunk ctx.bytes past m).2.2) (hkept.deviceKey.trans hkey)
  rw [hkept.ptr] at hput
  unfold FileManagementService.onFileBinaryResponse
  rw [hs]
  dsimp only
  rw [if_pos hplatform]
  split_ifs
  · rw [FileManagementService.device_sendChunkRequest hserial, hput]
  · rw [hput, List.append_nil]

/-- The status of a complete upload is reported, and the file is written. -/
theorem device_fileReady (hserial : ∀ d m, ctx.makeOutboundMessage d m = true)
    (hs : sys.svc.session? d = some s) (hkey : s.deviceKey = d) (hurl : s.url = "")
    (hcallback : s.callback = true) {rest : List Command}
    (hbuffer : sys.svc.commandBuffer = .sessionStatus s.ptr ⟨.fileReady, .none⟩ :: rest) :
    ∃ sys' success, sys.step ctx (.runCommand : Event μ) = .ok sys' ∧
      sys'.svc.device d = { sys.svc.device d with
        queue := (rest.filter fun c => c.sessionOf = some d) ++ [.resetSession d s.ptr]
        told := (sys.svc.device d).told ++ .fileUploadStatus s.name .fileReady .none ::
          if success then [] else [.fileUploadStatus s.name .error .fileSystemError]
        stored := (sys.svc.device d).stored ++
          [(sys.svc.pathOf ctx d s.name, content s.chunks, success)] } := by
  subst hkey
  have hplatform : s.isPlatformTransfer = true := decide_eq_true hurl
  let svc₁ := (sys.svc.taken rest).publish ctx s.deviceKey
    (FileManagementService.statusMessage s .fileReady .none) (some s.ptr)
  let svc₂ := (svc₁.placeFile ctx s (content s.chunks)).2
  let success := (svc₁.placeFile ctx s (content s.chunks)).1
  let svc₃ := if success then
      svc₂.notifyListenerAddedFile s.deviceKey s.name (svc₂.absolutePathOfFile ctx s.deviceKey s.name)
    else svc₂.publish ctx s.deviceKey
      (FileManagementService.statusMessage s .error .fileSystemError) (some s.ptr)
  have hs₁ : svc₁.session? s.deviceKey = some s :=
    (FileManagementService.session?_of_core (FileManagementService.core_publish _ _ _)).trans hs
  have hs₂ : svc₂.session? s.deviceKey = some s := hs₁
  have hreport : (sys.svc.taken rest).reportStatus ctx s.deviceKey .fileReady .none = .ok svc₁ :=
    FileManagementService.reportStatus_eq hs
  have hat : svc₁.sessionAt s.deviceKey = .ok s := by
    rw [FileManagementService.sessionAt, hs₁]
  have hbytes : svc₁.collectBytes ctx s = .ok (content s.chunks) := if_pos hplatform
  have hstore : svc₁.storeFile ctx s.deviceKey = .ok svc₃ := by
    refine Machine.bind_eq_ok.mpr ⟨s, hat, Machine.bind_eq_ok.mpr ⟨_, hbytes, ?_⟩⟩
    change (if success then _ else svc₂.reportStatus ctx s.deviceKey .error .fileSystemError) = _
    rw [FileManagementService.reportStatus_eq hs₂]
    exact (apply_ite Except.ok _ _ _).symm
  have hrun : sys.svc.runCommand ctx = .ok (svc₃.pushCommand (.resetSession s.deviceKey s.ptr)) := by
    have hresolve : (sys.svc.taken rest).resolve s.ptr = .ok s :=
      FileManagementService.resolve_eq_ok.mpr ⟨hs, rfl⟩
    unfold FileManagementService.runCommand
    rw [hbuffer]
    refine Machine.bind_eq_ok.mpr ⟨s, hresolve, ?_⟩
    rw [if_pos hcallback]
    exact Machine.bind_eq_ok.mpr ⟨svc₁, hreport, Machine.bind_eq_ok.mpr ⟨svc₃, hstore, rfl⟩⟩
  refine ⟨_, success, Machine.bind_eq_ok.mpr ⟨_, hrun, rfl⟩, ?_⟩
  have hpath : svc₁.pathOf ctx s.deviceKey s.name = sys.svc.pathOf ctx s.deviceKey s.name := by
    refine FileManagementService.pathOf_config ?_ s.name
    change ((sys.svc.taken rest).publish ctx _ _ _).config = _
    unfold FileManagementService.publish
    split_ifs <;> rfl
  have hdevice₁ := FileManagementService.device_publishStatus hserial (sys.svc.taken rest) .fileReady
    .none s.ptr hurl (d := s.deviceKey)
  have hdevice₂ : svc₂.device s.deviceKey = _ :=
    FileManagementService.device_placeFile rfl (content s.chunks)
  have hdevice₃ : svc₃.device s.deviceKey = { svc₂.device s.deviceKey with
      told := (svc₂.device s.deviceKey).told ++
        if success then [] else [.fileUploadStatus s.name .error .fileSystemError] } := by
    change FileManagementService.device s.deviceKey (if success then _ else _) = _
    split_ifs
    · rw [FileManagementService.device_notifyListenerAddedFile, List.append_nil]
    · exact FileManagementService.device_publishStatus hserial _ _ _ _ hurl
  change (svc₃.pushCommand (.resetSession s.deviceKey s.ptr)).device s.deviceKey = _
  rw [FileManagementService.device_pushReset, hdevice₃, hdevice₂, hdevice₁, hpath]
  simp only [List.append_assoc, List.singleton_append]
  rfl

/-- The session is deleted. -/
theorem device_resetSession {p : SessionPtr} {rest : List Command}
    (hbuffer : sys.svc.commandBuffer = .resetSession d p :: rest) :
    ∃ sys', sys.step ctx (.runCommand : Event μ) = .ok sys' ∧
      sys'.svc.device d = { sys.svc.device d with
        session := none
        queue := rest.filter fun c => c.sessionOf = some d } := by
  have hdestroyed : ∀ s : Option FileTransferSession,
      (s.toList.map (Effect.destroyed p)).filterMap (Effect.toldTo d) = [] ∧
      (s.toList.map (Effect.destroyed p)).filterMap (Effect.askedFor d) = [] ∧
      (s.toList.map (Effect.destroyed p)).filterMap (Effect.storedFor d) = [] := by
    rintro (_ | s) <;> exact ⟨rfl, rfl, rfl⟩
  obtain ⟨htold, hasked, hstored⟩ := hdestroyed ((sys.svc.sessions.find? d).join)
  have hrun : sys.svc.runCommand ctx = .ok ((sys.svc.taken rest).resetSession d p) := by
    unfold FileManagementService.runCommand
    rw [hbuffer]
    rfl
  refine ⟨_, Machine.bind_eq_ok.mpr ⟨_, hrun, rfl⟩, ?_⟩
  simp [FileManagementService.device, FileManagementService.resetSession,
    FileManagementService.session?, FileManagementService.taken, htold, hasked, hstored]

end System

end

end WolkConnect
