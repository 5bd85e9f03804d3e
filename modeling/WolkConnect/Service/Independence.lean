import WolkConnect.Service.Quiet
import WolkConnect.Service.Uploads

/-!
# Platform transfers of different devices are independent

All devices share the map of sessions and the command queue. A run without the steps
that concern other devices is still a run, with other addresses: fewer sessions are
made before a session of the device.
-/

namespace WolkConnect

/-! ## Other addresses -/

def FileTransferSession.renumbered (ρ : Nat → Nat) (s : FileTransferSession) : FileTransferSession :=
  { s with serial := ρ s.serial }

def SessionPtr.renumbered (ρ : Nat → Nat) (p : SessionPtr) : SessionPtr := ⟨p.deviceKey, ρ p.serial⟩

def Command.renumbered (ρ : Nat → Nat) : Command → Command
  | .sessionStatus session announcement => .sessionStatus (session.renumbered ρ) announcement
  | .resetSession deviceKey requester => .resetSession deviceKey (requester.renumbered ρ)
  | .onAddedFile deviceKey fileName absolutePath => .onAddedFile deviceKey fileName absolutePath
  | .onRemovedFile deviceKey fileName => .onRemovedFile deviceKey fileName

def Command.device : Command → String
  | .sessionStatus session _ => session.deviceKey
  | .resetSession deviceKey _ => deviceKey
  | .onAddedFile deviceKey _ _ => deviceKey
  | .onRemovedFile deviceKey _ => deviceKey

/-- A message that was published for the device, or a notification about its files. -/
def Effect.about (d : String) : Effect → Option Effect
  | .published deviceKey message _ => if deviceKey = d then some (.published d message none) else none
  | .addedFile deviceKey fileName absolutePath =>
    if deviceKey = d then some (.addedFile d fileName absolutePath) else none
  | .removedFile deviceKey fileName =>
    if deviceKey = d then some (.removedFile d fileName) else none
  | .stored _ _ _ _ | .deleted _ _ | .destroyed _ _ | .delivered _ => none

def Effect.messageFor (d : String) : Effect → Option Outbound
  | .published deviceKey message _ => if deviceKey = d then some message else none
  | .stored _ _ _ _ | .deleted _ _ | .destroyed _ _ | .delivered _ | .addedFile _ _ _
  | .removedFile _ _ => none

theorem Effect.messageFor_eq (d : String) (e : Effect) :
    e.messageFor d = (e.about d).bind (Effect.messageFor d) := by
  cases e with
  | published k m p => by_cases hk : k = d <;> simp [Effect.about, Effect.messageFor, hk]
  | addedFile k n path => by_cases hk : k = d <;> simp [Effect.about, Effect.messageFor, hk]
  | removedFile k n => by_cases hk : k = d <;> simp [Effect.about, Effect.messageFor, hk]
  | stored | deleted | destroyed | delivered => rfl

/-- The notification, when it is about a file of the device. -/
def Effect.noticeFor (d : String) (e : Effect) : Option FileNotice :=
  e.fileNotice.filter fun n => n.deviceKey = d

def Command.noticeFor (d : String) (c : Command) : Option FileNotice :=
  c.fileNotice.filter fun n => n.deviceKey = d

theorem Effect.noticeFor_eq (d : String) (e : Effect) :
    e.noticeFor d = (e.about d).bind (Effect.noticeFor d) := by
  cases e with
  | published k m p =>
    by_cases hk : k = d <;> simp [Effect.about, Effect.noticeFor, Effect.fileNotice, hk]
  | addedFile k n path =>
    by_cases hk : k = d <;> simp [Effect.about, Effect.noticeFor, Effect.fileNotice, hk]
  | removedFile k n =>
    by_cases hk : k = d <;> simp [Effect.about, Effect.noticeFor, Effect.fileNotice, hk]
  | stored | deleted | destroyed | delivered => rfl

theorem Command.device_renumbered (ρ : Nat → Nat) (c : Command) :
    (c.renumbered ρ).device = c.device := by
  cases c <;> rfl

theorem Command.noticeFor_renumbered (d : String) (ρ : Nat → Nat) (c : Command) :
    (if c.device = d then (c.renumbered ρ).noticeFor d else none) = c.noticeFor d := by
  cases c with
  | sessionStatus p a => simp [Command.noticeFor, Command.renumbered, Command.fileNotice]
  | resetSession k p => simp [Command.noticeFor, Command.renumbered, Command.fileNotice]
  | onAddedFile k n path =>
    by_cases hk : k = d <;>
      simp [Command.noticeFor, Command.renumbered, Command.fileNotice, Command.device, Option.filter,
        hk]
  | onRemovedFile k n =>
    by_cases hk : k = d <;>
      simp [Command.noticeFor, Command.renumbered, Command.fileNotice, Command.device, Option.filter,
        hk]

namespace FileTransferSession

variable {s : FileTransferSession} {ρ : Nat → Nat}

theorem changeStatusAndError_renumbered (status : FileTransferStatus) (error : FileTransferError) :
    (s.renumbered ρ).changeStatusAndError status error =
      ((s.changeStatusAndError status error).1.renumbered ρ,
        (s.changeStatusAndError status error).2) := by
  unfold changeStatusAndError
  by_cases hchange : status ≠ s.status ∨ error ≠ s.error
  · rw [if_pos hchange]
    exact if_pos hchange
  · rw [if_neg hchange]
    exact if_neg hchange

theorem abort_renumbered : (s.renumbered ρ).abort = (s.abort.1.renumbered ρ, s.abort.2) := by
  unfold abort
  dsimp only
  rw [← changeStatusAndError_renumbered]
  have hplatform : (s.renumbered ρ).isPlatformTransfer = s.isPlatformTransfer := rfl
  rw [hplatform]
  split_ifs <;> rfl

theorem rejectChunk_renumbered : (s.renumbered ρ).rejectChunk =
    (s.rejectChunk.1.renumbered ρ, s.rejectChunk.2) := by
  unfold rejectChunk
  dsimp only
  by_cases hretry : 3 ≤ s.retryCount
  · rw [if_pos hretry]
    refine (if_pos hretry).trans ?_
    have hchange := changeStatusAndError_renumbered (ρ := ρ)
      (s := { s with retryCount := s.retryCount + 1, done := true }) .error .retryCountExceeded
    exact congrArg (fun r => (r.1, FileTransferError.retryCountExceeded, r.2)) hchange
  · rw [if_neg hretry]
    exact if_neg hretry

theorem acceptChunk_renumbered (bu : ByteUtils) (m : FileBinaryResponseMessage) :
    (s.renumbered ρ).acceptChunk bu m =
      ((s.acceptChunk bu m).1.renumbered ρ, (s.acceptChunk bu m).2) := by
  unfold acceptChunk
  dsimp only
  by_cases hlast : s.size ≤ collected s.chunks + m.data.length
  · rw [if_pos hlast]
    refine (if_pos hlast).trans ?_
    have hchange := fun status error => changeStatusAndError_renumbered (ρ := ρ)
      (s := { s with
        chunks := s.chunks ++ [⟨m.previousHash, m.data, m.currentHash⟩], done := true }) status error
    by_cases hhash : bu.toHexString (bu.hashMDA5
        (content (s.chunks ++ [⟨m.previousHash, m.data, m.currentHash⟩]))) = s.hash
    · rw [if_pos hhash]
      exact congrArg (fun r => (r.1, FileTransferError.none, r.2))
        ((if_pos hhash).trans (hchange .fileReady .none))
    · rw [if_neg hhash]
      exact congrArg (fun r => (r.1, FileTransferError.none, r.2))
        ((if_neg hhash).trans (hchange .error .fileHashMismatch))
  · rw [if_neg hlast]
    exact if_neg hlast

theorem pushChunk_renumbered (bu : ByteUtils) (past : Nat → UInt8) (m : FileBinaryResponseMessage) :
    (s.renumbered ρ).pushChunk bu past m =
      ((s.pushChunk bu past m).1.renumbered ρ, (s.pushChunk bu past m).2) := by
  have hurl : (s.renumbered ρ).isUrlDownload = s.isUrlDownload := rfl
  have hdone : (s.renumbered ρ).isDone = s.isDone := rfl
  have hchunks : (s.renumbered ρ).chunks = s.chunks := rfl
  have hsize : (s.renumbered ρ).size = s.size := rfl
  have hprevious : (s.renumbered ρ).previousHashDiffers m = s.previousHashDiffers m := rfl
  unfold pushChunk
  rw [hurl, hdone, hchunks, hsize, hprevious, rejectChunk_renumbered, acceptChunk_renumbered]
  split_ifs <;> rfl

end FileTransferSession

namespace FileManagementService

variable {δ μ φ : Type} {ctx : Context δ μ φ} {svc svc' svc₁ : FileManagementService δ φ}
  {d k : String} {ρ : Nat → Nat}

/-- The second service has of the first what concerns the device. -/
structure Twin (d : String) (ρ : Nat → Nat) (svc svc' : FileManagementService δ φ) : Prop where
  config : svc'.config = svc.config
  session : svc'.sessions.find? d = (svc.sessions.find? d).map (Option.map (.renumbered ρ))
  buffer : svc'.commandBuffer =
    (svc.commandBuffer.filter fun c => c.device = d).map (Command.renumbered ρ)
  said : svc'.log.filterMap (Effect.about d) = svc.log.filterMap (Effect.about d)

theorem Twin.session? (h : Twin d ρ svc svc') :
    svc'.session? d = (svc.session? d).map (.renumbered ρ) := by
  rw [FileManagementService.session?, h.session, FileManagementService.session?]
  rcases svc.sessions.find? d with _ | _ | s <;> rfl

/-! ## Steps of the device -/

theorem Twin.publish (h : Twin d ρ svc svc') (message : Outbound) (p p' : Option SessionPtr) :
    Twin d ρ (svc.publish ctx d message p) (svc'.publish ctx d message p') := by
  unfold FileManagementService.publish
  split_ifs
  · refine ⟨h.config, h.session, h.buffer, ?_⟩
    simp only [List.filterMap_append, h.said]
    rfl
  · exact h

theorem Twin.pushCommand (h : Twin d ρ svc svc') (command : Command) (hd : command.device = d) :
    Twin d ρ (svc.pushCommand command) (svc'.pushCommand (command.renumbered ρ)) := by
  refine ⟨h.config, h.session, ?_, h.said⟩
  change svc'.commandBuffer ++ _ = List.map _ (List.filter _ (svc.commandBuffer ++ [command]))
  rw [h.buffer, List.filter_append, List.map_append, List.filter_cons_of_pos (by simpa using hd)]
  rfl

theorem Twin.putSession (h : Twin d ρ svc svc') {r : FileTransferSession × List Announcement}
    (hd : r.1.deviceKey = d) :
    Twin d ρ (svc.putSession d r) (svc'.putSession d (r.1.renumbered ρ, r.2)) := by
  refine ⟨h.config, ?_, ?_, h.said⟩
  · simp only [FileManagementService.putSession, OrderedMap.find?_insert_self]
    rfl
  · have hown : ∀ c ∈ r.2.map (Command.sessionStatus r.1.ptr), decide (c.device = d) = true := by
      intro c hc
      obtain ⟨a, -, rfl⟩ := List.mem_map.mp hc
      exact decide_eq_true hd
    simp only [FileManagementService.putSession, h.buffer, List.filter_append, List.map_append,
      List.filter_eq_self.mpr hown, List.map_map]
    rfl

theorem Twin.resetSession (h : Twin d ρ svc svc') (p p' : SessionPtr) :
    Twin d ρ (svc.resetSession d p) (svc'.resetSession d p') := by
  have hdestroyed : ∀ (p : SessionPtr) (s : Option FileTransferSession),
      (s.toList.map (Effect.destroyed p)).filterMap (Effect.about d) = [] := by
    rintro p (_ | s) <;> rfl
  refine ⟨h.config, ?_, h.buffer, ?_⟩
  · simp only [FileManagementService.resetSession, OrderedMap.find?_insert_self]
    rfl
  · simp only [FileManagementService.resetSession, List.filterMap_append, hdestroyed, h.said]

/-- The addresses of what is not there yet do not matter. -/
theorem Twin.congr (h : Twin d ρ svc svc') (hkeyed : svc.core.Keyed) (ρ' : Nat → Nat)
    (hρ : ∀ n < svc.created, ρ' n = ρ n) : Twin d ρ' svc svc' := by
  refine ⟨h.config, ?_, ?_, h.said⟩
  · rw [h.session]
    rcases hfind : svc.sessions.find? d with _ | _ | s
    · rfl
    · rfl
    · have hs : svc.core.session d = some s := by
        rw [core_session, FileManagementService.session?, hfind]
        rfl
      simp only [Option.map_some, FileTransferSession.renumbered, hρ _ (hkeyed.fresh d s hs)]
  · rw [h.buffer]
    refine List.map_congr_left fun c hc => ?_
    have hmem : c.isNotice = false → c ∈ svc.core.queue := fun hnotice =>
      List.mem_filter.mpr ⟨List.mem_of_mem_filter hc, by simp [hnotice]⟩
    cases c with
    | sessionStatus p a =>
      simp only [Command.renumbered, SessionPtr.renumbered, hρ _ (hkeyed.status p a (hmem rfl))]
    | resetSession k p =>
      simp only [Command.renumbered, SessionPtr.renumbered, hρ _ (hkeyed.reset k p (hmem rfl)).2]
    | onAddedFile => rfl
    | onRemovedFile => rfl

theorem Twin.reportStatus (h : Twin d ρ svc svc') {status : FileTransferStatus}
    {error : FileTransferError} (hs : svc.reportStatus ctx d status error = .ok svc₁) :
    ∃ svc₁', svc'.reportStatus ctx d status error = .ok svc₁' ∧ Twin d ρ svc₁ svc₁' ∧
      svc₁.disk = svc.disk ∧ svc₁'.disk = svc'.disk := by
  have hdisk : ∀ (svc : FileManagementService δ φ) message p,
      (svc.publish ctx d message p).disk = svc.disk := by
    intro svc message p
    unfold FileManagementService.publish
    split_ifs <;> rfl
  unfold FileManagementService.reportStatus at hs ⊢
  rw [h.session]
  rcases hfind : svc.sessions.find? d with _ | _ | s <;> rw [hfind] at hs
  · cases hs
    exact ⟨svc', rfl, h, rfl, rfl⟩
  · cases hs
  · cases hs
    exact ⟨_, rfl, h.publish _ _ _, hdisk _ _ _, hdisk _ _ _⟩

theorem Twin.onFileUploadInit (h : Twin d ρ svc svc') (hkeyed : svc.core.Keyed)
    {m : FileUploadInitiateMessage} (hs : svc.onFileUploadInit ctx d m = .ok svc₁) :
    ∃ ρ' svc₁', svc'.onFileUploadInit ctx d m = .ok svc₁' ∧ Twin d ρ' svc₁ svc₁' := by
  unfold FileManagementService.onFileUploadInit at hs ⊢
  rw [h.session?, Option.isSome_map]
  split_ifs at hs ⊢ with hvalid hongoing
  · cases hs
    exact ⟨ρ, svc', rfl, h⟩
  · cases hs
    exact ⟨ρ, svc', rfl, h⟩
  -- the new sessions have the next serial numbers of the two services
  have hadd : Twin d (Function.update ρ svc.created svc'.created)
      (svc.addSession (.ofUpload svc.created d m true))
      (svc'.addSession (.ofUpload svc'.created d m true)) := by
    have hcongr := h.congr hkeyed (Function.update ρ svc.created svc'.created)
      fun n hn => Function.update_of_ne (Nat.ne_of_lt hn) _ _
    refine ⟨hcongr.config, ?_, hcongr.buffer, hcongr.said⟩
    simp [addSession, FileTransferSession.ofUpload, FileTransferSession.renumbered]
  have hfirst : (FileTransferSession.ofUpload svc'.created d m true).getNextChunkRequest =
      (FileTransferSession.ofUpload svc.created d m true).getNextChunkRequest := rfl
  dsimp only at hs ⊢
  rw [hfirst]
  split_ifs at hs ⊢
  · obtain ⟨svc₂, hreport, hs⟩ := Machine.bind_eq_ok.mp hs
    obtain ⟨svc₂', hreport', htwin, -⟩ := hadd.reportStatus hreport
    cases hs
    exact ⟨_, _, Machine.bind_eq_ok.mpr ⟨svc₂', hreport', rfl⟩, htwin.publish _ _ _⟩
  · cases hs
    exact ⟨_, _, rfl, hadd⟩

theorem Twin.onFileUploadAbort (h : Twin d ρ svc svc') (hkeyed : svc.core.Keyed)
    (hplatform : ∀ s, svc.session? d = some s → s.url = "") {m : FileUploadAbortMessage}
    (hs : svc.onFileUploadAbort ctx d m = .ok svc₁) :
    ∃ svc₁', svc'.onFileUploadAbort ctx d m = .ok svc₁' ∧ Twin d ρ svc₁ svc₁' := by
  unfold FileManagementService.onFileUploadAbort at hs ⊢
  rw [h.session?]
  cases hsession : svc.session? d with
  | none =>
    rw [hsession] at hs
    cases hs
    exact ⟨svc', rfl, h⟩
  | some s =>
    rw [hsession] at hs
    have hurl : s.isPlatformTransfer = true := decide_eq_true (hplatform s hsession)
    have hurl' : (s.renumbered ρ).isPlatformTransfer = true := hurl
    have hname : (s.renumbered ρ).name = s.name := rfl
    dsimp only [Option.map_some] at hs ⊢
    rw [hname]
    unfold abortSession at hs ⊢
    rw [if_pos hurl] at hs
    rw [if_pos hurl', FileTransferSession.abort_renumbered]
    split_ifs at hs ⊢
    · cases hs
      have hkey : s.abort.1.deviceKey = d :=
        (FileTransferSession.kept_abort).deviceKey.trans (hkeyed.key d s hsession)
      exact ⟨_, rfl, h.putSession (r := s.abort) hkey⟩
    · cases hs
      exact ⟨svc', rfl, h⟩

theorem Twin.onFileBinaryResponse (h : Twin d ρ svc svc') (hkeyed : svc.core.Keyed)
    (past : Nat → UInt8) (m : FileBinaryResponseMessage) :
    Twin d ρ (svc.onFileBinaryResponse ctx past d m) (svc'.onFileBinaryResponse ctx past d m) := by
  unfold FileManagementService.onFileBinaryResponse
  rw [h.session?]
  cases hsession : svc.session? d with
  | none => exact h
  | some s =>
    dsimp only [Option.map_some]
    have hurl : (s.renumbered ρ).isPlatformTransfer = s.isPlatformTransfer := rfl
    rw [hurl, FileTransferSession.pushChunk_renumbered]
    by_cases hplatform : s.isPlatformTransfer = true
    · rw [if_pos hplatform, if_pos hplatform]
      have hkey : (s.pushChunk ctx.bytes past m).1.deviceKey = d :=
        (FileTransferSession.kept_pushChunk ctx.bytes past m).deviceKey.trans
          (hkeyed.key d s hsession)
      have hput := h.putSession
        (r := ((s.pushChunk ctx.bytes past m).1, (s.pushChunk ctx.bytes past m).2.2)) hkey
      dsimp only
      have hdone : ((s.pushChunk ctx.bytes past m).1.renumbered ρ).isDone =
          (s.pushChunk ctx.bytes past m).1.isDone := rfl
      rw [hdone]
      split_ifs
      · exact hput.publish _ _ _
      · exact hput
    · rw [if_neg hplatform, if_neg hplatform]
      exact h

theorem Twin.notifyListenerAddedFile (h : Twin d ρ svc svc') (file path : String) :
    Twin d ρ (svc.notifyListenerAddedFile d file path) (svc'.notifyListenerAddedFile d file path) := by
  unfold FileManagementService.notifyListenerAddedFile
  rw [h.config]
  split_ifs
  · exact h.pushCommand (.onAddedFile d file path) rfl
  · exact h

/-- On one disk, the file has the same fate. -/
theorem Twin.placeFile (ctx : Context δ μ φ) (h : Twin d ρ svc svc') (hdisk : svc'.disk = svc.disk)
    (s : FileTransferSession) (bytes : Bytes) :
    (svc'.placeFile ctx (s.renumbered ρ) bytes).1 = (svc.placeFile ctx s bytes).1 ∧
      (svc'.placeFile ctx (s.renumbered ρ) bytes).2.disk = (svc.placeFile ctx s bytes).2.disk ∧
      Twin d ρ (svc.placeFile ctx s bytes).2 (svc'.placeFile ctx (s.renumbered ρ) bytes).2 := by
  have hfolder : ∀ key, svc'.deviceFolder ctx key = svc.deviceFolder ctx key := fun key => by
    rw [deviceFolder, h.config, deviceFolder]
  have hmade : ∀ folder, svc'.makeFolder ctx folder = svc.makeFolder ctx folder := fun folder => by
    rw [makeFolder, hdisk, makeFolder]
  have hcreated : ctx.fs.createBinaryFileWithContent
      (svc'.makeFolder ctx (svc'.deviceFolder ctx (s.renumbered ρ).deviceKey))
      (ctx.fs.composePath (s.renumbered ρ).name (svc'.deviceFolder ctx (s.renumbered ρ).deviceKey))
      bytes = ctx.fs.createBinaryFileWithContent
      (svc.makeFolder ctx (svc.deviceFolder ctx s.deviceKey))
      (ctx.fs.composePath s.name (svc.deviceFolder ctx s.deviceKey)) bytes := by
    rw [hfolder, hmade]
    rfl
  refine ⟨(congrArg Prod.fst hcreated :), (congrArg Prod.snd hcreated :), h.config, h.session,
    h.buffer, ?_⟩
  simp only [FileManagementService.placeFile, List.filterMap_append, h.said]
  rfl

theorem Twin.storeFile (h : Twin d ρ svc svc') (hdisk : svc'.disk = svc.disk)
    (hplatform : ∀ s, svc.session? d = some s → s.url = "") (hs : svc.storeFile ctx d = .ok svc₁) :
    ∃ svc₁', svc'.storeFile ctx d = .ok svc₁' ∧ Twin d ρ svc₁ svc₁' := by
  obtain ⟨s, hsession, hs⟩ := Machine.bind_eq_ok.mp hs
  obtain ⟨bytes, hbytes, hs⟩ := Machine.bind_eq_ok.mp hs
  have hat : svc.session? d = some s := by
    unfold sessionAt at hsession
    split at hsession
    · rename_i s' hs'
      cases hsession
      exact hs'
    · cases hsession
  have hurl : s.isPlatformTransfer = true := decide_eq_true (hplatform s hat)
  have hat' : svc'.sessionAt d = .ok (s.renumbered ρ) := by
    rw [sessionAt, h.session?, hat]
    rfl
  have hbytes' : svc'.collectBytes ctx (s.renumbered ρ) = .ok bytes := by
    rw [collectBytes, if_pos hurl] at hbytes
    rw [collectBytes, if_pos (show (s.renumbered ρ).isPlatformTransfer = true from hurl)]
    exact hbytes
  obtain ⟨hsuccess, hplacedDisk, hplaced⟩ := h.placeFile ctx hdisk s bytes
  suffices hrest : ∃ svc₁', (if (svc'.placeFile ctx (s.renumbered ρ) bytes).1 then
      Except.ok ((svc'.placeFile ctx (s.renumbered ρ) bytes).2.notifyListenerAddedFile d
        (s.renumbered ρ).name ((svc'.placeFile ctx (s.renumbered ρ) bytes).2.absolutePathOfFile ctx d
          (s.renumbered ρ).name))
      else (svc'.placeFile ctx (s.renumbered ρ) bytes).2.reportStatus ctx d .error .fileSystemError) =
      .ok svc₁' ∧ Twin d ρ svc₁ svc₁' by
    obtain ⟨svc₁', hstored, htwin⟩ := hrest
    exact ⟨svc₁', Machine.bind_eq_ok.mpr ⟨_, hat', Machine.bind_eq_ok.mpr ⟨_, hbytes', hstored⟩⟩,
      htwin⟩
  dsimp only at hs
  rw [hsuccess]
  split_ifs at hs ⊢
  · cases hs
    have hpath : (svc'.placeFile ctx (s.renumbered ρ) bytes).2.absolutePathOfFile ctx d s.name =
        (svc.placeFile ctx s bytes).2.absolutePathOfFile ctx d s.name := by
      rw [absolutePathOfFile, hplacedDisk, pathOf_config hplaced.config, absolutePathOfFile]
    refine ⟨_, rfl, ?_⟩
    change Twin d ρ _ (FileManagementService.notifyListenerAddedFile _ d s.name
      ((svc'.placeFile ctx (s.renumbered ρ) bytes).2.absolutePathOfFile ctx d s.name))
    rw [hpath]
    exact hplaced.notifyListenerAddedFile _ _
  · obtain ⟨svc₁', hreport, htwin, -⟩ := hplaced.reportStatus hs
    exact ⟨svc₁', hreport, htwin⟩

theorem Twin.onFileSessionStatus (h : Twin d ρ svc svc') (hdisk : svc'.disk = svc.disk)
    (hplatform : ∀ s, svc.session? d = some s → s.url = "") {p : SessionPtr}
    {status : FileTransferStatus} {error : FileTransferError}
    (hs : svc.onFileSessionStatus ctx p d status error = .ok svc₁) :
    ∃ svc₁', svc'.onFileSessionStatus ctx (p.renumbered ρ) d status error = .ok svc₁' ∧
      Twin d ρ svc₁ svc₁' := by
  obtain ⟨svc₂, hreport, hs⟩ := Machine.bind_eq_ok.mp hs
  obtain ⟨svc₂', hreport', htwin, hsame, hsame'⟩ := h.reportStatus hreport
  have hreset := fun {svc svc' : FileManagementService δ φ} (h : Twin d ρ svc svc') =>
    h.pushCommand (.resetSession d p) rfl
  cases status <;> dsimp only at hs
  case fileReady =>
    obtain ⟨svc₃, hstore, hs⟩ := Machine.bind_eq_ok.mp hs
    have hsession : svc₂.session? d = svc.session? d :=
      congrFun (congrArg Core.session (core_reportStatus hreport)) d
    obtain ⟨svc₃', hstore', htwin'⟩ := htwin.storeFile (hsame'.trans (hdisk.trans hsame.symm))
      (fun s hs => hplatform s (hsession ▸ hs)) hstore
    cases hs
    exact ⟨_, Machine.bind_eq_ok.mpr ⟨svc₂', hreport', Machine.bind_eq_ok.mpr ⟨svc₃', hstore', rfl⟩⟩,
      hreset htwin'⟩
  case error | aborted =>
    cases hs
    exact ⟨_, Machine.bind_eq_ok.mpr ⟨svc₂', hreport', rfl⟩, hreset htwin⟩
  case fileTransfer | awaitingDevice =>
    cases hs
    exact ⟨_, Machine.bind_eq_ok.mpr ⟨svc₂', hreport', rfl⟩, htwin⟩

/-- The service executes its next command, which is one of the device. -/
theorem Twin.runCommand (h : Twin d ρ svc svc') (hdisk : svc'.disk = svc.disk)
    (hplatform : ∀ s, svc.session? d = some s → s.url = "") {command : Command} {rest : List Command}
    (hbuffer : svc.commandBuffer = command :: rest) (hd : command.device = d)
    (hs : svc.runCommand ctx = .ok svc₁) :
    ∃ svc₁', svc'.runCommand ctx = .ok svc₁' ∧ Twin d ρ svc₁ svc₁' := by
  have hbuffer' : svc'.commandBuffer = command.renumbered ρ ::
      (rest.filter fun c => c.device = d).map (Command.renumbered ρ) := by
    rw [h.buffer, hbuffer, List.filter_cons_of_pos (by simpa using hd), List.map_cons]
  have htaken : Twin d ρ (svc.taken rest)
      (svc'.taken ((rest.filter fun c => c.device = d).map (Command.renumbered ρ))) :=
    ⟨h.config, h.session, rfl, h.said⟩
  unfold FileManagementService.runCommand at hs ⊢
  rw [hbuffer] at hs
  rw [hbuffer']
  change (svc.taken rest).execute ctx command = .ok svc₁ at hs
  change ∃ svc₁', (svc'.taken _).execute ctx (command.renumbered ρ) = .ok svc₁' ∧ _
  cases command with
  | sessionStatus p a =>
    obtain ⟨s, hresolve, hs⟩ := Machine.bind_eq_ok.mp hs
    obtain ⟨hsession, hserial⟩ := resolve_eq_ok.mp hresolve
    obtain rfl : p.deviceKey = d := hd
    have hresolve' : (svc'.taken ((rest.filter fun c => c.device = p.deviceKey).map
        (Command.renumbered ρ))).resolve (p.renumbered ρ) = .ok (s.renumbered ρ) := by
      refine resolve_eq_ok.mpr ⟨?_, congrArg ρ hserial⟩
      exact htaken.session?.trans (by rw [hsession]; rfl)
    have hcallback : (s.renumbered ρ).callback = s.callback := rfl
    by_cases hcalled : s.callback = true
    · rw [if_pos hcalled] at hs
      obtain ⟨svc₁', hs', htwin⟩ := htaken.onFileSessionStatus hdisk hplatform hs
      refine ⟨svc₁', Machine.bind_eq_ok.mpr ⟨_, hresolve', ?_⟩, htwin⟩
      rw [hcallback, if_pos hcalled]
      exact hs'
    · rw [if_neg hcalled] at hs
      cases hs
      refine ⟨_, Machine.bind_eq_ok.mpr ⟨_, hresolve', ?_⟩, htaken⟩
      rw [hcallback, if_neg hcalled]
  | resetSession k p =>
    obtain rfl : k = d := hd
    cases hs
    exact ⟨_, rfl, htaken.resetSession _ _⟩
  | onAddedFile k n path =>
    cases hs
    refine ⟨_, rfl, htaken.config, htaken.session, htaken.buffer, ?_⟩
    simp only [List.filterMap_append, taken, h.said]
  | onRemovedFile k n =>
    cases hs
    refine ⟨_, rfl, htaken.config, htaken.session, htaken.buffer, ?_⟩
    simp only [List.filterMap_append, taken, h.said]

theorem Twin.messageReceived (h : Twin d ρ svc svc') (hkeyed : svc.core.Keyed)
    (hplatform : ∀ s, svc.session? d = some s → s.url = "") {m : Inbound} {past : Nat → UInt8}
    (htraffic : (Event.receive (μ := μ) d m past).isUploadTraffic = true)
    (hs : svc.messageReceived ctx past d m = .ok svc₁) :
    ∃ ρ' svc₁', svc'.messageReceived ctx past d m = .ok svc₁' ∧ Twin d ρ' svc₁ svc₁' := by
  cases m <;> simp only [FileManagementService.messageReceived] at hs ⊢
  case fileUploadInit m =>
    rw [h.config]
    split_ifs at hs ⊢
    · exact h.onFileUploadInit hkeyed hs
    · cases hs
      exact ⟨ρ, _, rfl, h.publish _ _ _⟩
  case fileUploadAbort m =>
    rw [h.config]
    split_ifs at hs ⊢
    · exact ⟨ρ, h.onFileUploadAbort hkeyed hplatform hs⟩
    · cases hs
      exact ⟨ρ, _, rfl, h.publish _ _ _⟩
  case fileBinaryResponse m =>
    rw [h.config]
    split_ifs at hs ⊢
    · cases hs
      exact ⟨ρ, _, rfl, h.onFileBinaryResponse hkeyed past m⟩
    · cases hs
      exact ⟨ρ, _, rfl, h⟩
  all_goals cases htraffic

/-! ## Steps of other devices -/

/-- Nothing that concerns the device has changed. -/
structure Apart (d : String) (svc svc₁ : FileManagementService δ φ) : Prop where
  config : svc₁.config = svc.config
  session : svc₁.sessions.find? d = svc.sessions.find? d
  buffer : svc₁.commandBuffer.filter (fun c => c.device = d) =
    svc.commandBuffer.filter fun c => c.device = d
  said : svc₁.log.filterMap (Effect.about d) = svc.log.filterMap (Effect.about d)

theorem Twin.apart (h : Twin d ρ svc svc') (hapart : Apart d svc svc₁) : Twin d ρ svc₁ svc' :=
  ⟨h.config.trans hapart.config.symm, hapart.session ▸ h.session, hapart.buffer ▸ h.buffer,
    h.said.trans hapart.said.symm⟩

theorem Apart.refl (d : String) (svc : FileManagementService δ φ) : Apart d svc svc :=
  ⟨rfl, rfl, rfl, rfl⟩

theorem Apart.trans {svc₂ : FileManagementService δ φ} (h : Apart d svc svc₁)
    (h' : Apart d svc₁ svc₂) : Apart d svc svc₂ :=
  ⟨h'.config.trans h.config, h'.session.trans h.session, h'.buffer.trans h.buffer,
    h'.said.trans h.said⟩

section Apart

variable (hk : k ≠ d)
include hk

theorem apart_publish (svc : FileManagementService δ φ) (message : Outbound) (p : Option SessionPtr) :
    Apart d svc (svc.publish ctx k message p) := by
  unfold FileManagementService.publish
  split_ifs
  · refine ⟨rfl, rfl, rfl, ?_⟩
    simp [List.filterMap_append, Effect.about, hk]
  · exact .refl d svc

theorem apart_pushCommand (svc : FileManagementService δ φ) (command : Command)
    (hcommand : command.device = k) : Apart d svc (svc.pushCommand command) := by
  refine ⟨rfl, rfl, ?_, rfl⟩
  simp [FileManagementService.pushCommand, List.filter_append, hcommand, hk]

theorem apart_sessions (svc : FileManagementService δ φ) (v : Option FileTransferSession)
    (created : Nat) : Apart d svc { svc with sessions := svc.sessions.insert k v, created := created } :=
  ⟨rfl, OrderedMap.find?_insert_ne _ _ hk, rfl, rfl⟩

theorem apart_putSession (svc : FileManagementService δ φ)
    {r : FileTransferSession × List Announcement} (hr : r.1.deviceKey = k) :
    Apart d svc (svc.putSession k r) := by
  have hother : ∀ c ∈ r.2.map (Command.sessionStatus r.1.ptr), ¬ decide (c.device = d) = true := by
    intro c hc
    obtain ⟨a, -, rfl⟩ := List.mem_map.mp hc
    rw [decide_eq_true_eq]
    exact fun heq => hk (hr.symm.trans heq)
  refine ⟨rfl, OrderedMap.find?_insert_ne _ _ hk, ?_, rfl⟩
  simp only [FileManagementService.putSession, List.filter_append, List.filter_eq_nil_iff.mpr hother,
    List.append_nil]

theorem apart_resetSession (svc : FileManagementService δ φ) (p : SessionPtr) :
    Apart d svc (svc.resetSession k p) := by
  refine ⟨rfl, OrderedMap.find?_insert_ne _ _ hk, rfl, ?_⟩
  cases hsession : svc.session? k <;>
    simp [FileManagementService.resetSession, hsession, List.filterMap_append, Effect.about]

theorem apart_reportStatus {status : FileTransferStatus} {error : FileTransferError}
    (hs : svc.reportStatus ctx k status error = .ok svc₁) : Apart d svc svc₁ := by
  unfold FileManagementService.reportStatus at hs
  split at hs
  · cases hs
    exact .refl d svc
  · cases hs
  · cases hs
    exact apart_publish hk _ _ _

theorem apart_onFileUploadInit {m : FileUploadInitiateMessage}
    (hs : svc.onFileUploadInit ctx k m = .ok svc₁) : Apart d svc svc₁ := by
  unfold FileManagementService.onFileUploadInit at hs
  split_ifs at hs
  · cases hs
    exact .refl d svc
  · cases hs
    exact .refl d svc
  · have hadd : Apart d svc (svc.addSession (.ofUpload svc.created k m true)) :=
      apart_sessions hk _ _ _
    dsimp only at hs
    split_ifs at hs
    · obtain ⟨svc₂, hreport, hs⟩ := Machine.bind_eq_ok.mp hs
      cases hs
      exact (hadd.trans (apart_reportStatus hk hreport)).trans (apart_publish hk _ _ _)
    · cases hs
      exact hadd

theorem apart_onFileUploadAbort (hkeyed : svc.core.Keyed)
    (hplatform : ∀ s, svc.session? k = some s → s.url = "") {m : FileUploadAbortMessage}
    (hs : svc.onFileUploadAbort ctx k m = .ok svc₁) : Apart d svc svc₁ := by
  unfold FileManagementService.onFileUploadAbort at hs
  split at hs
  · cases hs
    exact .refl d svc
  · rename_i s hsession
    unfold abortSession at hs
    rw [if_pos (show s.isPlatformTransfer = true from decide_eq_true (hplatform s hsession))] at hs
    split_ifs at hs
    · cases hs
      exact apart_putSession hk _
        (FileTransferSession.kept_abort.deviceKey.trans (hkeyed.key k s hsession))
    · cases hs
      exact .refl d svc

theorem apart_onFileBinaryResponse (hkeyed : svc.core.Keyed) (past : Nat → UInt8)
    (m : FileBinaryResponseMessage) : Apart d svc (svc.onFileBinaryResponse ctx past k m) := by
  unfold FileManagementService.onFileBinaryResponse
  split
  · exact .refl d svc
  · rename_i s hsession
    split_ifs
    · have hput := apart_putSession hk svc
        (r := ((s.pushChunk ctx.bytes past m).1, (s.pushChunk ctx.bytes past m).2.2))
        ((FileTransferSession.kept_pushChunk ctx.bytes past m).deviceKey.trans
          (hkeyed.key k s hsession))
      dsimp only
      split_ifs
      · exact hput.trans (apart_publish hk _ _ _)
      · exact hput
    · exact .refl d svc

theorem apart_messageReceived (hkeyed : svc.core.Keyed)
    (hplatform : ∀ s, svc.session? k = some s → s.url = "") {m : Inbound} {past : Nat → UInt8}
    (htraffic : (Event.receive (μ := μ) k m past).isUploadTraffic = true)
    (hs : svc.messageReceived ctx past k m = .ok svc₁) : Apart d svc svc₁ := by
  cases m <;> simp only [FileManagementService.messageReceived] at hs
  case fileUploadInit m =>
    split_ifs at hs
    · exact apart_onFileUploadInit hk hs
    · cases hs
      exact apart_publish hk _ _ _
  case fileUploadAbort m =>
    split_ifs at hs
    · exact apart_onFileUploadAbort hk hkeyed hplatform hs
    · cases hs
      exact apart_publish hk _ _ _
  case fileBinaryResponse m =>
    split_ifs at hs
    · cases hs
      exact apart_onFileBinaryResponse hk hkeyed past m
    · cases hs
      exact .refl d svc
  all_goals cases htraffic

theorem apart_storeFile (hs : svc.storeFile ctx k = .ok svc₁) : Apart d svc svc₁ := by
  obtain ⟨s, -, hs⟩ := Machine.bind_eq_ok.mp hs
  obtain ⟨bytes, -, hs⟩ := Machine.bind_eq_ok.mp hs
  have hplaced : Apart d svc (svc.placeFile ctx s bytes).2 := by
    refine ⟨rfl, rfl, rfl, ?_⟩
    simp [placeFile, List.filterMap_append, Effect.about]
  dsimp only at hs
  split_ifs at hs
  · cases hs
    refine hplaced.trans ?_
    unfold FileManagementService.notifyListenerAddedFile
    split_ifs
    · exact apart_pushCommand hk _ _ rfl
    · exact .refl d _
  · exact hplaced.trans (apart_reportStatus hk hs)

theorem apart_onFileSessionStatus {p : SessionPtr} {status : FileTransferStatus}
    {error : FileTransferError} (hs : svc.onFileSessionStatus ctx p k status error = .ok svc₁) :
    Apart d svc svc₁ := by
  obtain ⟨svc₂, hreport, hs⟩ := Machine.bind_eq_ok.mp hs
  have hreported := apart_reportStatus hk hreport
  have hreset := fun (svc : FileManagementService δ φ) =>
    apart_pushCommand hk svc (.resetSession k p) rfl
  cases status <;> dsimp only at hs
  case fileReady =>
    obtain ⟨svc₃, hstore, hs⟩ := Machine.bind_eq_ok.mp hs
    cases hs
    exact (hreported.trans (apart_storeFile hk hstore)).trans (hreset _)
  case error | aborted =>
    cases hs
    exact hreported.trans (hreset _)
  case fileTransfer | awaitingDevice =>
    cases hs
    exact hreported

theorem apart_runCommand {command : Command} {rest : List Command}
    (hbuffer : svc.commandBuffer = command :: rest) (hcommand : command.device = k)
    (hs : svc.runCommand ctx = .ok svc₁) : Apart d svc svc₁ := by
  have htaken : Apart d svc (svc.taken rest) := by
    refine ⟨rfl, rfl, ?_, rfl⟩
    rw [hbuffer, List.filter_cons_of_neg (by simpa [hcommand] using hk)]
    rfl
  refine htaken.trans ?_
  unfold FileManagementService.runCommand at hs
  rw [hbuffer] at hs
  change (svc.taken rest).execute ctx command = .ok svc₁ at hs
  cases command with
  | sessionStatus p a =>
    obtain rfl : p.deviceKey = k := hcommand
    obtain ⟨s, -, hs⟩ := Machine.bind_eq_ok.mp hs
    split_ifs at hs
    · exact apart_onFileSessionStatus hk hs
    · cases hs
      exact .refl d _
  | resetSession key p =>
    obtain rfl : key = k := hcommand
    cases hs
    exact apart_resetSession hk _ _
  | onAddedFile key n path =>
    obtain rfl : key = k := hcommand
    cases hs
    refine ⟨rfl, rfl, rfl, ?_⟩
    simp [List.filterMap_append, Effect.about, hk]
  | onRemovedFile key n =>
    obtain rfl : key = k := hcommand
    cases hs
    refine ⟨rfl, rfl, rfl, ?_⟩
    simp [List.filterMap_append, Effect.about, hk]

end Apart

end FileManagementService

namespace System

open FileManagementService (Twin Apart)

variable {δ μ φ : Type} (ctx : Context δ μ φ) (d : String)

/-- The device that the event concerns: a message is about one, and so is the next command. -/
def concerns (sys : System δ φ) : Event μ → Option String
  | .receive deviceKey _ _ => some deviceKey
  | .runCommand => sys.svc.commandBuffer.head?.map Command.device
  | .report | .downloader _ => none

/-- What a run leaves for the device: an event that concerns it, with the disk that it finds. -/
def share (sys : System δ φ) (e : Event μ) : Option (φ × Event μ) :=
  if sys.concerns e = some d then some (sys.svc.disk, e) else none

/-- A step that finds this disk, so that storing a file has the outcome that it has there. -/
def stepOn (sys : System δ φ) (e : φ × Event μ) : Except Fault (System δ φ) :=
  ({ sys with svc := { sys.svc with disk := e.1 } } : System δ φ).step ctx e.2

/-- The same session but for its address, the same messages and the same notifications. -/
structure SameFor (d : String) (sys sys' : System δ φ) : Prop where
  session : (sys'.svc.session? d).map (FileTransferSession.renumbered fun _ => 0) =
    (sys.svc.session? d).map (FileTransferSession.renumbered fun _ => 0)
  messages : sys'.svc.log.filterMap (Effect.messageFor d) =
    sys.svc.log.filterMap (Effect.messageFor d)
  told : sys'.svc.log.filterMap (Effect.noticeFor d) = sys.svc.log.filterMap (Effect.noticeFor d)
  queued : sys'.svc.commandBuffer.filterMap (Command.noticeFor d) =
    sys.svc.commandBuffer.filterMap (Command.noticeFor d)

variable {ctx} {d} {sys sys' : System δ φ} {es : List (Event μ)} {e : Event μ}

/-- What the whole run and that of the device have in common. -/
structure Shared (ctx : Context δ μ φ) (d : String) (sys sys' : System δ φ) : Prop where
  idle : sys.reporting = none ∧ sys'.reporting = none
  uploads : ∃ es : List (Event μ), Uploads ctx.bytes es sys.svc.core
  twin : ∃ ρ, Twin d ρ sys.svc sys'.svc

theorem Shared.same (h : Shared ctx d sys sys') : SameFor d sys sys' := by
  obtain ⟨ρ, htwin⟩ := h.twin
  have hbind : ∀ {β : Type} (f : Effect → Option β) (hf : ∀ e, f e = (e.about d).bind f),
      sys'.svc.log.filterMap f = sys.svc.log.filterMap f := by
    intro β f hf
    have hlog : ∀ log : List Effect, log.filterMap f = (log.filterMap (Effect.about d)).filterMap f := by
      intro log
      rw [List.filterMap_filterMap]
      exact List.filterMap_congr fun e _ => hf e
    rw [hlog, htwin.said, ← hlog]
  refine ⟨?_, hbind _ (Effect.messageFor_eq d), hbind _ (Effect.noticeFor_eq d), ?_⟩
  · rw [htwin.session?, Option.map_map]
    rfl
  · rw [htwin.buffer, List.filterMap_map, List.filterMap_filter]
    refine List.filterMap_congr fun c _ => ?_
    simpa using Command.noticeFor_renumbered d ρ c

theorem step_upload (sys : System δ φ) {k : String} {m : FileManagementService.Inbound} {past : Nat → UInt8}
    (hidle : sys.reporting = none)
    (htraffic : (Event.receive (μ := μ) k m past).isUploadTraffic = true) {t : System δ φ} :
    sys.step ctx (.receive k m past) = .ok t ↔
      ∃ svc, sys.svc.messageReceived ctx past k m = .ok svc ∧ t = { sys with svc := svc } := by
  have hreceive : sys.step ctx (.receive k m past) = (do
      let svc ← sys.svc.messageReceived ctx past k m
      .ok { sys with svc := svc }) := by
    have hreceive : sys.step ctx (.receive k m past) = sys.receive ctx k m past := by
      simp only [step, hidle]
    rw [hreceive]
    unfold receive
    split
    · cases htraffic
    · rfl
  rw [hreceive, Machine.bind_eq_ok]
  constructor
  · rintro ⟨svc, hsvc, hs⟩
    exact ⟨svc, hsvc, (Except.ok.inj hs).symm⟩
  · rintro ⟨svc, hsvc, rfl⟩
    exact ⟨svc, hsvc, rfl⟩

/-- A step of another device is none of this one. -/
theorem Shared.skip (h : Shared ctx d sys sys') (htraffic : e.isUploadTraffic = true)
    (hother : sys.concerns e ≠ some d) {t : System δ φ} (hs : sys.step ctx e = .ok t) :
    Shared ctx d t sys' := by
  obtain ⟨hidle, ⟨es, huploads⟩, ρ, htwin⟩ := h
  have hkept := huploads.move htraffic (step_moves hs)
  have hplatform : ∀ k s, sys.svc.session? k = some s → s.url = "" := fun k s hs =>
    (huploads.declared k s hs).platform
  cases e with
  | receive k m past =>
    obtain ⟨svc, hsvc, rfl⟩ := (step_upload sys hidle.1 htraffic).mp hs
    have hk : k ≠ d := fun heq => hother (congrArg some heq)
    exact ⟨hidle, ⟨_, hkept⟩, ρ, htwin.apart
      (FileManagementService.apart_messageReceived hk huploads.toKeyed (hplatform k) htraffic hsvc)⟩
  | runCommand =>
    obtain ⟨svc, hsvc, hs⟩ := Machine.bind_eq_ok.mp hs
    cases hs
    refine ⟨hidle, ⟨_, hkept⟩, ρ, ?_⟩
    cases hbuffer : sys.svc.commandBuffer with
    | nil =>
      unfold FileManagementService.runCommand at hsvc
      rw [hbuffer] at hsvc
      cases hsvc
      exact htwin
    | cons command rest =>
      have hk : command.device ≠ d := by
        rw [concerns, hbuffer] at hother
        exact fun heq => hother (congrArg some heq)
      exact htwin.apart (FileManagementService.apart_runCommand hk hbuffer rfl hsvc)
  | report | downloader => cases htraffic

/-- A step of the device is one in the run of the device, too. -/
theorem Shared.take (h : Shared ctx d sys sys') (htraffic : e.isUploadTraffic = true)
    (hown : sys.concerns e = some d) {t : System δ φ} (hs : sys.step ctx e = .ok t) :
    sys'.concerns e = some d ∧ ∃ t', sys'.stepOn ctx (sys.svc.disk, e) = .ok t' ∧ Shared ctx d t t' := by
  obtain ⟨hidle, ⟨es, huploads⟩, ρ, htwin⟩ := h
  have hkept := huploads.move htraffic (step_moves hs)
  have hplatform : ∀ s, sys.svc.session? d = some s → s.url = "" := fun s hs =>
    (huploads.declared d s hs).platform
  -- what the disk is does not show until a file is stored
  have hmoved : Twin d ρ sys.svc { sys'.svc with disk := sys.svc.disk } :=
    ⟨htwin.config, htwin.session, htwin.buffer, htwin.said⟩
  cases e with
  | receive k m past =>
    obtain rfl : k = d := Option.some.inj hown
    obtain ⟨svc, hsvc, rfl⟩ := (step_upload sys hidle.1 htraffic).mp hs
    obtain ⟨ρ', svc', hsvc', htwin'⟩ :=
      hmoved.messageReceived huploads.toKeyed hplatform htraffic hsvc
    let moved : System δ φ := { sys' with svc := { sys'.svc with disk := sys.svc.disk } }
    have hs' : moved.step ctx (.receive k m past) = .ok { sys' with svc := svc' } :=
      (step_upload moved hidle.2 htraffic).mpr ⟨svc', hsvc', rfl⟩
    exact ⟨rfl, _, hs', hidle, ⟨_, hkept⟩, ρ', htwin'⟩
  | runCommand =>
    obtain ⟨svc, hsvc, hs⟩ := Machine.bind_eq_ok.mp hs
    cases hs
    rw [concerns, Option.map_eq_some_iff] at hown
    obtain ⟨command, hhead, hdevice⟩ := hown
    obtain ⟨rest, hbuffer⟩ := List.head?_eq_some_iff.mp hhead
    obtain ⟨svc', hsvc', htwin'⟩ := hmoved.runCommand rfl hplatform hbuffer hdevice hsvc
    have hs' : sys'.stepOn ctx (sys.svc.disk, .runCommand) = .ok { sys' with svc := svc' } :=
      Machine.bind_eq_ok.mpr ⟨svc', hsvc', rfl⟩
    refine ⟨?_, _, hs', hidle, ⟨_, hkept⟩, ρ, htwin'⟩
    rw [concerns, htwin.buffer, hbuffer, List.filter_cons_of_pos (by simpa using hdevice)]
    exact congrArg some ((command.device_renumbered ρ).trans hdevice)
  | report | downloader => cases htraffic

/-- **Platform transfers of different devices are independent.** In a run of uploads where every step
is defined, leave out the steps that concern other devices, and let each file be stored as it was. What
is left is a run, in which every step concerns the device, with the same result for it. -/
theorem transfers_independent (config : Configuration) (x : Option δ) (disk : φ) (d : String)
    (h : Machine.Run (step ctx) (fun _ e => e.isUploadTraffic = true) (create config x disk) es sys) :
    ∃ sys' : System δ φ, Machine.Run (stepOn ctx)
        (fun sys e => e.2.isUploadTraffic = true ∧ sys.concerns e.2 = some d) (create config x disk)
        (Machine.kept (step ctx) (share d) (create config x disk) es) sys' ∧
      SameFor d sys sys' := by
  have hinit : Shared ctx d (create config x disk) (create config x disk) :=
    ⟨⟨rfl, rfl⟩, ⟨[], uploads_create config x disk⟩, id, rfl, rfl, rfl, rfl⟩
  suffices hproject : ∃ sys' : System δ φ, Machine.Run (stepOn ctx)
      (fun sys e => e.2.isUploadTraffic = true ∧ sys.concerns e.2 = some d) (create config x disk)
      (Machine.kept (step ctx) (share d) (create config x disk) es) sys' ∧ Shared ctx d sys sys' by
    obtain ⟨sys', hrun, hshared⟩ := hproject
    exact ⟨sys', hrun, hshared.same⟩
  refine h.project (share d) (Shared ctx d) hinit ?_ ?_
  · intro s e t s' hshared htraffic hs hnone
    refine hshared.skip htraffic (fun hown => ?_) hs
    rw [share, if_pos hown] at hnone
    cases hnone
  · intro s e t s' e' hshared htraffic hs hsome
    unfold share at hsome
    split_ifs at hsome with hown
    cases hsome
    obtain ⟨hown', t', hs', hshared'⟩ := hshared.take htraffic hown hs
    exact ⟨⟨htraffic, hown'⟩, t', hs', hshared'⟩

/-- The upload for "d" does not see that one for "e" begins in between. -/
theorem transfers_independent_two : ∃ (es : List (PathDisk × Event Empty))
    (sys' : System Empty PathDisk), es.length = 5 ∧
    Machine.Run (stepOn uploadContext)
      (fun sys e => e.2.isUploadTraffic = true ∧ sys.concerns e.2 = some "d") uploadSystem es sys' ∧
    sys'.svc.log.filterMap (Effect.messageFor "d") =
      [.fileUploadStatus "f" .fileTransfer .none, .fileBinaryRequest ⟨"f", 0⟩,
        .fileUploadStatus "f" .fileReady .none] := by
  let mixed : List (Event Empty) := [.initA,
    .receive "e" (.fileUploadInit ⟨"g", 1, "92eb5ffee6ae2fec3ad71c777531578f"⟩) fun _ => 0,
    .runCommand, .chunkA, .runCommand, .runCommand, .runCommand]
  obtain ⟨sys, hrun, hmessages⟩ := Machine.Run.exists_of_check (step uploadContext)
    (fun _ e => e.isUploadTraffic = true) uploadSystem mixed
    (fun sys => sys.svc.log.filterMap (Effect.messageFor "d"))
    [.fileUploadStatus "f" .fileTransfer .none, .fileBinaryRequest ⟨"f", 0⟩,
      .fileUploadStatus "f" .fileReady .none] (by decide +kernel)
  obtain ⟨sys', hrun', hsame⟩ := transfers_independent openConfiguration none _ "d" hrun
  exact ⟨_, sys', by decide +kernel, hrun', hsame.messages.trans hmessages⟩

end System

end WolkConnect
