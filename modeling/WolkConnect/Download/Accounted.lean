import WolkConnect.Download.Single

/-!
# What the downloader says about its files

While downloads are made one at a time, a `FILE_READY` in the command buffer names a
file that was obtained for its owner, and the bytes are still those of this file. The
end of every download is announced, or was.
-/

namespace WolkConnect.HTTPFileDownloader

variable {bu : ByteUtils} {x x' : HTTPFileDownloader}

/-! ## Files -/

structure Accounted (bu : ByteUtils) (x : HTTPFileDownloader) : Prop where
  asked : ∀ t, x.thread = some t → (t.owner, t.url) ∈ x.requested
  received : ∀ t, x.thread = some t → t.phase = .received →
    ⟨t.owner, t.url, fileName bu t.url x.bytes, x.bytes⟩ ∈ x.obtained
  unnamed : ∀ command ∈ x.commandBuffer, command.status ≠ .fileReady → command.fileName = ""
  ready : ∀ command ∈ x.commandBuffer, command.status = .fileReady → command.fileName ≠ "" ∧
    ∃ url, ⟨command.owner, url, command.fileName, x.bytes⟩ ∈ x.obtained
  known : ∀ o ∈ x.obtained, (o.owner, o.url) ∈ x.requested

theorem accounted_create : Accounted bu create where
  asked t ht := by cases ht
  received t ht := by cases ht
  unnamed command h := by cases h
  ready command h := by cases h
  known o h := by cases h

theorem Accounted.setThread (h : Accounted bu x) (thread : Option Download)
    (ended : List (SessionPtr × FileTransferStatus))
    (hthread : ∀ t, thread = some t → (t.owner, t.url) ∈ x.requested ∧ t.phase ≠ .received) :
    Accounted bu { x with thread := thread, ended := ended } where
  asked t ht := (hthread t ht).1
  received t ht hphase := absurd hphase (hthread t ht).2
  unnamed := h.unnamed
  ready := h.ready
  known := h.known

theorem Accounted.changeStatus (h : Accounted bu x) {owner : SessionPtr}
    {status : FileTransferStatus} {error : FileTransferError} {fileName : String}
    (hunnamed : status ≠ .fileReady → fileName = "")
    (hready : status = .fileReady → fileName ≠ "" ∧
      ∃ url, ⟨owner, url, fileName, x.bytes⟩ ∈ x.obtained) :
    Accounted bu (x.changeStatus owner status error fileName) where
  asked t ht := by
    rw [changeStatus_requested]
    exact h.asked t (by simpa using ht)
  received t ht hphase := by
    rw [changeStatus_bytes, changeStatus_obtained]
    exact h.received t (by simpa using ht) hphase
  unnamed command hc := by
    rcases mem_changeStatus hc with hc | rfl
    · exact h.unnamed command hc
    · exact hunnamed
  ready command hc := by
    rw [changeStatus_bytes, changeStatus_obtained]
    rcases mem_changeStatus hc with hc | rfl
    · exact h.ready command hc
    · exact hready
  known o ho := by
    rw [changeStatus_requested]
    exact h.known o (by simpa using ho)

theorem Accounted.stepThread (h : Accounted bu x) (hs : Single x) {t : Download}
    (ht : x.thread = some t) (response : Response) : Accounted bu (x.stepThread bu t response) := by
  have hasked := h.asked t ht
  apply stepThread_cases
  · intro _
    have hset := h.setThread (some { t with phase := .announced }) x.ended
      fun t' ht' => by cases ht'; exact ⟨hasked, by simp⟩
    exact hset.changeStatus (fun _ => rfl) (by simp)
  · intro _
    have hset := h.setThread none (x.ended ++ [(t.owner, .error)]) fun t' ht' => by cases ht'
    exact hset.changeStatus (fun _ => rfl) (by simp)
  · intro session _
    have hset := h.setThread (some { t with phase := .connected }) x.ended
      fun t' ht' => by cases ht'; exact ⟨hasked, by simp⟩
    exact ⟨hset.asked, hset.received, h.unnamed, h.ready, h.known⟩
  · intro body _ _
    -- the thread is running, so no `FILE_READY` speaks of the bytes that are replaced
    refine ⟨fun t' ht' => ?_, fun t' ht' _ => ?_, h.unnamed, fun command hc hready => ?_, ?_⟩
    · cases ht'; exact hasked
    · cases ht'
      exact List.mem_append_right _ (List.mem_singleton.mpr rfl)
    · rw [hs.running t ht command hc] at hready
      cases hready
    · intro o ho
      rcases List.mem_append.mp ho with ho | ho
      · exact h.known o ho
      · cases List.mem_singleton.mp ho
        exact hasked
  · intro hphase
    have hset := h.setThread none (x.ended ++ [(t.owner, .fileReady)]) fun t' ht' => by cases ht'
    exact hset.changeStatus (by simp) fun _ =>
      ⟨fileName_ne_empty _ _ _, t.url, h.received t ht hphase⟩

theorem Accounted.pop (h : Accounted bu x) {command : StatusCommand} {rest : List StatusCommand}
    (hq : x.commandBuffer = command :: rest) : Accounted bu { x with commandBuffer := rest } where
  asked := h.asked
  received := h.received
  unnamed c hc := h.unnamed c (hq ▸ List.mem_cons_of_mem _ hc)
  ready c hc := h.ready c (hq ▸ List.mem_cons_of_mem _ hc)
  known := h.known

theorem downloadFile_requested (url : String) (owner : SessionPtr) :
    (x.downloadFile url owner).requested = x.requested ++ [(owner, url)] := by
  unfold HTTPFileDownloader.downloadFile
  dsimp only
  split
  · simp
  · split <;> rfl

theorem downloadFile_obtained (url : String) (owner : SessionPtr) :
    (x.downloadFile url owner).obtained = x.obtained := by
  unfold HTTPFileDownloader.downloadFile
  dsimp only
  split
  · simp
  · split <;> rfl

theorem downloadFile_bytes (url : String) (owner : SessionPtr) :
    (x.downloadFile url owner).bytes = x.bytes := by
  unfold HTTPFileDownloader.downloadFile
  dsimp only
  split
  · simp
  · split <;> rfl

theorem Accounted.downloadFile (h : Accounted bu x) (hidle : x.busy = false) (url : String)
    (owner : SessionPtr) : Accounted bu (x.downloadFile url owner) := by
  obtain ⟨hthread, -, hbuffer⟩ := busy_eq_false.mp hidle
  have hcalled : ∀ ended, Accounted bu { x with
      statusCallback := some owner
      requested := x.requested ++ [(owner, url)]
      ended := ended } := by
    intro ended
    refine ⟨fun t ht => ?_, fun t ht => ?_, h.unnamed, h.ready, fun o ho => ?_⟩
    · simp [hthread] at ht
    · simp [hthread] at ht
    · exact List.mem_append_left _ (h.known o ho)
  unfold HTTPFileDownloader.downloadFile
  dsimp only
  split_ifs with hregex
  · exact (hcalled _).changeStatus (fun _ => rfl) (by simp)
  · rw [hthread]
    refine (hcalled x.ended).setThread (some ⟨url, owner, .started⟩) x.ended fun t ht => ?_
    cases ht
    exact ⟨List.mem_append_right _ (List.mem_singleton.mpr rfl), by simp⟩

/-! ## What a step of the thread changes -/

theorem stepThread_requested (t : Download) (response : Response) :
    (x.stepThread bu t response).requested = x.requested := by
  apply stepThread_cases (P := fun y => y.requested = x.requested)
  · intro _; simp [announceStart]
  · intro _; simp [fail]
  · intro _ _; rfl
  · intro _ _ _; rfl
  · intro _; simp [announceFile]

theorem stepThread_obtained (t : Download) (response : Response) {o : Obtained}
    (ho : o ∈ x.obtained) : o ∈ (x.stepThread bu t response).obtained := by
  apply stepThread_cases (P := fun y => o ∈ y.obtained)
  · intro _; simpa [announceStart] using ho
  · intro _; simpa [fail] using ho
  · intro _ _; exact ho
  · intro _ _ _; exact List.mem_append_left _ ho
  · intro _; simpa [announceFile] using ho

/-- The move puts other bytes in the place of those that are there. -/
def replaces (x : HTTPFileDownloader) : DownloaderMove → Bool
  | .thread (.reply status body) =>
    status = 200 && x.thread.any (fun t => t.phase = .connected) && body ≠ x.bytes
  | _ => false

theorem stepThread_bytes {t : Download} (ht : x.thread = some t) (response : Response)
    (h : x.replaces (.thread response) = false) :
    (x.stepThread bu t response).bytes = x.bytes := by
  apply stepThread_cases (P := fun y => y.bytes = x.bytes)
  · intro _; simp [announceStart]
  · intro _; simp [fail]
  · intro _ _; rfl
  · intro body hphase hresponse
    rw [hresponse] at h
    have hbytes : body = x.bytes := by simpa [replaces, ht, hphase] using h
    exact hbytes
  · intro _; simp [announceFile]

/-! ## Ends -/

/-- A download that ended is announced in the command buffer, or was reported. -/
structure Announced (reported : SessionPtr × FileTransferStatus → Prop) (x : HTTPFileDownloader) :
    Prop where
  transferring : ∀ t, x.thread = some t → t.phase ≠ .started → x.status = .fileTransfer
  ended : ∀ e ∈ x.ended, (∃ command ∈ x.commandBuffer, (command.owner, command.status) = e) ∨
    reported e

variable {reported : SessionPtr × FileTransferStatus → Prop}

theorem announced_create : Announced reported create where
  transferring t ht := by cases ht
  ended e he := by cases he

theorem Announced.mono (h : Announced reported x)
    {reported' : SessionPtr × FileTransferStatus → Prop} (hmono : ∀ e, reported e → reported' e) :
    Announced reported' x :=
  ⟨h.transferring, fun e he => (h.ended e he).imp id (hmono e)⟩

/-- The end of a download is announced when it changes the status. -/
theorem Announced.finish (h : Announced reported x) {owner : SessionPtr}
    {status : FileTransferStatus} {error : FileTransferError} {fileName : String}
    (hthread : x'.thread = none) (hended : x'.ended = x.ended ++ [(owner, status)])
    (hbuffer : x'.commandBuffer = x.commandBuffer) (hchanged : status ≠ x'.status)
    (hcallback : x'.statusCallback.isSome) :
    Announced reported (x'.changeStatus owner status error fileName) where
  transferring t ht := by simp [hthread] at ht
  ended e he := by
    rw [changeStatus_ended, hended] at he
    rcases List.mem_append.mp he with he | he
    · rcases h.ended e he with ⟨command, hc, heq⟩ | he
      · exact Or.inl ⟨command, mem_changeStatus_of_mem (hbuffer ▸ hc), heq⟩
      · exact Or.inr he
    · rw [List.mem_singleton.mp he]
      exact Or.inl ⟨_, changeStatus_announces hchanged hcallback, rfl⟩

theorem Announced.stepThread (h : Announced reported x) (hs : Single x) {t : Download}
    (ht : x.thread = some t) (response : Response) :
    Announced reported (x.stepThread bu t response) := by
  have hcallback : x.statusCallback.isSome := by rw [hs.owned t ht]; rfl
  apply stepThread_cases
  · intro _
    refine ⟨fun _ _ _ => changeStatus_status _ _ _ _ _, fun e he => ?_⟩
    rcases h.ended e (by simpa [announceStart] using he) with ⟨command, hc, heq⟩ | he
    · exact Or.inl ⟨command, mem_changeStatus_of_mem hc, heq⟩
    · exact Or.inr he
  · intro hphase
    refine h.finish rfl rfl rfl ?_ hcallback
    rw [h.transferring t ht hphase]
    simp
  · intro session hphase
    exact ⟨fun _ _ _ => h.transferring t ht (by simp [hphase]), h.ended⟩
  · intro body hphase _
    exact ⟨fun _ _ _ => h.transferring t ht (by simp [hphase]), h.ended⟩
  · intro hphase
    refine h.finish rfl rfl rfl ?_ hcallback
    rw [h.transferring t ht (by simp [hphase])]
    simp

theorem Announced.downloadFile (h : Announced reported x) (hidle : x.busy = false) (url : String)
    (owner : SessionPtr) (hshown : passesRegex url = false → x.status ≠ .error) :
    Announced reported (x.downloadFile url owner) := by
  obtain ⟨hthread, -, -⟩ := busy_eq_false.mp hidle
  unfold HTTPFileDownloader.downloadFile
  dsimp only
  split_ifs with hregex
  · exact h.finish hthread rfl rfl (hshown (by simpa using hregex)).symm rfl
  · rw [hthread]
    refine ⟨fun t ht hphase => ?_, h.ended⟩
    cases ht
    exact absurd rfl hphase

theorem Announced.pop (h : Announced reported x) {command : StatusCommand}
    {rest : List StatusCommand} (hq : x.commandBuffer = command :: rest)
    {reported' : SessionPtr × FileTransferStatus → Prop} (hmono : ∀ e, reported e → reported' e)
    (hcommand : reported' (command.owner, command.status)) :
    Announced reported' { x with commandBuffer := rest } where
  transferring := h.transferring
  ended e he := by
    rcases h.ended e he with ⟨c, hc, rfl⟩ | he
    · rw [hq] at hc
      rcases List.mem_cons.mp hc with rfl | hc
      · exact Or.inr hcommand
      · exact Or.inl ⟨c, hc, rfl⟩
    · exact Or.inr (hmono e he)

end WolkConnect.HTTPFileDownloader
