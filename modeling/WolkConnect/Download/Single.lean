import WolkConnect.Download.Model
import WolkConnect.Service.Core

/-!
# One download at a time

When no download is asked for while another one is in progress, the callback in the
downloader is that of the download in progress, and the end of a download is the last
thing in its command buffer.
-/

namespace WolkConnect

namespace HTTPFileDownloader

variable {bu : ByteUtils} {x x' : HTTPFileDownloader}

/-! ## Changes of status -/

section ChangeStatus

variable (x) (owner : SessionPtr) (status : FileTransferStatus) (error : FileTransferError)
  (fileName : String)

/-- A change of status may queue one command, and touches nothing else that lasts. -/
theorem changeStatus_eq : ∃ status' name queued,
    x.changeStatus owner status error fileName =
      { x with status := status', name := name, commandBuffer := x.commandBuffer ++ queued } ∧
    (queued = [] ∨ queued = [⟨owner, status, error, fileName⟩]) := by
  unfold changeStatus
  split_ifs with hchanged hcallback
  · exact ⟨status, fileName, _, rfl, Or.inr rfl⟩
  · exact ⟨status, fileName, _, rfl, Or.inl rfl⟩
  · exact ⟨x.status, x.name, [], by simp, Or.inl rfl⟩

@[simp] theorem changeStatus_status : (x.changeStatus owner status error fileName).status = status := by
  unfold changeStatus
  split
  · rfl
  · rename_i h
    exact (not_not.mp h).symm

@[simp] theorem changeStatus_bytes :
    (x.changeStatus owner status error fileName).bytes = x.bytes := by
  unfold changeStatus; split <;> rfl

@[simp] theorem changeStatus_statusCallback :
    (x.changeStatus owner status error fileName).statusCallback = x.statusCallback := by
  unfold changeStatus; split <;> rfl

@[simp] theorem changeStatus_thread :
    (x.changeStatus owner status error fileName).thread = x.thread := by
  unfold changeStatus; split <;> rfl

@[simp] theorem changeStatus_joining :
    (x.changeStatus owner status error fileName).joining = x.joining := by
  unfold changeStatus; split <;> rfl

@[simp] theorem changeStatus_requested :
    (x.changeStatus owner status error fileName).requested = x.requested := by
  unfold changeStatus; split <;> rfl

@[simp] theorem changeStatus_obtained :
    (x.changeStatus owner status error fileName).obtained = x.obtained := by
  unfold changeStatus; split <;> rfl

@[simp] theorem changeStatus_ended :
    (x.changeStatus owner status error fileName).ended = x.ended := by
  unfold changeStatus; split <;> rfl

variable {x owner status error fileName}

theorem mem_changeStatus {command : StatusCommand}
    (h : command ∈ (x.changeStatus owner status error fileName).commandBuffer) :
    command ∈ x.commandBuffer ∨ command = ⟨owner, status, error, fileName⟩ := by
  obtain ⟨_, _, queued, heq, hqueued⟩ := x.changeStatus_eq owner status error fileName
  rw [heq] at h
  rcases List.mem_append.mp h with h | h
  · exact Or.inl h
  · rcases hqueued with rfl | rfl
    · simp at h
    · exact Or.inr (List.mem_singleton.mp h)

theorem mem_changeStatus_of_mem {command : StatusCommand} (h : command ∈ x.commandBuffer) :
    command ∈ (x.changeStatus owner status error fileName).commandBuffer := by
  obtain ⟨_, _, queued, heq, -⟩ := x.changeStatus_eq owner status error fileName
  rw [heq]
  exact List.mem_append_left _ h

theorem changeStatus_announces (hchanged : status ≠ x.status) (hcallback : x.statusCallback.isSome) :
    ⟨owner, status, error, fileName⟩ ∈
      (x.changeStatus owner status error fileName).commandBuffer := by
  simp [changeStatus, hchanged, hcallback]

end ChangeStatus

/-! ## What the thread does -/

/-- A step of the thread starts, fails, connects, takes a body or announces the file. -/
theorem stepThread_cases {P : HTTPFileDownloader → Prop} (t : Download) (response : Response)
    (hstart : t.phase = .started → P (x.announceStart t))
    (hfail : t.phase ≠ .started → P (x.fail t))
    (hconnect : ∀ session, t.phase = .announced → P (x.connect t session))
    (hbody : ∀ body, t.phase = .connected → response = .reply 200 body → P (x.takeBody bu t body))
    (hfile : t.phase = .received → P (x.announceFile bu t)) : P (x.stepThread bu t response) := by
  unfold stepThread
  split
  · rename_i hphase
    exact hstart hphase
  · rename_i hphase
    exact hfail (by simp [hphase])
  · rename_i hphase
    unfold openSession
    split
    · exact hfail (by simp [hphase])
    · exact hconnect _ hphase
  · rename_i hphase
    exact hfail (by simp [hphase])
  · rename_i status body hphase
    split_ifs with hstatus
    · exact hbody body hphase (by rw [hstatus])
    · exact hfail (by simp [hphase])
  · rename_i hphase
    exact hfile hphase

/-! ## The invariant -/

structure Single (x : HTTPFileDownloader) : Prop where
  joining : x.joining = none
  owned : ∀ t, x.thread = some t → x.statusCallback = some t.owner
  queued : ∀ command ∈ x.commandBuffer, x.statusCallback = some command.owner
  running : ∀ t, x.thread = some t → ∀ command ∈ x.commandBuffer, command.status = .fileTransfer
  ordered : x.commandBuffer.Pairwise fun command _ => command.status = .fileTransfer

theorem single_create : Single create where
  joining := rfl
  owned t ht := by cases ht
  queued command h := by cases h
  running t ht := by cases ht
  ordered := .nil

/-- A status of the download in progress goes behind the others. An end finds no thread. -/
theorem Single.changeStatus (h : Single x) {owner : SessionPtr} {status : FileTransferStatus}
    {error : FileTransferError} {fileName : String} (howner : x.statusCallback = some owner)
    (hothers : ∀ command ∈ x.commandBuffer, command.status = .fileTransfer)
    (hend : ∀ t, x.thread = some t → status = .fileTransfer) :
    Single (x.changeStatus owner status error fileName) where
  joining := by simpa using h.joining
  owned t ht := by
    rw [changeStatus_statusCallback]
    exact h.owned t (by simpa using ht)
  queued command hc := by
    rw [changeStatus_statusCallback]
    rcases mem_changeStatus hc with hc | rfl
    · exact h.queued command hc
    · exact howner
  running t ht command hc := by
    rcases mem_changeStatus hc with hc | rfl
    · exact hothers command hc
    · exact hend t (by simpa using ht)
  ordered := by
    obtain ⟨_, _, queued, heq, hqueued⟩ := x.changeStatus_eq owner status error fileName
    have hone : queued.Pairwise fun command _ => command.status = .fileTransfer := by
      rcases hqueued with rfl | rfl
      · exact .nil
      · exact List.pairwise_singleton _ _
    rw [heq]
    exact List.pairwise_append.mpr ⟨h.ordered, hone, fun command hc _ _ => hothers command hc⟩

theorem Single.advance (h : Single x) {t : Download} (ht : x.thread = some t) (t' : Download)
    (howner : t'.owner = t.owner) (hthread : x'.thread = some t')
    (hjoining : x'.joining = x.joining) (hcallback : x'.statusCallback = x.statusCallback)
    (hbuffer : x'.commandBuffer = x.commandBuffer) : Single x' where
  joining := by rw [hjoining, h.joining]
  owned u hu := by
    rw [hthread] at hu
    cases hu
    rw [hcallback, h.owned t ht, howner]
  queued command hc := by
    rw [hcallback]
    exact h.queued command (hbuffer ▸ hc)
  running u _ command hc := h.running t ht command (hbuffer ▸ hc)
  ordered := by rw [hbuffer]; exact h.ordered

theorem Single.finish (h : Single x) {t : Download} (ht : x.thread = some t)
    (ended : List (SessionPtr × FileTransferStatus)) (status : FileTransferStatus)
    (error : FileTransferError) (fileName : String) :
    Single ({ x with thread := none, ended := ended }.changeStatus t.owner status error fileName) := by
  have hstopped : Single { x with thread := none, ended := ended } :=
    ⟨h.joining, fun _ ht => (by cases ht), h.queued, fun _ ht => (by cases ht), h.ordered⟩
  exact hstopped.changeStatus (h.owned t ht) (h.running t ht) fun t ht => by cases ht

theorem Single.stepThread (h : Single x) {t : Download} (ht : x.thread = some t)
    (response : Response) : Single (x.stepThread bu t response) := by
  apply stepThread_cases
  · intro _
    have hadvanced : Single { x with thread := some { t with phase := .announced } } :=
      h.advance ht { t with phase := .announced } rfl rfl rfl rfl rfl
    exact hadvanced.changeStatus (h.owned t ht) (h.running t ht) fun _ _ => rfl
  · intro _
    exact h.finish ht _ _ _ _
  · intro session _
    exact h.advance ht { t with phase := .connected } rfl rfl rfl rfl rfl
  · intro body _ _
    exact h.advance ht { t with phase := .received } rfl rfl rfl rfl rfl
  · intro _
    exact h.finish ht _ _ _ _

theorem Single.join_eq (h : Single x) : x.join = x := by
  unfold HTTPFileDownloader.join
  rw [h.joining]

theorem Single.pop (h : Single x) {command : StatusCommand} {rest : List StatusCommand}
    (hq : x.commandBuffer = command :: rest) : Single { x with commandBuffer := rest } where
  joining := h.joining
  owned := h.owned
  queued c hc := h.queued c (hq ▸ List.mem_cons_of_mem _ hc)
  running t ht c hc := h.running t ht c (hq ▸ List.mem_cons_of_mem _ hc)
  ordered := by
    have hordered := h.ordered
    rw [hq] at hordered
    exact hordered.tail

/-- What a move of the downloader is: nothing, a step of the thread, or a callback of the download
in progress. -/
theorem Single.move_cases (h : Single x) {m : DownloaderMove} {callback : Option Callback}
    (hm : x.move bu m = (x', callback)) :
    (x' = x ∧ callback = none) ∨
    (∃ t response, m = .thread response ∧ x.thread = some t ∧ callback = none ∧
      x' = x.stepThread bu t response) ∨
    ∃ command rest, x.commandBuffer = command :: rest ∧ x' = { x with commandBuffer := rest } ∧
      callback = some ⟨command.owner, command.owner, command.status, command.error,
        command.fileName⟩ := by
  cases m with
  | join =>
    cases hm
    exact Or.inl ⟨h.join_eq, rfl⟩
  | thread response =>
    simp only [move] at hm
    split at hm
    · rename_i t ht
      cases hm
      exact Or.inr (Or.inl ⟨t, response, rfl, ht, rfl, rfl⟩)
    · cases hm
      exact Or.inl ⟨rfl, rfl⟩
  | runCommand =>
    simp only [move, runCommand] at hm
    split at hm
    · cases hm
      exact Or.inl ⟨rfl, rfl⟩
    · rename_i command rest hq
      have howner := h.queued command (hq ▸ List.mem_cons_self)
      obtain ⟨rfl, rfl⟩ := Prod.mk.inj hm
      refine Or.inr (Or.inr ⟨command, rest, hq, rfl, ?_⟩)
      rw [howner]; rfl

/-- A move that calls back runs a command. -/
theorem Single.move_called (h : Single x) {m : DownloaderMove} {callback : Callback}
    (hm : x.move bu m = (x', some callback)) :
    ∃ command rest, x.commandBuffer = command :: rest ∧ x' = { x with commandBuffer := rest } ∧
      callback = ⟨command.owner, command.owner, command.status, command.error, command.fileName⟩ := by
  rcases h.move_cases hm with ⟨-, hnone⟩ | ⟨_, _, -, -, hnone, -⟩ | ⟨command, rest, hq, hx', hcallback⟩
  · cases hnone
  · cases hnone
  · exact ⟨command, rest, hq, hx', Option.some.inj hcallback⟩

theorem busy_eq_false : x.busy = false ↔
    x.thread = none ∧ x.joining = none ∧ x.commandBuffer = [] := by
  simp [busy, and_assoc]

theorem single_downloadFile (hidle : x.busy = false) (url : String)
    (owner : SessionPtr) : Single (x.downloadFile url owner) := by
  obtain ⟨hthread, hjoining, hbuffer⟩ := busy_eq_false.mp hidle
  have hcalled : ∀ requested ended, Single
      { x with statusCallback := some owner, requested := requested, ended := ended } := by
    intro requested ended
    refine ⟨hjoining, fun t ht => ?_, fun command hc => ?_, fun t ht => ?_, ?_⟩
    · simp [hthread] at ht
    · simp [hbuffer] at hc
    · simp [hthread] at ht
    · simp [hbuffer]
  unfold HTTPFileDownloader.downloadFile
  dsimp only
  split_ifs with hregex
  · refine (hcalled _ _).changeStatus rfl (fun command hc => ?_) fun t ht => ?_
    · simp [hbuffer] at hc
    · simp [hthread] at ht
  · rw [hthread]
    refine ⟨hjoining, fun t ht => ?_, fun command hc => ?_, fun t ht command hc => ?_, ?_⟩
    · cases ht; rfl
    · simp [hbuffer] at hc
    · simp [hbuffer] at hc
    · simp [hbuffer]

/-! ## Who is called -/

theorem busy_of_thread {t : Download} (h : x.thread = some t) : x.busy = true := by
  simp [busy, h]

theorem busy_of_command {command : StatusCommand} (h : command ∈ x.commandBuffer) :
    x.busy = true := by
  simp [busy, List.ne_nil_of_mem h]

theorem stepThread_statusCallback (t : Download) (response : Response) :
    (x.stepThread bu t response).statusCallback = x.statusCallback := by
  apply stepThread_cases (P := fun y => y.statusCallback = x.statusCallback)
  · intro _; simp [announceStart]
  · intro _; simp [fail]
  · intro _ _; rfl
  · intro _ _ _; rfl
  · intro _; simp [announceFile]

theorem downloadFile_statusCallback (url : String) (owner : SessionPtr) :
    (x.downloadFile url owner).statusCallback = some owner := by
  unfold HTTPFileDownloader.downloadFile
  dsimp only
  split
  · simp
  · split <;> rfl

theorem abortDownload_eq (h : x.abortDownload = some x') : x' = x := by
  unfold HTTPFileDownloader.abortDownload at h
  split_ifs at h
  · cases h; rfl
  · cases h; rfl

/-- After the callback that ends a download, none is in progress. -/
theorem Single.idle_of_end (h : Single x) {command : StatusCommand} {rest : List StatusCommand}
    (hq : x.commandBuffer = command :: rest) (hend : command.status ≠ .fileTransfer) :
    { x with commandBuffer := rest }.busy = false := by
  have hordered := h.ordered
  rw [hq, List.pairwise_cons] at hordered
  rw [busy_eq_false]
  refine ⟨?_, h.joining, ?_⟩
  · cases ht : x.thread with
    | none => rfl
    | some t => exact absurd (h.running t ht command (hq ▸ List.mem_cons_self)) hend
  · cases rest with
    | nil => rfl
    | cons next _ => exact absurd (hordered.1 next List.mem_cons_self) hend

end HTTPFileDownloader

theorem Aborts.eq {φ : Type} {bytes : ByteUtils} {fs : FileSystemUtils φ}
    {make : String → Outbound → Bool} {s : FileTransferSession} {y z : Option HTTPFileDownloader}
    (h : Aborts (httpContext bytes fs make) s y z) : z = y := by
  rcases h with ⟨-, heq⟩ | ⟨-, x, x', hx, habort, rfl⟩
  · exact heq
  · rw [hx, HTTPFileDownloader.abortDownload_eq habort]

/-! ## A small system -/

def downloadContext : Context HTTPFileDownloader DownloaderMove PathDisk :=
  httpContext tableByteUtils pathFileSystem fun _ _ => true

def downloadSystem : System HTTPFileDownloader PathDisk :=
  .create openConfiguration (some .create) ⟨[], []⟩

namespace Event

def urlInit (deviceKey url : String) : Event DownloaderMove :=
  .receive deviceKey (.fileUrlDownloadInit ⟨url⟩) fun _ => 0

def urlAbort (deviceKey url : String) : Event DownloaderMove :=
  .receive deviceKey (.fileUrlDownloadAbort ⟨url⟩) fun _ => 0

/-- The thread goes on, and the server answers with this body. -/
def thread (body : Bytes) : Event DownloaderMove := .downloader (.thread (.reply 200 body))

def callback : Event DownloaderMove := .downloader .runCommand

end Event

end WolkConnect
