import WolkConnect.Lib.Run
import WolkConnect.Service.Model

/-!
# The service at work

Inbound messages, queued commands and the moves of the downloader, one at a time
and in any order. `downloadFile` may wait for an older download: until it is back,
its message is still being handled and no other message is.
-/

namespace WolkConnect

/-- `reporting` is the device whose URL download was triggered and not reported yet. -/
structure System (δ φ : Type) where
  svc : FileManagementService δ φ
  reporting : Option String

inductive Event (μ : Type)
  | receive (deviceKey : String) (message : FileManagementService.Inbound) (past : Nat → UInt8)
  | report
  | runCommand
  | downloader (move : μ)

namespace System

variable {δ μ φ : Type} (ctx : Context δ μ φ) (sys : System δ φ)

def create (config : Configuration) (downloader : Option δ) (disk : φ) : System δ φ :=
  ⟨.create config downloader disk, none⟩

def receive (deviceKey : String) (message : FileManagementService.Inbound) (past : Nat → UInt8) :
    Except Fault (System δ φ) :=
  match message, sys.svc.config.fileTransferUrlEnabled with
  | .fileUrlDownloadInit init, true =>
    match sys.svc.startUrlDownload ctx deviceKey init with
    | none => .ok sys
    | some svc => .ok ⟨svc, some deviceKey⟩
  | message, _ => do
    let svc ← sys.svc.messageReceived ctx past deviceKey message
    .ok { sys with svc := svc }

/-- Whether `triggerDownload` is back. -/
def triggered : Bool :=
  match sys.svc.downloader with
  | none => true
  | some downloader => ctx.downloads.returned downloader

/-- The end of `onFileUrlDownloadInit`. -/
def report (deviceKey : String) : Except Fault (System δ φ) := do
  let svc ← sys.svc.reportStatus ctx deviceKey .fileTransfer .none
  .ok ⟨svc, none⟩

def moveDownloader (move : μ) : Except Fault (System δ φ) :=
  match sys.svc.downloader with
  | none => .ok sys
  | some downloader =>
    match ctx.downloads.move downloader move with
    | (downloader, none) => .ok { sys with svc := { sys.svc with downloader := some downloader } }
    | (downloader, some callback) => do
      let svc ← { sys.svc with downloader := some downloader }.deliver callback
      .ok { sys with svc := svc }

/-- An event that is not enabled changes nothing. -/
def step : Event μ → Except Fault (System δ φ)
  | .receive deviceKey message past =>
    match sys.reporting with
    | none => sys.receive ctx deviceKey message past
    | some _ => .ok sys
  | .report =>
    match sys.reporting with
    | none => .ok sys
    | some deviceKey => if sys.triggered ctx then sys.report ctx deviceKey else .ok sys
  | .runCommand => do
    let svc ← sys.svc.runCommand ctx
    .ok { sys with svc := svc }
  | .downloader move => sys.moveDownloader ctx move

variable {ctx}

/-- Where the downloader does not wait, the two halves of `onFileUrlDownloadInit` are the whole. -/
theorem receive_report {svc : FileManagementService δ φ} {deviceKey : String}
    {message : FileUrlDownloadInitMessage} (past : Nat → UInt8)
    (hurl : sys.svc.config.fileTransferUrlEnabled = true)
    (hstart : sys.svc.startUrlDownload ctx deviceKey message = some svc)
    (hback : (System.mk svc (some deviceKey)).triggered ctx = true) :
    (do
      let sys ← sys.receive ctx deviceKey (.fileUrlDownloadInit message) past
      sys.step ctx .report) =
    (do
      let svc ← sys.svc.messageReceived ctx past deviceKey (.fileUrlDownloadInit message)
      .ok ⟨svc, none⟩) := by
  have hreceive : sys.receive ctx deviceKey (.fileUrlDownloadInit message) past =
      .ok ⟨svc, some deviceKey⟩ := by
    unfold receive
    simp only [hurl, hstart]
  rw [hreceive]
  simp only [FileManagementService.messageReceived, hurl, if_true,
    FileManagementService.onFileUrlDownloadInit, hstart]
  change step ctx ⟨svc, some deviceKey⟩ .report = _
  simp only [step, hback, if_true, report]

end System

/-! ## A small system -/

def noDownloads : FileDownloader Empty Empty where
  getBytes := Empty.elim
  downloadFile x := x.elim
  returned := Empty.elim
  abortDownload := Empty.elim
  move := Empty.elim

def uploadContext : Context Empty Empty PathDisk where
  bytes := tableByteUtils
  fs := pathFileSystem
  downloads := noDownloads
  makeOutboundMessage _ _ := true

def openConfiguration : Configuration := ⟨true, true, "files", true, by decide⟩

def uploadSystem : System Empty PathDisk := .create openConfiguration none ⟨[], []⟩

namespace Event

/-- The messages of an upload of the one byte "a". -/
def initA {μ : Type} : Event μ :=
  .receive "d" (.fileUploadInit ⟨"f", 1, "0cc175b9c0f1b6a831c399e269772661"⟩) fun _ => 0

def chunkA {μ : Type} : Event μ :=
  .receive "d" (.fileBinaryResponse ⟨"", [97], rawString (sha256Table [97])⟩) fun _ => 0

def abortA {μ : Type} : Event μ := .receive "d" (.fileUploadAbort ⟨"f"⟩) fun _ => 0

def initB {μ : Type} : Event μ :=
  .receive "d" (.fileUploadInit ⟨"f", 1, "92eb5ffee6ae2fec3ad71c777531578f"⟩) fun _ => 0

def chunkB {μ : Type} : Event μ :=
  .receive "d" (.fileBinaryResponse ⟨"", [98], rawString (sha256Table [98])⟩) fun _ => 0

def listRequest {μ : Type} : Event μ := .receive "d" .fileListRequest fun _ => 0

end Event

end WolkConnect
