import WolkConnect.Download.Url
import WolkConnect.Service.Model

/-!
# The HTTP downloader

`HTTPFileDownloader.cpp`: one status callback, one set of bytes and one thread for
all downloads, and a command buffer of its own.
-/

namespace WolkConnect

/-- How far `download` is: before its first line, and after the status, the client session and the
bytes have been set. -/
inductive Phase
  | started | announced | connected | received
  deriving DecidableEq

/-- A call of `download`. The code does not keep the `owner`, the session that asked for it. -/
structure Download where
  url : String
  owner : SessionPtr
  phase : Phase
  deriving DecidableEq

/-- A call of `m_statusCallback` in the command buffer, with the owner of its download. -/
structure StatusCommand where
  owner : SessionPtr
  status : FileTransferStatus
  error : FileTransferError
  fileName : String
  deriving DecidableEq

structure HTTPClientSession where
  secure : Bool
  host : List Char
  port : UInt16
  deriving DecidableEq

/-- A file that was obtained, under the name it is announced with. -/
structure Obtained where
  owner : SessionPtr
  url : String
  name : String
  bytes : Bytes
  deriving DecidableEq

/-- `thread` is set while the thread runs, and `joining` is the download whose `downloadFile` waits
for it. The last three fields are the history: what was asked for, what was obtained, and with
which status each download ended. -/
structure HTTPFileDownloader where
  status : FileTransferStatus
  name : String
  bytes : Bytes
  statusCallback : Option SessionPtr
  commandBuffer : List StatusCommand
  session : Option HTTPClientSession
  thread : Option Download
  joining : Option Download
  requested : List (SessionPtr × String)
  obtained : List Obtained
  ended : List (SessionPtr × FileTransferStatus)
  deriving DecidableEq

/-- What comes back where the `try` block waits. -/
inductive Response
  | exception
  | reply (status : Nat) (body : Bytes)
  deriving DecidableEq

inductive DownloaderMove
  | join
  | thread (response : Response)
  | runCommand
  deriving DecidableEq

namespace HTTPFileDownloader

def create : HTTPFileDownloader where
  status := .awaitingDevice
  name := ""
  bytes := []
  statusCallback := none
  commandBuffer := []
  session := none
  thread := none
  joining := none
  requested := []
  obtained := []
  ended := []

variable (bu : ByteUtils) (x : HTTPFileDownloader)

def changeStatus (owner : SessionPtr) (status : FileTransferStatus) (error : FileTransferError)
    (fileName : String) : HTTPFileDownloader :=
  if status ≠ x.status then
    { x with
      status := status
      name := fileName
      commandBuffer := x.commandBuffer ++
        if x.statusCallback.isSome then [⟨owner, status, error, fileName⟩] else [] }
  else x

def downloadFile (url : String) (statusCallback : SessionPtr) : HTTPFileDownloader :=
  let x := { x with
    statusCallback := some statusCallback
    requested := x.requested ++ [(statusCallback, url)] }
  if !passesRegex url then
    { x with ended := x.ended ++ [(statusCallback, FileTransferStatus.error)] }.changeStatus statusCallback
      .error .malformedUrl ""
  else
    match x.thread with
    | some _ => { x with joining := some ⟨url, statusCallback, .started⟩ }
    | none => { x with thread := some ⟨url, statusCallback, .started⟩ }

/-- `changeStatus` locks `m_mutex`, which `abortDownload` holds when it calls it. -/
def abortDownload : Option HTTPFileDownloader :=
  if x.session.isNone then some x
  else if x.status = .awaitingDevice ∨ x.status = .fileTransfer then none
  else some x

/-! ## The thread -/

/-- The handlers of exceptions, and a response that is not `HTTP_OK`. -/
def fail (download : Download) : HTTPFileDownloader :=
  { x with
    thread := none
    ended := x.ended ++ [(download.owner, FileTransferStatus.error)] }.changeStatus download.owner
    .error .malformedUrl ""

def announceStart (download : Download) : HTTPFileDownloader :=
  { x with thread := some { download with phase := .announced } }.changeStatus download.owner
    .fileTransfer .none ""

def connect (download : Download) (session : HTTPClientSession) : HTTPFileDownloader :=
  { x with session := some session, thread := some { download with phase := .connected } }

def openSession (download : Download) : HTTPFileDownloader :=
  match extractPort download.url with
  | none => x.fail download
  | some port =>
    let secure := contains httpsPathPrefix download.url.toList
    x.connect download ⟨secure, extractHost download.url, if secure then 443 else port⟩

def takeBody (download : Download) (body : Bytes) : HTTPFileDownloader :=
  { x with
    bytes := body
    thread := some { download with phase := .received }
    obtained := x.obtained ++ [⟨download.owner, download.url, fileName bu download.url body, body⟩] }

def announceFile (download : Download) : HTTPFileDownloader :=
  { x with
    thread := none
    ended := x.ended ++ [(download.owner, FileTransferStatus.fileReady)] }.changeStatus download.owner
    .fileReady .none (fileName bu download.url x.bytes)

/-- The thread goes on to where others can see what it did. -/
def stepThread (download : Download) (response : Response) : HTTPFileDownloader :=
  match download.phase, response with
  | .started, _ => x.announceStart download
  | .announced, .exception => x.fail download
  | .announced, .reply _ _ => x.openSession download
  | .connected, .exception => x.fail download
  | .connected, .reply status body =>
    if status = 200 then x.takeBody bu download body else x.fail download
  | .received, _ => x.announceFile bu download

/-! ## On its own -/

/-- `downloadFile` goes on when the thread that it waits for is over. -/
def join : HTTPFileDownloader :=
  match x.joining, x.thread with
  | some download, none => { x with thread := some download, joining := none }
  | _, _ => x

def runCommand : HTTPFileDownloader × Option Callback :=
  match x.commandBuffer with
  | [] => (x, none)
  | command :: rest =>
    ({ x with commandBuffer := rest }, x.statusCallback.map fun target =>
      ⟨command.owner, target, command.status, command.error, command.fileName⟩)

def move : DownloaderMove → HTTPFileDownloader × Option Callback
  | .join => (x.join, none)
  | .thread response =>
    match x.thread with
    | some download => (x.stepThread bu download response, none)
    | none => (x, none)
  | .runCommand => x.runCommand

/-- A download is running, or not reported to its end. -/
def busy : Bool := x.thread.isSome || x.joining.isSome || !x.commandBuffer.isEmpty

end HTTPFileDownloader

def httpDownloads (bu : ByteUtils) : FileDownloader HTTPFileDownloader DownloaderMove where
  getBytes := HTTPFileDownloader.bytes
  downloadFile := HTTPFileDownloader.downloadFile
  returned x := x.joining.isNone
  abortDownload := HTTPFileDownloader.abortDownload
  move := HTTPFileDownloader.move bu

def httpContext {φ : Type} (bytes : ByteUtils) (fs : FileSystemUtils φ)
    (makeOutboundMessage : String → Outbound → Bool) :
    Context HTTPFileDownloader DownloaderMove φ where
  bytes := bytes
  fs := fs
  downloads := httpDownloads bytes
  makeOutboundMessage := makeOutboundMessage

end WolkConnect
