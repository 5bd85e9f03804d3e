import WolkConnect.Lib.OrderedMap
import WolkConnect.Session.Model
import Mathlib.Data.String.Basic

/-!
# The file management service

`FileManagementService.cpp`. A handler returns the service after the call, or the
fault at which the code has no defined behaviour any more.
-/

namespace WolkConnect

/-- The address of a session. A session lives in `m_sessions` under its own key from its creation
to its end, so the key and the serial number tell which object is meant. -/
structure SessionPtr where
  deviceKey : String
  serial : Nat
  deriving DecidableEq

def FileTransferSession.ptr (s : FileTransferSession) : SessionPtr := ⟨s.deviceKey, s.serial⟩

/-- Undefined behaviour that the code can run into. -/
inductive Fault
  | nullSession (deviceKey : String)
  | nullDownloader
  | destroyedSession (session : SessionPtr)
  | relockedMutex
  deriving DecidableEq

inductive Outbound
  | fileUploadStatus (name : String) (status : FileTransferStatus) (error : FileTransferError)
  | fileUrlDownloadStatus (path name : String) (status : FileTransferStatus)
    (error : FileTransferError)
  | fileBinaryRequest (request : FileBinaryRequestMessage)
  | fileListResponse (files : List FileInformation)
  deriving DecidableEq

/-- What waits in `m_commandBuffer`. The code does not keep the `requester` of a deletion: it is
the session whose status queued it. -/
inductive Command
  | sessionStatus (session : SessionPtr) (announcement : Announcement)
  | resetSession (deviceKey : String) (requester : SessionPtr)
  | onAddedFile (deviceKey fileName absolutePath : String)
  | onRemovedFile (deviceKey fileName : String)
  deriving DecidableEq

/-! ## The downloader -/

/-- A call of the status callback of `target` for the download that `owner` asked for. -/
structure Callback where
  owner : SessionPtr
  target : SessionPtr
  status : FileTransferStatus
  error : FileTransferError
  fileName : String
  deriving DecidableEq

/-- The `FileDownloader` interface. `returned` says whether the last `downloadFile` call has come
back, `abortDownload` gives nothing when it locks a mutex that it holds already, and `move` is what
the downloader does on its own, with the callback it invokes. -/
structure FileDownloader (δ μ : Type) where
  getBytes : δ → Bytes
  downloadFile : δ → String → SessionPtr → δ
  returned : δ → Bool
  abortDownload : δ → Option δ
  move : δ → μ → δ × Option Callback

/-! ## The service -/

/-- What the service did that shows outside of it. A status message is kept with the session it
is about, and a stored file or a destroyed session with the session itself. -/
inductive Effect
  | published (deviceKey : String) (message : Outbound) (session : Option SessionPtr)
  | stored (session : FileTransferSession) (path : String) (content : Bytes) (success : Bool)
  | deleted (path : String) (success : Bool)
  | destroyed (requester : SessionPtr) (session : FileTransferSession)
  | delivered (callback : Callback)
  | addedFile (deviceKey fileName absolutePath : String)
  | removedFile (deviceKey fileName : String)
  deriving DecidableEq

/-- The parameters of the constructor, which throws when both flags are off. -/
structure Configuration where
  fileTransferEnabled : Bool
  fileTransferUrlEnabled : Bool
  fileLocation : String
  /-- Whether `m_fileListener` is alive. -/
  fileListener : Bool
  enabled : fileTransferEnabled ∨ fileTransferUrlEnabled

abbrev DeviceFiles := OrderedMap String FileInformation

/-- `created` counts the sessions made so far and `log` the effects. -/
structure FileManagementService (δ φ : Type) where
  config : Configuration
  files : OrderedMap String DeviceFiles
  sessions : OrderedMap String (Option FileTransferSession)
  downloader : Option δ
  commandBuffer : List Command
  disk : φ
  created : Nat
  log : List Effect

structure Context (δ μ φ : Type) where
  bytes : ByteUtils
  fs : FileSystemUtils φ
  downloads : FileDownloader δ μ
  /-- Whether the protocol returns a message. -/
  makeOutboundMessage : String → Outbound → Bool

namespace FileManagementService

variable {δ μ φ : Type} (ctx : Context δ μ φ) (svc : FileManagementService δ φ)

def create (config : Configuration) (downloader : Option δ) (disk : φ) :
    FileManagementService δ φ where
  config := config
  files := .empty
  sessions := .empty
  downloader := downloader
  commandBuffer := []
  disk := disk
  created := 0
  log := []

def publish (deviceKey : String) (message : Outbound) (session : Option SessionPtr) :
    FileManagementService δ φ :=
  if ctx.makeOutboundMessage deviceKey message then
    { svc with log := svc.log ++ [.published deviceKey message session] }
  else svc

def pushCommand (command : Command) : FileManagementService δ φ :=
  { svc with commandBuffer := svc.commandBuffer ++ [command] }

/-- The session of a device, when `m_sessions` has an entry that is not null. -/
def session? (deviceKey : String) : Option FileTransferSession :=
  (svc.sessions.find? deviceKey).join

/-- `m_sessions[deviceKey]->`. -/
def sessionAt (deviceKey : String) : Except Fault FileTransferSession :=
  match svc.session? deviceKey with
  | some session => .ok session
  | none => .error (.nullSession deviceKey)

/-- The object behind the address of a session. -/
def resolve (session : SessionPtr) : Except Fault FileTransferSession :=
  match svc.session? session.deviceKey with
  | some s => if s.serial = session.serial then .ok s else .error (.destroyedSession session)
  | none => .error (.destroyedSession session)

/-- A session after a call of one of its methods, with the callback calls that it queued. -/
def putSession (deviceKey : String) (r : FileTransferSession × List Announcement) :
    FileManagementService δ φ :=
  { svc with
    sessions := svc.sessions.insert deviceKey (some r.1)
    commandBuffer := svc.commandBuffer ++ r.2.map (Command.sessionStatus r.1.ptr) }

/-- `m_sessions[deviceKey] = new FileTransferSession{...}`. -/
def addSession (session : FileTransferSession) : FileManagementService δ φ :=
  { svc with
    sessions := svc.sessions.insert session.deviceKey (some session)
    created := svc.created + 1 }

/-! ### Files -/

def deviceFolder (deviceKey : String) : String :=
  ctx.fs.composePath deviceKey svc.config.fileLocation

def pathOf (deviceKey file : String) : String :=
  ctx.fs.composePath file (svc.deviceFolder ctx deviceKey)

def absolutePathOfFile (deviceKey file : String) : String :=
  ctx.fs.absolutePath svc.disk (svc.pathOf ctx deviceKey file)

def notifyListenerAddedFile (deviceKey fileName absolutePath : String) :
    FileManagementService δ φ :=
  if svc.config.fileListener then svc.pushCommand (.onAddedFile deviceKey fileName absolutePath)
  else svc

def notifyListenerRemovedFile (deviceKey fileName : String) : FileManagementService δ φ :=
  if svc.config.fileListener then svc.pushCommand (.onRemovedFile deviceKey fileName) else svc

/-- The information that the service gives about a file with this content. -/
def informationOf (ctx : Context δ μ φ) (fileName : String) (content : Bytes) : FileInformation :=
  ⟨fileName, content.length, hexStream (ctx.bytes.hashSHA256 content)⟩

def obtainFileInformation (deviceKey fileName : String) : FileInformation :=
  match ctx.fs.readBinaryFileContent svc.disk (svc.pathOf ctx deviceKey fileName) with
  | none => ⟨"", 0, ""⟩
  | some binaryContent => informationOf ctx fileName binaryContent

def deviceFiles (deviceKey : String) : DeviceFiles := (svc.files.find? deviceKey).getD .empty

/-- The registry without the files that are not in the folder any more. -/
def pruneRegistry (fileRegistry : DeviceFiles) (folderContent : List String) : DeviceFiles :=
  let filesToDelete := fileRegistry.keys.filter fun file => file ∉ folderContent
  filesToDelete.foldl OrderedMap.erase fileRegistry

/-- One pass of the loop that forms the information about the files of the device. -/
def reportFile (deviceKey : String)
    (acc : FileManagementService δ φ × List FileInformation) (file : String) :
    FileManagementService δ φ × List FileInformation :=
  let (svc, vector) := acc
  match (svc.deviceFiles deviceKey).find? file with
  | some information => (svc, vector ++ [⟨file, information.size, information.hash⟩])
  | none =>
    let fresh := svc.obtainFileInformation ctx deviceKey file
    if fresh.name = "" then (svc, vector)
    else
      let fileRegistry := (svc.deviceFiles deviceKey).emplace file fresh
      let svc := { svc with files := svc.files.insert deviceKey fileRegistry }
      (svc.notifyListenerAddedFile deviceKey file (svc.absolutePathOfFile ctx deviceKey file),
        vector ++ [⟨file, fresh.size, fresh.hash⟩])

def reportPresentFiles (deviceKey : String) : FileManagementService δ φ :=
  let folder := svc.deviceFolder ctx deviceKey
  let (svc, fileInformationVector) :=
    if ctx.fs.isDirectoryPresent svc.disk folder then
      let folderContent := ctx.fs.listFiles svc.disk folder
      let fileRegistry := pruneRegistry (svc.deviceFiles deviceKey) folderContent
      let svc := { svc with files := svc.files.insert deviceKey fileRegistry }
      folderContent.foldl (reportFile ctx deviceKey) (svc, [])
    else (svc, [])
  svc.publish ctx deviceKey (.fileListResponse fileInformationVector) none

/-- One pass of the loops of `onFileDelete` and `onFilePurge`. -/
def deleteFile (deviceKey : String) (svc : FileManagementService δ φ) (file : String) :
    FileManagementService δ φ :=
  let path := svc.pathOf ctx deviceKey file
  let (success, disk) := ctx.fs.deleteFile svc.disk path
  let svc := { svc with disk := disk, log := svc.log ++ [.deleted path success] }
  if success then
    { svc with files := svc.files.erase file }.notifyListenerRemovedFile deviceKey file
  else svc

def onFileDelete (deviceKey : String) (message : FileDeleteMessage) : FileManagementService δ φ :=
  (message.files.foldl (deleteFile ctx deviceKey) svc).reportPresentFiles ctx deviceKey

def onFilePurge (deviceKey : String) : FileManagementService δ φ :=
  let files := ctx.fs.listFiles svc.disk (svc.deviceFolder ctx deviceKey)
  (files.foldl (deleteFile ctx deviceKey) svc).reportPresentFiles ctx deviceKey

def onFileListRequest (deviceKey : String) : FileManagementService δ φ :=
  svc.reportPresentFiles ctx deviceKey

/-! ### Messages about sessions -/

def statusMessage (session : FileTransferSession) (status : FileTransferStatus)
    (error : FileTransferError) : Outbound :=
  if session.isPlatformTransfer then .fileUploadStatus session.name status error
  else .fileUrlDownloadStatus session.url session.name status error

def reportStatus (deviceKey : String) (status : FileTransferStatus) (error : FileTransferError) :
    Except Fault (FileManagementService δ φ) :=
  match svc.sessions.find? deviceKey with
  | none => .ok svc
  | some none => .error (.nullSession deviceKey)
  | some (some session) =>
    .ok (svc.publish ctx deviceKey (statusMessage session status error) (some session.ptr))

def sendChunkRequest (deviceKey : String) (message : FileBinaryRequestMessage) :
    FileManagementService δ φ :=
  svc.publish ctx deviceKey (.fileBinaryRequest message) none

def reportTransferProtocolDisabled (deviceKey fileName : String) : FileManagementService δ φ :=
  svc.publish ctx deviceKey (.fileUploadStatus fileName .error .transferProtocolDisabled) none

def reportUrlTransferProtocolDisabled (deviceKey url : String) : FileManagementService δ φ :=
  svc.publish ctx deviceKey (.fileUrlDownloadStatus url "" .error .transferProtocolDisabled) none

/-! ### Handlers -/

def isValid (message : FileUploadInitiateMessage) : Bool :=
  message.name ≠ "" ∧ message.size ≠ 0 ∧ message.hash ≠ ""

def onFileUploadInit (deviceKey : String) (message : FileUploadInitiateMessage) :
    Except Fault (FileManagementService δ φ) :=
  if !isValid message then .ok svc
  else if (svc.session? deviceKey).isSome then .ok svc
  else do
    let session := FileTransferSession.ofUpload svc.created deviceKey message true
    let svc := svc.addSession session
    let firstMessage := session.getNextChunkRequest
    if firstMessage.name ≠ "" then
      let svc ← svc.reportStatus ctx deviceKey .fileTransfer .none
      .ok (svc.sendChunkRequest ctx deviceKey firstMessage)
    else .ok svc

/-- `m_sessions[deviceKey]->abort()`. -/
def abortSession (deviceKey : String) (session : FileTransferSession) :
    Except Fault (FileManagementService δ φ) :=
  if session.isPlatformTransfer then .ok (svc.putSession deviceKey session.abort)
  else
    match svc.downloader with
    | none => .error .nullDownloader
    | some downloader =>
      match ctx.downloads.abortDownload downloader with
      | none => .error .relockedMutex
      | some downloader =>
        .ok ({ svc with downloader := some downloader }.putSession deviceKey session.abort)

def onFileUploadAbort (deviceKey : String) (message : FileUploadAbortMessage) :
    Except Fault (FileManagementService δ φ) :=
  match svc.session? deviceKey with
  | none => .ok svc
  | some session =>
    if session.name = message.name then svc.abortSession ctx deviceKey session else .ok svc

def onFileBinaryResponse (past : Nat → UInt8) (deviceKey : String)
    (message : FileBinaryResponseMessage) : FileManagementService δ φ :=
  match svc.session? deviceKey with
  | none => svc
  | some session =>
    if session.isPlatformTransfer then
      let (session, error, queued) := session.pushChunk ctx.bytes past message
      let svc := svc.putSession deviceKey (session, queued)
      if error = .fileHashMismatch ∨ session.isDone = false then
        svc.sendChunkRequest ctx deviceKey session.getNextChunkRequest
      else svc
    else svc

/-- `triggerDownload` on the session of a device. Its result is not used. -/
def triggerDownload (session : FileTransferSession) : FileManagementService δ φ :=
  if session.isPlatformTransfer then svc
  else
    match svc.downloader with
    | none => svc
    | some downloader =>
      { svc with downloader := some (ctx.downloads.downloadFile downloader session.url session.ptr) }

/-- `onFileUrlDownloadInit` up to the status report, or `none` while a session is ongoing. -/
def startUrlDownload (deviceKey : String) (message : FileUrlDownloadInitMessage) :
    Option (FileManagementService δ φ) :=
  if (svc.session? deviceKey).isSome then none
  else
    let session := FileTransferSession.ofUrlDownload svc.created deviceKey message true
    some ((svc.addSession session).triggerDownload ctx session)

def onFileUrlDownloadInit (deviceKey : String) (message : FileUrlDownloadInitMessage) :
    Except Fault (FileManagementService δ φ) :=
  match svc.startUrlDownload ctx deviceKey message with
  | none => .ok svc
  | some svc => svc.reportStatus ctx deviceKey .fileTransfer .none

def onFileUrlDownloadAbort (deviceKey : String) (message : FileUrlDownloadAbortMessage) :
    Except Fault (FileManagementService δ φ) :=
  match svc.sessions.find? deviceKey with
  | none => .ok svc
  | some none => .error (.nullSession deviceKey)
  | some (some session) =>
    if session.url = message.path then svc.abortSession ctx deviceKey session else .ok svc

/-- A message as the protocol parses it. `invalid` is a null message, one of another type, or one
that does not parse. -/
inductive Inbound
  | fileUploadInit (message : FileUploadInitiateMessage)
  | fileUploadAbort (message : FileUploadAbortMessage)
  | fileBinaryResponse (message : FileBinaryResponseMessage)
  | fileUrlDownloadInit (message : FileUrlDownloadInitMessage)
  | fileUrlDownloadAbort (message : FileUrlDownloadAbortMessage)
  | fileListRequest
  | fileDelete (message : FileDeleteMessage)
  | filePurge
  | invalid
  deriving DecidableEq

def messageReceived (past : Nat → UInt8) (target : String) :
    Inbound → Except Fault (FileManagementService δ φ)
  | .fileUploadInit message =>
    if svc.config.fileTransferEnabled then svc.onFileUploadInit ctx target message
    else .ok (svc.reportTransferProtocolDisabled ctx target message.name)
  | .fileUploadAbort message =>
    if svc.config.fileTransferEnabled then svc.onFileUploadAbort ctx target message
    else .ok (svc.reportTransferProtocolDisabled ctx target message.name)
  | .fileBinaryResponse message =>
    if svc.config.fileTransferEnabled then .ok (svc.onFileBinaryResponse ctx past target message)
    else .ok svc
  | .fileUrlDownloadInit message =>
    if svc.config.fileTransferUrlEnabled then svc.onFileUrlDownloadInit ctx target message
    else .ok (svc.reportUrlTransferProtocolDisabled ctx target message.path)
  | .fileUrlDownloadAbort message =>
    if svc.config.fileTransferUrlEnabled then svc.onFileUrlDownloadAbort ctx target message
    else .ok (svc.reportUrlTransferProtocolDisabled ctx target message.path)
  | .fileListRequest => .ok (svc.onFileListRequest ctx target)
  | .fileDelete message => .ok (svc.onFileDelete ctx target message)
  | .filePurge => .ok (svc.onFilePurge ctx target)
  | .invalid => .ok svc

/-! ### Queued commands -/

/-- The bytes that the `FILE_READY` branch of `onFileSessionStatus` collects. -/
def collectBytes (session : FileTransferSession) : Except Fault Bytes :=
  if session.isPlatformTransfer then .ok (content session.chunks)
  else
    match svc.downloader with
    | none => .error .nullDownloader
    | some downloader => .ok (ctx.downloads.getBytes downloader)

/-- The disk once the folder has been made. -/
def makeFolder (folder : String) : φ :=
  if ctx.fs.isDirectoryPresent svc.disk folder then svc.disk
  else ctx.fs.createDirectory svc.disk folder

def placeFile (session : FileTransferSession) (bytes : Bytes) : Bool × FileManagementService δ φ :=
  let folder := svc.deviceFolder ctx session.deviceKey
  let relativePath := ctx.fs.composePath session.name folder
  let (success, disk) :=
    ctx.fs.createBinaryFileWithContent (svc.makeFolder ctx folder) relativePath bytes
  (success, { svc with
    disk := disk
    log := svc.log ++ [Effect.stored session relativePath bytes success] })

/-- The `FILE_READY` branch of `onFileSessionStatus`. -/
def storeFile (deviceKey : String) : Except Fault (FileManagementService δ φ) := do
  let session ← svc.sessionAt deviceKey
  let bytes ← svc.collectBytes ctx session
  let (success, svc) := svc.placeFile ctx session bytes
  if success then
    .ok (svc.notifyListenerAddedFile deviceKey session.name
      (svc.absolutePathOfFile ctx deviceKey session.name))
  else svc.reportStatus ctx deviceKey .error .fileSystemError

def onFileSessionStatus (requester : SessionPtr) (deviceKey : String) (status : FileTransferStatus)
    (error : FileTransferError) : Except Fault (FileManagementService δ φ) := do
  let svc ← svc.reportStatus ctx deviceKey status error
  match status with
  | .fileReady =>
    let svc ← svc.storeFile ctx deviceKey
    .ok (svc.pushCommand (.resetSession deviceKey requester))
  | .error | .aborted => .ok (svc.pushCommand (.resetSession deviceKey requester))
  | _ => .ok svc

/-- `m_sessions[deviceKey].reset()`. -/
def resetSession (deviceKey : String) (requester : SessionPtr) : FileManagementService δ φ :=
  { svc with
    sessions := svc.sessions.insert deviceKey none
    log := svc.log ++ (svc.session? deviceKey).toList.map (Effect.destroyed requester) }

def execute : Command → Except Fault (FileManagementService δ φ)
  | .sessionStatus ptr announcement => do
    let session ← svc.resolve ptr
    if session.callback then
      svc.onFileSessionStatus ctx ptr ptr.deviceKey announcement.status announcement.error
    else .ok svc
  | .resetSession deviceKey requester => .ok (svc.resetSession deviceKey requester)
  | .onAddedFile deviceKey fileName absolutePath =>
    .ok { svc with log := svc.log ++ [.addedFile deviceKey fileName absolutePath] }
  | .onRemovedFile deviceKey fileName =>
    .ok { svc with log := svc.log ++ [.removedFile deviceKey fileName] }

/-- The command buffer takes out its first command and runs it. -/
def runCommand : Except Fault (FileManagementService δ φ) :=
  match svc.commandBuffer with
  | [] => .ok svc
  | command :: rest => { svc with commandBuffer := rest }.execute ctx command

/-- A callback of the downloader, which captured the address of a session. -/
def deliver (callback : Callback) : Except Fault (FileManagementService δ φ) := do
  let session ← svc.resolve callback.target
  let r := session.onDownloadStatus callback.status callback.error callback.fileName
  .ok { svc.putSession callback.target.deviceKey r with log := svc.log ++ [.delivered callback] }

end FileManagementService

end WolkConnect
