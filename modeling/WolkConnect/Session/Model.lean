import WolkConnect.Sdk
import Mathlib.Algebra.Ring.Nat

/-!
# One file transfer session

`FileTransferSession.cpp`. A method returns the session after the call, with the
callback calls that it queued in the command buffer.
-/

namespace WolkConnect

structure FileChunk where
  previousHash : String
  bytes : Bytes
  hash : String
  deriving DecidableEq

/-- A call of the status callback, waiting in the command buffer. -/
structure Announcement where
  status : FileTransferStatus
  error : FileTransferError
  deriving DecidableEq

/-- `serial` tells the sessions of one service apart. The code has their addresses for that. -/
structure FileTransferSession where
  serial : Nat
  deviceKey : String
  name : String
  url : String
  retryCount : Nat
  done : Bool
  size : Nat
  hash : String
  chunks : List FileChunk
  status : FileTransferStatus
  error : FileTransferError
  /-- Whether `m_callback` is set. -/
  callback : Bool
  deriving DecidableEq

def collected (chunks : List FileChunk) : Nat := (chunks.map fun c => c.bytes.length).sum

/-- The bytes of the chunks, one after the other. -/
def content (chunks : List FileChunk) : Bytes := chunks.flatMap FileChunk.bytes

/-- `sendHash[i] != currentHash[i]` for some `i` from `i` on below `sendHash.size()`. The code
does not compare the lengths: past the end of `currentHash` the read is undefined, and gives `past`. -/
def hashesDiffer (past : Nat → UInt8) (currentHash : Bytes) : Nat → Bytes → Bool
  | _, [] => false
  | i, b :: sendHash =>
    if b ≠ currentHash.getD i (past i) then true else hashesDiffer past currentHash (i + 1) sendHash

namespace FileTransferSession

def ofUpload (serial : Nat) (deviceKey : String) (message : FileUploadInitiateMessage)
    (callback : Bool) : FileTransferSession where
  serial := serial
  deviceKey := deviceKey
  name := message.name
  url := ""
  retryCount := 0
  done := false
  size := message.size
  hash := message.hash
  chunks := []
  status := .fileTransfer
  error := .none
  callback := callback

def ofUrlDownload (serial : Nat) (deviceKey : String) (message : FileUrlDownloadInitMessage)
    (callback : Bool) : FileTransferSession where
  serial := serial
  deviceKey := deviceKey
  name := ""
  url := message.path
  retryCount := 0
  done := false
  size := 0
  hash := ""
  chunks := []
  status := .fileTransfer
  error := .none
  callback := callback

def isPlatformTransfer (s : FileTransferSession) : Bool := s.url = ""

def isUrlDownload (s : FileTransferSession) : Bool := !s.isPlatformTransfer

def isDone (s : FileTransferSession) : Bool := s.done

def changeStatusAndError (s : FileTransferSession) (status : FileTransferStatus)
    (error : FileTransferError) : FileTransferSession × List Announcement :=
  if status ≠ s.status ∨ error ≠ s.error then
    ({ s with status := status, error := error }, if s.callback then [⟨status, error⟩] else [])
  else (s, [])

/-- `abort`, once the downloader of a URL download has been told. -/
def abort (s : FileTransferSession) : FileTransferSession × List Announcement :=
  let s' := if s.isPlatformTransfer then { s with chunks := [] } else s
  { s' with done := true }.changeStatusAndError .aborted .none

/-- What both mismatch branches of `pushChunk` do. -/
def rejectChunk (s : FileTransferSession) :
    FileTransferSession × FileTransferError × List Announcement :=
  let s' := { s with retryCount := s.retryCount + 1 }
  if 3 ≤ s.retryCount then
    let (s'', queued) := { s' with done := true }.changeStatusAndError .error .retryCountExceeded
    (s'', .retryCountExceeded, queued)
  else (s', .fileHashMismatch, [])

/-- The end of `pushChunk`: the chunk is stored, and the last one completes the file. -/
def acceptChunk (bu : ByteUtils) (s : FileTransferSession) (message : FileBinaryResponseMessage) :
    FileTransferSession × FileTransferError × List Announcement :=
  let s' := { s with
    chunks := s.chunks ++ [⟨message.previousHash, message.data, message.currentHash⟩] }
  if s.size ≤ collected s.chunks + message.data.length then
    let hash := bu.toHexString (bu.hashMDA5 (content s'.chunks))
    let (s'', queued) :=
      if hash = s.hash then { s' with done := true }.changeStatusAndError .fileReady .none
      else { s' with done := true }.changeStatusAndError .error .fileHashMismatch
    (s'', .none, queued)
  else (s', .none, [])

/-- The last stored chunk has another hash than the one the message names as its predecessor's. -/
def previousHashDiffers (s : FileTransferSession) (message : FileBinaryResponseMessage) : Bool :=
  match s.chunks.getLast? with
  | some lastChunk => lastChunk.hash ≠ message.previousHash
  | none => false

def pushChunk (bu : ByteUtils) (past : Nat → UInt8) (s : FileTransferSession)
    (message : FileBinaryResponseMessage) :
    FileTransferSession × FileTransferError × List Announcement :=
  if s.isUrlDownload then (s, .transferProtocolDisabled, [])
  else if s.isDone then (s, .none, [])
  else if s.size ≤ collected s.chunks then (s, .unsupportedFileSize, [])
  else if s.previousHashDiffers message then s.rejectChunk
  else if hashesDiffer past (bu.hashSHA256 message.data) 0 (bu.toByteArray message.currentHash) then
    s.rejectChunk
  else s.acceptChunk bu message

def getNextChunkRequest (s : FileTransferSession) : FileBinaryRequestMessage :=
  if s.isUrlDownload then ⟨"", 0⟩
  else if s.isDone then ⟨"", 0⟩
  else if s.size ≤ collected s.chunks then ⟨"", 0⟩
  else ⟨s.name, s.chunks.length⟩

/-- The callback that `triggerDownload` hands to the downloader. -/
def onDownloadStatus (s : FileTransferSession) (status : FileTransferStatus)
    (error : FileTransferError) (fileName : String) : FileTransferSession × List Announcement :=
  let s' := if fileName ≠ "" then { s with name := fileName } else s
  let (s'', queued) := s'.changeStatusAndError status error
  (if status = .fileReady ∨ status = .error then { s'' with done := true } else s'', queued)

end FileTransferSession

end WolkConnect
