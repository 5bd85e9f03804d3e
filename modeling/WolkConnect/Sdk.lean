import Mathlib.Data.List.Basic
import Mathlib.Tactic.SplitIfs

/-!
# What the connector uses of the SDK

The SDK is not part of the repository. Its plain data is modelled as it is used;
what it computes (digests, files, serialisation) is a parameter of the model.
-/

namespace WolkConnect

/-- `ByteArray`, a vector of bytes. -/
abbrev Bytes := List UInt8

inductive FileTransferStatus
  | fileTransfer | awaitingDevice | fileReady | aborted | error
  deriving DecidableEq, Repr

inductive FileTransferError
  | none | transferProtocolDisabled | unsupportedFileSize | malformedUrl | fileHashMismatch
  | fileSystemError | retryCountExceeded
  deriving DecidableEq, Repr

/-! ## Messages -/

structure FileUploadInitiateMessage where
  name : String
  size : Nat
  hash : String
  deriving DecidableEq

structure FileUploadAbortMessage where
  name : String
  deriving DecidableEq

structure FileBinaryResponseMessage where
  previousHash : String
  data : Bytes
  currentHash : String
  deriving DecidableEq

structure FileUrlDownloadInitMessage where
  path : String
  deriving DecidableEq

structure FileUrlDownloadAbortMessage where
  path : String
  deriving DecidableEq

structure FileDeleteMessage where
  files : List String
  deriving DecidableEq

structure FileBinaryRequestMessage where
  name : String
  chunkIndex : Nat
  deriving DecidableEq

structure FileInformation where
  name : String
  size : Nat
  hash : String
  deriving DecidableEq

/-! ## Bytes -/

/-- `ByteUtils`. Nothing is assumed of the digests but the length of SHA-256. -/
structure ByteUtils where
  hashMDA5 : Bytes → Bytes
  hashSHA256 : Bytes → Bytes
  toByteArray : String → Bytes
  toHexString : Bytes → String
  hashSHA256_length : ∀ bytes, (hashSHA256 bytes).length = 32

/-- What a stream with `std::hex`, `std::setfill('0')` and `std::setw(2)` writes for each byte. -/
def hexStream (bytes : Bytes) : String :=
  String.ofList (bytes.flatMap fun b => [(b.toNat / 16).digitChar, (b.toNat % 16).digitChar])

/-! ## Files -/

/-- `FileSystemUtils` over the disks `φ`. An operation that may fail says whether it succeeded. -/
structure FileSystemUtils (φ : Type) where
  composePath : String → String → String
  absolutePath : φ → String → String
  isDirectoryPresent : φ → String → Bool
  createDirectory : φ → String → φ
  listFiles : φ → String → List String
  readBinaryFileContent : φ → String → Option Bytes
  createBinaryFileWithContent : φ → String → Bytes → Bool × φ
  deleteFile : φ → String → Bool × φ

/-- What the file system guarantees. `same disk p q` says that the paths name one file. -/
structure FileSystemLaws {φ : Type} (fs : FileSystemUtils φ) (same : φ → String → String → Prop) :
    Prop where
  created : ∀ disk path bytes q, (fs.createBinaryFileWithContent disk path bytes).1 = true →
    same disk path q → fs.readBinaryFileContent (fs.createBinaryFileWithContent disk path bytes).2 q =
      some bytes
  kept : ∀ disk path bytes q, ¬ same disk path q →
    fs.readBinaryFileContent (fs.createBinaryFileWithContent disk path bytes).2 q =
      fs.readBinaryFileContent disk q
  deleted : ∀ disk path q bytes,
    fs.readBinaryFileContent (fs.deleteFile disk path).2 q = some bytes →
      fs.readBinaryFileContent disk q = some bytes
  folder : ∀ disk folder q, fs.readBinaryFileContent (fs.createDirectory disk folder) q =
    fs.readBinaryFileContent disk q
  present : ∀ disk folder, fs.isDirectoryPresent disk folder = false → fs.listFiles disk folder = []
  named : ∀ disk folder, "" ∉ fs.listFiles disk folder

/-! ## A concrete SDK -/

def rawString (bytes : Bytes) : String := String.ofList (bytes.map fun b => Char.ofNat b.toNat)

def rawBytes (text : String) : Bytes := text.toList.map fun c => UInt8.ofNat c.toNat

theorem rawBytes_rawString (bytes : Bytes) : rawBytes (rawString bytes) = bytes := by
  have hbyte : ∀ b : UInt8, UInt8.ofNat (Char.ofNat b.toNat).toNat = b := by
    intro b
    have hb := b.toNat_lt
    have hvalid : Nat.isValidChar b.toNat := Or.inl (by omega)
    rw [Char.ofNat, dif_pos hvalid]
    exact UInt8.ofNat_toNat
  simp [rawBytes, rawString, Function.comp_def, hbyte]

/-- MD5 of the files that the examples use. -/
def md5Table : Bytes → Bytes
  | [97] =>
    [0x0c, 0xc1, 0x75, 0xb9, 0xc0, 0xf1, 0xb6, 0xa8, 0x31, 0xc3, 0x99, 0xe2, 0x69, 0x77, 0x26, 0x61]
  | [98] =>
    [0x92, 0xeb, 0x5f, 0xfe, 0xe6, 0xae, 0x2f, 0xec, 0x3a, 0xd7, 0x1c, 0x77, 0x75, 0x31, 0x57, 0x8f]
  | [97, 98] =>
    [0x18, 0x7e, 0xf4, 0x43, 0x61, 0x22, 0xd1, 0xcc, 0x2f, 0x40, 0xdc, 0x2b, 0x92, 0xf0, 0xeb, 0xa0]
  | _ => List.replicate 16 0

def sha256Table : Bytes → Bytes
  | [97] =>
    [0xca, 0x97, 0x81, 0x12, 0xca, 0x1b, 0xbd, 0xca, 0xfa, 0xc2, 0x31, 0xb3, 0x9a, 0x23, 0xdc, 0x4d,
      0xa7, 0x86, 0xef, 0xf8, 0x14, 0x7c, 0x4e, 0x72, 0xb9, 0x80, 0x77, 0x85, 0xaf, 0xee, 0x48, 0xbb]
  | [98] =>
    [0x3e, 0x23, 0xe8, 0x16, 0x00, 0x39, 0x59, 0x4a, 0x33, 0x89, 0x4f, 0x65, 0x64, 0xe1, 0xb1, 0x34,
      0x8b, 0xbd, 0x7a, 0x00, 0x88, 0xd4, 0x2c, 0x4a, 0xcb, 0x73, 0xee, 0xae, 0xd5, 0x9c, 0x00, 0x9d]
  | [97, 98] =>
    [0xfb, 0x8e, 0x20, 0xfc, 0x2e, 0x4c, 0x3f, 0x24, 0x8c, 0x60, 0xc3, 0x9b, 0xd6, 0x52, 0xf3, 0xc1,
      0x34, 0x72, 0x98, 0xbb, 0x97, 0x7b, 0x8b, 0x4d, 0x59, 0x03, 0xb8, 0x50, 0x55, 0x62, 0x06, 0x03]
  | _ => List.replicate 32 0

def tableByteUtils : ByteUtils where
  hashMDA5 := md5Table
  hashSHA256 := sha256Table
  toByteArray := rawBytes
  toHexString := hexStream
  hashSHA256_length bytes := by unfold sha256Table; split <;> rfl

/-- A disk as the list of its folders and of its files by path. -/
structure PathDisk where
  folders : List String
  files : List (String × Bytes)
  deriving DecidableEq

namespace PathDisk

def read (disk : PathDisk) (path : String) : Option Bytes :=
  (disk.files.find? fun f => f.1 = path).map Prod.snd

def write (disk : PathDisk) (path : String) (bytes : Bytes) : PathDisk :=
  { disk with files := (path, bytes) :: disk.files.filter fun f => f.1 ≠ path }

/-- The name of the file at this path, when the file is right in the folder. -/
def nameIn (folder path : String) : Option String :=
  match List.isPrefixOf? (folder ++ "/").toList path.toList with
  | some name => if name = [] ∨ '/' ∈ name then none else some (String.ofList name)
  | none => none

end PathDisk

def pathFileSystem : FileSystemUtils PathDisk where
  composePath file folder := folder ++ "/" ++ file
  absolutePath _ path := "/" ++ path
  isDirectoryPresent disk folder := folder ∈ disk.folders
  createDirectory disk folder := { disk with folders := folder :: disk.folders }
  listFiles disk folder :=
    if folder ∈ disk.folders then disk.files.filterMap fun f => PathDisk.nameIn folder f.1 else []
  readBinaryFileContent := PathDisk.read
  createBinaryFileWithContent disk path bytes := (true, disk.write path bytes)
  deleteFile disk path :=
    if (disk.read path).isSome then
      (true, { disk with files := disk.files.filter fun f => f.1 ≠ path })
    else (false, disk)

theorem find?_filter_ne (files : List (String × Bytes)) (path q : String) :
    (files.filter fun f => f.1 ≠ path).find? (fun f => f.1 = q) =
      if path = q then none else files.find? fun f => f.1 = q := by
  induction files with
  | nil => simp
  | cons f files ih =>
    by_cases hf : f.1 = path
    · rw [List.filter_cons_of_neg (by simpa using hf), ih]
      split_ifs with hq
      · rfl
      · rw [List.find?_cons_of_neg]
        simpa [hf] using hq
    · rw [List.filter_cons_of_pos (by simpa using hf), List.find?_cons, List.find?_cons, ih]
      by_cases hq : f.1 = q
      · simp [hq, show path ≠ q from fun h => hf (hq.trans h.symm)]
      · simp [hq]

/-- Paths name one file when they are equal. -/
theorem pathFileSystem_laws : FileSystemLaws pathFileSystem fun _ p q => p = q where
  created disk path bytes q _ h := by
    simp [pathFileSystem, PathDisk.write, PathDisk.read, h]
  kept disk path bytes q h := by
    simp only [pathFileSystem, PathDisk.write, PathDisk.read]
    rw [List.find?_cons_of_neg (by simpa using h), find?_filter_ne, if_neg h]
  deleted disk path q bytes h := by
    simp only [pathFileSystem] at h ⊢
    split_ifs at h
    · simp only [PathDisk.read, find?_filter_ne] at h ⊢
      split_ifs at h
      · simp at h
      · exact h
    · exact h
  folder disk folder q := rfl
  present disk folder h := by
    simp only [pathFileSystem, decide_eq_false_iff_not] at h ⊢
    rw [if_neg h]
  named disk folder := by
    simp only [pathFileSystem]
    split_ifs
    · simp only [List.mem_filterMap, not_exists, not_and]
      intro f _ hname
      unfold PathDisk.nameIn at hname
      split at hname
      · rename_i name _
        split_ifs at hname with hne
        have hnil := congrArg String.toList (Option.some.inj hname)
        exact hne (Or.inl (by simpa using hnil))
      · cases hname
    · simp

end WolkConnect
