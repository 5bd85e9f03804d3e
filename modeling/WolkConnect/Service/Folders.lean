import Mathlib.Data.List.Nodup
import WolkConnect.Service.Paths
import WolkConnect.Service.Registry

/-!
# What the folders hold, and what the listener is told of it

The listener is told of a stored file, of a deleted one, and of one that a report
discovers.
-/

namespace WolkConnect

/-- The name of an entry of a folder. -/
def EntryName (name : String) : Prop := PlainName name ∧ name ≠ ""

instance (name : String) : Decidable (EntryName name) := inferInstanceAs (Decidable (_ ∧ _))

/-- What the file system guarantees about the folders in `location`, one for each device: they hold
what was put there and not deleted since. -/
structure FolderLaws {φ : Type} (fs : FileSystemUtils φ) (location : String) : Prop where
  entries : ∀ disk folder, ∀ file ∈ fs.listFiles disk folder, EntryName file
  once : ∀ disk folder, (fs.listFiles disk folder).Nodup
  made : ∀ disk folder folder', fs.listFiles (fs.createDirectory disk folder) folder' =
    fs.listFiles disk folder'
  created : ∀ disk d file bytes d' file', EntryName d → EntryName file → EntryName d' →
    let result := fs.createBinaryFileWithContent disk
      (fs.composePath file (fs.composePath d location)) bytes
    (file' ∈ fs.listFiles result.2 (fs.composePath d' location) ↔
      file' ∈ fs.listFiles disk (fs.composePath d' location) ∨
        result.1 = true ∧ d' = d ∧ file' = file)
  deleted : ∀ disk d file d' file', EntryName d → EntryName file → EntryName d' →
    let result := fs.deleteFile disk (fs.composePath file (fs.composePath d location))
    (file' ∈ fs.listFiles result.2 (fs.composePath d' location) ↔
      file' ∈ fs.listFiles disk (fs.composePath d' location) ∧
        ¬ (result.1 = true ∧ d' = d ∧ file' = file))
  existed : ∀ disk d file, EntryName d → EntryName file →
    (fs.deleteFile disk (fs.composePath file (fs.composePath d location))).1 = true →
      file ∈ fs.listFiles disk (fs.composePath d location)

/-- Deletes these files of a folder, as far as possible: those that are gone, and the disk. -/
def deletions {φ : Type} (fs : FileSystemUtils φ) (folder : String) :
    List String → φ → List String × φ
  | [], disk => ([], disk)
  | file :: files, disk =>
    let (success, disk) := fs.deleteFile disk (fs.composePath file folder)
    let (gone, disk) := deletions fs folder files disk
    (if success then file :: gone else gone, disk)

/-- What the notices say about one file. -/
def noticesAbout (notices : List FileNotice) (d file : String) : List Bool :=
  (notices.filter fun n => n.deviceKey = d ∧ n.fileName = file).map FileNotice.added

theorem noticesAbout_append (l l' : List FileNotice) (d file : String) :
    noticesAbout (l ++ l') d file = noticesAbout l d file ++ noticesAbout l' d file := by
  rw [noticesAbout, List.filter_append, List.map_append]
  rfl

/-- Notices about different files of one device. -/
theorem noticesAbout_map {files : List String} (honce : files.Nodup) (d d' file : String) (added : Bool) :
    noticesAbout (files.map fun f => ⟨d, f, added⟩) d' file =
      if d = d' ∧ file ∈ files then [added] else [] := by
  induction files with
  | nil => simp [noticesAbout]
  | cons f files ih =>
    rw [List.nodup_cons] at honce
    rw [List.map_cons, noticesAbout]
    have ih := ih honce.2
    rw [noticesAbout] at ih
    by_cases hf : d = d' ∧ f = file
    · obtain ⟨rfl, rfl⟩ := hf
      rw [List.filter_cons_of_pos (by simp), List.map_cons, ih, if_neg (fun h => honce.1 h.2)]
      simp
    · rw [List.filter_cons_of_neg (by simpa using hf), ih]
      refine if_congr ⟨fun h => ⟨h.1, List.mem_cons_of_mem _ h.2⟩, fun h => ⟨h.1, ?_⟩⟩ rfl rfl
      exact (List.mem_cons.mp h.2).resolve_left fun heq => hf ⟨h.1, heq.symm⟩

namespace FileManagementService

variable {δ μ φ : Type} {ctx : Context δ μ φ} {svc svc' : FileManagementService δ φ} {d : String}

def noticesOf (svc : FileManagementService δ φ) (d file : String) : List Bool :=
  noticesAbout svc.notices d file

/-- The listener was last told that the file has been added. -/
def Knows (svc : FileManagementService δ φ) (d file : String) : Prop :=
  (svc.noticesOf d file).getLast? = some true

instance (d file : String) : Decidable (svc.Knows d file) := inferInstanceAs (Decidable (_ = _))

/-! ## Notifications that are queued -/

theorem notices_notifyListenerAddedFile (hlistener : svc.config.fileListener = true)
    (d file path : String) :
    (svc.notifyListenerAddedFile d file path).notices = svc.notices ++ [⟨d, file, true⟩] := by
  rw [notifyListenerAddedFile, if_pos hlistener]
  simp [notices, pushCommand, Command.fileNotice, List.filterMap_append]

theorem deleteFile_registry (ctx : Context δ μ φ) (svc : FileManagementService δ φ)
    (d file : String) :
    let result := ctx.fs.deleteFile svc.disk (svc.pathOf ctx d file)
    (deleteFile ctx d svc file).disk = result.2 ∧
    (deleteFile ctx d svc file).files =
      (if result.1 then svc.files.erase file else svc.files) := by
  simp only [deleteFile]
  split_ifs
  · unfold notifyListenerRemovedFile
    split_ifs <;> exact ⟨rfl, rfl⟩
  · exact ⟨rfl, rfl⟩

/-- What deleting files does to the disk and to `m_files`. -/
theorem foldl_deleteFile_registry (ctx : Context δ μ φ) (svc : FileManagementService δ φ)
    (d : String) (files : List String) :
    let result := deletions ctx.fs (svc.deviceFolder ctx d) files svc.disk
    (files.foldl (deleteFile ctx d) svc).disk = result.2 ∧
    (files.foldl (deleteFile ctx d) svc).files = result.1.foldl OrderedMap.erase svc.files := by
  induction files generalizing svc with
  | nil => exact ⟨rfl, rfl⟩
  | cons file files ih =>
    obtain ⟨hconfig, -⟩ := deleteFile_paths ctx svc d file
    obtain ⟨hdisk, hfiles⟩ := deleteFile_registry ctx svc d file
    obtain ⟨hdisk', hfiles'⟩ := ih (deleteFile ctx d svc file)
    have hfolder : (deleteFile ctx d svc file).deviceFolder ctx d = svc.deviceFolder ctx d := by
      rw [deviceFolder, hconfig, deviceFolder]
    rw [hfolder, hdisk] at hdisk' hfiles'
    rw [hfiles] at hfiles'
    simp only [List.foldl_cons, deletions]
    refine ⟨hdisk', ?_⟩
    rw [hfiles']
    unfold pathOf
    split_ifs <;> rfl

theorem notices_deleteFile (ctx : Context δ μ φ) (hlistener : svc.config.fileListener = true)
    (d file : String) :
    (deleteFile ctx d svc file).notices = svc.notices ++
      (if (ctx.fs.deleteFile svc.disk (svc.pathOf ctx d file)).1 then [⟨d, file, false⟩] else []) := by
  simp only [deleteFile]
  split_ifs with hsuccess
  · rw [notifyListenerRemovedFile, if_pos hlistener]
    simp [notices, pushCommand, Command.fileNotice, Effect.fileNotice, List.filterMap_append]
  · simp [notices, Effect.fileNotice, List.filterMap_append]

/-- What deleting files does to the disk, to `m_files` and for the listener. -/
theorem foldl_deleteFile_effect (ctx : Context δ μ φ) (hlistener : svc.config.fileListener = true)
    (d : String) (files : List String) :
    let result := deletions ctx.fs (svc.deviceFolder ctx d) files svc.disk
    (files.foldl (deleteFile ctx d) svc).disk = result.2 ∧
    (files.foldl (deleteFile ctx d) svc).notices =
      svc.notices ++ result.1.map (fun file => ⟨d, file, false⟩) ∧
    (files.foldl (deleteFile ctx d) svc).files = result.1.foldl OrderedMap.erase svc.files := by
  obtain ⟨hdisk, hfiles⟩ := foldl_deleteFile_registry ctx svc d files
  refine ⟨hdisk, ?_, hfiles⟩
  clear hdisk hfiles
  induction files generalizing svc with
  | nil => exact (List.append_nil _).symm
  | cons file files ih =>
    obtain ⟨hconfig, -⟩ := deleteFile_paths ctx svc d file
    obtain ⟨hdisk, -⟩ := deleteFile_registry ctx svc d file
    have hlistener' : (deleteFile ctx d svc file).config.fileListener = true := hconfig ▸ hlistener
    have hfolder : (deleteFile ctx d svc file).deviceFolder ctx d = svc.deviceFolder ctx d := by
      rw [deviceFolder, hconfig, deviceFolder]
    have hrest := ih hlistener'
    rw [hfolder, hdisk, notices_deleteFile ctx hlistener] at hrest
    simp only [List.foldl_cons, deletions]
    rw [hrest, List.append_assoc]
    unfold pathOf
    split_ifs <;> rfl

/-- What storing a file does to the disk and for the listener. -/
theorem placed_effect (ctx : Context δ μ φ) (svc : FileManagementService δ φ)
    (hlistener : svc.config.fileListener = true) (s : FileTransferSession) (d : String)
    (bytes : Bytes) :
    (svc.placed ctx s d bytes).disk = (svc.placeFile ctx s bytes).2.disk ∧
    (svc.placed ctx s d bytes).notices = svc.notices ++
      (if (svc.placeFile ctx s bytes).1 then [⟨d, s.name, true⟩] else []) := by
  have hnotices : (svc.placeFile ctx s bytes).2.notices = svc.notices := by
    simp [placeFile, notices, Effect.fileNotice, List.filterMap_append]
  have hplaced : (svc.placeFile ctx s bytes).2.config.fileListener = true := hlistener
  unfold placed
  dsimp only
  split_ifs
  · refine ⟨(fixed_notifyListenerAddedFile _ _ _ _).disk, ?_⟩
    rw [notices_notifyListenerAddedFile hplaced, hnotices]
  · exact ⟨rfl, by rw [hnotices, List.append_nil]⟩

theorem reportPresentFiles_absent
    (habsent : ctx.fs.isDirectoryPresent svc.disk (svc.deviceFolder ctx d) = false) :
    (svc.reportPresentFiles ctx d).notices = svc.notices := by
  unfold reportPresentFiles
  dsimp only
  rw [if_neg (by simp [habsent])]
  unfold publish
  split_ifs
  · simp [notices, Effect.fileNotice, List.filterMap_append]
  · rfl

/-- A report tells of what it discovers. -/
theorem Reported.notices (h : Reported ctx d svc svc') (hlistener : svc.config.fileListener = true) :
    svc'.notices = svc.notices ++ (svc.discovered ctx d (svc.deviceFiles d)
      (svc.folderContent ctx d)).map fun file => ⟨d, file, true⟩ := by
  have hlog : svc'.log.filterMap Effect.fileNotice = svc.log.filterMap Effect.fileNotice := by
    rw [h.log, publish]
    split_ifs
    · simp [Effect.fileNotice, List.filterMap_append]
    · rfl
  rw [FileManagementService.notices, hlog, h.buffer, addedCommands, if_pos hlistener,
    List.filterMap_append, ← List.append_assoc, List.filterMap_map]
  congr 1
  exact congrFun (@List.filterMap_eq_map _ _ fun file => FileNotice.mk d file true) _

end FileManagementService

/-! ## A disk as a map -/

/-- The name of the file at this path, when it is an entry of the folder. -/
def entryIn (folder path : String) : Option String :=
  let name := String.ofList (path.toList.drop (folder ++ "/").toList.length)
  if path = folder ++ "/" ++ name ∧ EntryName name then some name else none

theorem entryIn_eq_some {folder path name : String} :
    entryIn folder path = some name ↔ path = folder ++ "/" ++ name ∧ EntryName name := by
  unfold entryIn
  dsimp only
  constructor
  · intro h
    split_ifs at h with hname
    cases h
    exact hname
  · rintro ⟨rfl, hname⟩
    have hdrop : String.ofList ((folder ++ "/" ++ name).toList.drop (folder ++ "/").toList.length) =
        name := by
      have hchars : (folder ++ "/" ++ name).toList = (folder ++ "/").toList ++ name.toList :=
        String.toList_append
      rw [hchars, List.drop_left, String.ofList_toList]
    rw [hdrop, if_pos ⟨rfl, hname⟩]

/-- A folder is there while it has entries. -/
def mapFileSystem : FileSystemUtils (OrderedMap String Bytes) where
  composePath file folder := folder ++ "/" ++ file
  absolutePath _ path := "/" ++ path
  isDirectoryPresent disk folder := disk.keys.any fun path => (entryIn folder path).isSome
  createDirectory disk _ := disk
  listFiles disk folder := disk.keys.filterMap (entryIn folder)
  readBinaryFileContent := OrderedMap.find?
  createBinaryFileWithContent disk path bytes := (true, disk.insert path bytes)
  deleteFile disk path :=
    if (disk.find? path).isSome then (true, disk.erase path) else (false, disk)

theorem mem_listFiles {disk : OrderedMap String Bytes} {folder file : String} :
    file ∈ mapFileSystem.listFiles disk folder ↔
      EntryName file ∧ (disk.find? (folder ++ "/" ++ file)).isSome = true := by
  change file ∈ disk.keys.filterMap (entryIn folder) ↔ _
  rw [List.mem_filterMap, ← OrderedMap.mem_keys]
  constructor
  · rintro ⟨path, hpath, hentry⟩
    obtain ⟨rfl, hname⟩ := entryIn_eq_some.mp hentry
    exact ⟨hname, hpath⟩
  · rintro ⟨hname, hpath⟩
    exact ⟨_, hpath, entryIn_eq_some.mpr ⟨rfl, hname⟩⟩

theorem path_inj {location d file d' file' : String} (hd : EntryName d) (hfile : EntryName file) :
    location ++ "/" ++ d ++ "/" ++ file = location ++ "/" ++ d' ++ "/" ++ file' ↔
      d' = d ∧ file' = file := by
  constructor
  · intro h
    have hsplit : ∀ e f : String,
        location ++ "/" ++ e ++ "/" ++ f = location ++ "/" ++ (e ++ ("/" ++ f)) := fun e f => by
      simp only [String.append_assoc]
    rw [hsplit, hsplit, String.append_right_inj] at h
    have hchars := congrArg String.toList h
    rw [String.toList_append, String.toList_append, String.toList_append, String.toList_append]
      at hchars
    obtain ⟨hdevice, -, hname⟩ := (List.append_cons_inj_of_notMem hd.1.1 hfile.1.1).mp hchars
    exact ⟨(String.toList_inj.mp hdevice).symm, (String.toList_inj.mp hname).symm⟩
  · rintro ⟨rfl, rfl⟩
    rfl

theorem mapFileSystem_laws (location : String) : FolderLaws mapFileSystem location where
  entries disk folder file hfile := (mem_listFiles.mp hfile).1
  once disk folder := by
    have hkeys : disk.keys.Nodup := List.pairwise_map.mpr (disk.sorted.imp fun h => h.ne)
    refine hkeys.filterMap fun path path' name hname hname' => ?_
    rw [(entryIn_eq_some.mp hname).1, (entryIn_eq_some.mp hname').1]
  made disk folder folder' := rfl
  created disk d file bytes d' file' hd hfile hd' := by
    intro result
    rw [mem_listFiles, mem_listFiles]
    change _ ∧ ((disk.insert (location ++ "/" ++ d ++ "/" ++ file) bytes).find?
      (location ++ "/" ++ d' ++ "/" ++ file')).isSome = true ↔ _
    rw [OrderedMap.find?_insert]
    split_ifs with hpath
    · obtain ⟨rfl, rfl⟩ := (path_inj hd hfile).mp hpath
      exact ⟨fun _ => .inr ⟨rfl, rfl, rfl⟩, fun _ => ⟨hfile, rfl⟩⟩
    · refine ⟨.inl, fun h => h.resolve_right fun hsame => hpath ?_⟩
      exact (path_inj hd hfile).mpr hsame.2
  deleted disk d file d' file' hd hfile hd' := by
    intro result
    rw [mem_listFiles, mem_listFiles]
    have hresult : result = if (disk.find? (location ++ "/" ++ d ++ "/" ++ file)).isSome then
        (true, disk.erase (location ++ "/" ++ d ++ "/" ++ file)) else (false, disk) := rfl
    change _ ∧ (result.2.find? (location ++ "/" ++ d' ++ "/" ++ file')).isSome = true ↔
      (_ ∧ (disk.find? (location ++ "/" ++ d' ++ "/" ++ file')).isSome = true) ∧ _
    rw [hresult]
    split_ifs with hthere
    · rw [OrderedMap.find?_erase]
      split_ifs with hpath
      · have hsame := (path_inj hd hfile).mp hpath
        exact ⟨fun h => absurd h.2 Bool.false_ne_true, fun h => absurd ⟨rfl, hsame⟩ h.2⟩
      · refine ⟨fun h => ⟨h, fun hsame => hpath ?_⟩, fun h => h.1⟩
        exact (path_inj hd hfile).mpr hsame.2
    · exact ⟨fun h => ⟨h, fun hsame => by cases hsame.1⟩, fun h => h.1⟩
  existed disk d file hd hfile h := by
    rw [mem_listFiles]
    refine ⟨hfile, ?_⟩
    by_contra hthere
    have hresult : mapFileSystem.deleteFile disk (location ++ "/" ++ d ++ "/" ++ file) = (false, disk) :=
      if_neg hthere
    have hfailed := congrArg Prod.fst hresult
    exact absurd (hfailed.symm.trans h) Bool.false_ne_true

end WolkConnect
