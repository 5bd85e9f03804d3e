import WolkConnect.Service.Folders

/-!
# What a deletion takes from the file registry

`m_files` is keyed by device, and the handlers erase by file name. The report that follows
removes from the registry of the device what is not in its folder any more.
-/

namespace WolkConnect

/-- What the file system guarantees about the listing of a folder. -/
structure ListingLaws {φ : Type} (fs : FileSystemUtils φ) : Prop where
  present : ∀ disk folder, fs.isDirectoryPresent disk folder = false → fs.listFiles disk folder = []
  named : ∀ disk folder, "" ∉ fs.listFiles disk folder
  once : ∀ disk folder, (fs.listFiles disk folder).Nodup

/-- A disk whose folders stay when they are empty. -/
structure FolderDisk where
  folders : List String
  files : OrderedMap String Bytes

def folderFileSystem : FileSystemUtils FolderDisk where
  composePath := mapFileSystem.composePath
  absolutePath disk := mapFileSystem.absolutePath disk.files
  isDirectoryPresent disk folder := folder ∈ disk.folders
  createDirectory disk folder := { disk with folders := folder :: disk.folders }
  listFiles disk folder :=
    if folder ∈ disk.folders then mapFileSystem.listFiles disk.files folder else []
  readBinaryFileContent disk := mapFileSystem.readBinaryFileContent disk.files
  createBinaryFileWithContent disk path bytes :=
    (true, { disk with files := disk.files.insert path bytes })
  deleteFile disk path :=
    let (success, files) := mapFileSystem.deleteFile disk.files path
    (success, { disk with files := files })

theorem folderFileSystem_listing : ListingLaws folderFileSystem where
  present disk folder h := if_neg (by simpa [folderFileSystem] using h)
  named disk folder h := by
    simp only [folderFileSystem] at h
    split_ifs at h
    · exact ((mapFileSystem_laws "").entries disk.files folder "" h).2 rfl
    · exact List.not_mem_nil h
  once disk folder := by
    simp only [folderFileSystem]
    split_ifs
    · exact (mapFileSystem_laws "").once disk.files folder
    · exact List.nodup_nil

namespace FileManagementService

variable {δ μ φ : Type} (ctx : Context δ μ φ) (d : String) (svc svc' : FileManagementService δ φ)

/-- The registries of the other devices are as they were, and that of `d` has lost the names that
are not in the folder. -/
structure Erases : Prop where
  others : ∀ d', d' ≠ d → svc'.files.find? d' = svc.files.find? d'
  own : ∀ file ∈ (svc.deviceFiles d).keys,
    (file ∈ (svc'.deviceFiles d).keys ↔ file ∈ svc'.folderContent ctx d)

/-- The names of these files that the file system deletes, and the disk without them. -/
def deletedOf (names : List String) : List String × φ :=
  deletions ctx.fs (svc.deviceFolder ctx d) names svc.disk

/-- No file that is deleted has the name of another device with a registry. Where one has the name
of `d`, what stays in the folder of `d` can be read, and where none has, the folder is there. -/
structure SparesDevices (names : List String) : Prop where
  others : ∀ name ∈ (svc.deletedOf ctx d names).1, name ≠ d → svc.files.find? name = none
  readable : d ∈ (svc.deletedOf ctx d names).1 → ∀ file ∈ (svc.deviceFiles d).keys,
    file ∈ ctx.fs.listFiles (svc.deletedOf ctx d names).2 (svc.deviceFolder ctx d) →
    (ctx.fs.readBinaryFileContent (svc.deletedOf ctx d names).2 (svc.pathOf ctx d file)).isSome
  folder : d ∉ (svc.deletedOf ctx d names).1 →
    ctx.fs.isDirectoryPresent (svc.deletedOf ctx d names).2 (svc.deviceFolder ctx d) = false →
    (svc.deviceFiles d).keys = []

variable {ctx d svc svc'}

/-! ## The loop -/

theorem find?_foldl_deleteFile (names : List String) (k : String) :
    (names.foldl (deleteFile ctx d) svc).files.find? k =
      if k ∈ (svc.deletedOf ctx d names).1 then none else svc.files.find? k := by
  rw [(foldl_deleteFile_registry ctx svc d names).2, OrderedMap.find?_foldl_erase, deletedOf]

/-! ## The report -/

/-- A folder that is not there leaves the registry as it was. -/
theorem reportPresentFiles_gone
    (hgone : ctx.fs.isDirectoryPresent svc.disk (svc.deviceFolder ctx d) = false) :
    (svc.reportPresentFiles ctx d).files = svc.files ∧
      (svc.reportPresentFiles ctx d).disk = svc.disk ∧
      (svc.reportPresentFiles ctx d).config = svc.config := by
  unfold reportPresentFiles
  dsimp only
  rw [if_neg (by simp [hgone])]
  unfold publish
  split_ifs <;> exact ⟨rfl, rfl, rfl⟩

/-- What the registry has after a report, whether the folder is there or not. -/
structure Settled (ctx : Context δ μ φ) (d : String) (svc svc' : FileManagementService δ φ) :
    Prop where
  content : svc'.folderContent ctx d = svc.folderContent ctx d
  others : ∀ d', d' ≠ d → svc'.files.find? d' = svc.files.find? d'
  keys : ∀ file, file ∈ (svc'.deviceFiles d).keys ↔
    if ctx.fs.isDirectoryPresent svc.disk (svc.deviceFolder ctx d) then
      file ∈ svc.folderContent ctx d ∧ (svc.entryFor ctx d file).isSome
    else file ∈ (svc.deviceFiles d).keys

theorem reportPresentFiles_settled (laws : ListingLaws ctx.fs) (svc : FileManagementService δ φ)
    (d : String) : Settled ctx d svc (svc.reportPresentFiles ctx d) := by
  cases hpresent : ctx.fs.isDirectoryPresent svc.disk (svc.deviceFolder ctx d) with
  | true =>
    have hreported := reportPresentFiles_reported hpresent (laws.named _ _) (laws.once _ _)
    refine ⟨hreported.content, hreported.others, fun file => ?_⟩
    rw [if_pos hpresent, OrderedMap.mem_keys, hreported.entries]
    split_ifs with hfile <;> simp [hfile]
  | false =>
    obtain ⟨hfiles, hdisk, hconfig⟩ := reportPresentFiles_gone hpresent
    refine ⟨?_, fun d' _ => by rw [hfiles], fun file => ?_⟩
    · rw [folderContent, deviceFolder, hdisk, hconfig, folderContent, deviceFolder]
    · rw [if_neg (by simp [hpresent]), deviceFiles, hfiles, deviceFiles]

/-! ## A whole deletion -/

section Deletion

variable (names : List String)

theorem deviceFiles_foldl_deleteFile : (names.foldl (deleteFile ctx d) svc).deviceFiles d =
    if d ∈ (svc.deletedOf ctx d names).1 then .empty else svc.deviceFiles d := by
  rw [deviceFiles, find?_foldl_deleteFile]
  split_ifs <;> rfl

theorem folder_foldl_deleteFile :
    (names.foldl (deleteFile ctx d) svc).deviceFolder ctx d = svc.deviceFolder ctx d := by
  rw [deviceFolder, (foldl_deleteFile_paths ctx svc d names).1, deviceFolder]

theorem content_foldl_deleteFile : (names.foldl (deleteFile ctx d) svc).folderContent ctx d =
    ctx.fs.listFiles (svc.deletedOf ctx d names).2 (svc.deviceFolder ctx d) := by
  rw [folderContent, folder_foldl_deleteFile, (foldl_deleteFile_registry ctx svc d names).1, deletedOf]

theorem fresh_foldl_deleteFile (file : String) :
    ((names.foldl (deleteFile ctx d) svc).freshInformation ctx d file).isSome =
      (ctx.fs.readBinaryFileContent (svc.deletedOf ctx d names).2 (svc.pathOf ctx d file)).isSome := by
  rw [freshInformation, Option.isSome_map, pathOf_config (foldl_deleteFile_paths ctx svc d names).1,
    (foldl_deleteFile_registry ctx svc d names).1, deletedOf]

/-- Which registered files of the device the registry has after a deletion. -/
theorem keys_deletion (laws : ListingLaws ctx.fs) {file : String}
    (hfile : file ∈ (svc.deviceFiles d).keys) :
    file ∈ (((names.foldl (deleteFile ctx d) svc).reportPresentFiles ctx d).deviceFiles d).keys ↔
      if ctx.fs.isDirectoryPresent (svc.deletedOf ctx d names).2 (svc.deviceFolder ctx d) then
        file ∈ ctx.fs.listFiles (svc.deletedOf ctx d names).2 (svc.deviceFolder ctx d) ∧
          (d ∈ (svc.deletedOf ctx d names).1 → (ctx.fs.readBinaryFileContent
            (svc.deletedOf ctx d names).2 (svc.pathOf ctx d file)).isSome)
      else d ∉ (svc.deletedOf ctx d names).1 := by
  have hsettled := reportPresentFiles_settled laws (names.foldl (deleteFile ctx d) svc) d
  have hdisk : (names.foldl (deleteFile ctx d) svc).disk = (svc.deletedOf ctx d names).2 :=
    (foldl_deleteFile_registry ctx svc d names).1
  rw [hsettled.keys, folder_foldl_deleteFile, hdisk, content_foldl_deleteFile, entryFor,
    Option.isSome_or, fresh_foldl_deleteFile, deviceFiles_foldl_deleteFile]
  rw [OrderedMap.mem_keys] at hfile
  by_cases hd : d ∈ (svc.deletedOf ctx d names).1
  · simp [hd, OrderedMap.mem_keys]
  · simp [hd, OrderedMap.mem_keys, hfile]

theorem deletion_erases_iff (laws : ListingLaws ctx.fs) :
    Erases ctx d svc ((names.foldl (deleteFile ctx d) svc).reportPresentFiles ctx d) ↔
      SparesDevices ctx d svc names := by
  have hsettled := reportPresentFiles_settled laws (names.foldl (deleteFile ctx d) svc) d
  have hcontent := hsettled.content.trans (content_foldl_deleteFile names)
  have hkeys := fun file (hfile : file ∈ (svc.deviceFiles d).keys) => keys_deletion names laws hfile
  constructor
  · intro h
    refine ⟨fun name hname hne => ?_, fun hd file hfile hin => ?_, fun hd hgone => ?_⟩
    · rw [← h.others name hne, hsettled.others name hne, find?_foldl_deleteFile, if_pos hname]
    · -- What is in the folder is in the registry, which had to be read again.
      have hkept := (h.own file hfile).mpr (by rwa [hcontent])
      rw [hkeys file hfile] at hkept
      split_ifs at hkept with hpresent
      · exact hkept.2 hd
      · exact absurd hd hkept
    · refine List.eq_nil_iff_forall_not_mem.mpr fun file hfile => ?_
      have hlost := h.own file hfile
      rw [hkeys file hfile, hgone, hcontent, laws.present _ _ hgone] at hlost
      simp [hd] at hlost
  · intro h
    refine ⟨fun d' hd' => ?_, fun file hfile => ?_⟩
    · rw [hsettled.others d' hd', find?_foldl_deleteFile]
      split_ifs with hgone
      · exact (h.others d' hgone hd').symm
      · rfl
    · rw [hkeys file hfile, hcontent]
      split_ifs with hpresent
      · exact ⟨And.left, fun hin => ⟨hin, fun hd => h.readable hd file hfile hin⟩⟩
      · -- No folder, no content: the registry has to have been lost or empty.
        rw [Bool.not_eq_true] at hpresent
        rw [laws.present _ _ hpresent]
        refine ⟨fun hd => ?_, fun hin => absurd hin List.not_mem_nil⟩
        rw [h.folder hd hpresent] at hfile
        exact absurd hfile List.not_mem_nil

end Deletion

/-- **Erasure.** A `FileDelete` message goes through its names, and a `FilePurge` message through
those that the folder has. -/
theorem deletions_spare_iff (laws : ListingLaws ctx.fs) (svc : FileManagementService δ φ)
    (d : String) :
    (∀ message, Erases ctx d svc (svc.onFileDelete ctx d message) ↔
      SparesDevices ctx d svc message.files) ∧
    (Erases ctx d svc (svc.onFilePurge ctx d) ↔ SparesDevices ctx d svc (svc.folderContent ctx d)) :=
  ⟨fun message => deletion_erases_iff message.files laws,
    deletion_erases_iff (svc.folderContent ctx d) laws⟩

def keptFolders : Context Empty Empty FolderDisk := { uploadContext with fs := folderFileSystem }

/-- "d" has the files "a" and "e", of which `m_files` has "a", and "e" has the file "c". -/
def sharedNames : FileManagementService Empty FolderDisk :=
  { FileManagementService.create openConfiguration none
      ⟨["files/d", "files/e"],
        ((OrderedMap.empty.insert "files/d/a" [97]).insert "files/d/e" [98]).insert "files/e/c" [97]⟩ with
    files := (OrderedMap.empty.insert "d" (OrderedMap.empty.insert "a" ⟨"a", 1, "ca"⟩)).insert "e"
      (OrderedMap.empty.insert "c" ⟨"c", 1, "ca"⟩) }

theorem deletions_spare_iff_shared :
    Erases keptFolders "d" sharedNames (sharedNames.onFileDelete keptFolders "d" ⟨["a", "b"]⟩) ∧
    Erases keptFolders "e" sharedNames (sharedNames.onFilePurge keptFolders "e") ∧
    (sharedNames.onFileDelete keptFolders "d" ⟨["a", "b"]⟩).files.keys = ["d", "e"] := by
  refine ⟨?_, ?_, by decide +kernel⟩
  · exact ((deletions_spare_iff folderFileSystem_listing sharedNames "d").1 ⟨["a", "b"]⟩).mpr
      ⟨by decide +kernel, by decide +kernel, by decide +kernel⟩
  · exact (deletions_spare_iff folderFileSystem_listing sharedNames "e").2.mpr
      ⟨by decide +kernel, by decide +kernel, by decide +kernel⟩

/-- The file "e" of "d" is deleted, by its name or with all others, and with it goes what `m_files`
has for the device "e". -/
theorem name_erases_device :
    ¬ Erases keptFolders "d" sharedNames (sharedNames.onFileDelete keptFolders "d" ⟨["e"]⟩) ∧
    ¬ Erases keptFolders "d" sharedNames (sharedNames.onFilePurge keptFolders "d") := by
  constructor
  · intro h
    exact absurd (h.others "e" (by decide)) (by decide +kernel)
  · intro h
    exact absurd (h.others "e" (by decide)) (by decide +kernel)

end FileManagementService

end WolkConnect
