import Mathlib.Data.List.Chain
import WolkConnect.Service.Folders
import WolkConnect.Service.Keyed
import WolkConnect.Service.Listing

/-!
# Notifications of the file listener alternate

What the listener was told last of a file in a folder is that it was added, unless the
file was there before and the listener was told nothing. A stored file is not entered in
`m_files`, so the next report tells of it a second time.
-/

namespace WolkConnect

/-- No two in a row are the same, and the first is a removal only of a file that was there before. -/
structure Alternates (present : Prop) (l : List Bool) : Prop where
  chain : l.IsChain (· ≠ ·)
  start : l.head? = some false → present

/-- The listener takes the file to be there. -/
def Shown (present : Prop) (l : List Bool) : Prop := l.getLast? = some true ∨ l = [] ∧ present

theorem Alternates.added {present : Prop} {l : List Bool} (h : Alternates present l)
    (hlast : l.getLast? ≠ some true) : Alternates present (l ++ [true]) where
  chain := by
    refine List.isChain_append.mpr ⟨h.chain, .singleton _, fun x hx y hy => ?_⟩
    cases hy
    rintro rfl
    exact hlast hx
  start hhead := by
    cases l with
    | nil => cases hhead
    | cons b l => exact h.start hhead

theorem Alternates.removed {present : Prop} {l : List Bool} (h : Alternates present l)
    (hshown : Shown present l) : Alternates present (l ++ [false]) where
  chain := by
    refine List.isChain_append.mpr ⟨h.chain, .singleton _, fun x hx y hy => ?_⟩
    cases hy
    rintro rfl
    rcases hshown with hlast | ⟨rfl, -⟩
    · cases hlast.symm.trans hx
    · cases hx
  start hhead := by
    cases l with
    | nil =>
      rcases hshown with hlast | ⟨-, hpresent⟩
      · cases hlast
      · exact hpresent
    | cons b l => exact h.start hhead

theorem not_alternates {present : Prop} {l : List Bool} (hlast : l.getLast? = some true) :
    ¬ Alternates present (l ++ [true]) := fun h =>
  (List.isChain_append.mp h.chain).2.2 true hlast true rfl rfl

namespace FileManagementService

variable {δ μ φ : Type} {ctx : Context δ μ φ} {before : String → String → Prop}
  {svc svc' : FileManagementService δ φ} {d : String}

/-- `before` says which files were there before the run. -/
structure ToldFiles (ctx : Context δ μ φ) (before : String → String → Prop)
    (svc : FileManagementService δ φ) : Prop where
  alternates : ∀ d file, Alternates (before d file) (svc.noticesOf d file)
  shown : ∀ d, EntryName d → ∀ file ∈ svc.folderContent ctx d,
    Shown (before d file) (svc.noticesOf d file)

theorem ToldFiles.of_eq (h : ToldFiles ctx before svc) (hconfig : svc'.config = svc.config)
    (hdisk : svc'.disk = svc.disk) (hnotices : svc'.notices = svc.notices) :
    ToldFiles ctx before svc' := by
  have hsame : ∀ d file, svc'.noticesOf d file = svc.noticesOf d file := fun d file => by
    rw [noticesOf, hnotices, noticesOf]
  refine ⟨fun d file => hsame d file ▸ h.alternates d file, fun d hd file hfile => ?_⟩
  rw [folderContent, deviceFolder, hconfig, hdisk] at hfile
  exact hsame d file ▸ h.shown d hd file hfile

theorem noticesOf_append {files : List String} {added : Bool} (honce : files.Nodup)
    (h : svc'.notices = svc.notices ++ files.map fun file => ⟨d, file, added⟩) (d' file : String) :
    svc'.noticesOf d' file =
      svc.noticesOf d' file ++ if d = d' ∧ file ∈ files then [added] else [] := by
  rw [noticesOf, h, noticesAbout_append, noticesAbout_map honce]
  rfl

/-! ## Deleted files -/

theorem told_deleteFile (laws : FolderLaws ctx.fs svc.config.fileLocation)
    (hlistener : svc.config.fileListener = true) (h : ToldFiles ctx before svc) (hd : EntryName d)
    {file : String} (hfile : EntryName file) : ToldFiles ctx before (deleteFile ctx d svc file) := by
  obtain ⟨hconfig, -⟩ := deleteFile_paths ctx svc d file
  obtain ⟨hdisk, -⟩ := deleteFile_registry ctx svc d file
  have hnotices := notices_deleteFile ctx hlistener d file
  have hcontent : ∀ d', EntryName d' → ∀ f, f ∈ (deleteFile ctx d svc file).folderContent ctx d' ↔
      f ∈ svc.folderContent ctx d' ∧
        ¬ ((ctx.fs.deleteFile svc.disk (svc.pathOf ctx d file)).1 = true ∧ d' = d ∧ f = file) := by
    intro d' hd' f
    rw [folderContent, deviceFolder, hconfig, hdisk]
    exact laws.deleted svc.disk d file d' f hd hfile hd'
  cases hsuccess : (ctx.fs.deleteFile svc.disk (svc.pathOf ctx d file)).1 with
  | false =>
    rw [hsuccess] at hnotices hcontent
    have hsame : ∀ d' f, (deleteFile ctx d svc file).noticesOf d' f = svc.noticesOf d' f := by
      intro d' f
      rw [noticesOf, hnotices, if_neg (by simp), List.append_nil, noticesOf]
    refine ⟨fun d' f => hsame d' f ▸ h.alternates d' f, fun d' hd' f hf => ?_⟩
    exact hsame d' f ▸ h.shown d' hd' f ((hcontent d' hd' f).mp hf).1
  | true =>
    rw [hsuccess, if_pos rfl] at hnotices
    rw [hsuccess] at hcontent
    have hnew := noticesOf_append (List.nodup_singleton file) hnotices
    refine ⟨fun d' f => ?_, fun d' hd' f hf => ?_⟩
    · rw [hnew]
      split_ifs with hsame
      · obtain ⟨rfl, hf⟩ := hsame
        rw [List.mem_singleton] at hf
        subst hf
        exact (h.alternates d f).removed
          (h.shown d hd f (laws.existed svc.disk d f hd hfile hsuccess))
      · rw [List.append_nil]
        exact h.alternates d' f
    · obtain ⟨hold, hother⟩ := (hcontent d' hd' f).mp hf
      rw [hnew, if_neg fun hsame => hother ⟨rfl, hsame.1.symm, List.mem_singleton.mp hsame.2⟩,
        List.append_nil]
      exact h.shown d' hd' f hold

theorem told_foldl_deleteFile (laws : FolderLaws ctx.fs svc.config.fileLocation)
    (hlistener : svc.config.fileListener = true) (h : ToldFiles ctx before svc) (hd : EntryName d)
    {files : List String} (hfiles : ∀ file ∈ files, EntryName file) :
    ToldFiles ctx before (files.foldl (deleteFile ctx d) svc) := by
  induction files generalizing svc with
  | nil => exact h
  | cons file files ih =>
    rw [List.forall_mem_cons] at hfiles
    obtain ⟨hconfig, -⟩ := deleteFile_paths ctx svc d file
    exact ih (hconfig ▸ laws) (hconfig ▸ hlistener)
      (told_deleteFile laws hlistener h hd hfiles.1) hfiles.2

/-! ## Reports -/

/-- A report says nothing that the listener knows. -/
def TellsNews (ctx : Context δ μ φ) (svc : FileManagementService δ φ) (d : String) : Prop :=
  ctx.fs.isDirectoryPresent svc.disk (svc.deviceFolder ctx d) = true →
    ∀ file ∈ svc.discovered ctx d (svc.deviceFiles d) (svc.folderContent ctx d), ¬ svc.Knows d file

section Report

variable (laws : FolderLaws ctx.fs svc.config.fileLocation)
  (hlistener : svc.config.fileListener = true)
include laws hlistener

theorem report_notices
    (hpresent : ctx.fs.isDirectoryPresent svc.disk (svc.deviceFolder ctx d) = true) (d' file : String) :
    (svc.reportPresentFiles ctx d).noticesOf d' file = svc.noticesOf d' file ++
      if d = d' ∧ file ∈ svc.discovered ctx d (svc.deviceFiles d) (svc.folderContent ctx d) then [true]
      else [] := by
  have honce := laws.once svc.disk (svc.deviceFolder ctx d)
  have hreported := reportPresentFiles_reported hpresent
    (fun hmem => (laws.entries _ _ _ hmem).2 rfl) honce
  exact noticesOf_append (honce.filter _) (hreported.notices hlistener) d' file

theorem told_report (h : ToldFiles ctx before svc) (hnews : TellsNews ctx svc d) :
    ToldFiles ctx before (svc.reportPresentFiles ctx d) := by
  have hfixed := fixed_reportPresentFiles ctx svc d
  cases hpresent : ctx.fs.isDirectoryPresent svc.disk (svc.deviceFolder ctx d) with
  | false => exact h.of_eq hfixed.config hfixed.disk (reportPresentFiles_absent hpresent)
  | true =>
    have hnew := report_notices laws hlistener hpresent
    refine ⟨fun d' file => ?_, fun d' hd' file hfile => ?_⟩
    · rw [hnew]
      split_ifs with hfound
      · obtain ⟨rfl, hfound⟩ := hfound
        exact (h.alternates d file).added (hnews hpresent file hfound)
      · rw [List.append_nil]
        exact h.alternates d' file
    · rw [folderContent, deviceFolder, hfixed.config, hfixed.disk] at hfile
      rw [hnew]
      split_ifs
      · exact .inl List.getLast?_concat
      · rw [List.append_nil]
        exact h.shown d' hd' file hfile

theorem report_repeats (hnews : ¬ TellsNews ctx svc d) :
    ∃ file, ∀ present, ¬ Alternates present ((svc.reportPresentFiles ctx d).noticesOf d file) := by
  unfold TellsNews at hnews
  push Not at hnews
  obtain ⟨hpresent, file, hfound, hknows⟩ := hnews
  refine ⟨file, fun present => ?_⟩
  rw [report_notices laws hlistener hpresent, if_pos ⟨rfl, hfound⟩]
  exact not_alternates hknows

end Report

/-- After these files of the device are deleted, the listener knows none of the files that `m_files`
does not have for the device and a report can read. -/
def ReportsNews (ctx : Context δ μ φ) (svc : FileManagementService δ φ) (d : String)
    (files : List String) : Prop :=
  let folder := svc.deviceFolder ctx d
  let (gone, disk) := deletions ctx.fs folder files svc.disk
  ctx.fs.isDirectoryPresent disk folder = true → ∀ file ∈ ctx.fs.listFiles disk folder,
    (ctx.fs.readBinaryFileContent disk (ctx.fs.composePath file folder)).isSome = true →
      svc.Knows d file → d ∉ gone ∧ ((svc.deviceFiles d).find? file).isSome = true

theorem not_gone {location : String} (laws : FolderLaws ctx.fs location) {files : List String}
    (hfiles : ∀ file ∈ files, EntryName d ∧ EntryName file) {disk : φ} {file : String}
    (h : file ∈ ctx.fs.listFiles (deletions ctx.fs (ctx.fs.composePath d location) files disk).2
      (ctx.fs.composePath d location)) :
    file ∈ ctx.fs.listFiles disk (ctx.fs.composePath d location) ∧
      file ∉ (deletions ctx.fs (ctx.fs.composePath d location) files disk).1 := by
  induction files generalizing disk with
  | nil => exact ⟨h, List.not_mem_nil⟩
  | cons f files ih =>
    rw [List.forall_mem_cons] at hfiles
    obtain ⟨⟨hd, hf⟩, hfiles⟩ := hfiles
    simp only [deletions] at h ⊢
    obtain ⟨hmem, hgone⟩ := ih hfiles h
    obtain ⟨hold, hother⟩ := (laws.deleted disk d f d file hd hf hd).mp hmem
    refine ⟨hold, ?_⟩
    split_ifs with hsuccess
    · rw [List.mem_cons, not_or]
      exact ⟨fun heq => hother ⟨hsuccess, rfl, heq⟩, hgone⟩
    · exact hgone

theorem tellsNews_iff (laws : FolderLaws ctx.fs svc.config.fileLocation)
    (hlistener : svc.config.fileListener = true) {files : List String}
    (hfiles : ∀ file ∈ files, EntryName d ∧ EntryName file) :
    TellsNews ctx (files.foldl (deleteFile ctx d) svc) d ↔ ReportsNews ctx svc d files := by
  obtain ⟨hconfig, -⟩ := foldl_deleteFile_paths ctx svc d files
  obtain ⟨hdisk, hnotices, hregistry⟩ := foldl_deleteFile_effect ctx hlistener d files
  have hnot : ∀ {file}, file ∈ ctx.fs.listFiles (deletions ctx.fs (svc.deviceFolder ctx d) files
      svc.disk).2 (svc.deviceFolder ctx d) →
      file ∉ (deletions ctx.fs (svc.deviceFolder ctx d) files svc.disk).1 :=
    fun hfile => (not_gone laws hfiles hfile).2
  unfold ReportsNews
  dsimp only
  generalize files.foldl (deleteFile ctx d) svc = mid at hconfig hdisk hnotices hregistry ⊢
  have hfolder : mid.deviceFolder ctx d = svc.deviceFolder ctx d := by
    rw [deviceFolder, hconfig, deviceFolder]
  generalize deletions ctx.fs (svc.deviceFolder ctx d) files svc.disk = result
    at hdisk hnotices hregistry hnot ⊢
  obtain ⟨gone, disk⟩ := result
  dsimp only at hdisk hnotices hregistry hnot ⊢
  have hknows : ∀ file ∉ gone, (mid.Knows d file ↔ svc.Knows d file) := by
    intro file hfile
    have hsilent : noticesAbout (gone.map fun f => ⟨d, f, false⟩) d file = [] := by
      rw [noticesAbout, List.map_eq_nil_iff, List.filter_eq_nil_iff]
      intro n hn
      obtain ⟨f, hf, rfl⟩ := List.mem_map.mp hn
      rw [decide_eq_true_eq]
      rintro ⟨-, rfl⟩
      exact hfile hf
    rw [Knows, noticesOf, hnotices, noticesAbout_append, hsilent, List.append_nil]
    rfl
  have hknown : ∀ file, ((mid.deviceFiles d).find? file).isNone = true ↔
      ¬ (d ∉ gone ∧ ((svc.deviceFiles d).find? file).isSome = true) := by
    intro file
    rw [deviceFiles, hregistry, OrderedMap.find?_foldl_erase]
    split_ifs with hd
    · simp [hd]
    · simp [hd, deviceFiles]
  unfold TellsNews discovered folderContent freshInformation pathOf
  rw [hfolder, hdisk]
  constructor
  · intro hnews hpresent file hfile hread hknow
    by_contra hnone
    refine hnews hpresent file ?_ ((hknows file (hnot hfile)).mpr hknow)
    rw [List.mem_filter, Bool.and_eq_true, Option.isSome_map]
    exact ⟨hfile, (hknown file).mpr hnone, hread⟩
  · intro hnews hpresent file hfile hknow
    rw [List.mem_filter, Bool.and_eq_true, Option.isSome_map] at hfile
    obtain ⟨hfile, hnone, hread⟩ := hfile
    exact (hknown file).mp hnone (hnews hpresent file hfile hread ((hknows file (hnot hfile)).mp hknow))

/-! ## Stored files -/

/-- Whether the file system takes the file of this session. -/
def writes (ctx : Context δ μ φ) (svc : FileManagementService δ φ) (s : FileTransferSession)
    (bytes : Bytes) : Bool :=
  (ctx.fs.createBinaryFileWithContent (svc.makeFolder ctx (svc.deviceFolder ctx s.deviceKey))
    (svc.pathOf ctx s.deviceKey s.name) bytes).1

/-- The listener does not know a file whose storing succeeds. -/
def StoresNews (ctx : Context δ μ φ) (svc : FileManagementService δ φ) (s : FileTransferSession) :
    Prop :=
  ∀ bytes ∈ (svc.collectBytes ctx s).toOption, svc.writes ctx s bytes = true →
    ¬ svc.Knows s.deviceKey s.name

/-- What a step that stores a file does. -/
structure Stored (ctx : Context δ μ φ) (svc svc' : FileManagementService δ φ) (s : FileTransferSession)
    (bytes : Bytes) : Prop where
  config : svc'.config = svc.config
  disk : svc'.disk = (svc.placeFile ctx s bytes).2.disk
  notices : svc'.notices = svc.notices ++
    (if svc.writes ctx s bytes then [s.name] else []).map fun file => ⟨s.deviceKey, file, true⟩

theorem Stored.noticesOf {s : FileTransferSession} {bytes : Bytes} (h : Stored ctx svc svc' s bytes)
    (d file : String) : svc'.noticesOf d file = svc.noticesOf d file ++
      if s.deviceKey = d ∧ svc.writes ctx s bytes = true ∧ file = s.name then [true] else [] := by
  rw [noticesOf_append (by split_ifs <;> simp) h.notices]
  congr 1
  refine if_congr (and_congr_right fun _ => ?_) rfl rfl
  split_ifs with hwrites <;> simp [hwrites]

theorem told_stored (laws : FolderLaws ctx.fs svc.config.fileLocation) (h : ToldFiles ctx before svc)
    {s : FileTransferSession} {bytes : Bytes} (hd : EntryName s.deviceKey) (hname : EntryName s.name)
    (hnews : svc.writes ctx s bytes = true → ¬ svc.Knows s.deviceKey s.name)
    (hstored : Stored ctx svc svc' s bytes) : ToldFiles ctx before svc' := by
  have hcontent : ∀ d, EntryName d → ∀ file, file ∈ svc'.folderContent ctx d ↔
      file ∈ svc.folderContent ctx d ∨
        svc.writes ctx s bytes = true ∧ d = s.deviceKey ∧ file = s.name := by
    intro d hd' file
    have hmade : ctx.fs.listFiles (svc.makeFolder ctx (svc.deviceFolder ctx s.deviceKey))
        (svc.deviceFolder ctx d) = svc.folderContent ctx d := by
      unfold makeFolder
      split_ifs
      · rfl
      · exact laws.made _ _ _
    rw [folderContent, deviceFolder, hstored.config, hstored.disk, ← hmade]
    exact laws.created _ s.deviceKey s.name bytes d file hd hname hd'
  refine ⟨fun d file => ?_, fun d hd' file hfile => ?_⟩
  · rw [hstored.noticesOf]
    split_ifs with hnew
    · obtain ⟨rfl, hwrites, rfl⟩ := hnew
      exact (h.alternates _ _).added (hnews hwrites)
    · rw [List.append_nil]
      exact h.alternates d file
  · rw [hstored.noticesOf]
    split_ifs with hnew
    · exact .inl List.getLast?_concat
    · rw [List.append_nil]
      rcases (hcontent d hd' file).mp hfile with hold | ⟨hwrites, rfl, rfl⟩
      · exact h.shown d hd' file hold
      · exact absurd ⟨rfl, hwrites, rfl⟩ hnew

end FileManagementService

namespace System

open FileManagementService (ToldFiles ReportsNews StoresNews Stored TellsNews)

variable {δ μ φ : Type} (ctx : Context δ μ φ) (sys : System δ φ)

/-- The device whose files the step reports, and the files that it deletes before. -/
def reports : Event μ → Option (String × List String)
  | .receive d m _ =>
    match sys.reporting, m with
    | none, .fileListRequest => some (d, [])
    | none, .fileDelete message => some (d, message.files)
    | none, .filePurge => some (d, sys.svc.folderContent ctx d)
    | _, _ => none
  | .report | .runCommand | .downloader _ => none

/-- The session whose file the step stores. -/
def stores : Event μ → Option FileTransferSession
  | .runCommand => sys.svc.storing
  | .receive _ _ _ | .report | .downloader _ => none

/-- Devices and files have the names of entries of a folder. -/
def TouchesEntries (sys : System δ φ) (e : Event μ) : Prop :=
  ∀ d ∈ sys.target e, ∀ file ∈ sys.touches ctx e, EntryName d ∧ EntryName file

/-- What the step reports or stores is nothing that the listener knows. -/
def TellsNews (sys : System δ φ) (e : Event μ) : Prop :=
  (∀ r ∈ sys.reports ctx e, sys.svc.ReportsNews ctx r.1 r.2) ∧
    ∀ s ∈ sys.stores e, sys.svc.StoresNews ctx s

/-- For every file, the notifications so far alternate. -/
def Alternating (disk : φ) (sys : System δ φ) : Prop :=
  ∀ d file, Alternates
    (file ∈ ctx.fs.listFiles disk (ctx.fs.composePath d sys.svc.config.fileLocation))
    (sys.svc.noticesOf d file)

variable {ctx} {sys} {sys' : System δ φ} {e : Event μ}

/-- A step queues no notification, reports files or stores one. -/
inductive Tells (ctx : Context δ μ φ) (sys sys' : System δ φ) (e : Event μ) : Prop
  | nothing : sys.reports ctx e = none → sys.stores e = none → sys'.svc.config = sys.svc.config →
      sys'.svc.disk = sys.svc.disk → sys'.svc.notices = sys.svc.notices → Tells ctx sys sys' e
  | report {d files} : sys.reports ctx e = some (d, files) → sys.stores e = none →
      sys.target e = some d → sys.touches ctx e = files →
      sys'.svc = (files.foldl (FileManagementService.deleteFile ctx d) sys.svc).reportPresentFiles
        ctx d → Tells ctx sys sys' e
  | store {s bytes} : sys.reports ctx e = none → sys.stores e = some s →
      sys.target e = some s.deviceKey → sys.touches ctx e = [s.name] →
      sys.svc.collectBytes ctx s = .ok bytes → Stored ctx sys.svc sys'.svc s bytes →
      Tells ctx sys sys' e

theorem ran_tells (hlistener : sys.svc.config.fileListener = true) (hkeyed : sys.svc.core.Keyed)
    (h : FileManagementService.Ran ctx sys.svc sys'.svc) : Tells ctx sys sys' .runCommand := by
  cases h with
  | idle hempty heq =>
    have hnone : sys.svc.storing = none := by simp [FileManagementService.storing, hempty]
    exact .nothing rfl hnone (by rw [heq]) (by rw [heq]) (by rw [heq])
  | notice hbuffer hcommand hnotice _ heq =>
    have hnone := FileManagementService.storing_of_notice hbuffer hcommand
    refine .nothing rfl hnone (by rw [heq]; rfl) (by rw [heq]; rfl) ?_
    rw [heq]
    exact FileManagementService.told_notices hbuffer hnotice
  | quiet hbuffer hcommand hnone hquiet =>
    refine .nothing rfl hnone hquiet.config hquiet.disk ?_
    exact hquiet.notices.trans (FileManagementService.taken_notices hbuffer hcommand)
  | @stored p a rest s svc1 bytes hbuffer hstoring hs hbytes hbefore hafter =>
    have hkey : s.deviceKey = p.deviceKey := hkeyed.key _ _ hs
    have hconfig : svc1.config = sys.svc.config := hbefore.config
    have hdisk : svc1.disk = sys.svc.disk := hbefore.disk
    have hplace : (svc1.placeFile ctx s bytes).1 = sys.svc.writes ctx s bytes ∧
        (svc1.placeFile ctx s bytes).2.disk = (sys.svc.placeFile ctx s bytes).2.disk := by
      simp only [FileManagementService.placeFile, FileManagementService.writes,
        FileManagementService.makeFolder, FileManagementService.deviceFolder,
        FileManagementService.pathOf, hconfig, hdisk]
      exact ⟨rfl, rfl⟩
    obtain ⟨hplacedDisk, hplaced⟩ := FileManagementService.placed_effect ctx svc1
      (hconfig ▸ hlistener) s p.deviceKey bytes
    refine .store rfl hstoring (by simp [target, hstoring]) (by simp [touches, hstoring]) hbytes
      ⟨?_, ?_, ?_⟩
    · exact (hafter.config.trans (FileManagementService.placed_paths _ _ _ _ _).1).trans hconfig
    · rw [hafter.disk, hplacedDisk, hplace.2]
    · rw [hafter.notices, hplaced, hbefore.notices,
        FileManagementService.taken_notices hbuffer rfl, hplace.1, hkey]
      split_ifs <;> rfl

theorem step_tells (hlistener : sys.svc.config.fileListener = true) (hkeyed : sys.svc.core.Keyed)
    (h : sys.step ctx e = .ok sys') : Tells ctx sys sys' e := by
  cases step_files h with
  | quiet hquiet hstep =>
    refine .nothing ?_ ?_ hstep.config hstep.disk hstep.notices
    · unfold reports
      split
      · split
        · cases hquiet
        · cases hquiet
        · cases hquiet
        · rfl
      · rfl
      · rfl
      · rfl
    · unfold stores
      split
      · cases hquiet
      · rfl
      · rfl
      · rfl
  | @waiting d m past hbusy heq =>
    obtain ⟨key, hkey⟩ := Option.isSome_iff_exists.mp hbusy
    exact .nothing (by simp [reports, hkey]) rfl (by rw [heq]) (by rw [heq]) (by rw [heq])
  | @list d past hidle heq =>
    have hreports : sys.reports ctx (.receive d .fileListRequest past) = some (d, []) := by
      simp only [reports, hidle]
    exact .report hreports rfl rfl (by simp only [touches, hidle]) heq
  | @delete d m past hidle heq =>
    have hreports : sys.reports ctx (.receive d (.fileDelete m) past) = some (d, m.files) := by
      simp only [reports, hidle]
    exact .report hreports rfl rfl (by simp only [touches, hidle]) heq
  | @purge d past hidle heq =>
    have hreports : sys.reports ctx (.receive d .filePurge past) =
        some (d, sys.svc.folderContent ctx d) := by
      simp only [reports, hidle]
    exact .report hreports rfl rfl (by simp only [touches, hidle]; rfl) heq
  | ran hran => exact ran_tells hlistener hkeyed hran

/-- What holds in a run while the notifications alternate. -/
structure Notified (ctx : Context δ μ φ) (config : Configuration) (disk : φ) (sys : System δ φ) :
    Prop where
  configured : sys.svc.config = config
  keyed : sys.svc.core.Keyed
  told : ToldFiles ctx (fun d file => file ∈ ctx.fs.listFiles disk
    (ctx.fs.composePath d config.fileLocation)) sys.svc

section Step

variable {config : Configuration} {disk : φ} (laws : FolderLaws ctx.fs config.fileLocation)
  (hlistener : config.fileListener = true)
include laws hlistener

theorem Notified.step (h : Notified ctx config disk sys) (hentries : sys.TouchesEntries ctx e)
    (hnews : sys.TellsNews ctx e) (hs : sys.step ctx e = .ok sys') :
    Notified ctx config disk sys' := by
  obtain ⟨rfl, hkeyed, htold⟩ := h
  refine ⟨(step_files hs).config, hkeyed.move (step_moves hs), ?_⟩
  cases step_tells hlistener hkeyed hs with
  | nothing _ _ hconfig hdisk hnotices => exact htold.of_eq hconfig hdisk hnotices
  | @report d files hreports _ htarget htouches heq =>
    have hfiles : ∀ file ∈ files, EntryName d ∧ EntryName file := fun file hfile =>
      hentries d htarget file (htouches ▸ hfile)
    have hconfig := (FileManagementService.foldl_deleteFile_paths ctx sys.svc d files).1
    rw [heq]
    refine FileManagementService.told_report (hconfig ▸ laws) (hconfig ▸ hlistener) ?_
      ((FileManagementService.tellsNews_iff laws hlistener hfiles).mpr (hnews.1 _ hreports))
    cases files with
    | nil => exact htold
    | cons file files =>
      exact FileManagementService.told_foldl_deleteFile laws hlistener htold
        (hfiles file List.mem_cons_self).1 fun f hf => (hfiles f hf).2
  | @store s bytes _ hstores htarget htouches hbytes hstored =>
    obtain ⟨hd, hname⟩ := hentries _ htarget s.name (htouches ▸ List.mem_singleton_self _)
    exact FileManagementService.told_stored laws htold hd hname
      (hnews.2 s hstores bytes (by rw [hbytes]; rfl)) hstored

theorem Notified.not_alternating (h : Notified ctx config disk sys)
    (hentries : sys.TouchesEntries ctx e) (hnews : ¬ sys.TellsNews ctx e)
    (hs : sys.step ctx e = .ok sys') : ¬ sys'.Alternating ctx disk := by
  obtain ⟨rfl, hkeyed, htold⟩ := h
  cases step_tells hlistener hkeyed hs with
  | nothing hreports hstores =>
    refine absurd ⟨fun r hr => ?_, fun s hs => ?_⟩ hnews
    · rw [hreports] at hr
      cases hr
    · rw [hstores] at hs
      cases hs
  | @report d files hreports hstores htarget htouches heq =>
    have hfiles : ∀ file ∈ files, EntryName d ∧ EntryName file := fun file hfile =>
      hentries d htarget file (htouches ▸ hfile)
    have hconfig := (FileManagementService.foldl_deleteFile_paths ctx sys.svc d files).1
    have hknown : ¬ FileManagementService.TellsNews ctx
        (files.foldl (FileManagementService.deleteFile ctx d) sys.svc) d := by
      intro htells
      refine hnews ⟨fun r hr => ?_, fun s hs => ?_⟩
      · rw [hreports] at hr
        cases hr
        exact (FileManagementService.tellsNews_iff laws hlistener hfiles).mp htells
      · rw [hstores] at hs
        cases hs
    obtain ⟨file, hfile⟩ := FileManagementService.report_repeats (hconfig ▸ laws)
      (hconfig ▸ hlistener) hknown
    intro halternating
    rw [Alternating, heq] at halternating
    exact hfile _ (halternating d file)
  | @store s bytes hreports hstores _ _ hbytes hstored =>
    have hknown : sys.svc.writes ctx s bytes = true ∧ sys.svc.Knows s.deviceKey s.name := by
      by_contra hnot
      refine hnews ⟨fun r hr => ?_, fun s' hs' bytes' hbytes' hwrites hknows => ?_⟩
      · rw [hreports] at hr
        cases hr
      · rw [hstores] at hs'
        cases hs'
        rw [hbytes] at hbytes'
        cases hbytes'
        exact hnot ⟨hwrites, hknows⟩
    intro halternating
    have hfile := halternating s.deviceKey s.name
    rw [hstored.noticesOf, if_pos ⟨rfl, hknown.1, rfl⟩] at hfile
    exact not_alternates hknown.2 hfile

/-- **File listener notifications alternate.** In a run where devices and files have the names of
entries of a folder, they do in all states exactly when no step reports or stores a file that the
listener knows. -/
theorem notifications_alternate_iff (x : Option δ) {es : List (Event μ)}
    (h : Machine.Run (step ctx) (TouchesEntries ctx) (create config x disk) es sys) :
    (∀ es₁ es₂ s, es = es₁ ++ es₂ →
      Machine.Run (step ctx) (TouchesEntries ctx) (create config x disk) es₁ s →
      s.Alternating ctx disk) ↔
    Machine.Run (step ctx) (fun s e => s.TouchesEntries ctx e ∧ s.TellsNews ctx e)
      (create config x disk) es sys := by
  have hcreated : (create config x disk : System δ φ).svc.core.Keyed := by
    constructor
    · intro d s hs; cases hs
    · intro d s hs; cases hs
    · intro p a ha; cases ha
    · intro d p hp; cases hp
  refine h.always_iff (Alternating ctx disk) (Notified ctx config disk) ?_ ?_ ?_ ?_
  · exact ⟨rfl, hcreated, fun d file => ⟨.nil, fun h => by cases h⟩,
      fun d _ file hfile => .inr ⟨rfl, hfile⟩⟩
  · exact fun _ _ _ hs hok hstep => hs.step laws hlistener hok.1 hok.2 hstep
  · intro s hs d file
    rw [hs.configured]
    exact hs.told.alternates d file
  · exact fun _ _ _ hs hok hbreak hstep =>
      hs.not_alternating laws hlistener hok (fun hnews => hbreak ⟨hok, hnews⟩) hstep

end Step

/-! ## Runs -/

def folderContext : Context Empty Empty (OrderedMap String Bytes) :=
  { uploadContext with fs := mapFileSystem }

/-- "d" has a file "g", and "e" a file "d". -/
def folderDisk : OrderedMap String Bytes :=
  (OrderedMap.empty.insert "files/d/g" [98]).insert "files/e/d" [97]

def folderSystem : System Empty (OrderedMap String Bytes) :=
  .create openConfiguration none folderDisk

/-- A list request, an upload, a deletion of the uploaded file, and another upload of it. -/
def uploadedTwice : List (Event Empty) :=
  [.receive "e" .fileListRequest fun _ => 0, .initA, .chunkA, .runCommand, .runCommand, .runCommand,
    .runCommand, .receive "d" (.fileDelete ⟨["f"]⟩) fun _ => 0, .initA, .chunkA, .runCommand,
    .runCommand, .runCommand, .runCommand, .runCommand]

instance (ctx : Context δ μ φ) (svc : FileManagementService δ φ) (d : String) (files : List String) :
    Decidable (svc.ReportsNews ctx d files) :=
  inferInstanceAs (Decidable (_ → ∀ file ∈ ctx.fs.listFiles _ _, _ → _ → _ ∧ _))

instance (ctx : Context δ μ φ) (svc : FileManagementService δ φ) (s : FileTransferSession) :
    Decidable (svc.StoresNews ctx s) :=
  inferInstanceAs (Decidable (∀ bytes ∈ (svc.collectBytes ctx s).toOption, _ → ¬ _))

instance (ctx : Context δ μ φ) (sys : System δ φ) (e : Event μ) : Decidable (sys.TellsNews ctx e) :=
  inferInstanceAs (Decidable (_ ∧ _))

instance (ctx : Context δ μ φ) (sys : System δ φ) (e : Event μ) :
    Decidable (sys.TouchesEntries ctx e) :=
  inferInstanceAs (Decidable (∀ d ∈ sys.target e, ∀ file ∈ sys.touches ctx e, _ ∧ _))

theorem notifications_alternate_iff_twice : ∃ sys : System Empty (OrderedMap String Bytes),
    (∀ es₁ es₂ s, uploadedTwice = es₁ ++ es₂ →
      Machine.Run (step folderContext) (TouchesEntries folderContext) folderSystem es₁ s →
      s.Alternating folderContext folderDisk) ∧
    sys.svc.noticesOf "d" "f" = [true, false, true] := by
  obtain ⟨sys, hrun, hnotices⟩ := Machine.Run.exists_of_check (step folderContext)
    (fun s e => s.TouchesEntries folderContext e ∧ s.TellsNews folderContext e) folderSystem
    uploadedTwice (fun sys => sys.svc.noticesOf "d" "f") [true, false, true] (by decide +kernel)
  exact ⟨sys, (notifications_alternate_iff (mapFileSystem_laws "files") rfl none
    (hrun.mono fun _ _ h => h.1)).mpr hrun, hnotices⟩

/-- The listener is told of an uploaded file, and by the next list request once more. When the file "d"
of "e" is deleted, `m_files` loses what it has for the device "d". -/
theorem listener_told_twice :
    (∃ sys : System Empty (OrderedMap String Bytes),
      Machine.Run (step folderContext) (fun s e => e.isFileTraffic = true ∧
        s.TouchesEntries folderContext e) folderSystem
        [.initA, .chunkA, .runCommand, .runCommand, .runCommand, .listRequest] sys ∧
      ¬ sys.Alternating folderContext folderDisk) ∧
    ∃ sys : System Empty (OrderedMap String Bytes),
      Machine.Run (step folderContext) (fun s e => e.isFileTraffic = true ∧
        s.TouchesEntries folderContext e) folderSystem
        [.listRequest, .receive "e" (.fileDelete ⟨["d"]⟩) fun _ => 0, .listRequest] sys ∧
      ¬ sys.Alternating folderContext folderDisk := by
  have htwice : ∀ {sys : System Empty (OrderedMap String Bytes)} {file},
      sys.svc.noticesOf "d" file = [true, true] → ¬ sys.Alternating folderContext folderDisk := by
    intro sys file hnotices halternating
    have hfile := halternating "d" file
    rw [hnotices] at hfile
    exact not_alternates (l := [true]) rfl hfile
  constructor
  · obtain ⟨sys, hrun, hnotices⟩ := Machine.Run.exists_of_check (step folderContext)
      (fun s e => e.isFileTraffic = true ∧ s.TouchesEntries folderContext e) folderSystem
      [.initA, .chunkA, .runCommand, .runCommand, .runCommand, .listRequest]
      (fun sys => sys.svc.noticesOf "d" "f") [true, true] (by decide +kernel)
    exact ⟨sys, hrun, htwice hnotices⟩
  · obtain ⟨sys, hrun, hnotices⟩ := Machine.Run.exists_of_check (step folderContext)
      (fun s e => e.isFileTraffic = true ∧ s.TouchesEntries folderContext e) folderSystem
      [.listRequest, .receive "e" (.fileDelete ⟨["d"]⟩) fun _ => 0, .listRequest]
      (fun sys => sys.svc.noticesOf "d" "g") [true, true] (by decide +kernel)
    exact ⟨sys, hrun, htwice hnotices⟩

end System

end WolkConnect
