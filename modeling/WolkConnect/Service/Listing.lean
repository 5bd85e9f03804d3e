import WolkConnect.Service.Files

/-!
# The published list is accurate

As long as the information in `m_files` is that of the files on the disk, a list is
right. Only a stored file can outdate it.
-/

namespace WolkConnect

namespace FileShelf

variable {δ μ φ : Type} (ctx : Context δ μ φ) (sh : FileShelf φ)

def folderOf (d : String) : String := ctx.fs.composePath d sh.config.fileLocation

def pathOf (d file : String) : String := ctx.fs.composePath file (sh.folderOf ctx d)

def contentOf (d file : String) : Option Bytes :=
  ctx.fs.readBinaryFileContent sh.disk (sh.pathOf ctx d file)

def information? (d file : String) : Option FileInformation :=
  ((sh.files.find? d).getD .empty).find? file

/-- The size and the hash are those of this content. -/
def Describes (ctx : Context δ μ φ) (info : FileInformation) (bytes : Bytes) : Prop :=
  info.size = bytes.length ∧ info.hash = hexStream (ctx.bytes.hashSHA256 bytes)

/-- What `m_files` knows about a readable file is true. -/
def Informed : Prop :=
  ∀ d file info bytes, sh.information? d file = some info → sh.contentOf ctx d file = some bytes →
    Describes ctx info bytes

/-- The list names every readable file in the folder, and is right about every readable file. -/
structure Accurate (d : String) (files : List FileInformation) : Prop where
  complete : ∀ file ∈ ctx.fs.listFiles sh.disk (sh.folderOf ctx d), ∀ bytes,
    sh.contentOf ctx d file = some bytes →
      FileManagementService.informationOf ctx file bytes ∈ files
  correct : ∀ info ∈ files, ∀ bytes, sh.contentOf ctx d info.name = some bytes →
    info = FileManagementService.informationOf ctx info.name bytes

/-- The disk once the folder of the device has been made. -/
def readyDisk (d : String) : φ :=
  if ctx.fs.isDirectoryPresent sh.disk (sh.folderOf ctx d) then sh.disk
  else ctx.fs.createDirectory sh.disk (sh.folderOf ctx d)

/-- A file with this content outdates nothing: what `m_files` knows about the file that is written,
if anything, is true of the content, and the write succeeds. -/
def StoresKnown (same : φ → String → String → Prop) (s : FileTransferSession) (bytes : Bytes) :
    Prop :=
  ∀ d file info, sh.information? d file = some info →
    same (sh.readyDisk ctx s.deviceKey) (sh.pathOf ctx s.deviceKey s.name) (sh.pathOf ctx d file) →
      (ctx.fs.createBinaryFileWithContent (sh.readyDisk ctx s.deviceKey)
        (sh.pathOf ctx s.deviceKey s.name) bytes).1 = true ∧ Describes ctx info bytes

end FileShelf

namespace FileManagementService

open FileShelf (Informed Accurate Describes StoresKnown)

variable {δ μ φ : Type} {ctx : Context δ μ φ} {svc svc' : FileManagementService δ φ} {d : String}

/-! ## Lists -/

theorem find?_foldl_erase_some {registry : DeviceFiles} {keys : List String} {file : String}
    {info : FileInformation} (h : (keys.foldl OrderedMap.erase registry).find? file = some info) :
    registry.find? file = some info := by
  rw [OrderedMap.find?_foldl_erase] at h
  split_ifs at h
  exact h

/-- Only entries of one device change, and the new ones are right. -/
theorem informed_files (sh : FileShelf φ) {registry : DeviceFiles} (h : Informed ctx sh)
    (hnew : ∀ file info bytes, registry.find? file = some info → sh.contentOf ctx d file = some bytes →
      Describes ctx info bytes) :
    Informed ctx { sh with files := sh.files.insert d registry } := by
  intro d' file info bytes hinfo hbytes
  simp only [FileShelf.information?, OrderedMap.find?_insert] at hinfo
  split_ifs at hinfo with hd
  · subst hd
    exact hnew file info bytes (by simpa using hinfo) hbytes
  · exact h d' file info bytes hinfo hbytes

theorem informed_prune {sh : FileShelf φ} (h : Informed ctx sh) (folderContent : List String) :
    Informed ctx { sh with
      files := sh.files.insert d (pruneRegistry ((sh.files.find? d).getD .empty) folderContent) } :=
  informed_files sh h fun file info bytes hinfo hbytes =>
    h d file info bytes (find?_foldl_erase_some hinfo) hbytes

/-- What the loop over the folder keeps: the disk, and a list that is right so far. -/
structure Reporting (ctx : Context δ μ φ) (d : String) (sh : FileShelf φ) (seen : List String)
    (acc : FileManagementService δ φ × List FileInformation) : Prop where
  informed : Informed ctx acc.1.shelf
  config : acc.1.config = sh.config
  disk : acc.1.disk = sh.disk
  listings : acc.1.shelf.listings = sh.listings
  complete : ∀ file ∈ seen, ∀ bytes, sh.contentOf ctx d file = some bytes →
    informationOf ctx file bytes ∈ acc.2
  correct : ∀ info ∈ acc.2, ∀ bytes, sh.contentOf ctx d info.name = some bytes →
    info = informationOf ctx info.name bytes

theorem Reporting.content {sh : FileShelf φ} {seen : List String}
    {acc : FileManagementService δ φ × List FileInformation} (h : Reporting ctx d sh seen acc)
    (file : String) : acc.1.shelf.contentOf ctx d file = sh.contentOf ctx d file := by
  simp only [FileShelf.contentOf, FileShelf.pathOf, FileShelf.folderOf, shelf, h.config, h.disk]

theorem informationOf_of_describes {info : FileInformation} {bytes : Bytes}
    (h : Describes ctx info bytes) (file : String) :
    (⟨file, info.size, info.hash⟩ : FileInformation) = informationOf ctx file bytes := by
  rw [informationOf, h.1, h.2]

theorem Reporting.add {sh : FileShelf φ} {seen : List String}
    {acc : FileManagementService δ φ × List FileInformation} (h : Reporting ctx d sh seen acc)
    {svc' : FileManagementService δ φ} {file : String} {info : FileInformation}
    (hinfo : ∀ bytes, sh.contentOf ctx d file = some bytes → Describes ctx info bytes)
    (hinformed : Informed ctx svc'.shelf) (hconfig : svc'.config = sh.config)
    (hdisk : svc'.disk = sh.disk) (hlistings : svc'.shelf.listings = sh.listings) :
    Reporting ctx d sh (seen ++ [file]) (svc', acc.2 ++ [⟨file, info.size, info.hash⟩]) where
  informed := hinformed
  config := hconfig
  disk := hdisk
  listings := hlistings
  complete f hf bytes hbytes := by
    rw [List.mem_append, List.mem_singleton] at hf ⊢
    rcases hf with hf | rfl
    · exact Or.inl (h.complete f hf bytes hbytes)
    · exact Or.inr (informationOf_of_describes (hinfo bytes hbytes) f).symm
  correct i hi bytes hbytes := by
    rw [List.mem_append, List.mem_singleton] at hi
    rcases hi with hi | rfl
    · exact h.correct i hi bytes hbytes
    · exact informationOf_of_describes (hinfo bytes hbytes) file

theorem Reporting.step {sh : FileShelf φ} {seen : List String}
    {acc : FileManagementService δ φ × List FileInformation} (h : Reporting ctx d sh seen acc)
    {file : String} (hname : file ≠ "") :
    Reporting ctx d sh (seen ++ [file]) (reportFile ctx d acc file) := by
  obtain ⟨svc, vector⟩ := acc
  have hcontent := h.content file
  simp only [reportFile]
  cases hfind : (svc.deviceFiles d).find? file with
  | some info =>
    refine h.add (fun bytes hbytes => ?_) h.informed h.config h.disk h.listings
    exact h.informed d file info bytes hfind (hcontent ▸ hbytes)
  | none =>
    dsimp only
    cases hread : ctx.fs.readBinaryFileContent svc.disk (svc.pathOf ctx d file) with
    | none =>
      have hnone : sh.contentOf ctx d file = none := by rw [← hcontent]; exact hread
      simp only [obtainFileInformation, hread, if_true]
      refine { h with complete := fun f hf bytes hbytes => ?_ }
      rcases List.mem_append.mp hf with hf | hf
      · exact h.complete f hf bytes hbytes
      · rw [List.mem_singleton.mp hf, hnone] at hbytes
        cases hbytes
    | some bytes =>
      have hsome : sh.contentOf ctx d file = some bytes := by rw [← hcontent]; exact hread
      have hfresh : svc.obtainFileInformation ctx d file = informationOf ctx file bytes := by
        simp [obtainFileInformation, hread]
      have hdescribes : ∀ bytes', sh.contentOf ctx d file = some bytes' →
          Describes ctx (informationOf ctx file bytes) bytes' := by
        intro bytes' hbytes'
        rw [hsome] at hbytes'
        cases hbytes'
        exact ⟨rfl, rfl⟩
      rw [hfresh, if_neg (by simpa [informationOf] using hname)]
      refine h.add hdescribes ?_ ?_ ?_ ?_
      · rw [shelf_notifyListenerAddedFile]
        refine informed_files svc.shelf h.informed fun f info b hinfo hb => ?_
        rw [OrderedMap.find?_emplace_of_none _ _ hfind] at hinfo
        split_ifs at hinfo with hf
        · subst hf
          cases hinfo
          exact hdescribes b (hcontent ▸ hb)
        · exact h.informed d f info b hinfo hb
      · rw [← h.config]
        exact congrArg FileShelf.config (shelf_notifyListenerAddedFile _ _)
      · rw [← h.disk]
        exact congrArg FileShelf.disk (shelf_notifyListenerAddedFile _ _)
      · rw [shelf_notifyListenerAddedFile]
        exact h.listings

theorem Reporting.foldl {sh : FileShelf φ} {files : List String} (hnames : "" ∉ files)
    {seen : List String} {acc : FileManagementService δ φ × List FileInformation}
    (h : Reporting ctx d sh seen acc) :
    Reporting ctx d sh (seen ++ files) (files.foldl (reportFile ctx d) acc) := by
  induction files generalizing seen acc with
  | nil => simpa using h
  | cons file files ih =>
    rw [List.mem_cons, not_or] at hnames
    have := ih hnames.2 (h.step (Ne.symm hnames.1))
    rwa [List.append_assoc] at this

/-- The service stays informed, and every list that it published is accurate. -/
structure Lists (ctx : Context δ μ φ) (svc svc' : FileManagementService δ φ) : Prop where
  informed : Informed ctx svc'.shelf
  listings : ∃ new, svc'.shelf.listings = svc.shelf.listings ++ new ∧
    ∀ d files, (d, files) ∈ new → Accurate ctx svc'.shelf d files

theorem Lists.of_eq (h : Informed ctx svc.shelf) (heq : svc'.shelf = svc.shelf) :
    Lists ctx svc svc' := by
  refine ⟨heq ▸ h, [], ?_, by simp⟩
  rw [heq, List.append_nil]

theorem Reporting.accurate {sh : FileShelf φ}
    {acc : FileManagementService δ φ × List FileInformation}
    (h : Reporting ctx d sh (ctx.fs.listFiles sh.disk (sh.folderOf ctx d)) acc) :
    Lists ctx acc.1 (acc.1.publish ctx d (.fileListResponse acc.2) none) := by
  have hacc : Accurate ctx acc.1.shelf d acc.2 := by
    refine ⟨fun file hfile bytes hbytes => ?_, fun info hinfo bytes hbytes => ?_⟩
    · rw [h.content] at hbytes
      refine h.complete file ?_ bytes hbytes
      simpa only [shelf, FileShelf.folderOf, h.config, h.disk] using hfile
    · rw [h.content] at hbytes
      exact h.correct info hinfo bytes hbytes
  unfold publish
  split_ifs
  · refine ⟨h.informed, [(d, acc.2)], by simp [shelf, List.filterMap_append, Effect.listing], ?_⟩
    intro d' files hmem
    cases List.mem_singleton.mp hmem
    exact ⟨hacc.complete, hacc.correct⟩
  · exact Lists.of_eq h.informed rfl

variable {same : φ → String → String → Prop} (laws : FileSystemLaws ctx.fs same)
include laws

theorem reportPresentFiles_lists (h : Informed ctx svc.shelf) (d : String) :
    Lists ctx svc (svc.reportPresentFiles ctx d) := by
  have hstart : ∀ registry : DeviceFiles,
      Informed ctx { svc.shelf with files := svc.files.insert d registry } →
      Reporting ctx d svc.shelf [] ({ svc with files := svc.files.insert d registry }, []) :=
    fun _ hinf => ⟨hinf, rfl, rfl, rfl, by simp, by simp⟩
  unfold reportPresentFiles
  dsimp only
  split_ifs with hpresent
  · have hfold := (hstart _ (informed_prune h
      (ctx.fs.listFiles svc.disk (svc.deviceFolder ctx d)))).foldl
        (laws.named svc.disk (svc.deviceFolder ctx d))
    obtain ⟨hinf, new, hnew, hacc⟩ := hfold.accurate
    exact ⟨hinf, new, hnew.trans (congrArg (· ++ new) hfold.listings), hacc⟩
  · have hnone := laws.present _ _ (by simpa using hpresent)
    have hrep : Reporting ctx d svc.shelf (ctx.fs.listFiles svc.disk (svc.deviceFolder ctx d))
        (svc, []) := ⟨h, rfl, rfl, rfl, by simp [hnone], by simp⟩
    exact hrep.accurate

/-! ## Deleted and stored files -/

theorem deleteFile_informed (h : Informed ctx svc.shelf) (d file : String) :
    Informed ctx (deleteFile ctx d svc file).shelf ∧
      (deleteFile ctx d svc file).shelf.listings = svc.shelf.listings := by
  have hdisk : ∀ files : OrderedMap String DeviceFiles,
      (∀ d' f info, (({ svc.shelf with files := files } : FileShelf φ).information? d' f = some info →
        svc.shelf.information? d' f = some info)) →
      Informed ctx { svc.shelf with
        files := files, disk := (ctx.fs.deleteFile svc.disk (svc.pathOf ctx d file)).2 } := by
    intro files hfiles d' f info bytes hinfo hbytes
    exact h d' f info bytes (hfiles d' f info hinfo) (laws.deleted _ _ _ _ hbytes)
  simp only [deleteFile]
  split_ifs
  · rw [shelf_notifyListenerRemovedFile]
    refine ⟨?_, by simp [shelf, List.filterMap_append, Effect.listing]⟩
    have := hdisk (svc.files.erase file) fun d' f info hinfo => by
      simp only [FileShelf.information?, OrderedMap.find?_erase] at hinfo ⊢
      split_ifs at hinfo
      · simp at hinfo
      · exact hinfo
    intro d' f info bytes hinfo hbytes
    exact this d' f info bytes hinfo hbytes
  · refine ⟨?_, by simp [shelf, List.filterMap_append, Effect.listing]⟩
    have := hdisk svc.files fun d' f info hinfo => hinfo
    intro d' f info bytes hinfo hbytes
    exact this d' f info bytes hinfo hbytes

theorem foldl_deleteFile_informed (h : Informed ctx svc.shelf) (d : String) (files : List String) :
    Informed ctx (files.foldl (deleteFile ctx d) svc).shelf ∧
      (files.foldl (deleteFile ctx d) svc).shelf.listings = svc.shelf.listings := by
  induction files generalizing svc with
  | nil => exact ⟨h, rfl⟩
  | cons file files ih =>
    obtain ⟨hinf, hlist⟩ := deleteFile_informed laws h d file
    obtain ⟨hinf', hlist'⟩ := ih hinf
    exact ⟨hinf', by rw [List.foldl_cons, hlist', hlist]⟩

theorem delete_lists (h : Informed ctx svc.shelf) (d : String) (files : List String) :
    Lists ctx svc ((files.foldl (deleteFile ctx d) svc).reportPresentFiles ctx d) := by
  obtain ⟨hinf, hlist⟩ := foldl_deleteFile_informed laws h d files
  obtain ⟨hinf', new, hnew, hacc⟩ := reportPresentFiles_lists laws hinf d
  exact ⟨hinf', new, by rw [hnew, hlist], hacc⟩

theorem placeFile_informed (h : Informed ctx svc.shelf) {s : FileTransferSession} {bytes : Bytes}
    (hknown : svc.shelf.StoresKnown ctx same s bytes) :
    Informed ctx (svc.placeFile ctx s bytes).2.shelf ∧
      (svc.placeFile ctx s bytes).2.shelf.listings = svc.shelf.listings := by
  refine ⟨?_, by simp [placeFile, shelf, List.filterMap_append, Effect.listing]⟩
  intro d file info bytes' hinfo hread
  by_cases hsame : same (svc.shelf.readyDisk ctx s.deviceKey)
      (svc.shelf.pathOf ctx s.deviceKey s.name) (svc.shelf.pathOf ctx d file)
  · obtain ⟨hsuccess, hdescribes⟩ := hknown d file info hinfo hsame
    have hwritten := laws.created _ _ _ _ hsuccess hsame
    have : some bytes = some bytes' := hwritten.symm.trans hread
    cases this
    exact hdescribes
  · have hkept := laws.kept _ _ bytes _ hsame
    refine h d file info bytes' hinfo ?_
    have hold : ctx.fs.readBinaryFileContent (svc.shelf.readyDisk ctx s.deviceKey)
        (svc.shelf.pathOf ctx d file) = some bytes' := hkept.symm.trans hread
    unfold FileShelf.readyDisk at hold
    split_ifs at hold
    · exact hold
    · rwa [laws.folder] at hold

def nextStored (svc : FileManagementService δ φ) : Option FileTransferSession :=
  match svc.commandBuffer with
  | .sessionStatus p a :: _ => if a.status = .fileReady then svc.session? p.deviceKey else none
  | _ => none

omit laws in
theorem nextStored_of_storing {p : SessionPtr} {a : Announcement} {rest : List Command}
    {s : FileTransferSession} (hbuffer : svc.commandBuffer = .sessionStatus p a :: rest)
    (hstoring : svc.storing = some s) (hs : svc.session? p.deviceKey = some s) :
    s ∈ svc.nextStored := by
  simp only [storing, hbuffer] at hstoring
  simp only [nextStored, hbuffer]
  split_ifs at hstoring ⊢
  exact hs

theorem ran_lists (h : Informed ctx svc.shelf)
    (hknown : ∀ s ∈ svc.nextStored, ∀ bytes, svc.collectBytes ctx s = .ok bytes →
      svc.shelf.StoresKnown ctx same s bytes)
    (hran : Ran ctx svc svc') : Lists ctx svc svc' := by
  cases hran with
  | idle _ heq => exact .of_eq h (by rw [heq])
  | notice _ hc he _ heq => exact .of_eq h (heq ▸ shelf_notice hc he)
  | quiet _ _ _ hquiet => exact .of_eq h hquiet.shelf
  | @stored p a rest s svc1 bytes hbuffer hstoring hs hbytes hquiet hplaced =>
    have hbefore : svc1.shelf = svc.shelf := hquiet.shelf
    have hknown := hknown s (nextStored_of_storing hbuffer hstoring hs) bytes hbytes
    obtain ⟨hinf, hlist⟩ := placeFile_informed laws (hbefore ▸ h) (hbefore ▸ hknown)
    have hafter : svc'.shelf = (svc1.placeFile ctx s bytes).2.shelf :=
      hplaced.shelf.trans (shelf_placed ctx svc1 s p.deviceKey bytes)
    exact ⟨hafter ▸ hinf, [], by rw [hafter, hlist, hbefore, List.append_nil], by simp⟩

end FileManagementService

namespace System

open FileManagementService (Lists)
open FileShelf (Informed Accurate)

variable {δ μ φ : Type} {ctx : Context δ μ φ} {same : φ → String → String → Prop}
  {sys sys' : System δ φ} {e : Event μ}

def KeepsInformation (ctx : Context δ μ φ) (same : φ → String → String → Prop) (sys : System δ φ) :
    Event μ → Prop
  | .runCommand => ∀ s ∈ sys.svc.nextStored, ∀ bytes, sys.svc.collectBytes ctx s = .ok bytes →
      sys.svc.shelf.StoresKnown ctx same s bytes
  | _ => True

theorem step_lists (laws : FileSystemLaws ctx.fs same) (h : Informed ctx sys.svc.shelf)
    (hkeep : sys.KeepsInformation ctx same e) (hstep : sys.step ctx e = .ok sys') :
    Lists ctx sys.svc sys'.svc := by
  cases step_files hstep with
  | quiet _ hquiet => exact .of_eq h hquiet.shelf
  | waiting _ heq => exact .of_eq h (by rw [heq])
  | list _ heq =>
    rw [heq]
    exact FileManagementService.reportPresentFiles_lists laws h _
  | delete _ heq =>
    rw [heq]
    exact FileManagementService.delete_lists laws h _ _
  | purge _ heq =>
    rw [heq]
    exact FileManagementService.delete_lists laws h _ _
  | ran hran => exact FileManagementService.ran_lists laws h hkeep hran

/-- **The published list is accurate.** In a run that stores no file that outdates `m_files`, every
list that a step publishes is accurate for the disk that the step leaves behind. -/
theorem published_lists_accurate (laws : FileSystemLaws ctx.fs same) (config : Configuration)
    (x : Option δ) (disk : φ) {es : List (Event μ)}
    (h : Machine.Run (step ctx) (KeepsInformation ctx same) (create config x disk) es sys)
    (hkeep : sys.KeepsInformation ctx same e) (hstep : sys.step ctx e = .ok sys') :
    ∃ new, sys'.svc.shelf.listings = sys.svc.shelf.listings ++ new ∧
      ∀ d files, (d, files) ∈ new → Accurate ctx sys'.svc.shelf d files := by
  have hinit : Informed ctx (create config x disk : System δ φ).svc.shelf := by
    intro d file info bytes hinfo
    cases hinfo
  have hinf := h.invariant (fun sys => Informed ctx sys.svc.shelf) hinit
    fun s e t hs hok hstep => (step_lists laws hs hok hstep).informed
  exact (step_lists laws hinf hkeep hstep).listings

/-- As long as `m_files` is empty, nothing can be outdated. -/
theorem keepsInformation_of_empty (h : sys.svc.files.entries = []) :
    sys.KeepsInformation ctx same e := by
  have hnone : ∀ d file, sys.svc.shelf.information? d file = none := by
    intro d file
    have hfind : sys.svc.shelf.files.find? d = none := by
      simp [FileManagementService.shelf, OrderedMap.find?, h, OrderedMap.lookup]
    simp [FileShelf.information?, hfind]
  cases e with
  | runCommand =>
    intro s _ bytes _ d file info hinfo
    rw [hnone] at hinfo
    cases hinfo
  | _ => trivial

/-- The lists before and after a list request, and the content of the file "f" of "d". -/
structure Requested where
  before : List (String × List FileInformation)
  after : List (String × List FileInformation)
  content : Option Bytes
  deriving DecidableEq

def requested (sys : System Empty PathDisk) : Option Requested :=
  match sys.step uploadContext .listRequest with
  | .ok sys' => some ⟨sys.svc.shelf.listings, sys'.svc.shelf.listings,
      sys'.svc.shelf.contentOf uploadContext "d" "f"⟩
  | .error _ => none

theorem requested_eq_some {sys : System Empty PathDisk}
    {before after : List (String × List FileInformation)} {bytes : Option Bytes}
    (h : sys.requested = some ⟨before, after, bytes⟩) :
    ∃ sys', sys.step uploadContext .listRequest = .ok sys' ∧
      sys.svc.shelf.listings = before ∧ sys'.svc.shelf.listings = after ∧
      sys'.svc.shelf.contentOf uploadContext "d" "f" = bytes := by
  unfold requested at h
  split at h
  · rename_i sys' hstep
    cases h
    exact ⟨sys', hstep, rfl, rfl, rfl⟩
  · cases h

theorem published_lists_accurate_a : ∃ sys sys' : System Empty PathDisk,
    sys.step uploadContext .listRequest = .ok sys' ∧
    (∃ new, sys'.svc.shelf.listings = sys.svc.shelf.listings ++ new ∧
      ∀ d files, (d, files) ∈ new → Accurate uploadContext sys'.svc.shelf d files) ∧
    sys'.svc.shelf.listings = [("d", [⟨"f", 1, hexStream (sha256Table [97])⟩])] := by
  obtain ⟨sys, hrun, hreq⟩ := Machine.Run.exists_of_check (step uploadContext)
    (fun sys _ => sys.svc.files.entries = []) uploadSystem
    [Event.initA, .chunkA, .runCommand, .runCommand, .runCommand] requested
    (some ⟨[], [("d", [⟨"f", 1, hexStream (sha256Table [97])⟩])], some [97]⟩)
    (by decide +kernel)
  obtain ⟨sys', hstep, -, hlist, -⟩ := requested_eq_some hreq
  have hrun' : Machine.Run (step uploadContext) (KeepsInformation uploadContext fun _ p q => p = q)
      uploadSystem _ sys := hrun.mono fun _ _ => keepsInformation_of_empty
  have hlast : sys.KeepsInformation uploadContext (fun _ p q => p = q) (.listRequest (μ := Empty)) := by
    trivial
  exact ⟨sys, sys', hstep,
    published_lists_accurate pathFileSystem_laws _ _ _ hrun' hlast hstep, hlist⟩

end System

/-- A message about uploads or files of a device, or a queued command. -/
def Event.isFileTraffic {μ : Type} : Event μ → Bool
  | .receive _ (.fileUploadInit _) _ => true
  | .receive _ (.fileBinaryResponse _) _ => true
  | .receive _ (.fileDelete _) _ => true
  | .receive _ .filePurge _ => true
  | .receive _ .fileListRequest _ => true
  | .runCommand => true
  | _ => false

namespace System

open FileShelf (Accurate)

/-- The byte "a" is uploaded and listed, then "b" under the same name. The second list still has
the size and the hash of "a". -/
theorem second_upload_listed_as_first : ∃ sys sys' : System Empty PathDisk,
    Machine.Run (step uploadContext) (fun _ e => e.isFileTraffic = true) uploadSystem
      [Event.initA, .chunkA, .runCommand, .runCommand, .runCommand, .listRequest,
        .initB, .chunkB, .runCommand, .runCommand, .runCommand, .runCommand] sys ∧
    sys.step uploadContext .listRequest = .ok sys' ∧
    ¬ ∃ new, sys'.svc.shelf.listings = sys.svc.shelf.listings ++ new ∧
      ∀ d files, (d, files) ∈ new → Accurate uploadContext sys'.svc.shelf d files := by
  obtain ⟨sys, hrun, hreq⟩ := Machine.Run.exists_of_check (step uploadContext)
    (fun _ e => e.isFileTraffic = true) uploadSystem
    [Event.initA, .chunkA, .runCommand, .runCommand, .runCommand, .listRequest,
      .initB, .chunkB, .runCommand, .runCommand, .runCommand, .runCommand] requested
    (some ⟨[("d", [⟨"f", 1, hexStream (sha256Table [97])⟩])],
      [("d", [⟨"f", 1, hexStream (sha256Table [97])⟩]),
        ("d", [⟨"f", 1, hexStream (sha256Table [97])⟩])], some [98]⟩) (by decide +kernel)
  obtain ⟨sys', hstep, hbefore, hafter, hcontent⟩ := requested_eq_some hreq
  refine ⟨sys, sys', hrun, hstep, ?_⟩
  rintro ⟨new, hnew, hacc⟩
  rw [hbefore, hafter] at hnew
  have hmem : ("d", [⟨"f", 1, hexStream (sha256Table [97])⟩]) ∈ new := by
    simp only [List.cons_append, List.nil_append, List.cons.injEq, true_and] at hnew
    rw [← hnew]
    exact List.mem_singleton_self _
  have hcorrect := (hacc _ _ hmem).correct _ (List.mem_singleton_self _) [98] hcontent
  revert hcorrect
  decide

end System

end WolkConnect
