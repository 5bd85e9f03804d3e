import WolkConnect.Service.System

/-!
# Reconciliation of the file registry

The loop over the folder extends the pruned registry by every file that can be read. What
it leaves behind has a closed form, so a second call finds nothing to do.
-/

namespace WolkConnect

namespace FileManagementService

variable {δ μ φ : Type} (ctx : Context δ μ φ) (svc : FileManagementService δ φ) (d : String)

def folderContent : List String := ctx.fs.listFiles svc.disk (svc.deviceFolder ctx d)

/-- The information about a file that can be read. -/
def freshInformation (file : String) : Option FileInformation :=
  (ctx.fs.readBinaryFileContent svc.disk (svc.pathOf ctx d file)).map (informationOf ctx file)

/-- What the registry has to have for a file in the folder. -/
def entryFor (file : String) : Option FileInformation :=
  ((svc.deviceFiles d).find? file).or (svc.freshInformation ctx d file)

/-- The registry of the device without the files that are gone. -/
def pruned : DeviceFiles := pruneRegistry (svc.deviceFiles d) (svc.folderContent ctx d)

/-- What a list says about the files that it is about. -/
def listed (entry : String → Option FileInformation) (files : List String) : List FileInformation :=
  files.filterMap fun file => (entry file).map fun info => ⟨file, info.size, info.hash⟩

/-- The files that were not known and can be read. -/
def discovered (registry : DeviceFiles) (files : List String) : List String :=
  files.filter fun file =>
    (registry.find? file).isNone && (svc.freshInformation ctx d file).isSome

def addedCommands (files : List String) : List Command :=
  if svc.config.fileListener then
    files.map fun file => .onAddedFile d file (svc.absolutePathOfFile ctx d file)
  else []

variable {ctx svc d}

theorem names_listed (entry : String → Option FileInformation) (files : List String) :
    (listed entry files).map FileInformation.name = files.filter fun file => (entry file).isSome := by
  induction files with
  | nil => rfl
  | cons file files ih =>
    cases h : entry file with
    | none => simpa [listed, h] using ih
    | some info => simpa [listed, h] using ih

theorem listed_congr {entry entry' : String → Option FileInformation} {files : List String}
    (h : ∀ file ∈ files, entry file = entry' file) : listed entry files = listed entry' files :=
  List.filterMap_congr fun file hfile => by rw [h file hfile]

theorem find?_pruneRegistry (registry : DeviceFiles) (files : List String) (file : String) :
    (pruneRegistry registry files).find? file = if file ∈ files then registry.find? file else none := by
  rw [pruneRegistry, OrderedMap.find?_foldl_erase]
  by_cases hfile : file ∈ files
  · simp [hfile]
  · cases hfind : registry.find? file with
    | none => simp
    | some info =>
      have hkey : file ∈ registry.keys := OrderedMap.mem_keys.mpr (by rw [hfind]; rfl)
      simp [hfile, hkey]

/-! ## The loop over the folder -/

/-- What the loop has done after the files in `seen`, when it started with this registry. -/
structure Reconciling (ctx : Context δ μ φ) (d : String) (svc : FileManagementService δ φ)
    (registry : DeviceFiles) (seen : List String)
    (acc : FileManagementService δ φ × List FileInformation) : Prop where
  config : acc.1.config = svc.config
  disk : acc.1.disk = svc.disk
  log : acc.1.log = svc.log
  others : ∀ d', d' ≠ d → acc.1.files.find? d' = svc.files.find? d'
  entries : ∀ file, (acc.1.deviceFiles d).find? file =
    (registry.find? file).or (if file ∈ seen then svc.freshInformation ctx d file else none)
  vector : acc.2 = listed (fun file => (registry.find? file).or (svc.freshInformation ctx d file)) seen
  buffer : acc.1.commandBuffer =
    svc.commandBuffer ++ svc.addedCommands ctx d (svc.discovered ctx d registry seen)

theorem listed_append (entry : String → Option FileInformation) (files files' : List String) :
    listed entry (files ++ files') = listed entry files ++ listed entry files' :=
  List.filterMap_append

theorem addedCommands_append (files files' : List String) :
    svc.addedCommands ctx d (files ++ files') =
      svc.addedCommands ctx d files ++ svc.addedCommands ctx d files' := by
  unfold addedCommands
  split_ifs
  · rw [List.map_append]
  · rfl

theorem discovered_append (registry : DeviceFiles) (files files' : List String) :
    svc.discovered ctx d registry (files ++ files') =
      svc.discovered ctx d registry files ++ svc.discovered ctx d registry files' :=
  List.filter_append _ _

/-- A file that the registry has is listed from there, and a file that cannot be read is left out. -/
theorem Reconciling.skip {registry : DeviceFiles} {seen : List String}
    {acc : FileManagementService δ φ × List FileInformation} {file : String}
    (h : Reconciling ctx d svc registry seen acc)
    (hentry : registry.find? file = none → svc.freshInformation ctx d file = none) :
    Reconciling ctx d svc registry (seen ++ [file])
      (acc.1, acc.2 ++ listed (fun _ => registry.find? file) [file]) where
  config := h.config
  disk := h.disk
  log := h.log
  others := h.others
  entries f := by
    rw [h.entries f]
    by_cases hf : f = file
    · subst hf
      cases hreg : registry.find? f with
      | none => simp [hentry hreg]
      | some info => rfl
    · simp [hf]
  vector := by
    have hlisted : listed (fun _ => registry.find? file) [file] =
        listed (fun f => (registry.find? f).or (svc.freshInformation ctx d f)) [file] := by
      refine listed_congr fun f hf => ?_
      rw [List.mem_singleton.mp hf]
      cases hreg : registry.find? file with
      | none => rw [hentry hreg]; rfl
      | some info => rfl
    rw [listed_append, ← h.vector, hlisted]
  buffer := by
    have hnone : svc.discovered ctx d registry [file] = [] := by
      cases hreg : registry.find? file with
      | none => simp [discovered, hentry hreg]
      | some info => simp [discovered, hreg]
    rw [discovered_append, hnone, List.append_nil]
    exact h.buffer

/-- A file that is new and can be read enters the registry and the list. -/
theorem Reconciling.add {registry : DeviceFiles} {seen : List String}
    {acc : FileManagementService δ φ × List FileInformation} {file : String} {info : FileInformation}
    (h : Reconciling ctx d svc registry seen acc) (hseen : file ∉ seen)
    (hreg : registry.find? file = none) (hfresh : svc.freshInformation ctx d file = some info) :
    Reconciling ctx d svc registry (seen ++ [file])
      (({ acc.1 with files := acc.1.files.insert d ((acc.1.deviceFiles d).emplace file info) }
          : FileManagementService δ φ).notifyListenerAddedFile d file
            (svc.absolutePathOfFile ctx d file),
        acc.2 ++ [⟨file, info.size, info.hash⟩]) := by
  have hfind : (acc.1.deviceFiles d).find? file = none := by
    rw [h.entries, hreg, if_neg hseen]
    rfl
  refine ⟨?_, ?_, ?_, fun d' hd => ?_, fun f => ?_, ?_, ?_⟩
  · unfold notifyListenerAddedFile; split_ifs <;> exact h.config
  · unfold notifyListenerAddedFile; split_ifs <;> exact h.disk
  · unfold notifyListenerAddedFile; split_ifs <;> exact h.log
  · rw [← h.others d' hd, ← OrderedMap.find?_insert_ne acc.1.files _ (Ne.symm hd)]
    unfold notifyListenerAddedFile
    split_ifs <;> rfl
  · have hfiles : ∀ svc : FileManagementService δ φ, ∀ path,
        (svc.notifyListenerAddedFile d file path).deviceFiles d = svc.deviceFiles d := by
      intro svc path
      unfold notifyListenerAddedFile
      split_ifs <;> rfl
    rw [hfiles, deviceFiles, OrderedMap.find?_insert_self, Option.getD_some,
      OrderedMap.find?_emplace_of_none _ _ hfind, h.entries]
    by_cases hf : f = file
    · subst hf
      simp [hreg, hfresh]
    · simp [hf, Ne.symm hf]
  · rw [listed_append, ← h.vector]
    simp [listed, hreg, hfresh]
  · have hnew : svc.discovered ctx d registry [file] = [file] := by
      simp [discovered, hreg, hfresh]
    rw [discovered_append, hnew, addedCommands_append, ← List.append_assoc, ← h.buffer]
    simp only [notifyListenerAddedFile, h.config, addedCommands, pushCommand, List.map_cons,
      List.map_nil]
    split_ifs
    · rfl
    · exact (List.append_nil _).symm

theorem Reconciling.step {registry : DeviceFiles} {seen : List String}
    {acc : FileManagementService δ φ × List FileInformation} {file : String} (hname : file ≠ "")
    (hseen : file ∉ seen) (h : Reconciling ctx d svc registry seen acc) :
    Reconciling ctx d svc registry (seen ++ [file]) (reportFile ctx d acc file) := by
  obtain ⟨svc', vector⟩ := acc
  have hdisk : svc'.disk = svc.disk := h.disk
  have hconfig : svc'.config = svc.config := h.config
  have hpath : svc'.pathOf ctx d file = svc.pathOf ctx d file := by
    rw [pathOf, deviceFolder, hconfig, pathOf, deviceFolder]
  have hentry := h.entries file
  rw [if_neg hseen, Option.or_none] at hentry
  simp only [reportFile]
  cases hreg : registry.find? file with
  | some info =>
    rw [hreg] at hentry
    rw [hentry]
    have hskip : Reconciling ctx d svc registry (seen ++ [file]) _ := h.skip (by simp [hreg])
    simpa [hreg, listed] using hskip
  | none =>
    rw [hreg] at hentry
    rw [hentry]
    dsimp only
    cases hread : ctx.fs.readBinaryFileContent svc.disk (svc.pathOf ctx d file) with
    | none =>
      have hfailed : (svc'.obtainFileInformation ctx d file).name = "" := by
        rw [obtainFileInformation, hdisk, hpath, hread]
      have hskip : Reconciling ctx d svc registry (seen ++ [file]) _ :=
        h.skip fun _ => by rw [freshInformation, hread]; rfl
      rw [if_pos hfailed]
      simpa [hreg, listed] using hskip
    | some content =>
      have hobtained : svc'.obtainFileInformation ctx d file = informationOf ctx file content := by
        rw [obtainFileInformation, hdisk, hpath, hread]
      have habsolute : ctx.fs.absolutePath svc'.disk (svc'.pathOf ctx d file) =
          svc.absolutePathOfFile ctx d file := by
        rw [hdisk, hpath, absolutePathOfFile]
      have hfresh : svc.freshInformation ctx d file = some (informationOf ctx file content) := by
        rw [freshInformation, hread]
        rfl
      have hadd := h.add hseen hreg hfresh
      rw [hobtained, if_neg (by simpa [informationOf] using hname)]
      rw [← habsolute] at hadd
      exact hadd

theorem Reconciling.foldl {registry : DeviceFiles} {files : List String} (hnames : "" ∉ files)
    {seen : List String} (honce : (seen ++ files).Nodup)
    {acc : FileManagementService δ φ × List FileInformation}
    (h : Reconciling ctx d svc registry seen acc) :
    Reconciling ctx d svc registry (seen ++ files) (files.foldl (reportFile ctx d) acc) := by
  induction files generalizing seen acc with
  | nil => simpa using h
  | cons file files ih =>
    rw [List.mem_cons, not_or] at hnames
    have hseen : file ∉ seen := fun hmem =>
      (List.nodup_append.mp honce).2.2 file hmem file List.mem_cons_self rfl
    rw [List.append_cons] at honce ⊢
    exact ih hnames.2 honce (h.step (Ne.symm hnames.1) hseen)

/-! ## A whole report -/

theorem reconciling_start : Reconciling ctx d svc (svc.pruned ctx d) []
    ({ svc with files := svc.files.insert d (svc.pruned ctx d) }, []) where
  config := rfl
  disk := rfl
  log := rfl
  others _ hd := OrderedMap.find?_insert_ne _ _ (Ne.symm hd)
  entries file := by simp [deviceFiles]
  vector := rfl
  buffer := by simp [discovered, addedCommands]

/-- The service after a report of the files in a folder that is there. -/
structure Reported (ctx : Context δ μ φ) (d : String) (svc svc' : FileManagementService δ φ) : Prop where
  config : svc'.config = svc.config
  disk : svc'.disk = svc.disk
  log : svc'.log = (svc.publish ctx d
    (.fileListResponse (listed (svc.entryFor ctx d) (svc.folderContent ctx d))) none).log
  others : ∀ d', d' ≠ d → svc'.files.find? d' = svc.files.find? d'
  entries : ∀ file, (svc'.deviceFiles d).find? file =
    if file ∈ svc.folderContent ctx d then svc.entryFor ctx d file else none
  buffer : svc'.commandBuffer = svc.commandBuffer ++ svc.addedCommands ctx d
    (svc.discovered ctx d (svc.deviceFiles d) (svc.folderContent ctx d))

theorem publish_reported {svc₁ : FileManagementService δ φ} {message : Outbound}
    (hconfig : svc₁.config = svc.config) (hdisk : svc₁.disk = svc.disk) (hlog : svc₁.log = svc.log)
    (hmessage : message =
      .fileListResponse (listed (svc.entryFor ctx d) (svc.folderContent ctx d)))
    (hothers : ∀ d', d' ≠ d → svc₁.files.find? d' = svc.files.find? d')
    (hentries : ∀ file, (svc₁.deviceFiles d).find? file =
      if file ∈ svc.folderContent ctx d then svc.entryFor ctx d file else none)
    (hbuffer : svc₁.commandBuffer = svc.commandBuffer ++ svc.addedCommands ctx d
      (svc.discovered ctx d (svc.deviceFiles d) (svc.folderContent ctx d))) :
    Reported ctx d svc (svc₁.publish ctx d message none) := by
  subst hmessage
  unfold publish
  split_ifs with hmake
  · refine ⟨hconfig, hdisk, ?_, hothers, hentries, hbuffer⟩
    rw [publish, if_pos hmake, hlog]
  · refine ⟨hconfig, hdisk, ?_, hothers, hentries, hbuffer⟩
    rw [publish, if_neg hmake, hlog]

theorem reportPresentFiles_reconciling
    (hpresent : ctx.fs.isDirectoryPresent svc.disk (svc.deviceFolder ctx d) = true)
    (hnames : "" ∉ svc.folderContent ctx d) (honce : (svc.folderContent ctx d).Nodup) :
    ∃ acc : FileManagementService δ φ × List FileInformation,
      svc.reportPresentFiles ctx d = acc.1.publish ctx d (.fileListResponse acc.2) none ∧
      Reconciling ctx d svc (svc.pruned ctx d) (svc.folderContent ctx d) acc := by
  refine ⟨(svc.folderContent ctx d).foldl (reportFile ctx d)
    ({ svc with files := svc.files.insert d (svc.pruned ctx d) }, []), ?_, ?_⟩
  · unfold reportPresentFiles
    dsimp only
    rw [if_pos hpresent]
    rfl
  · have hloop : Reconciling ctx d svc (svc.pruned ctx d) ([] ++ svc.folderContent ctx d) _ :=
      reconciling_start.foldl hnames honce
    exact hloop

theorem reportPresentFiles_reported
    (hpresent : ctx.fs.isDirectoryPresent svc.disk (svc.deviceFolder ctx d) = true)
    (hnames : "" ∉ svc.folderContent ctx d) (honce : (svc.folderContent ctx d).Nodup) :
    Reported ctx d svc (svc.reportPresentFiles ctx d) := by
  have hkept : ∀ file ∈ svc.folderContent ctx d,
      (svc.pruned ctx d).find? file = (svc.deviceFiles d).find? file := by
    intro file hfile
    rw [pruned, find?_pruneRegistry, if_pos hfile]
  obtain ⟨acc, hreport, hloop⟩ := reportPresentFiles_reconciling hpresent hnames honce
  rw [hreport]
  refine publish_reported hloop.config hloop.disk hloop.log ?_ hloop.others (fun file => ?_) ?_
  · rw [hloop.vector]
    exact congrArg Outbound.fileListResponse
      (listed_congr fun file hfile => by rw [entryFor, hkept file hfile])
  · rw [hloop.entries, pruned, find?_pruneRegistry]
    split_ifs <;> rfl
  · have hfound : svc.discovered ctx d (svc.pruned ctx d) (svc.folderContent ctx d) =
        svc.discovered ctx d (svc.deviceFiles d) (svc.folderContent ctx d) :=
      List.filter_congr fun file hfile => by rw [hkept file hfile]
    rw [hloop.buffer, hfound]

/-- **Reconciliation.** `files` is what `reportPresentFiles` puts into the list of the device. -/
structure Reconciled (ctx : Context δ μ φ) (d : String) (svc svc' : FileManagementService δ φ)
    (files : List FileInformation) : Prop where
  published : svc'.log = svc.log ++
    if ctx.makeOutboundMessage d (.fileListResponse files) then
      [.published d (.fileListResponse files) none]
    else []
  names : files.map FileInformation.name = (svc.folderContent ctx d).filter fun file =>
    ((svc.deviceFiles d).find? file).isSome || (svc.freshInformation ctx d file).isSome
  once : (files.map FileInformation.name).Nodup
  keys : ∀ file, file ∈ (svc'.deviceFiles d).keys ↔ file ∈ files.map FileInformation.name
  informed : ∀ info ∈ files, ∃ known, (svc'.deviceFiles d).find? info.name = some known ∧
    info.size = known.size ∧ info.hash = known.hash
  notified : svc'.commandBuffer = svc.commandBuffer ++ svc.addedCommands ctx d
    ((files.map FileInformation.name).filter fun file => ((svc.deviceFiles d).find? file).isNone)
  others : ∀ d', d' ≠ d → svc'.files.find? d' = svc.files.find? d'

theorem Reported.reconciled {svc' : FileManagementService δ φ} (h : Reported ctx d svc svc')
    (honce : (svc.folderContent ctx d).Nodup) :
    Reconciled ctx d svc svc' (listed (svc.entryFor ctx d) (svc.folderContent ctx d)) := by
  have hsome : ∀ file, (svc.entryFor ctx d file).isSome =
      (((svc.deviceFiles d).find? file).isSome || (svc.freshInformation ctx d file).isSome) :=
    fun file => Option.isSome_or
  have hmem : ∀ file, file ∈ (listed (svc.entryFor ctx d) (svc.folderContent ctx d)).map
      FileInformation.name ↔ file ∈ svc.folderContent ctx d ∧ (svc.entryFor ctx d file).isSome := by
    intro file
    rw [names_listed, List.mem_filter]
  refine ⟨?_, ?_, ?_, fun file => ?_, fun info hinfo => ?_, ?_, h.others⟩
  · rw [h.log, publish]
    split_ifs
    · rfl
    · exact (List.append_nil _).symm
  · rw [names_listed]
    exact List.filter_congr fun file _ => hsome file
  · rw [names_listed]
    exact honce.filter _
  · rw [hmem, OrderedMap.mem_keys, h.entries]
    split_ifs with hfile <;> simp [hfile]
  · obtain ⟨file, hfile, hlisted⟩ := List.mem_filterMap.mp hinfo
    obtain ⟨known, hknown, rfl⟩ := Option.map_eq_some_iff.mp hlisted
    refine ⟨known, ?_, rfl, rfl⟩
    rw [h.entries, if_pos hfile, hknown]
  · rw [h.buffer, names_listed, List.filter_filter, discovered]
    congr 2
    refine List.filter_congr fun file _ => ?_
    rw [hsome]
    cases (svc.deviceFiles d).find? file <;> rfl

section Repeated

variable {svc' : FileManagementService δ φ} (h : Reported ctx d svc svc')
include h

theorem Reported.folder : svc'.deviceFolder ctx d = svc.deviceFolder ctx d := by
  rw [deviceFolder, h.config, deviceFolder]

theorem Reported.content : svc'.folderContent ctx d = svc.folderContent ctx d := by
  rw [folderContent, h.disk, h.folder, folderContent]

theorem Reported.fresh (file : String) :
    svc'.freshInformation ctx d file = svc.freshInformation ctx d file := by
  rw [freshInformation, h.disk, pathOf, h.folder, freshInformation, pathOf]

/-- Whatever a second look could find is in the registry already. -/
theorem Reported.entry {file : String} (hfile : file ∈ svc.folderContent ctx d) :
    svc'.entryFor ctx d file = svc.entryFor ctx d file := by
  rw [entryFor, h.entries, if_pos hfile, h.fresh, entryFor, Option.or_assoc, Option.or_self]

theorem Reported.listed_again : listed (svc'.entryFor ctx d) (svc'.folderContent ctx d) =
    listed (svc.entryFor ctx d) (svc.folderContent ctx d) := by
  rw [h.content]
  exact listed_congr fun file => h.entry

theorem Reported.discovered_again :
    svc'.discovered ctx d (svc'.deviceFiles d) (svc'.folderContent ctx d) = [] := by
  rw [h.content, discovered, List.filter_eq_nil_iff]
  intro file hfile
  rw [h.entries, if_pos hfile, h.fresh, entryFor]
  cases svc.freshInformation ctx d file <;> simp

end Repeated

/-- **Reconciliation of the file registry.** A second call comes to the same list, and queues
nothing. -/
theorem reportPresentFiles_reconciles
    (hpresent : ctx.fs.isDirectoryPresent svc.disk (svc.deviceFolder ctx d) = true)
    (hnames : "" ∉ svc.folderContent ctx d) (honce : (svc.folderContent ctx d).Nodup) :
    ∃ files, Reconciled ctx d svc (svc.reportPresentFiles ctx d) files ∧
      Reconciled ctx d (svc.reportPresentFiles ctx d)
        ((svc.reportPresentFiles ctx d).reportPresentFiles ctx d) files ∧
      ((svc.reportPresentFiles ctx d).reportPresentFiles ctx d).commandBuffer =
        (svc.reportPresentFiles ctx d).commandBuffer := by
  have hfirst := reportPresentFiles_reported hpresent hnames honce
  generalize svc.reportPresentFiles ctx d = svc' at hfirst ⊢
  have hcontent := hfirst.content
  have hsecond : Reported ctx d svc' (svc'.reportPresentFiles ctx d) := by
    apply reportPresentFiles_reported
    · rw [hfirst.disk, hfirst.folder]
      exact hpresent
    · rwa [hcontent]
    · rwa [hcontent]
  refine ⟨_, hfirst.reconciled honce, ?_, ?_⟩
  · rw [← hfirst.listed_again]
    exact hsecond.reconciled (hcontent ▸ honce)
  · rw [hsecond.buffer, hfirst.discovered_again]
    simp [addedCommands]

/-- The registry of "d" knows the file "a", which is gone, and "f", which is in the folder with "g". -/
def changedFolder : FileManagementService Empty PathDisk :=
  { FileManagementService.create openConfiguration none
      ⟨["files/d"], [("files/d/g", [98]), ("files/d/f", [97])]⟩ with
    files := OrderedMap.empty.insert "d"
      ((OrderedMap.empty.insert "a" ⟨"a", 7, ""⟩).insert "f" ⟨"f", 9, "old"⟩) }

theorem reportPresentFiles_reconciles_changed :
    (∃ files, Reconciled uploadContext "d" changedFolder
        (changedFolder.reportPresentFiles uploadContext "d") files ∧
      Reconciled uploadContext "d" (changedFolder.reportPresentFiles uploadContext "d")
        ((changedFolder.reportPresentFiles uploadContext "d").reportPresentFiles uploadContext "d")
        files ∧
      ((changedFolder.reportPresentFiles uploadContext "d").reportPresentFiles
        uploadContext "d").commandBuffer =
        (changedFolder.reportPresentFiles uploadContext "d").commandBuffer) ∧
    (changedFolder.reportPresentFiles uploadContext "d").log =
      [.published "d" (.fileListResponse [⟨"g", 1, hexStream (sha256Table [98])⟩, ⟨"f", 9, "old"⟩])
        none] ∧
    (changedFolder.reportPresentFiles uploadContext "d").commandBuffer =
      [.onAddedFile "d" "g" "/files/d/g"] :=
  ⟨reportPresentFiles_reconciles (by decide +kernel) (by decide +kernel) (by decide +kernel),
    by decide +kernel, by decide +kernel⟩

end FileManagementService

end WolkConnect
