import WolkConnect.Service.Quiet

/-!
# Paths of files

The names that come from the platform go into the paths unchecked, so a file is in
the folder of its device when its name keeps it there.
-/

namespace WolkConnect

/-- A name that stays in its folder. -/
def PlainName (name : String) : Prop := '/' ∉ name.toList ∧ name ≠ "." ∧ name ≠ ".."

instance (name : String) : Decidable (PlainName name) :=
  inferInstanceAs (Decidable (_ ∧ _ ∧ _))

/-- The path of an entry of the folder of a device. -/
def Inside (fileLocation deviceKey path : String) : Prop :=
  ∃ name, PlainName name ∧ path = fileLocation ++ "/" ++ deviceKey ++ "/" ++ name

theorem inside_iff {fileLocation deviceKey name : String} :
    Inside fileLocation deviceKey (fileLocation ++ "/" ++ deviceKey ++ "/" ++ name) ↔ PlainName name := by
  constructor
  · rintro ⟨name', hname, heq⟩
    rw [String.append_right_inj] at heq
    exact heq ▸ hname
  · intro h
    exact ⟨name, h, rfl⟩

theorem FileManagementService.storing_of_notice {δ φ : Type} {svc : FileManagementService δ φ}
    {command : Command} {rest : List Command} (hbuffer : svc.commandBuffer = command :: rest)
    (h : command.isNotice = true) : svc.storing = none := by
  unfold storing
  rw [hbuffer]
  cases command with
  | sessionStatus => cases h
  | resetSession => cases h
  | onAddedFile => rfl
  | onRemovedFile => rfl

namespace System

variable {δ μ φ : Type} (ctx : Context δ μ φ) (sys : System δ φ)

/-- The device that an event is about. -/
def target : Event μ → Option String
  | .receive d _ _ => some d
  | .runCommand => sys.svc.storing.map FileTransferSession.deviceKey
  | .report | .downloader _ => none

/-- The names of the files that an event writes or deletes. -/
def touches : Event μ → List String
  | .receive d m _ =>
    match sys.reporting, m with
    | none, .fileDelete message => message.files
    | none, .filePurge => ctx.fs.listFiles sys.svc.disk (sys.svc.deviceFolder ctx d)
    | _, _ => []
  | .runCommand => sys.svc.storing.toList.map FileTransferSession.name
  | .report | .downloader _ => []

def TouchesPlain (sys : System δ φ) (e : Event μ) : Prop := ∀ name ∈ sys.touches ctx e, PlainName name

instance (e : Event μ) : Decidable (sys.TouchesPlain ctx e) :=
  inferInstanceAs (Decidable (∀ name ∈ sys.touches ctx e, PlainName name))

/-- Whatever the step gives to the file system to write or delete is in the folder of its device. -/
def Confined (sys : System δ φ) (e : Event μ) (sys' : System δ φ) : Prop :=
  ∃ new, sys'.svc.paths = sys.svc.paths ++ new ∧ ∀ path ∈ new, ∃ d, sys.target e = some d ∧
    Inside sys.svc.config.fileLocation d path

variable {ctx} {sys} {sys' : System δ φ} {e : Event μ}

open FileManagementService (fixed_reportPresentFiles foldl_deleteFile_paths placed_paths)

theorem step_paths (h : sys.step ctx e = .ok sys') :
    ∃ d, (sys.touches ctx e ≠ [] → sys.target e = some d) ∧
      sys'.svc.paths = sys.svc.paths ++ (sys.touches ctx e).map (sys.svc.pathOf ctx d) := by
  cases step_files h with
  | quiet hquiet hstep =>
    have hnone : sys.touches ctx e = [] := by
      unfold touches
      split
      · split
        · cases hquiet
        · cases hquiet
        · rfl
      · cases hquiet
      · rfl
      · rfl
    refine ⟨"", by simp [hnone], ?_⟩
    rw [hnone, hstep.paths]
    exact (List.append_nil _).symm
  | @waiting d m past hbusy heq =>
    have hnone : sys.touches ctx (.receive d m past) = [] := by
      obtain ⟨key, hkey⟩ := Option.isSome_iff_exists.mp hbusy
      simp [touches, hkey]
    refine ⟨"", by simp [hnone], ?_⟩
    rw [hnone, heq]
    exact (List.append_nil _).symm
  | @list d past hidle heq =>
    have hnone : sys.touches ctx (.receive d .fileListRequest past) = [] := by
      simp [touches, hidle]
    refine ⟨"", by simp [hnone], ?_⟩
    rw [hnone, heq]
    exact (fixed_reportPresentFiles _ _ _).paths.trans (List.append_nil _).symm
  | @delete d m past hidle heq =>
    have hnames : sys.touches ctx (.receive d (.fileDelete m) past) = m.files := by
      simp [touches, hidle]
    refine ⟨d, fun _ => rfl, ?_⟩
    rw [hnames, heq]
    exact (fixed_reportPresentFiles _ _ _).paths.trans (foldl_deleteFile_paths _ _ _ _).2
  | @purge d past hidle heq =>
    have hnames : sys.touches ctx (.receive d .filePurge past) =
        ctx.fs.listFiles sys.svc.disk (sys.svc.deviceFolder ctx d) := by
      simp [touches, hidle]
    refine ⟨d, fun _ => rfl, ?_⟩
    rw [hnames, heq]
    exact (fixed_reportPresentFiles _ _ _).paths.trans (foldl_deleteFile_paths _ _ _ _).2
  | ran hran =>
    have hnone : sys.svc.storing = none → sys.touches ctx .runCommand = [] := by
      intro hstoring
      simp [touches, hstoring]
    cases hran with
    | idle hempty heq =>
      have hnone := hnone (by simp [FileManagementService.storing, hempty])
      refine ⟨"", by simp [hnone], ?_⟩
      rw [hnone, heq]
      exact (List.append_nil _).symm
    | @notice command rest effect hbuffer hcommand _ hpath heq =>
      have hnone := hnone (FileManagementService.storing_of_notice hbuffer hcommand)
      refine ⟨"", by simp [hnone], ?_⟩
      rw [hnone, heq]
      simp [FileManagementService.paths, List.filterMap_append, hpath]
    | quiet _ _ hstoring hstep =>
      refine ⟨"", by simp [hnone hstoring], ?_⟩
      rw [hnone hstoring]
      exact hstep.paths.trans (List.append_nil _).symm
    | @stored p a rest s svc1 bytes _ hstoring _ _ hbefore hafter =>
      refine ⟨s.deviceKey, fun _ => by simp [target, hstoring], ?_⟩
      have hname : sys.touches ctx .runCommand = [s.name] := by
        simp [touches, hstoring]
      have hsame : svc1.pathOf ctx s.deviceKey s.name = sys.svc.pathOf ctx s.deviceKey s.name :=
        FileManagementService.pathOf_config hbefore.config s.name
      have hplaced := (placed_paths ctx svc1 s p.deviceKey bytes).2
      have hpaths : svc1.paths = sys.svc.paths := hbefore.paths
      rw [hname, hafter.paths, hplaced, hpaths, hsame]
      rfl

/-- A step is confined exactly when the names that it touches are plain. -/
theorem confined_iff (hcompose : ∀ name dir, ctx.fs.composePath name dir = dir ++ "/" ++ name)
    (h : sys.step ctx e = .ok sys') : sys.Confined e sys' ↔ sys.TouchesPlain ctx e := by
  obtain ⟨d, htarget, hpaths⟩ := step_paths h
  have hpath : ∀ name, sys.svc.pathOf ctx d name =
      sys.svc.config.fileLocation ++ "/" ++ d ++ "/" ++ name := by
    intro name
    rw [FileManagementService.pathOf, FileManagementService.deviceFolder, hcompose, hcompose]
  constructor
  · rintro ⟨new, hnew, hinside⟩ name hname
    rw [hpaths, List.append_cancel_left_eq] at hnew
    have hmem : sys.svc.pathOf ctx d name ∈ new := hnew ▸ List.mem_map_of_mem hname
    obtain ⟨d', hd', hin⟩ := hinside _ hmem
    rw [htarget (List.ne_nil_of_mem hname)] at hd'
    cases hd'
    rw [hpath] at hin
    exact inside_iff.mp hin
  · intro hplain
    refine ⟨_, hpaths, fun path hpath' => ?_⟩
    obtain ⟨name, hname, rfl⟩ := List.mem_map.mp hpath'
    refine ⟨d, htarget (List.ne_nil_of_mem hname), ?_⟩
    rw [hpath]
    exact inside_iff.mpr (hplain name hname)

/-- **File access stays inside the device folder.** It does at every step of exactly the runs that
touch only files with plain names. -/
theorem access_confined_iff
    (hcompose : ∀ name dir, ctx.fs.composePath name dir = dir ++ "/" ++ name)
    (config : Configuration) (x : Option δ) (disk : φ) {es : List (Event μ)}
    (h : Machine.Run (step ctx) (fun _ _ => True) (create config x disk) es sys) :
    (∀ es₁ e es₂ s t, es = es₁ ++ e :: es₂ →
      Machine.Run (step ctx) (fun _ _ => True) (create config x disk) es₁ s →
      s.step ctx e = .ok t → s.Confined e t) ↔
    Machine.Run (step ctx) (TouchesPlain ctx) (create config x disk) es sys :=
  h.steps_iff Confined (fun _ => True) trivial (fun _ _ _ _ _ _ => trivial)
    fun _ _ _ _ _ hs => confined_iff hcompose hs

/-- A file with a plain name is uploaded, stored and deleted. -/
theorem access_confined_iff_f : ∃ sys : System Empty PathDisk,
    (∀ es₁ e es₂ s t, [Event.initA, .chunkA, .runCommand, .runCommand, .runCommand,
        .receive "d" (.fileDelete ⟨["f"]⟩) fun _ => 0] = es₁ ++ e :: es₂ →
      Machine.Run (step uploadContext) (fun _ _ => True) uploadSystem es₁ s →
      s.step uploadContext e = .ok t → s.Confined e t) ∧
    sys.svc.paths = ["files/d/f", "files/d/f"] := by
  obtain ⟨sys, hrun, hpaths⟩ := Machine.Run.exists_of_check (step uploadContext)
    (TouchesPlain uploadContext) uploadSystem
    [Event.initA, .chunkA, .runCommand, .runCommand, .runCommand,
      .receive "d" (.fileDelete ⟨["f"]⟩) fun _ => 0]
    (fun sys => sys.svc.paths) ["files/d/f", "files/d/f"] (by decide +kernel)
  exact ⟨sys, (access_confined_iff (fun _ _ => rfl) _ _ _ (hrun.mono fun _ _ _ => trivial)).mpr hrun,
    hpaths⟩

/-- The next event is handled, and touches a file whose name is not plain. -/
def leavesFolder (e : Event Empty) (sys : System Empty PathDisk) : Bool :=
  (sys.step uploadContext e).toOption.isSome && !decide (sys.TouchesPlain uploadContext e)

theorem not_confined_of_check {es : List (Event Empty)} {e : Event Empty}
    (h : (Machine.check (step uploadContext) (fun _ _ => True) uploadSystem es).map (leavesFolder e) =
      some true) :
    ∃ sys sys', Machine.Run (step uploadContext) (fun _ _ => True) uploadSystem es sys ∧
      sys.step uploadContext e = .ok sys' ∧ ¬ sys.Confined e sys' := by
  obtain ⟨sys, hrun, hleaves⟩ := Machine.Run.exists_of_check _ _ _ _ _ _ h
  rw [leavesFolder, Bool.and_eq_true, Bool.not_eq_true', decide_eq_false_iff_not] at hleaves
  obtain ⟨hdefined, hplain⟩ := hleaves
  cases hstep : sys.step uploadContext e with
  | error fault =>
    rw [hstep] at hdefined
    cases hdefined
  | ok sys' =>
    exact ⟨sys, sys', hrun, hstep, fun h => hplain ((confined_iff (fun _ _ => rfl) hstep).mp h)⟩

/-- A message for "d" deletes a file of "e", and the file of an upload for "d" is stored next to the
folders of the devices. -/
theorem names_leave_folder :
    (∃ sys sys', Machine.Run (step uploadContext) (fun _ _ => True) uploadSystem [] sys ∧
      sys.step uploadContext (.receive "d" (.fileDelete ⟨["../e/f"]⟩) fun _ => 0) = .ok sys' ∧
      ¬ sys.Confined (.receive (μ := Empty) "d" (.fileDelete ⟨["../e/f"]⟩) fun _ => 0) sys') ∧
    ∃ sys sys', Machine.Run (step uploadContext) (fun _ _ => True) uploadSystem
        [.receive "d" (.fileUploadInit ⟨"../f", 1, "0cc175b9c0f1b6a831c399e269772661"⟩) fun _ => 0,
          .chunkA] sys ∧
      sys.step uploadContext .runCommand = .ok sys' ∧
      ¬ sys.Confined (.runCommand (μ := Empty)) sys' :=
  ⟨not_confined_of_check (by decide +kernel), not_confined_of_check (by decide +kernel)⟩

end System

end WolkConnect
