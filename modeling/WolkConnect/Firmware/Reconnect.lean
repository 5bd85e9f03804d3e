import WolkConnect.Firmware.Statuses

/-!
# Installations that are running

What is recorded of an installation from the time at which the installer says that it
will install, until there is an abort or the process ends.
-/

namespace WolkConnect

/-- The records of a running installation, and no report that it is over: there is none in the queue,
and none was published since `start`. -/
structure FirmwareUpdateService.Installing (svc : FirmwareUpdateService) (d version : String)
    (start : Nat) : Prop where
  flag : svc.installation.find? d = some true
  file : svc.sessionFiles.find? d = some version
  queue : ∀ r ∈ svc.queue, r.ends d = false
  published : ∀ r ∈ svc.published.drop start, r.ends d = false
  start_le : start ≤ svc.published.length

namespace FirmwareUpdateService.Installing

variable {ctx : FirmwareContext} {svc : FirmwareUpdateService} {d version deviceKey : String}
  {start : Nat} {status : FirmwareUpdateStatus} {error : FirmwareUpdateError}

theorem ongoing (h : svc.Installing d version start) : svc.ongoing d = true := by
  unfold FirmwareUpdateService.ongoing
  rw [h.flag]
  rfl

theorem reports_ends (hother : deviceKey ≠ d ∨ status = .installing) :
    ∀ r ∈ reports ctx deviceKey status error, r.ends d = false := by
  intro r hr
  rw [mem_reports ctx deviceKey status error hr]
  unfold FirmwareReport.ends
  rcases hother with hkey | rfl
  · simp [hkey]
  · simp

theorem publish (h : svc.Installing d version start) {more : List FirmwareReport}
    (hmore : ∀ r ∈ more, r.ends d = false) :
    Installing { svc with published := svc.published ++ more } d version start where
  flag := h.flag
  file := h.file
  queue := h.queue
  published r hr := by
    rw [List.drop_append_of_le_length h.start_le] at hr
    rcases List.mem_append.mp hr with hold | hnew
    · exact h.published r hold
    · exact hmore r hnew
  start_le := by
    rw [List.length_append]
    exact Nat.le_add_right_of_le h.start_le

theorem sendStatusMessage (h : svc.Installing d version start)
    (hother : deviceKey ≠ d ∨ status = .installing) :
    (svc.sendStatusMessage ctx deviceKey status error).Installing d version start := by
  rw [sendStatusMessage_eq]
  exact h.publish (reports_ends hother)

theorem change {svc' : FirmwareUpdateService} (h : svc.Installing d version start)
    (hsame : SameRecords svc svc' d) (hqueue : svc'.queue = svc.queue)
    (hpublished : svc'.published = svc.published) : svc'.Installing d version start where
  flag := hsame.1.trans h.flag
  file := hsame.2.trans h.file
  queue := hqueue ▸ h.queue
  published := hpublished ▸ h.published
  start_le := hpublished ▸ h.start_le

theorem deleteSessionFile (h : svc.Installing d version start) (hother : deviceKey ≠ d) :
    (svc.deleteSessionFile ctx deviceKey).Installing d version start := by
  refine h.change (SameRecords.delete ⟨rfl, rfl⟩ hother) ?_ ?_ <;> rw [deleteSessionFile_eq]

theorem loadState (h : svc.Installing d version start) (hother : deviceKey ≠ d) :
    (svc.loadState ctx deviceKey).Installing d version start := by
  have hdelete : (svc.deleteSessionFile ctx deviceKey).Installing d version start :=
    h.deleteSessionFile hother
  rw [loadState_eq]
  refine ⟨hdelete.flag, hdelete.file, fun r hr => ?_, hdelete.published, hdelete.start_le⟩
  rcases List.mem_append.mp hr with hold | hnew
  · exact h.queue r hold
  · exact reports_ends (.inl hother) r hnew

theorem beginInstall (h : svc.Installing d version start) (hother : deviceKey ≠ d)
    (installer : FirmwareInstaller) :
    (svc.beginInstall ctx deviceKey installer).Installing d version start := by
  refine sendStatusMessage (h.change (SameRecords.store ⟨rfl, rfl⟩ hother _) ?_ ?_) (.inl hother) <;>
    unfold FirmwareUpdateService.storeSessionFile <;> split_ifs <;> rfl

theorem finishInstall (h : svc.Installing d version start) (hother : deviceKey ≠ d)
    (response : InstallResponse) :
    (svc.finishInstall ctx deviceKey response).Installing d version start := by
  have hflag : Installing { svc with installation := svc.installation.insert deviceKey true } d version
      start := h.change ⟨OrderedMap.find?_insert_ne _ _ hother, rfl⟩ rfl rfl
  cases response with
  | failedToInstall => exact (h.sendStatusMessage (.inl hother)).deleteSessionFile hother
  | noFile => exact (h.sendStatusMessage (.inl hother)).deleteSessionFile hother
  | willInstall => exact hflag.sendStatusMessage (.inl hother)
  | installed => exact (h.sendStatusMessage (.inl hother)).deleteSessionFile hother

theorem publishQueue (h : svc.Installing d version start) :
    svc.publishQueue.Installing d version start := by
  have hpublished := h.publish h.queue
  exact ⟨h.flag, h.file, fun r hr => absurd hr List.not_mem_nil, hpublished.published,
    hpublished.start_le⟩

theorem of_willInstall (hfile : svc.sessionFiles.find? d = some version)
    (hqueue : ∀ r ∈ svc.queue, r.ends d = false) :
    (svc.finishInstall ctx d .willInstall).Installing d version
      (svc.finishInstall ctx d .willInstall).published.length := by
  have hlength : ∀ l : List FirmwareReport, l.drop l.length = [] := fun l => List.drop_length
  unfold FirmwareUpdateService.finishInstall
  dsimp only
  rw [sendStatusMessage_eq]
  refine ⟨OrderedMap.find?_insert_self _ _ _, hfile, hqueue, fun r hr => ?_, Nat.le_refl _⟩
  rw [hlength] at hr
  cases hr

end FirmwareUpdateService.Installing

namespace FirmwareSystem

variable {sys sys' : FirmwareSystem} {e : FirmwareEvent}

/-- The records of all running installations are as they should be. -/
def KeepsInstalling (sys : FirmwareSystem) : Prop :=
  ∀ d version start, sys.running.find? d = some (version, start) →
    sys.svc.Installing d version start

/-- The state of a device with a running installation is not loaded. When an installer says that it
will install, the session file is there, and there is no report for the device in the queue. -/
def LeavesAlone (sys : FirmwareSystem) (e : FirmwareEvent) : Prop :=
  sys.Supplied e ∧
    match e with
    | .loadState _ deviceKey => sys.running.find? deviceKey = none
    | .respond _ response => response = .willInstall → ∀ h ∈ sys.handling,
        sys.svc.sessionFiles.find? h.1 = some h.2 ∧ ∀ r ∈ sys.svc.queue, r.ends h.1 = false
    | .install _ _ | .abort _ _ | .publishQueue | .restart => True

instance (sys : FirmwareSystem) : (e : FirmwareEvent) → Decidable (sys.LeavesAlone e)
  | .loadState _ _ => inferInstanceAs (Decidable (_ ∧ _ = none))
  | .respond _ _ => inferInstanceAs (Decidable (_ ∧ (_ → ∀ _ ∈ _, _ ∧ ∀ _ ∈ _, _)))
  | .install _ _ | .abort _ _ | .publishQueue | .restart => inferInstanceAs (Decidable (_ ∧ True))

/-- No message is being handled for a device with a running installation. -/
structure Installs (sys : FirmwareSystem) : Prop where
  keeps : sys.KeepsInstalling
  idle : ∀ h ∈ sys.handling, sys.running.find? h.1 = none

theorem Installs.install (h : sys.Installs) (ctx : FirmwareContext) (deviceKey : String) :
    (sys.install ctx deviceKey).Installs := by
  unfold FirmwareSystem.install
  cases hhandling : sys.handling with
  | some handling => exact h
  | none =>
    cases ctx.firmwareInstaller with
    | none => exact h
    | some installer =>
      by_cases hongoing : sys.svc.ongoing deviceKey = true
      · simp only [if_pos hongoing]
        exact h
      · simp only [if_neg hongoing]
        have hother : ∀ d version start, sys.running.find? d = some (version, start) →
            deviceKey ≠ d := by
          rintro d version start hrunning rfl
          exact hongoing (h.keeps _ _ _ hrunning).ongoing
        refine ⟨fun d version start hrunning => ?_, fun handled hhandled => ?_⟩
        · exact (h.keeps d version start hrunning).beginInstall (hother d version start hrunning) installer
        · cases hhandled
          dsimp only
          by_contra hsome
          obtain ⟨⟨version, start⟩, hrunning⟩ := Option.ne_none_iff_exists'.mp hsome
          exact hother deviceKey version start hrunning rfl

theorem Installs.respond (h : sys.Installs) (ctx : FirmwareContext) {response : InstallResponse}
    (hwill : response = .willInstall → ∀ h ∈ sys.handling,
      sys.svc.sessionFiles.find? h.1 = some h.2 ∧ ∀ r ∈ sys.svc.queue, r.ends h.1 = false) :
    (sys.respond ctx response).Installs := by
  unfold FirmwareSystem.respond
  cases hhandling : sys.handling with
  | none => exact h
  | some handling =>
    obtain ⟨deviceKey, version⟩ := handling
    refine ⟨fun d version' start hrunning => ?_, fun handled hhandled => (by cases hhandled)⟩
    have hidle := h.idle _ hhandling
    have hold : ∀ d version' start, sys.running.find? d = some (version', start) →
        (sys.svc.finishInstall ctx deviceKey response).Installing d version' start := by
      intro d version' start hrunning
      refine (h.keeps d version' start hrunning).finishInstall ?_ response
      rintro rfl
      rw [hidle] at hrunning
      cases hrunning
    dsimp only at hrunning ⊢
    split_ifs at hrunning with hresponse
    · rw [OrderedMap.find?_insert] at hrunning
      split_ifs at hrunning with hd
      · cases hrunning
        subst hd
        obtain ⟨hfile, hqueue⟩ := hwill hresponse _ hhandling
        subst hresponse
        exact .of_willInstall hfile hqueue
      · exact hold d version' start hrunning
    · exact hold d version' start hrunning

theorem Installs.step (h : sys.Installs) (hok : sys.LeavesAlone e) : (sys.step e).Installs := by
  cases e with
  | install ctx deviceKey => exact h.install ctx deviceKey
  | respond ctx response => exact h.respond ctx hok.2
  | abort ctx deviceKey =>
    change (sys.abort ctx deviceKey).Installs
    unfold FirmwareSystem.abort
    split_ifs
    · refine ⟨fun d version start hrunning => ?_, fun handled hhandled => ?_⟩
      · dsimp only at hrunning
        rw [OrderedMap.find?_erase] at hrunning
        split_ifs at hrunning
        exact h.keeps d version start hrunning
      · dsimp only
        rw [OrderedMap.find?_erase, h.idle handled hhandled]
        split_ifs <;> rfl
    · exact h
  | loadState ctx deviceKey =>
    refine ⟨fun d version start hrunning => (h.keeps d version start hrunning).loadState ?_, h.idle⟩
    rintro rfl
    have hnone : sys.running.find? deviceKey = none := hok.2
    change sys.running.find? deviceKey = _ at hrunning
    rw [hnone] at hrunning
    cases hrunning
  | publishQueue =>
    exact ⟨fun d version start hrunning => (h.keeps d version start hrunning).publishQueue, h.idle⟩
  | restart =>
    exact ⟨fun d version start hrunning => (by cases hrunning), fun handled hhandled => (by cases hhandled)⟩

/-- An installation that begins to run changes neither the session files nor the queue. -/
theorem respond_willInstall (ctx : FirmwareContext) {handled : String × String}
    (hhandling : sys.handling = some handled) :
    (sys.respond ctx .willInstall).running.find? handled.1 =
        some (handled.2, (sys.respond ctx .willInstall).svc.published.length) ∧
      (sys.respond ctx .willInstall).svc.sessionFiles = sys.svc.sessionFiles ∧
      (sys.respond ctx .willInstall).svc.queue = sys.svc.queue := by
  unfold respond FirmwareUpdateService.finishInstall
  rw [hhandling]
  dsimp only
  rw [FirmwareUpdateService.sendStatusMessage_eq]
  refine ⟨?_, rfl, rfl⟩
  rw [if_pos rfl, OrderedMap.find?_insert_self]

/-- A disturbance shows at once: in the session file, or in the queue. -/
theorem not_keeps_of_disturbance (hsupplied : sys.Supplied e) (hok : ¬ sys.LeavesAlone e) :
    ¬ (sys.step e).KeepsInstalling := by
  cases e with
  | loadState ctx deviceKey =>
    have hrunning : sys.running.find? deviceKey ≠ none := fun hnone => hok ⟨hsupplied, hnone⟩
    obtain ⟨⟨version, start⟩, hrunning⟩ := Option.ne_none_iff_exists'.mp hrunning
    intro hkeeps
    have hfile := (hkeeps deviceKey version start hrunning).file
    obtain ⟨n, -, -, hclosed⟩ := sys.svc.loadState_closes deviceKey (hsupplied.context rfl).2
    have hnone := (hclosed deviceKey).2
    change (sys.svc.loadState ctx deviceKey).sessionFiles.find? deviceKey = _ at hfile
    unfold FirmwareUpdateService.files at hnone
    rw [hfile, if_pos rfl] at hnone
    cases hnone
  | respond ctx response =>
    have hwill : ¬ (response = .willInstall → ∀ h ∈ sys.handling,
        sys.svc.sessionFiles.find? h.1 = some h.2 ∧ ∀ r ∈ sys.svc.queue, r.ends h.1 = false) :=
      fun hwill => hok ⟨hsupplied, hwill⟩
    intro hkeeps
    refine hwill fun hresponse handled hhandling => ?_
    subst hresponse
    obtain ⟨hrunning, hfiles, hqueue⟩ := respond_willInstall ctx hhandling
    have hinstalling := hkeeps _ _ _ hrunning
    exact ⟨hfiles ▸ hinstalling.file, hqueue ▸ hinstalling.queue⟩
  | install ctx deviceKey => exact absurd ⟨hsupplied, trivial⟩ hok
  | abort ctx deviceKey => exact absurd ⟨hsupplied, trivial⟩ hok
  | publishQueue => exact absurd ⟨hsupplied, trivial⟩ hok
  | restart => exact absurd ⟨hsupplied, trivial⟩ hok

theorem installs_create : create.Installs where
  keeps d version start h := by cases h
  idle handled h := by cases h

end FirmwareSystem

namespace FirmwareConnector

open FirmwareSystem

variable {type : WolkInterfaceType} {devices : List String} {es : List ConnectorEvent}
  {c : FirmwareConnector}

/-- **A reconnect does not end an installation.** In all states of a run of a connector with an
installer, whose file operations succeed, each installation that is running has its flag and its
session file, and no report that it is over has been queued or sent, if and only if no step disturbed
one. -/
theorem reconnect_keeps_installing
    (hrun : Machine.Run step (Meets Supplied) (create type devices) es c) :
    (∀ es₁ es₂ s, es = es₁ ++ es₂ → Machine.Run step (Meets Supplied) (create type devices) es₁ s →
        s.sys.KeepsInstalling) ↔
      Machine.Run step (Meets LeavesAlone) (create type devices) es c := by
  refine hrun.always_iff (fun s => s.sys.KeepsInstalling) (fun s => s.sys.Installs) installs_create
    (fun _ _ _ h hok hs => keeps (fun _ _ h hok => h.step hok) h hok hs) (fun _ h => h.keeps) ?_
  intro s e t _ hok hbreak hs
  obtain ⟨op, hop, hdisturbed, hsys⟩ := step_of_not_meets hbreak hs
  rw [hsys]
  exact not_keeps_of_disturbance (hok op hop) hdisturbed

/-! ## Runs -/

/-- `WolkSingle` connects, installs, and connects again. -/
theorem reconnect_keeps_installing_sample : ∃ c : FirmwareConnector, c.sys.KeepsInstalling ∧
    c.sys.running.entries = [("d", "1.0", 3)] := by
  obtain ⟨c, hrun, hrunning⟩ := Machine.Run.exists_of_check step (Meets LeavesAlone)
    (create .singleDevice ["d"])
    [.task .working, .connect, .task .working, .install .working "d",
      .respond .working .willInstall, .disconnect, .connect, .task .working]
    (fun c => c.sys.running.entries) [("d", "1.0", 3)] (by decide +kernel)
  have hsupplied : Machine.Run step (Meets Supplied) (create .singleDevice ["d"]) _ c :=
    hrun.mono fun _ _ hok op hop => (hok op hop).1
  have hall := (reconnect_keeps_installing hsupplied).mpr hrun
  exact ⟨c, hall _ [] c (List.append_nil _).symm hsupplied, hrunning⟩

/-- `WolkMulti` loads the state again when it reconnects, and reports the end of the installation. -/
theorem reconnect_ends_installation : ∃ c : FirmwareConnector,
    Machine.Run step (Meets Supplied) (create .multiDevice ["d"])
      [.task .working, .connect, .task .working, .task .working, .install .working "d",
        .respond .working .willInstall, .disconnect, .connect, .task .working] c ∧
      ¬ c.sys.KeepsInstalling := by
  obtain ⟨c, hrun, hc⟩ := Machine.Run.exists_of_check step (Meets Supplied)
    (create .multiDevice ["d"])
    [.task .working, .connect, .task .working, .task .working, .install .working "d",
      .respond .working .willInstall, .disconnect, .connect, .task .working]
    (fun c => (c.sys.running.find? "d", c.sys.svc.sessionFiles.find? "d")) (some ("1.0", 4), none)
    (by decide +kernel)
  obtain ⟨hrunning, hfile⟩ := Prod.mk.injEq .. ▸ hc
  refine ⟨c, hrun, fun hkeeps => ?_⟩
  have hinstalling := hkeeps "d" "1.0" 4 hrunning
  rw [hinstalling.file] at hfile
  cases hfile

end FirmwareConnector

end WolkConnect
