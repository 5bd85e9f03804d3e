import WolkConnect.Firmware.System
import Mathlib.Tactic.Push

/-!
# Installations that are aborted

Any run of the service, with what is asked of it after an abort: that it takes the next
request, and that it does not report on the aborted installation.
-/

namespace WolkConnect

def FirmwareReport.isOutcome (r : FirmwareReport) (deviceKey : String) : Bool :=
  decide (r.deviceKey = deviceKey) &&
    (decide (r.message = ⟨.success, .none⟩) || decide (r.message = ⟨.error, .installationFailed⟩))

/-- `aborted` has the devices whose installation was aborted while it was ongoing, as long as no
request for them has been accepted since. `inProcess` has those of them for which that was in this
process, and `left` those whose session file was there and still is. `refused` has the devices whose
next request was not processed, and `misreported` those for which there was a report on the aborted
installation. -/
structure AbortSystem where
  sys : FirmwareSystem
  aborted : List String
  inProcess : List String
  left : List String
  refused : List String
  misreported : List String

namespace AbortSystem

variable (h : AbortSystem) (ctx : FirmwareContext) (deviceKey : String)

def create : AbortSystem := ⟨.create, [], [], [], [], []⟩

/-- The installer is about to be invoked, and `INSTALLING` has been sent. -/
def Processed (sys sys' : FirmwareSystem) (deviceKey : String) : Prop :=
  sys'.handling.map Prod.fst = some deviceKey ∧
    sys'.svc.published = sys.svc.published ++ [⟨deviceKey, .installing, .none⟩]

instance (sys sys' : FirmwareSystem) (deviceKey : String) : Decidable (Processed sys sys' deviceKey) :=
  inferInstanceAs (Decidable (_ ∧ _))

/-- The device has a session file. -/
def hasFile (sys : FirmwareSystem) (deviceKey : String) : Bool :=
  (sys.svc.sessionFiles.find? deviceKey).isSome

def abort : AbortSystem :=
  if h.sys.handling = none ∧ h.sys.svc.onFirmwareAbort ctx deviceKey = true then
    { h with
      sys := h.sys.abort ctx deviceKey
      aborted := deviceKey :: h.aborted
      inProcess := deviceKey :: h.inProcess
      left := if hasFile h.sys deviceKey then deviceKey :: h.left else h.left }
  else h

/-- A request that is accepted begins a new installation. -/
def install : AbortSystem :=
  if h.sys.handling = none then
    let sys := h.sys.install ctx deviceKey
    let accepted := sys.handling.isSome
    { sys := sys
      aborted := if accepted then h.aborted.filter (· ≠ deviceKey) else h.aborted
      inProcess := if accepted then h.inProcess.filter (· ≠ deviceKey) else h.inProcess
      left := if accepted then h.left.filter (· ≠ deviceKey) else h.left
      refused :=
        if deviceKey ∈ h.aborted ∧ ¬ Processed h.sys sys deviceKey then deviceKey :: h.refused
        else h.refused
      misreported := h.misreported }
  else h

def loadState : AbortSystem :=
  let sys := h.sys.step (.loadState ctx deviceKey)
  let reported := (sys.svc.queue.drop h.sys.svc.queue.length).any fun r => r.isOutcome deviceKey
  { h with
    sys := sys
    left := if hasFile sys deviceKey then h.left else h.left.filter (· ≠ deviceKey)
    misreported :=
      if deviceKey ∈ h.aborted ∧ reported = true then deviceKey :: h.misreported
      else h.misreported }

def step (h : AbortSystem) : FirmwareEvent → Except Empty AbortSystem
  | .install ctx deviceKey => .ok (h.install ctx deviceKey)
  | .respond ctx response => .ok { h with sys := h.sys.step (.respond ctx response) }
  | .abort ctx deviceKey => .ok (h.abort ctx deviceKey)
  | .loadState ctx deviceKey => .ok (h.loadState ctx deviceKey)
  | .publishQueue => .ok { h with sys := h.sys.step .publishQueue }
  | .restart => .ok { h with sys := h.sys.step .restart, inProcess := [] }

/-- What the claim of an abort on the rest of the run comes to. -/
structure Closed : Prop where
  refused : h.refused = []
  misreported : h.misreported = []

/-- After an abort, the next request comes after a restart, and can be processed. A session file that
was left is not loaded, or nothing can be reported on it. -/
def Spared (h : AbortSystem) : FirmwareEvent → Prop
  | .install ctx deviceKey => h.sys.handling = none → deviceKey ∈ h.aborted →
      deviceKey ∉ h.inProcess ∧ ctx.firmwareInstaller.isSome = true ∧
        ctx.makeOutboundMessage deviceKey ⟨.installing, .none⟩ = true
  | .loadState ctx deviceKey => deviceKey ∈ h.left →
      ∀ content ∈ h.sys.svc.readSessionFile ctx deviceKey, ∀ installer ∈ ctx.firmwareInstaller,
        ctx.makeOutboundMessage deviceKey (installer.outcome deviceKey content) = false
  | .respond _ _ | .abort _ _ | .publishQueue | .restart => True

instance (h : AbortSystem) : (e : FirmwareEvent) → Decidable (h.Spared e)
  | .install _ _ => inferInstanceAs (Decidable (_ → _ → _ ∧ _ ∧ _))
  | .loadState _ _ => inferInstanceAs (Decidable (_ → ∀ _ ∈ _, ∀ _ ∈ _, _))
  | .respond _ _ | .abort _ _ | .publishQueue | .restart => isTrue trivial

/-- What the two records say of a device after an abort. -/
structure Recorded (h : AbortSystem) : Prop where
  flag : ∀ d ∈ h.aborted, (h.sys.svc.ongoing d = true ↔ d ∈ h.inProcess)
  file : ∀ d ∈ h.aborted, (hasFile h.sys d = true ↔ d ∈ h.left)
  left : ∀ d ∈ h.left, d ∈ h.aborted
  idle : ∀ handled ∈ h.sys.handling, handled.1 ∉ h.aborted

variable {h} {h' : AbortSystem} {e : FirmwareEvent} {es : List FirmwareEvent}

theorem hasFile_of_same {sys sys' : FirmwareSystem} {d : String}
    (hsame : FirmwareUpdateService.SameRecords sys.svc sys'.svc d) : hasFile sys' d = hasFile sys d := by
  unfold hasFile
  rw [hsame.2]

/-- A request that no other is being handled with is ignored, or begins an installation. -/
theorem install_cases {sys : FirmwareSystem} (hidle : sys.handling = none) (ctx : FirmwareContext)
    (deviceKey : String) :
    sys.install ctx deviceKey = sys ∧
      (ctx.firmwareInstaller = none ∨ sys.svc.ongoing deviceKey = true) ∨
    ∃ installer, ctx.firmwareInstaller = some installer ∧ sys.svc.ongoing deviceKey = false ∧
      sys.install ctx deviceKey = { sys with
        svc := sys.svc.beginInstall ctx deviceKey installer
        handling := some (deviceKey, installer.getFirmwareVersion deviceKey)
        accepted := sys.accepted ++ [deviceKey] } := by
  unfold FirmwareSystem.install
  rw [hidle]
  cases ctx.firmwareInstaller with
  | none => exact .inl ⟨rfl, .inl rfl⟩
  | some installer =>
    by_cases hongoing : sys.svc.ongoing deviceKey = true
    · exact .inl ⟨if_pos hongoing, .inr hongoing⟩
    · exact .inr ⟨installer, rfl, Bool.not_eq_true _ ▸ hongoing, if_neg hongoing⟩

/-- A request is processed if it begins an installation and its first status message is made. -/
theorem processed_iff {sys : FirmwareSystem} (hidle : sys.handling = none) (ctx : FirmwareContext)
    (deviceKey : String) :
    Processed sys (sys.install ctx deviceKey) deviceKey ↔
      ctx.firmwareInstaller.isSome = true ∧ sys.svc.ongoing deviceKey = false ∧
        ctx.makeOutboundMessage deviceKey ⟨.installing, .none⟩ = true := by
  unfold Processed
  rcases install_cases hidle ctx deviceKey with ⟨heq, hignored⟩ | ⟨installer, hinstaller, hongoing, heq⟩
  · rw [heq, hidle]
    constructor
    · rintro ⟨hnone, -⟩
      cases hnone
    · rintro ⟨hinstaller, hongoing, -⟩
      rcases hignored with hnone | htrue
      · rw [hnone] at hinstaller
        cases hinstaller
      · rw [htrue] at hongoing
        cases hongoing
  · rw [heq, hinstaller, hongoing]
    have hpublished : (sys.svc.beginInstall ctx deviceKey installer).published =
        sys.svc.published ++
          FirmwareUpdateService.reports ctx deviceKey .installing .none := by
      unfold FirmwareUpdateService.beginInstall FirmwareUpdateService.storeSessionFile
      rw [FirmwareUpdateService.sendStatusMessage_eq]
      split_ifs <;> rfl
    dsimp only
    rw [hpublished]
    unfold FirmwareUpdateService.reports
    split_ifs with hmade
    · simp [hmade]
    · simp [hmade]

theorem iff_mem_cons {p : String → Prop} {l l' : List String} (hl : ∀ d ∈ l, (p d ↔ d ∈ l'))
    {deviceKey : String} (hp : p deviceKey) {d : String} (hd : d ∈ deviceKey :: l) :
    p d ↔ d ∈ deviceKey :: l' := by
  rw [List.mem_cons]
  rcases List.mem_cons.mp hd with rfl | hd
  · exact ⟨fun _ => .inl rfl, fun _ => hp⟩
  · constructor
    · exact fun hpd => .inr ((hl d hd).mp hpd)
    · rintro (rfl | hd')
      · exact hp
      · exact (hl d hd).mpr hd'

theorem Recorded.abort (hrec : h.Recorded) (ctx : FirmwareContext) (deviceKey : String) :
    (h.abort ctx deviceKey).Recorded := by
  unfold AbortSystem.abort
  by_cases hongoing : h.sys.handling = none ∧ h.sys.svc.onFirmwareAbort ctx deviceKey = true
  · rw [if_pos hongoing]
    have hflag : h.sys.svc.ongoing deviceKey = true := (Bool.and_eq_true_iff.mp hongoing.2).1
    have hsys : h.sys.abort ctx deviceKey =
        { h.sys with running := h.sys.running.erase deviceKey } := if_pos hongoing
    rw [hsys]
    refine ⟨fun d hd => iff_mem_cons hrec.flag hflag hd, ?_, ?_, fun handled hhandled => ?_⟩
    · dsimp only
      split_ifs with hfile
      · exact fun d hd => iff_mem_cons hrec.file hfile hd
      · intro d hd
        rcases List.mem_cons.mp hd with rfl | hd
        · refine ⟨fun htrue => absurd htrue hfile, fun hleft => ?_⟩
          exact absurd ((hrec.file d (hrec.left d hleft)).mpr hleft) hfile
        · exact hrec.file d hd
    · dsimp only
      split_ifs
      · exact fun d hd => List.mem_cons.mpr ((List.mem_cons.mp hd).imp_right (hrec.left d))
      · exact fun d hd => List.mem_cons_of_mem _ (hrec.left d hd)
    · dsimp only at hhandled
      rw [hongoing.1] at hhandled
      cases hhandled
  · rw [if_neg hongoing]
    exact hrec

theorem Recorded.install (hrec : h.Recorded) (ctx : FirmwareContext) (deviceKey : String) :
    (h.install ctx deviceKey).Recorded := by
  unfold AbortSystem.install
  by_cases hidle : h.sys.handling = none
  · rw [if_pos hidle]
    rcases install_cases hidle ctx deviceKey with ⟨heq, -⟩ | ⟨installer, -, -, heq⟩
    · simp only [heq, hidle, Option.isSome_none, Bool.false_eq_true, if_false]
      exact ⟨hrec.flag, hrec.file, hrec.left, hrec.idle⟩
    · simp only [heq, Option.isSome_some, if_true]
      have hkept : ∀ (l : List String) d, d ∈ l.filter (· ≠ deviceKey) ↔ d ∈ l ∧ deviceKey ≠ d := by
        intro l d
        rw [List.mem_filter, decide_eq_true_eq, ne_comm]
      refine ⟨fun d hd => ?_, fun d hd => ?_, fun d hd => ?_, fun handled hhandled => ?_⟩
      · obtain ⟨hd, hne⟩ := (hkept _ _).mp hd
        have hsame := h.sys.svc.sameRecords_beginInstall ctx hne installer
        rw [hkept, ← hrec.flag d hd, hsame.ongoing]
        exact (and_iff_left hne).symm
      · obtain ⟨hd, hne⟩ := (hkept _ _).mp hd
        have hsame : hasFile { h.sys with svc := h.sys.svc.beginInstall ctx deviceKey installer } d =
            hasFile h.sys d := hasFile_of_same (h.sys.svc.sameRecords_beginInstall ctx hne installer)
        rw [hkept, ← hrec.file d hd, ← hsame]
        exact (and_iff_left hne).symm
      · obtain ⟨hd, hne⟩ := (hkept _ _).mp hd
        exact (hkept _ _).mpr ⟨hrec.left d hd, hne⟩
      · cases hhandled
        exact fun hmem => ((hkept _ _).mp hmem).2 rfl
  · rw [if_neg hidle]
    exact hrec

theorem Recorded.respond (hrec : h.Recorded) (ctx : FirmwareContext) (response : InstallResponse) :
    Recorded { h with sys := h.sys.respond ctx response } := by
  unfold FirmwareSystem.respond
  cases hhandling : h.sys.handling with
  | none => exact ⟨hrec.flag, hrec.file, hrec.left, hrec.idle⟩
  | some handled =>
    have hidle := hrec.idle handled hhandling
    have hother : ∀ d ∈ h.aborted, handled.1 ≠ d := by
      rintro d hd rfl
      exact hidle hd
    refine ⟨fun d hd => ?_, fun d hd => ?_, hrec.left, fun handled h => (by cases h)⟩
    · have hsame := h.sys.svc.sameRecords_finishInstall ctx (hother d hd) response
      exact hsame.ongoing ▸ hrec.flag d hd
    · have hsame := h.sys.svc.sameRecords_finishInstall ctx (hother d hd) response
      rw [← hrec.file d hd]
      exact iff_of_eq (congrArg (· = true) (hasFile_of_same hsame))

theorem Recorded.loadState (hrec : h.Recorded) (ctx : FirmwareContext) (deviceKey : String) :
    (h.loadState ctx deviceKey).Recorded := by
  unfold AbortSystem.loadState FirmwareSystem.step
  dsimp only
  refine ⟨fun d hd => ?_, fun d hd => ?_, ?_, hrec.idle⟩
  · rw [← hrec.flag d hd]
    unfold FirmwareUpdateService.ongoing
    rw [FirmwareUpdateService.installation_loadState]
  · have hother : deviceKey ≠ d →
        hasFile { h.sys with svc := h.sys.svc.loadState ctx deviceKey } d = hasFile h.sys d :=
      fun hne => hasFile_of_same (h.sys.svc.sameRecords_loadState ctx hne)
    have hkept := hrec.file d hd
    dsimp only
    split_ifs with hfile
    · rw [← hkept]
      by_cases hne : deviceKey = d
      · subst hne
        obtain ⟨version, hversion⟩ := Option.isSome_iff_exists.mp hfile
        have hbefore := FirmwareUpdateService.find?_of_loadState hversion
        exact iff_of_true hfile (Option.isSome_iff_exists.mpr ⟨version, hbefore⟩)
      · rw [hother hne]
    · rw [List.mem_filter, decide_eq_true_eq]
      by_cases hne : deviceKey = d
      · subst hne
        exact iff_of_false hfile fun hmem => hmem.2 rfl
      · rw [hother hne, hkept]
        exact (and_iff_left (Ne.symm hne)).symm
  · dsimp only
    split_ifs
    · exact hrec.left
    · exact fun d hd => hrec.left d (List.mem_filter.mp hd).1

theorem Recorded.step (hrec : h.Recorded) (hs : h.step e = .ok h') : h'.Recorded := by
  cases e with
  | install ctx deviceKey => cases hs; exact hrec.install ctx deviceKey
  | respond ctx response => cases hs; exact hrec.respond ctx response
  | abort ctx deviceKey => cases hs; exact hrec.abort ctx deviceKey
  | loadState ctx deviceKey => cases hs; exact hrec.loadState ctx deviceKey
  | publishQueue => cases hs; exact ⟨hrec.flag, hrec.file, hrec.left, hrec.idle⟩
  | restart =>
    cases hs
    exact ⟨fun d _ => iff_of_false Bool.false_ne_true List.not_mem_nil, hrec.file, hrec.left,
      fun handled hhandled => (by cases hhandled)⟩

theorem Recorded.processed (hrec : h.Recorded) (hidle : h.sys.handling = none) (ctx : FirmwareContext)
    {deviceKey : String} (haborted : deviceKey ∈ h.aborted) :
    Processed h.sys (h.sys.install ctx deviceKey) deviceKey ↔
      deviceKey ∉ h.inProcess ∧ ctx.firmwareInstaller.isSome = true ∧
        ctx.makeOutboundMessage deviceKey ⟨.installing, .none⟩ = true := by
  rw [processed_iff hidle, ← hrec.flag deviceKey haborted, Bool.not_eq_true]
  exact and_left_comm

/-- When a session file is loaded, the outcome is reported if there is anyone to tell it. -/
theorem reported_iff (ctx : FirmwareContext) (svc : FirmwareUpdateService) (deviceKey : String) :
    ((svc.loadState ctx deviceKey).queue.drop svc.queue.length).any (fun r => r.isOutcome deviceKey) =
        true ↔
      ∃ content ∈ svc.readSessionFile ctx deviceKey, ∃ installer ∈ ctx.firmwareInstaller,
        ctx.makeOutboundMessage deviceKey (installer.outcome deviceKey content) = true := by
  rw [FirmwareUpdateService.loadState_eq]
  dsimp only
  rw [List.drop_left]
  unfold FirmwareUpdateService.loadedReports FirmwareUpdateService.loaded
    FirmwareUpdateService.reports
  cases svc.readSessionFile ctx deviceKey with
  | none =>
    dsimp only
    split_ifs <;> simp [FirmwareReport.isOutcome]
  | some content =>
    cases ctx.firmwareInstaller with
    | none =>
      dsimp only
      split_ifs <;> simp [FirmwareReport.isOutcome]
    | some installer =>
      have houtcome : (FirmwareReport.mk deviceKey (installer.outcome deviceKey content)).isOutcome
          deviceKey = true := by
        unfold FirmwareReport.isOutcome FirmwareInstaller.outcome
        split_ifs <;> simp
      dsimp only
      split_ifs with hmade
      · rw [List.any_cons, houtcome]
        exact iff_of_true rfl ⟨content, rfl, installer, rfl, hmade⟩
      · refine iff_of_false Bool.false_ne_true ?_
        rintro ⟨_, ⟨⟩, _, ⟨⟩, htrue⟩
        exact hmade htrue

/-- After an abort, there is something to report only of a session file that was left. -/
theorem Recorded.reported (hrec : h.Recorded) (ctx : FirmwareContext) {deviceKey : String}
    (haborted : deviceKey ∈ h.aborted) :
    ((h.sys.svc.loadState ctx deviceKey).queue.drop h.sys.svc.queue.length).any
        (fun r => r.isOutcome deviceKey) = true ↔
      ¬ (deviceKey ∈ h.left → ∀ content ∈ h.sys.svc.readSessionFile ctx deviceKey,
        ∀ installer ∈ ctx.firmwareInstaller,
          ctx.makeOutboundMessage deviceKey (installer.outcome deviceKey content) = false) := by
  rw [reported_iff]
  constructor
  · rintro ⟨content, hcontent, installer, hinstaller, hmade⟩ hspared
    have hfile : hasFile h.sys deviceKey = true := by
      unfold FirmwareUpdateService.readSessionFile at hcontent
      split_ifs at hcontent
      · exact Option.isSome_iff_exists.mpr ⟨content, hcontent⟩
      · cases hcontent
    have hnot := hspared ((hrec.file deviceKey haborted).mp hfile) content hcontent installer hinstaller
    rw [hmade] at hnot
    cases hnot
  · intro hspared
    push Not at hspared
    obtain ⟨-, content, hcontent, installer, hinstaller, hmade⟩ := hspared
    exact ⟨content, hcontent, installer, hinstaller, Bool.not_eq_false _ ▸ hmade⟩

theorem Recorded.closed_install (hrec : h.Recorded) (ctx : FirmwareContext) (deviceKey : String) :
    (h.install ctx deviceKey).Closed ↔ h.Closed ∧ h.Spared (.install ctx deviceKey) := by
  unfold AbortSystem.install
  by_cases hidle : h.sys.handling = none
  · rw [if_pos hidle]
    by_cases hrefused : deviceKey ∈ h.aborted ∧
        ¬ Processed h.sys (h.sys.install ctx deviceKey) deviceKey
    · refine iff_of_false (fun hclosed => ?_) fun hboth => ?_
      · have hnil := hclosed.refused
        dsimp only at hnil
        rw [if_pos hrefused] at hnil
        cases hnil
      · exact hrefused.2 ((hrec.processed hidle ctx hrefused.1).mpr (hboth.2 hidle hrefused.1))
    · have hspared : h.Spared (.install ctx deviceKey) := by
        intro _ haborted
        refine (hrec.processed hidle ctx haborted).mp ?_
        by_contra hnot
        exact hrefused ⟨haborted, hnot⟩
      refine .trans ⟨fun hclosed => ⟨?_, hclosed.misreported⟩, fun hclosed => ⟨?_, hclosed.misreported⟩⟩
        (and_iff_left hspared).symm
      · dsimp only
        rw [if_neg hrefused]
        exact hclosed.refused
      · have hnil := hclosed.refused
        dsimp only at hnil
        rw [if_neg hrefused] at hnil
        exact hnil
  · rw [if_neg hidle]
    exact (and_iff_left fun hnone => absurd hnone hidle).symm

theorem Recorded.closed_loadState (hrec : h.Recorded) (ctx : FirmwareContext) (deviceKey : String) :
    (h.loadState ctx deviceKey).Closed ↔ h.Closed ∧ h.Spared (.loadState ctx deviceKey) := by
  unfold AbortSystem.loadState FirmwareSystem.step
  dsimp only
  by_cases hreported : deviceKey ∈ h.aborted ∧
      ((h.sys.svc.loadState ctx deviceKey).queue.drop h.sys.svc.queue.length).any
        (fun r => r.isOutcome deviceKey) = true
  · refine iff_of_false (fun hclosed => ?_) fun hboth => ?_
    · have hnil := hclosed.misreported
      dsimp only at hnil
      rw [if_pos hreported] at hnil
      cases hnil
    · exact (hrec.reported ctx hreported.1).mp hreported.2 hboth.2
  · have hspared : h.Spared (.loadState ctx deviceKey) := by
      intro hleft
      by_contra hnot
      have haborted := hrec.left deviceKey hleft
      exact hreported ⟨haborted, (hrec.reported ctx haborted).mpr fun hall => hnot (hall hleft)⟩
    refine .trans ⟨fun hclosed => ⟨hclosed.refused, ?_⟩, fun hclosed => ⟨hclosed.refused, ?_⟩⟩
      (and_iff_left hspared).symm
    · dsimp only
      rw [if_neg hreported]
      exact hclosed.misreported
    · have hnil := hclosed.misreported
      dsimp only at hnil
      rw [if_neg hreported] at hnil
      exact hnil

/-- A step that is spared keeps what was asked, and any other breaks it. -/
theorem Recorded.closed_step (hrec : h.Recorded) (hs : h.step e = .ok h') :
    h'.Closed ↔ h.Closed ∧ h.Spared e := by
  have hsame : h'.refused = h.refused → h'.misreported = h.misreported → (h'.Closed ↔ h.Closed) := by
    intro hrefused hmisreported
    exact ⟨fun hc => ⟨hrefused ▸ hc.refused, hmisreported ▸ hc.misreported⟩,
      fun hc => ⟨hrefused ▸ hc.refused, hmisreported ▸ hc.misreported⟩⟩
  cases e with
  | install ctx deviceKey => cases hs; exact hrec.closed_install ctx deviceKey
  | loadState ctx deviceKey => cases hs; exact hrec.closed_loadState ctx deviceKey
  | respond ctx response => cases hs; exact (hsame rfl rfl).trans (and_iff_left trivial).symm
  | abort ctx deviceKey =>
    cases hs
    unfold AbortSystem.abort at hsame ⊢
    split_ifs at hsame ⊢ <;> exact (hsame rfl rfl).trans (and_iff_left trivial).symm
  | publishQueue => cases hs; exact (hsame rfl rfl).trans (and_iff_left trivial).symm
  | restart => cases hs; exact (hsame rfl rfl).trans (and_iff_left trivial).symm

theorem recorded_create : create.Recorded where
  flag d hd := absurd hd List.not_mem_nil
  file d hd := absurd hd List.not_mem_nil
  left d hd := absurd hd List.not_mem_nil
  idle handled hhandled := by cases hhandled

/-- **Aborted installations.** In a run of the service, the next request after each abort of an
ongoing installation was processed, and there was no report on the aborted installation, if and only
if the next requests came after a restart, and no session file that was left was loaded. -/
theorem aborted_is_closed (hrun : Machine.Run step (fun _ _ => True) create es h) :
    h.Closed ↔ Machine.Run step Spared create es h := by
  refine hrun.iff_meets (fun h => h.Recorded ∧ h.Closed) (fun h => h.Recorded ∧ ¬ h.Closed)
    ⟨recorded_create, rfl, rfl⟩ ?_ ?_ ?_ And.right And.right
  · exact fun _ _ _ h hok hs => ⟨h.1.step hs, (h.1.closed_step hs).mpr ⟨h.2, hok⟩⟩
  · exact fun _ _ _ h _ hok hs => ⟨h.1.step hs, fun hclosed => hok ((h.1.closed_step hs).mp hclosed).2⟩
  · exact fun _ _ _ h _ hs => ⟨h.1.step hs, fun hclosed => h.2 ((h.1.closed_step hs).mp hclosed).1⟩

/-! ## Runs -/

/-- The process ends after an abort. The next request is taken before the state is loaded. -/
theorem aborted_is_closed_sample : ∃ h : AbortSystem, h.Closed ∧
    h.sys.accepted = ["d", "d"] := by
  obtain ⟨h, hrun, haccepted⟩ := Machine.Run.exists_of_check step Spared create
    [.install .working "d", .respond .working .willInstall, .abort .working "d", .restart,
      .install .working "d", .respond .working .installed]
    (fun h => h.sys.accepted) ["d", "d"] (by decide +kernel)
  exact ⟨h, (aborted_is_closed (hrun.mono fun _ _ _ => trivial)).mpr hrun, haccepted⟩

/-- The next request is ignored, and after a restart the success of the aborted installation is
reported. -/
theorem aborted_stays_open : ∃ h : AbortSystem,
    Machine.Run step (fun _ _ => True) create
      [.install .working "d", .respond .working .willInstall, .abort .working "d",
        .install .working "d", .restart, .loadState .working "d"] h ∧
      h.refused = ["d"] ∧ h.misreported = ["d"] ∧ ¬ h.Closed := by
  obtain ⟨h, hrun, hh⟩ := Machine.Run.exists_of_check step (fun _ _ => True) create
    [.install .working "d", .respond .working .willInstall, .abort .working "d",
      .install .working "d", .restart, .loadState .working "d"]
    (fun h => (h.refused, h.misreported)) (["d"], ["d"]) (by decide +kernel)
  obtain ⟨hrefused, hmisreported⟩ := Prod.mk.injEq .. ▸ hh
  refine ⟨h, hrun, hrefused, hmisreported, fun hclosed => ?_⟩
  have hnil := hclosed.refused
  rw [hrefused] at hnil
  cases hnil

end AbortSystem

end WolkConnect
