import WolkConnect.Firmware.System
import Mathlib.Tactic.Push

/-!
# Statuses that answer requests

A session file stands for an accepted install request that has not been answered. A
report that an installation is over should use one up.
-/

namespace WolkConnect

def FirmwareContext.supplied (ctx : FirmwareContext) : Bool :=
  ctx.firmwareInstaller.isSome && ctx.readFileContent && ctx.createFileWithContent && ctx.deleteFile

def FirmwareEvent.context : FirmwareEvent → Option FirmwareContext
  | .install ctx _ | .respond ctx _ | .abort ctx _ | .loadState ctx _ => some ctx
  | .publishQueue | .restart => none

namespace FirmwareUpdateService

variable (ctx : FirmwareContext) (svc : FirmwareUpdateService) (deviceKey d : String)
  (status : FirmwareUpdateStatus) (error : FirmwareUpdateError)

/-- The number of reports that an installation on the device is over. -/
def endings : Nat := (svc.published ++ svc.queue).countP fun r => r.ends d

/-- The session file, counted. -/
def files : Nat := if (svc.sessionFiles.find? d).isSome then 1 else 0

/-- The status message, if it says that an installation on `d` is over, counted. -/
def made : Nat := (reports ctx deviceKey status error).countP fun r => r.ends d

theorem made_le : made ctx deviceKey d status error ≤ 1 := by
  unfold made reports
  split_ifs
  · exact List.countP_le_length
  · exact Nat.zero_le 1

theorem made_installing : made ctx deviceKey d .installing error = 0 := by
  refine List.countP_eq_zero.mpr fun r hr => ?_
  rw [mem_reports ctx deviceKey _ error hr]
  simp [FirmwareReport.ends]

variable {deviceKey d} in
theorem made_of_ne (h : deviceKey ≠ d) : made ctx deviceKey d status error = 0 := by
  refine List.countP_eq_zero.mpr fun r hr => ?_
  rw [mem_reports ctx deviceKey status error hr]
  simp [FirmwareReport.ends, h]

variable {ctx status} in
theorem made_eq_one (hstatus : status ≠ .installing)
    (hmade : ctx.makeOutboundMessage deviceKey ⟨status, error⟩ = true) :
    made ctx deviceKey deviceKey status error = 1 := by
  unfold made reports
  rw [if_pos hmade, List.countP_singleton]
  simp [FirmwareReport.ends, hstatus]

theorem endings_sendStatusMessage :
    (svc.sendStatusMessage ctx deviceKey status error).endings d =
      svc.endings d + made ctx deviceKey d status error := by
  rw [sendStatusMessage_eq]
  unfold endings made
  simp only [List.countP_append]
  omega

@[simp] theorem files_sendStatusMessage :
    (svc.sendStatusMessage ctx deviceKey status error).files d = svc.files d := by
  rw [sendStatusMessage_eq]
  rfl

@[simp] theorem endings_storeSessionFile (version : String) :
    (svc.storeSessionFile ctx deviceKey version).endings d = svc.endings d := by
  unfold storeSessionFile
  split_ifs <;> rfl

@[simp] theorem endings_deleteSessionFile :
    (svc.deleteSessionFile ctx deviceKey).endings d = svc.endings d := by
  unfold deleteSessionFile
  split_ifs <;> rfl

theorem files_storeSessionFile (h : ctx.createFileWithContent = true) (version : String) :
    (svc.storeSessionFile ctx deviceKey version).files d = if deviceKey = d then 1 else svc.files d := by
  unfold storeSessionFile files
  rw [if_pos h]
  dsimp only
  rw [OrderedMap.find?_insert]
  split_ifs <;> simp_all

theorem files_deleteSessionFile (h : ctx.deleteFile = true) :
    (svc.deleteSessionFile ctx deviceKey).files d = if deviceKey = d then 0 else svc.files d := by
  unfold deleteSessionFile files
  rw [if_pos h]
  dsimp only
  rw [OrderedMap.find?_erase]
  split_ifs <;> simp_all

/-- The session file of the device is gone, and there is a report, if the message is made. -/
def Closes (svc svc' : FirmwareUpdateService) : Prop :=
  ∃ n ≤ 1, ((∀ key message, ctx.makeOutboundMessage key message = true) → n = 1) ∧
    ∀ d, svc'.endings d = svc.endings d + (if deviceKey = d then n else 0) ∧
      svc'.files d = if deviceKey = d then 0 else svc.files d

variable {ctx svc deviceKey status} {svc' : FirmwareUpdateService}

theorem closes_of_made (hstatus : status ≠ .installing)
    (hendings : ∀ d, svc'.endings d = svc.endings d + made ctx deviceKey d status error)
    (hfiles : ∀ d, svc'.files d = if deviceKey = d then 0 else svc.files d) :
    svc.Closes ctx deviceKey svc' := by
  refine ⟨made ctx deviceKey deviceKey status error, made_le .., fun hmade => ?_, fun d => ⟨?_, hfiles d⟩⟩
  · exact made_eq_one deviceKey error hstatus (hmade _ _)
  · rw [hendings]
    split_ifs with hd
    · rw [← hd]
    · rw [made_of_ne ctx status error hd]

variable {error} in
theorem sent_closes (hdelete : ctx.deleteFile = true) (hstatus : status ≠ .installing) :
    svc.Closes ctx deviceKey
      ((svc.sendStatusMessage ctx deviceKey status error).deleteSessionFile ctx deviceKey) := by
  refine closes_of_made error hstatus (fun d => ?_) fun d => ?_
  · rw [endings_deleteSessionFile, endings_sendStatusMessage]
  · rw [files_deleteSessionFile _ _ _ _ hdelete, files_sendStatusMessage]

variable (svc deviceKey) in
theorem loadState_closes (hdelete : ctx.deleteFile = true) :
    svc.Closes ctx deviceKey (svc.loadState ctx deviceKey) := by
  refine closes_of_made (loaded ctx svc deviceKey).error (loaded_status ctx svc deviceKey) (fun d => ?_) fun d => ?_
  · rw [loadState_eq, deleteSessionFile_eq]
    unfold endings made loadedReports
    simp only [List.countP_append]
    omega
  · rw [← files_deleteSessionFile _ _ _ _ hdelete, loadState_eq]
    rfl

theorem finishInstall_closes (hdelete : ctx.deleteFile = true) {response : InstallResponse}
    (hresponse : response ≠ .willInstall) :
    svc.Closes ctx deviceKey (svc.finishInstall ctx deviceKey response) := by
  cases response with
  | failedToInstall => exact sent_closes hdelete (by decide)
  | noFile => exact sent_closes hdelete (by decide)
  | willInstall => exact absurd rfl hresponse
  | installed => exact sent_closes hdelete (by decide)

variable (ctx svc deviceKey) in
theorem willInstall_endings (d : String) :
    (svc.finishInstall ctx deviceKey .willInstall).endings d = svc.endings d ∧
      (svc.finishInstall ctx deviceKey .willInstall).files d = svc.files d := by
  unfold finishInstall
  dsimp only
  rw [endings_sendStatusMessage, files_sendStatusMessage, made_installing]
  exact ⟨rfl, rfl⟩

variable (svc deviceKey) in
theorem beginInstall_endings (hcreate : ctx.createFileWithContent = true)
    (installer : FirmwareInstaller) (d : String) :
    (svc.beginInstall ctx deviceKey installer).endings d = svc.endings d ∧
      (svc.beginInstall ctx deviceKey installer).files d =
        if deviceKey = d then 1 else svc.files d := by
  unfold beginInstall
  rw [endings_sendStatusMessage, files_sendStatusMessage, made_installing,
    endings_storeSessionFile, files_storeSessionFile _ _ _ _ hcreate]
  exact ⟨rfl, rfl⟩

end FirmwareUpdateService

namespace FirmwareSystem

variable (sys : FirmwareSystem) (d : String)

/-- The number of reports that an installation on the device is over, in all processes. -/
def endings : Nat := sys.svc.endings d + sys.lost.countP fun r => r.ends d

/-- The device for which an event reports that an installation is over. -/
def ending : FirmwareEvent → Option String
  | .respond _ response => if response = .willInstall then none else sys.handling.map Prod.fst
  | .loadState _ deviceKey => some deviceKey
  | .install _ _ | .abort _ _ | .publishQueue | .restart => none

/-- The device for which an event is an install request that is accepted. -/
def accepting : FirmwareEvent → Option String
  | .install ctx deviceKey =>
    if sys.handling = none ∧ ctx.firmwareInstaller.isSome = true ∧ sys.svc.ongoing deviceKey = false then
      some deviceKey
    else none
  | .respond _ _ | .abort _ _ | .loadState _ _ | .publishQueue | .restart => none

/-- There is an installer, and operations on session files succeed. -/
def Supplied (_ : FirmwareSystem) (e : FirmwareEvent) : Prop :=
  ∀ ctx ∈ e.context, ctx.supplied = true

/-- And a report that an installation is over finds the session file of the device. -/
def Answers (sys : FirmwareSystem) (e : FirmwareEvent) : Prop :=
  sys.Supplied e ∧ ∀ d ∈ sys.ending e, sys.svc.files d = 1

/-- Messages are made, and a request that is accepted finds no session file of the device. -/
def Settled (sys : FirmwareSystem) (e : FirmwareEvent) : Prop :=
  sys.Supplied e ∧
    (∀ ctx ∈ e.context, ∀ deviceKey message, ctx.makeOutboundMessage deviceKey message = true) ∧
    ∀ d ∈ sys.accepting e, sys.svc.files d = 0

instance (sys : FirmwareSystem) (e : FirmwareEvent) : Decidable (sys.Supplied e) :=
  inferInstanceAs (Decidable (∀ _ ∈ _, _))

instance (sys : FirmwareSystem) (e : FirmwareEvent) : Decidable (sys.Answers e) :=
  inferInstanceAs (Decidable (_ ∧ ∀ _ ∈ _, _))

/-- What an event does to the accounts. -/
inductive Moves (sys sys' : FirmwareSystem) (e : FirmwareEvent) : Prop
  | stays (ending : sys.ending e = none) (accepting : sys.accepting e = none)
      (accepted : sys'.accepted = sys.accepted)
      (accounts : ∀ d, sys'.endings d = sys.endings d ∧ sys'.svc.files d = sys.svc.files d)
  | accepts (deviceKey : String) (ending : sys.ending e = none)
      (accepting : sys.accepting e = some deviceKey)
      (accepted : sys'.accepted = sys.accepted ++ [deviceKey])
      (accounts : ∀ d, sys'.endings d = sys.endings d ∧
        sys'.svc.files d = if deviceKey = d then 1 else sys.svc.files d)
  | closes (deviceKey : String) (ctx : FirmwareContext) (context : ctx ∈ e.context)
      (ending : sys.ending e = some deviceKey) (accepted : sys'.accepted = sys.accepted)
      (accounts : sys.svc.Closes ctx deviceKey sys'.svc) (lost : sys'.lost = sys.lost)

variable {sys d} {sys' : FirmwareSystem} {e : FirmwareEvent}

theorem Supplied.context {ctx : FirmwareContext} (h : sys.Supplied e) (hctx : e.context = some ctx) :
    ctx.createFileWithContent = true ∧ ctx.deleteFile = true := by
  have hsupplied := h ctx hctx
  unfold FirmwareContext.supplied at hsupplied
  simp only [Bool.and_eq_true] at hsupplied
  exact ⟨hsupplied.1.2, hsupplied.2⟩

theorem install_moves {ctx : FirmwareContext} {deviceKey : String}
    (h : sys.Supplied (.install ctx deviceKey)) :
    Moves sys (sys.install ctx deviceKey) (.install ctx deviceKey) := by
  unfold install
  cases hhandling : sys.handling with
  | some handling =>
    refine .stays rfl (if_neg fun hboth => ?_) rfl fun d => ⟨rfl, rfl⟩
    rw [hhandling] at hboth
    cases hboth.1
  | none =>
    cases hinstaller : ctx.firmwareInstaller with
    | none =>
      refine .stays rfl (if_neg fun hboth => ?_) rfl fun d => ⟨rfl, rfl⟩
      rw [hinstaller] at hboth
      cases hboth.2.1
    | some installer =>
      by_cases hongoing : sys.svc.ongoing deviceKey = true
      · simp only [if_pos hongoing]
        refine .stays rfl (if_neg fun hboth => ?_) rfl fun d => ⟨rfl, rfl⟩
        rw [hongoing] at hboth
        cases hboth.2.2
      · simp only [if_neg hongoing]
        have hinstallerIs : ctx.firmwareInstaller.isSome = true := by
          rw [hinstaller]
          rfl
        rw [Bool.not_eq_true] at hongoing
        refine .accepts deviceKey rfl (if_pos ⟨hhandling, hinstallerIs, hongoing⟩) rfl fun d => ?_
        obtain ⟨hendings, hfiles⟩ :=
          sys.svc.beginInstall_endings deviceKey (h.context rfl).1 installer d
        exact ⟨congrArg (· + _) hendings, hfiles⟩

theorem respond_moves {ctx : FirmwareContext} {response : InstallResponse}
    (h : sys.Supplied (.respond ctx response)) :
    Moves sys (sys.respond ctx response) (.respond ctx response) := by
  unfold respond
  cases hhandling : sys.handling with
  | none =>
    refine .stays ?_ rfl rfl fun d => ⟨rfl, rfl⟩
    unfold ending
    dsimp only
    rw [hhandling]
    split_ifs <;> rfl
  | some handling =>
    obtain ⟨deviceKey, version⟩ := handling
    by_cases hresponse : response = .willInstall
    · subst hresponse
      refine .stays rfl rfl rfl fun d => ?_
      obtain ⟨hendings, hfiles⟩ := sys.svc.willInstall_endings ctx deviceKey d
      exact ⟨congrArg (· + _) hendings, hfiles⟩
    · refine .closes deviceKey ctx rfl ?_ rfl ?_ rfl
      · unfold ending
        dsimp only
        rw [if_neg hresponse, hhandling]
        rfl
      · exact FirmwareUpdateService.finishInstall_closes (h.context rfl).2 hresponse

theorem step_moves (h : sys.Supplied e) : Moves sys (sys.step e) e := by
  cases e with
  | install ctx deviceKey => exact install_moves h
  | respond ctx response => exact respond_moves h
  | abort ctx deviceKey =>
    refine .stays rfl rfl ?_ fun d => ?_
    · change (sys.abort ctx deviceKey).accepted = _
      unfold abort
      split_ifs <;> rfl
    · change (sys.abort ctx deviceKey).endings d = _ ∧ (sys.abort ctx deviceKey).svc.files d = _
      unfold abort
      split_ifs <;> exact ⟨rfl, rfl⟩
  | loadState ctx deviceKey =>
    exact .closes deviceKey ctx rfl rfl rfl
      (sys.svc.loadState_closes deviceKey (h.context rfl).2) rfl
  | publishQueue =>
    refine .stays rfl rfl rfl fun d => ⟨?_, rfl⟩
    unfold endings step FirmwareUpdateService.endings FirmwareUpdateService.publishQueue
    rw [List.append_nil]
  | restart =>
    refine .stays rfl rfl rfl fun d => ⟨?_, rfl⟩
    unfold endings step restart FirmwareUpdateService.endings FirmwareUpdateService.restart
    simp only [List.append_nil, List.countP_append]
    omega

/-- There are no more reports than requests, not counting those that have session files. -/
def Bounded (sys : FirmwareSystem) : Prop :=
  ∀ d, sys.endings d + sys.svc.files d ≤ sys.accepted.count d

/-- There are as many. -/
def Balanced (sys : FirmwareSystem) : Prop :=
  ∀ d, sys.endings d + sys.svc.files d = sys.accepted.count d

theorem count_concat (l : List String) (d d' : String) :
    (l ++ [d']).count d = l.count d + if d' = d then 1 else 0 := by
  rw [List.count_append, List.count_singleton]
  simp only [beq_iff_eq]

theorem files_le (svc : FirmwareUpdateService) (d : String) : svc.files d ≤ 1 := by
  unfold FirmwareUpdateService.files
  split_ifs <;> omega

theorem Bounded.step (h : sys.Bounded) (hok : sys.Answers e) : (sys.step e).Bounded := by
  intro d
  have hd := h d
  cases step_moves hok.1 with
  | stays _ _ haccepted haccounts =>
    rw [haccepted, (haccounts d).1, (haccounts d).2]
    exact hd
  | accepts deviceKey _ _ haccepted haccounts =>
    rw [haccepted, (haccounts d).1, (haccounts d).2, count_concat]
    split_ifs <;> omega
  | closes deviceKey ctx _ hending haccepted haccounts hlost =>
    obtain ⟨n, hn, -, hclosed⟩ := haccounts
    have hfile := hok.2 deviceKey hending
    unfold endings at hd ⊢
    rw [haccepted, hlost, (hclosed d).1, (hclosed d).2]
    split_ifs with hkey
    · rw [hkey] at hfile
      omega
    · omega

theorem Balanced.step (h : sys.Balanced) (hsettled : sys.Settled e) (hok : sys.Answers e) :
    (sys.step e).Balanced := by
  intro d
  have hd := h d
  cases step_moves hok.1 with
  | stays _ _ haccepted haccounts =>
    rw [haccepted, (haccounts d).1, (haccounts d).2]
    exact hd
  | accepts deviceKey _ haccepting haccepted haccounts =>
    have hfile := hsettled.2.2 deviceKey haccepting
    rw [haccepted, (haccounts d).1, (haccounts d).2, count_concat]
    split_ifs with hkey
    · rw [hkey] at hfile
      omega
    · omega
  | closes deviceKey ctx hctx hending haccepted haccounts hlost =>
    obtain ⟨n, -, hmade, hclosed⟩ := haccounts
    have hfile := hok.2 deviceKey hending
    have hone := hmade (hsettled.2.1 ctx hctx)
    unfold endings at hd ⊢
    rw [haccepted, hlost, (hclosed d).1, (hclosed d).2]
    split_ifs with hkey
    · rw [hkey] at hfile
      omega
    · omega

/-- A report that finds no session file is one too many. -/
theorem Balanced.exceeds (h : sys.Balanced) (hsettled : sys.Settled e) (hok : ¬ sys.Answers e) :
    ∃ d, (sys.step e).accepted.count d < (sys.step e).endings d := by
  have hunanswered : ¬ ∀ d ∈ sys.ending e, sys.svc.files d = 1 := fun hall => hok ⟨hsettled.1, hall⟩
  push Not at hunanswered
  obtain ⟨d, hd, hfile⟩ := hunanswered
  refine ⟨d, ?_⟩
  have hbalance := h d
  have hle := files_le sys.svc d
  cases step_moves hsettled.1 with
  | stays hending =>
    rw [hending] at hd
    cases hd
  | accepts _ hending =>
    rw [hending] at hd
    cases hd
  | closes deviceKey ctx hctx hending haccepted haccounts hlost =>
    rw [hending] at hd
    cases hd
    obtain ⟨n, -, hmade, hclosed⟩ := haccounts
    have hone := hmade (hsettled.2.1 ctx hctx)
    unfold endings at hbalance ⊢
    rw [haccepted, hlost, (hclosed d).1, if_pos rfl]
    omega

theorem balanced_create : create.Balanced := fun _ => rfl

end FirmwareSystem

namespace FirmwareConnector

open FirmwareSystem

variable {type : WolkInterfaceType} {devices : List String} {es : List ConnectorEvent}
  {c : FirmwareConnector}

/-- The reports that installations on a device are over do not outnumber the requests. -/
def AnswersOnly (c : FirmwareConnector) : Prop :=
  ∀ d, c.sys.endings d ≤ c.sys.accepted.count d

theorem answersOnly_of_run (hrun : Machine.Run step (Meets Answers) (create type devices) es c) :
    c.AnswersOnly := by
  have hbounded : c.sys.Bounded := hrun.invariant (fun c => c.sys.Bounded)
    (fun d => (balanced_create d).le)
    fun _ _ _ h hok hs => keeps (fun _ _ h hok => h.step hok) h hok hs
  exact fun d => (Nat.le_add_right _ _).trans (hbounded d)

/-- Where every accepted request has its session file, a report that finds none is one too many. -/
theorem always_answersOnly_iff
    (hrun : Machine.Run step (Meets Settled) (create type devices) es c) :
    (∀ es₁ es₂ s, es = es₁ ++ es₂ → Machine.Run step (Meets Settled) (create type devices) es₁ s →
        s.AnswersOnly) ↔
      Machine.Run step (Meets fun sys e => sys.Settled e ∧ sys.Answers e) (create type devices) es c := by
  -- The balance is exact, so that a report too many shows at once.
  refine hrun.always_iff AnswersOnly (fun c => c.sys.Balanced) balanced_create
    (fun _ _ _ h hok hs => keeps (fun _ _ h hok => h.step hok.1 hok.2) h hok hs)
    (fun _ h d => Nat.le_of_add_right_le (h d).le) ?_
  intro s e t h hok hbreak hs honly
  obtain ⟨op, hop, hunanswered, hsys⟩ := step_of_not_meets hbreak hs
  have hsettled := hok op hop
  obtain ⟨d, hd⟩ := h.exceeds hsettled fun hanswers => hunanswered ⟨hsettled, hanswers⟩
  have hle := honly d
  rw [hsys] at hle
  omega

/-- **Terminal statuses answer requests.** In all states of a run of a connector with an installer,
whose file operations succeed, there are at most as many terminal statuses for a device as accepted
requests, if each of them found a session file. If messages are always made, and no accepted request
finds a session file that was left, there are no other runs in which that holds in all states. -/
theorem terminal_statuses_answer
    (hrun : Machine.Run step (Meets Supplied) (create type devices) es c) :
    (Machine.Run step (Meets Answers) (create type devices) es c → c.AnswersOnly) ∧
    (Machine.Run step (Meets Settled) (create type devices) es c →
      ((∀ es₁ es₂ s, es = es₁ ++ es₂ → Machine.Run step (Meets Supplied) (create type devices) es₁ s →
          s.AnswersOnly) ↔
        Machine.Run step (Meets Answers) (create type devices) es c)) := by
  refine ⟨answersOnly_of_run, fun hsettled => ⟨fun hall => ?_, ?_⟩⟩
  · have hmeets := (always_answersOnly_iff hsettled).mp fun es₁ es₂ s hes hrun₁ =>
      hall es₁ es₂ s hes (hrun₁.mono fun _ _ hok op hop => (hok op hop).1)
    exact hmeets.mono fun _ _ hok op hop => (hok op hop).2
  · rintro hanswers es₁ es₂ s rfl hrun₁
    obtain ⟨s', hs'⟩ := hanswers.first
    cases hrun₁.unique hs'
    exact answersOnly_of_run hs'

/-! ## Runs -/

/-- An installation goes over a restart, after which its success is reported. -/
theorem terminal_statuses_answer_sample : ∃ c : FirmwareConnector, c.AnswersOnly ∧
    c.sys.svc.queue = [⟨"d", .success, .none⟩] := by
  obtain ⟨c, hrun, hqueue⟩ := Machine.Run.exists_of_check step (Meets Answers)
    (create .multiDevice [])
    [.connect, .install .working "d", .respond .working .willInstall,
      .restart .singleDevice ["d"], .task .working]
    (fun c => c.sys.svc.queue) [⟨"d", .success, .none⟩] (by decide +kernel)
  have hall := terminal_statuses_answer (hrun.mono fun _ _ hok op hop => (hok op hop).1)
  exact ⟨c, hall.1 hrun, hqueue⟩

/-- The first start of a device reports an error, though nothing was to be installed. -/
theorem error_without_request : ∃ c : FirmwareConnector,
    Machine.Run step (Meets Supplied) (create .singleDevice ["d"]) [.task .working] c ∧
      ¬ c.AnswersOnly := by
  obtain ⟨c, hrun, hc⟩ := Machine.Run.exists_of_check step (Meets Supplied)
    (create .singleDevice ["d"]) [.task .working]
    (fun c => (c.sys.endings "d", c.sys.accepted)) (1, []) (by decide +kernel)
  obtain ⟨hendings, haccepted⟩ := Prod.mk.injEq .. ▸ hc
  refine ⟨c, hrun, fun honly => ?_⟩
  have hle := honly "d"
  rw [hendings, haccepted] at hle
  exact absurd hle (by decide)

end FirmwareConnector

end WolkConnect
