import WolkConnect.Firmware.Pipeline
import Mathlib.Data.List.Forall2

/-!
# From the message to its report

`onFirmwareInstall` waits until `installFirmware` returns. Messages for other devices come meanwhile,
and the threads of the installer go on.
-/

namespace WolkConnect

/-- `asked` has the device and the file of each message that started an installation, and `requests` the
calls of `installFirmware` that the service waits for. `loaded` has the reports of `loadState`. -/
structure RolloutSystem where
  service : FirmwareUpdateService
  pipeline : PipelineSystem
  asked : List (String × String)
  requests : List (String × Nat)
  loaded : List FirmwareReport

inductive RolloutEvent
  | onFirmwareInstall (deviceKey file : String)
  | onFirmwareAbort (deviceKey : String)
  /-- This call of `installFirmware` returns to the service. -/
  | installed (call : Nat)
  /-- A call of the installer goes on, or another of its threads. -/
  | installer (e : PipelineEvent)
  /-- The connector has connected, and reports the last installation of the device. -/
  | loadState (deviceKey : String)
  | publishQueue

/-- The service does not call the installer. -/
def PipelineEvent.internal : PipelineEvent → Bool
  | .installFirmware _ _ | .abortFirmwareInstall _ => false
  | .installPackage _ | .answer _ | .finished _ _ | .execute _ | .report | .next _ | .wake _ => true

/-- What a call has returned. -/
def FirmwareCall.result (c : FirmwareCall) : Option InstallResponse :=
  if c.phase.pending then none else c.phase.response

namespace RolloutSystem

variable (ctx : FirmwareContext) (absolutePath : String → String)

/-- A service with what was left before it. -/
def create (queue : List FirmwareReport) (sessionFiles : OrderedMap String String) : RolloutSystem :=
  ⟨⟨.empty, queue, sessionFiles, []⟩, .create, [], [], []⟩

def onFirmwareInstall (sys : RolloutSystem) (deviceKey file : String) : RolloutSystem :=
  match ctx.firmwareInstaller with
  | none => sys
  | some installer =>
    if sys.service.ongoing deviceKey then sys
    else
      { sys with
        service := sys.service.beginInstall ctx deviceKey installer
        pipeline := { sys.pipeline with
          debian := sys.pipeline.debian.installFirmware deviceKey (ctx.deviceFile deviceKey file) }
        asked := sys.asked ++ [(deviceKey, file)]
        requests := sys.requests ++ [(deviceKey, sys.pipeline.debian.calls.length)] }

def onFirmwareAbort (sys : RolloutSystem) (deviceKey : String) : RolloutSystem :=
  if sys.service.onFirmwareAbort ctx deviceKey then
    { sys with pipeline := { sys.pipeline with
        debian := sys.pipeline.debian.notify (sys.pipeline.debian.installer.callOf deviceKey) } }
  else sys

def installed (sys : RolloutSystem) (call : Nat) : RolloutSystem :=
  match sys.requests.find? (·.2 = call), (sys.pipeline.debian.calls[call]?).bind (·.result) with
  | some (deviceKey, _), some response =>
    { sys with
      service := sys.service.finishInstall ctx deviceKey response
      requests := sys.requests.filter (·.2 ≠ call) }
  | _, _ => sys

def loadState (sys : RolloutSystem) (deviceKey : String) : RolloutSystem :=
  { sys with
    service := sys.service.loadState ctx deviceKey
    loaded := sys.loaded ++ sys.service.loadedReports ctx deviceKey }

def step (sys : RolloutSystem) : RolloutEvent → Except Empty RolloutSystem
  | .onFirmwareInstall deviceKey file => .ok (sys.onFirmwareInstall ctx deviceKey file)
  | .onFirmwareAbort deviceKey => .ok (sys.onFirmwareAbort ctx deviceKey)
  | .installed call => .ok (sys.installed ctx call)
  | .installer e =>
    match sys.pipeline.step absolutePath e with
    | .ok pipeline => .ok { sys with pipeline := pipeline }
  | .loadState deviceKey => .ok (sys.loadState ctx deviceKey)
  | .publishQueue => .ok { sys with service := sys.service.publishQueue }

/-- A message waits for the last one for its device, and the signals of APT are its own. -/
def Orderly (sys : RolloutSystem) : RolloutEvent → Prop
  | .onFirmwareInstall deviceKey _ => ∀ q ∈ sys.requests, q.1 ≠ deviceKey
  | .installer e => e.internal = true ∧ sys.pipeline.Orderly e
  | .onFirmwareAbort _ | .installed _ | .loadState _ | .publishQueue => True

instance (sys : RolloutSystem) : (e : RolloutEvent) → Decidable (sys.Orderly e)
  | .onFirmwareInstall _ _ => inferInstanceAs (Decidable (∀ _ ∈ _, _))
  | .installer _ => inferInstanceAs (Decidable (_ ∧ _))
  | .onFirmwareAbort _ | .installed _ | .loadState _ | .publishQueue => .isTrue trivial

end RolloutSystem

/-! ## Messages -/

/-- What `onFirmwareInstall` reports in the end. -/
def InstallResponse.message : InstallResponse → FirmwareUpdateStatusMessage
  | .failedToInstall => ⟨.error, .installationFailed⟩
  | .noFile => ⟨.error, .unknownFile⟩
  | .willInstall => ⟨.installing, .none⟩
  | .installed => ⟨.success, .none⟩

/-- `loadState` makes such a report: what the installer says of a version that was left in a session file,
or that there was none. -/
def FirmwareReport.Recounts (ctx : FirmwareContext) (r : FirmwareReport) : Prop :=
  r.message = ⟨.error, .unknown⟩ ∨ ∃ installer ∈ ctx.firmwareInstaller, ∃ version,
    r.message = installer.outcome r.deviceKey version

def FirmwareReport.final (r : FirmwareReport) : Bool := decide (r.message.status ≠ .installing)

namespace FirmwareUpdateService

variable {ctx : FirmwareContext} {svc svc' : FirmwareUpdateService} {rs : List FirmwareReport}

/-- The reports are published, and nothing is forgotten. -/
structure Sends (svc svc' : FirmwareUpdateService) (rs : List FirmwareReport) : Prop where
  published : svc'.published = svc.published ++ rs
  queue : svc'.queue = svc.queue
  ongoing : ∀ d, svc.ongoing d = true → svc'.ongoing d = true

theorem Sends.delete (h : Sends svc svc' rs) (deviceKey : String) :
    Sends svc (svc'.deleteSessionFile ctx deviceKey) rs := by
  rw [deleteSessionFile_eq]
  exact ⟨h.published, h.queue, h.ongoing⟩

variable (ctx svc) in
theorem sends_send (deviceKey : String) (m : FirmwareUpdateStatusMessage) :
    Sends svc (svc.sendStatusMessage ctx deviceKey m.status m.error)
      (reports ctx deviceKey m.status m.error) := by
  rw [sendStatusMessage_eq]
  exact ⟨rfl, rfl, fun _ => id⟩

variable (ctx svc) in
theorem sends_beginInstall (deviceKey : String) (installer : FirmwareInstaller) :
    Sends svc (svc.beginInstall ctx deviceKey installer) (reports ctx deviceKey .installing .none) := by
  unfold beginInstall storeSessionFile
  rw [sendStatusMessage_eq]
  split_ifs <;> exact ⟨rfl, rfl, fun _ => id⟩

variable (ctx svc) in
theorem sends_finishInstall (deviceKey : String) (response : InstallResponse) :
    Sends svc (svc.finishInstall ctx deviceKey response)
      (reports ctx deviceKey response.message.status response.message.error) := by
  cases response with
  | failedToInstall => exact (sends_send ctx svc deviceKey ⟨.error, .installationFailed⟩).delete _
  | noFile => exact (sends_send ctx svc deviceKey ⟨.error, .unknownFile⟩).delete _
  | installed => exact (sends_send ctx svc deviceKey ⟨.success, .none⟩).delete _
  | willInstall =>
    have h := sends_send ctx { svc with installation := svc.installation.insert deviceKey true } deviceKey
      ⟨.installing, .none⟩
    refine ⟨h.published, h.queue, fun d hd => h.ongoing d ?_⟩
    unfold ongoing at hd ⊢
    rw [OrderedMap.find?_insert]
    split_ifs
    · rfl
    · exact hd

/-- The device has no other installation from now on. -/
theorem ongoing_willInstall (ctx : FirmwareContext) (svc : FirmwareUpdateService) (deviceKey : String) :
    (svc.finishInstall ctx deviceKey .willInstall).ongoing deviceKey = true := by
  have hsend : svc.finishInstall ctx deviceKey .willInstall =
      sendStatusMessage ctx { svc with installation := svc.installation.insert deviceKey true } deviceKey
        .installing .none := rfl
  rw [hsend, sendStatusMessage_eq]
  unfold ongoing
  rw [OrderedMap.find?_insert_self]
  rfl

theorem reports_made (hmade : ∀ d m, ctx.makeOutboundMessage d m = true) (deviceKey : String)
    (m : FirmwareUpdateStatusMessage) : reports ctx deviceKey m.status m.error = [⟨deviceKey, m⟩] :=
  if_pos (hmade _ _)

theorem recounts_loadedReports (ctx : FirmwareContext) (svc : FirmwareUpdateService) (deviceKey : String)
    {r : FirmwareReport} (hr : r ∈ svc.loadedReports ctx deviceKey) : r.Recounts ctx := by
  rw [mem_reports ctx deviceKey _ _ hr]
  change loaded ctx svc deviceKey = _ ∨ ∃ installer ∈ ctx.firmwareInstaller, ∃ version,
    loaded ctx svc deviceKey = installer.outcome deviceKey version
  unfold loaded
  cases svc.readSessionFile ctx deviceKey with
  | none => exact .inl rfl
  | some content =>
    cases ctx.firmwareInstaller with
    | none => exact .inl rfl
    | some installer => exact .inr ⟨installer, rfl, content, rfl⟩

theorem filter_reports_installing (ctx : FirmwareContext) (deviceKey : String)
    (error : FirmwareUpdateError) :
    (reports ctx deviceKey .installing error).filter (·.final) = [] := by
  unfold reports
  split_ifs <;> rfl

end FirmwareUpdateService

/-! ## The Debian installer always finds a file -/

namespace DebianSystem

variable {sys : DebianSystem}

/-- No result is `NO_FILE`. -/
structure NeverNoFile (sys : DebianSystem) : Prop where
  results : ∀ d response, sys.installer.deviceInstallationResult.find? d = some response →
    response ≠ .noFile
  calls : ∀ c ∈ sys.calls, c.phase.response ≠ some .noFile

theorem NeverNoFile.set (h : sys.NeverNoFile) {c' : FirmwareCall} (hc' : c'.phase.response ≠ some .noFile)
    {installer : DebianPackageInstaller} (hresults : ∀ d response,
      installer.deviceInstallationResult.find? d = some response → response ≠ .noFile) (call : Nat) :
    NeverNoFile ⟨installer, sys.calls.set call c'⟩ := by
  refine ⟨hresults, fun c hc => ?_⟩
  rcases List.mem_or_eq_of_mem_set hc with hc | rfl
  · exact h.calls c hc
  · exact hc'

theorem NeverNoFile.advance (h : sys.NeverNoFile) {phase : FirmwareCallPhase} (hphase : phase.response = none)
    (call : Nat) (c : FirmwareCall) : (sys.advance call c phase).NeverNoFile :=
  h.set (by simp [hphase]) h.results call

theorem NeverNoFile.write (h : sys.NeverNoFile) {installer : DebianPackageInstaller} (hresults : ∀ d response,
    installer.deviceInstallationResult.find? d = some response → response ≠ .noFile) :
    NeverNoFile { sys with installer := installer } := ⟨hresults, h.calls⟩

theorem NeverNoFile.insert (h : sys.NeverNoFile) (deviceKey : String) {response : InstallResponse}
    (hne : response ≠ .noFile) (d : String) (response' : InstallResponse)
    (hd : (sys.installer.deviceInstallationResult.insert deviceKey response).find? d = some response') :
    response' ≠ .noFile := by
  rw [OrderedMap.find?_insert] at hd
  split_ifs at hd
  · cases hd
    exact hne
  · exact h.results d response' hd

theorem NeverNoFile.wake (h : sys.NeverNoFile) (call : Nat) : (sys.wake call).NeverNoFile := by
  rcases sys.wake_cases call with heq | ⟨c, -, -, heq⟩
  · rw [heq]
    exact h
  · rw [heq]
    exact h.advance rfl call c

theorem NeverNoFile.notify (h : sys.NeverNoFile) (call : Option Nat) :
    (sys.notify call).NeverNoFile := by
  cases call with
  | none => exact h
  | some call => exact h.wake call

theorem NeverNoFile.installFirmware (h : sys.NeverNoFile) (d f : String) :
    (sys.installFirmware d f).NeverNoFile := by
  refine ⟨fun d' response => h.insert d (by decide) d' response, fun c hc => ?_⟩
  rcases List.mem_append.mp hc with hc | hc
  · exact h.calls c hc
  · rw [List.mem_singleton.mp hc]
    simp [FirmwareCallPhase.response]

theorem NeverNoFile.updated (h : sys.NeverNoFile) (call : Nat) (result : InstallationResult) :
    (sys.updated call result).NeverNoFile := by
  unfold DebianSystem.updated
  split
  · exact h
  · split_ifs
    · exact h.advance rfl call _
    · exact h

theorem NeverNoFile.next (h : sys.NeverNoFile) (call : Nat) : (sys.next call).NeverNoFile := by
  unfold DebianSystem.next
  cases hc : sys.calls[call]? with
  | none => exact h
  | some c =>
    dsimp only
    cases hphase : c.phase with
    | updating | waiting | returned => exact h
    | locked | woken => exact h.advance rfl call c
    | updated installing =>
      cases installing with
      | true => exact h.advance rfl call c
      | false => exact (h.advance rfl call c).write (h.insert c.deviceKey (by decide))
    | finishing installing =>
      refine NeverNoFile.write (h.set ?_ h.results call) h.results
      cases hresult : sys.installer.deviceInstallationResult.find? c.deviceKey with
      | none => simp [FirmwareCallPhase.response, DebianPackageInstaller.finish, hresult]
      | some response =>
        simpa [FirmwareCallPhase.response, DebianPackageInstaller.finish, hresult] using h.results _ _ hresult
    | leaving installing response =>
      have hold := h.calls c (List.mem_of_getElem? hc)
      rw [hphase] at hold
      exact h.set hold h.results call

theorem NeverNoFile.callback (h : sys.NeverNoFile) (call : Nat) (result : InstallationResult)
    (restarted : Bool) : (sys.callback call result restarted).NeverNoFile := by
  unfold DebianSystem.callback
  cases hc : sys.calls[call]? with
  | none => exact h
  | some c =>
    dsimp only
    split_ifs
    · exact h
    · refine NeverNoFile.notify ?_ _
      refine h.set ?_ ?_ call
      · have hold := h.calls c (List.mem_of_getElem? hc)
        unfold FirmwareCall.hear
        split_ifs <;> exact hold
      · unfold DebianPackageInstaller.report
        split
        · exact h.results
        · exact h.insert c.deviceKey (by split_ifs <;> decide)
    · exact h.notify _

end DebianSystem

/-! ## Steps of the installer -/

namespace PipelineSystem

variable {absolutePath : String → String} {sys sys' : PipelineSystem}

theorem neverNoFile_step (h : sys.debian.NeverNoFile) {e : PipelineEvent}
    (hs : sys.step absolutePath e = .ok sys') : sys'.debian.NeverNoFile := by
  cases e with
  | installFirmware d f => cases hs; exact h.installFirmware d f
  | installPackage call =>
    cases hs
    unfold PipelineSystem.installPackage
    split
    · split_ifs <;> exact h
    · exact h
  | answer answer =>
    cases hs
    unfold PipelineSystem.answer
    split
    · exact h
    · dsimp only
      split
      · exact h.updated _ _
      · exact h
  | finished objectPath value => cases hs; exact h
  | execute restart =>
    cases hs
    unfold PipelineSystem.execute
    split
    · split <;> exact h
    · exact h
  | report =>
    cases hs
    unfold PipelineSystem.report
    split
    · exact h
    · split_ifs
      · exact h
      · exact h.callback _ _ _
  | next call => cases hs; exact h.next call
  | wake call => cases hs; exact h.wake call
  | abortFirmwareInstall d => cases hs; exact h.notify _

open DebianSystem in
/-- The calls of `installFirmware` are the same. -/
theorem goes_step {e : PipelineEvent} (he : e.internal = true)
    (hs : sys.step absolutePath e = .ok sys') : Pairs (fun _ => Goes) sys.debian sys'.debian := by
  have hsame : Pairs (fun _ => Goes) sys.debian sys.debian := .refl (fun _ => .refl) _
  have hfollows : ∀ {debian}, Pairs Follows sys.debian debian →
      Pairs (fun _ => Goes) sys.debian debian := fun h => h.mono fun _ _ _ h => h.goes
  cases e with
  | installFirmware | abortFirmwareInstall => cases he
  | installPackage call =>
    cases hs
    unfold PipelineSystem.installPackage
    split
    · split_ifs <;> exact hsame
    · exact hsame
  | answer answer =>
    cases hs
    unfold PipelineSystem.answer
    split
    · exact hsame
    · dsimp only
      split
      · exact (hears_updated _ _ _).mono fun _ _ _ h => h.goes
      · exact hsame
  | finished objectPath value => cases hs; exact hsame
  | execute restart =>
    cases hs
    unfold PipelineSystem.execute
    split
    · split <;> exact hsame
    · exact hsame
  | report =>
    cases hs
    unfold PipelineSystem.report
    split
    · exact hsame
    · split_ifs
      · exact hsame
      · exact (told_callback _ _ _ _).mono fun _ _ _ h => h.goes
  | next call => cases hs; exact hfollows (follows_next _ call)
  | wake call => cases hs; exact hfollows (follows_wake _ call)

end PipelineSystem

namespace RolloutSystem

variable {ctx : FirmwareContext} {absolutePath : String → String} {sys sys' : RolloutSystem}
  {queue own : List FirmwareReport} {answered : List Nat}

/-! ## Reports -/

/-- The report is the answer to the message behind the call, and rests on what was done for its file. -/
def Answers (ctx : FirmwareContext) (absolutePath : String → String) (sys : RolloutSystem)
    (r : FirmwareReport) (call : Nat) : Prop :=
  ∃ file, sys.asked[call]? = some (r.deviceKey, file) ∧
    let path := absolutePath (ctx.deviceFile r.deviceKey file)
    r.message = ⟨.success, .none⟩ ∧ sys.pipeline.Rests call path true ∨
      r.message = ⟨.error, .installationFailed⟩ ∧
        (sys.pipeline.Refused call path ∨ sys.pipeline.Rests call path false)

theorem Answers.mono {r : FirmwareReport} {call : Nat} (h : sys.Answers ctx absolutePath r call)
    (hasked : ∀ (call : Nat) q, sys.asked[call]? = some q → sys'.asked[call]? = some q)
    (hgrows : PipelineSystem.Grows sys.pipeline sys'.pipeline) :
    sys'.Answers ctx absolutePath r call := by
  obtain ⟨file, hfile, ⟨hmessage, hrests⟩ | ⟨hmessage, hrefused | hrests⟩⟩ := h
  · exact ⟨file, hasked _ _ hfile, .inl ⟨hmessage, hrests.mono hgrows⟩⟩
  · exact ⟨file, hasked _ _ hfile, .inr ⟨hmessage, .inl (hrefused.mono hgrows)⟩⟩
  · exact ⟨file, hasked _ _ hfile, .inr ⟨hmessage, .inr (hrests.mono hgrows)⟩⟩

/-- The calls are those of the messages, and the service waits for those that have not returned. -/
structure Called (ctx : FirmwareContext) (sys : RolloutSystem) : Prop where
  calls : sys.pipeline.debian.calls.map (fun c => (c.deviceKey, c.fileName)) =
    sys.asked.map fun q => (q.1, ctx.deviceFile q.1 q.2)
  pending : ∀ (call : Nat) c, sys.pipeline.debian.calls[call]? = some c → c.phase.pending = true →
    (c.deviceKey, call) ∈ sys.requests
  requests : ∀ q ∈ sys.requests, ∃ file, sys.asked[q.2]? = some (q.1, file)

/-- The final reports are the answers to different messages. Every message is answered, unless the
service waits for its call or never installs for the device again. -/
structure Balanced (ctx : FirmwareContext) (absolutePath : String → String) (queue : List FirmwareReport)
    (sys : RolloutSystem) (own : List FirmwareReport) (answered : List Nat) : Prop where
  published : (sys.service.published ++ sys.service.queue).Perm (queue ++ sys.loaded ++ own)
  reports : List.Forall₂ (sys.Answers ctx absolutePath) (own.filter (·.final)) answered
  nodup : answered.Nodup
  known : ∀ call ∈ answered, call < sys.asked.length
  waiting : ∀ q ∈ sys.requests, q.2 ∉ answered
  settled : (∀ d m, ctx.makeOutboundMessage d m = true) → ∀ (call : Nat) d file,
    sys.asked[call]? = some (d, file) →
      call ∈ answered ∨ (d, call) ∈ sys.requests ∨ sys.service.ongoing d = true

theorem Called.length (h : sys.Called ctx) : sys.pipeline.debian.calls.length = sys.asked.length := by
  have hlength := congrArg List.length h.calls
  rwa [List.length_map, List.length_map] at hlength

/-- A call is for the file of its message. -/
theorem Called.fileName (h : sys.Called ctx) {call : Nat} {c : FirmwareCall} {d file : String}
    (hc : sys.pipeline.debian.calls[call]? = some c) (hasked : sys.asked[call]? = some (d, file)) :
    c.fileName = ctx.deviceFile d file := by
  have hsame := congrArg (·[call]?) h.calls
  simp only [List.getElem?_map, hc, hasked, Option.map_some] at hsame
  exact (Prod.mk.inj (Option.some.inj hsame)).2

theorem Called.goes (h : sys.Called ctx) {pipeline : PipelineSystem}
    (hgoes : DebianSystem.Pairs (fun _ => DebianSystem.Goes) sys.pipeline.debian pipeline.debian) :
    Called ctx { sys with pipeline := pipeline } := by
  refine ⟨?_, fun call c' hc' hpending => ?_, h.requests⟩
  · refine Eq.trans (List.ext_getElem? fun i => ?_) h.calls
    rw [List.getElem?_map, List.getElem?_map]
    rcases hgoes i with ⟨hnone, hnone'⟩ | ⟨c, c', hc, hc', hg⟩
    · rw [hnone, hnone']
    · rw [hc, hc', Option.map_some, Option.map_some, hg.deviceKey, hg.fileName]
  · obtain ⟨c, hc, hg⟩ := hgoes.before hc'
    rw [hg.deviceKey]
    exact h.pending call c hc (hg.pending hpending)

theorem Called.onFirmwareInstall (h : sys.Called ctx) (d file : String) {service : FirmwareUpdateService} :
    Called ctx { sys with
      service := service
      pipeline := { sys.pipeline with
        debian := sys.pipeline.debian.installFirmware d (ctx.deviceFile d file) }
      asked := sys.asked ++ [(d, file)]
      requests := sys.requests ++ [(d, sys.pipeline.debian.calls.length)] } := by
  refine ⟨?_, fun call c hc hpending => ?_, fun q hq => ?_⟩
  · simp [DebianSystem.installFirmware, h.calls]
  · change (sys.pipeline.debian.calls ++ [_])[call]? = some c at hc
    rw [List.getElem?_append] at hc
    split_ifs at hc with hlt
    · exact List.mem_append_left _ (h.pending call c hc hpending)
    · have hlast := (List.getElem?_eq_some_iff.mp hc).1
      rw [List.length_singleton] at hlast
      obtain rfl := List.mem_singleton.mp (List.mem_of_getElem? hc)
      obtain rfl : call = sys.pipeline.debian.calls.length := by omega
      exact List.mem_append_right _ List.mem_cons_self
  · rcases List.mem_append.mp hq with hq | hq
    · obtain ⟨file', hfile⟩ := h.requests q hq
      exact ⟨file', by rw [List.getElem?_append_left (List.getElem?_eq_some_iff.mp hfile).1, hfile]⟩
    · rw [List.mem_singleton.mp hq, h.length]
      exact ⟨file, List.getElem?_concat_length⟩

theorem Called.installed (h : sys.Called ctx) {call : Nat} {c : FirmwareCall}
    (hc : sys.pipeline.debian.calls[call]? = some c) {response : InstallResponse}
    (hresult : c.result = some response) {service : FirmwareUpdateService} :
    Called ctx { sys with service := service, requests := sys.requests.filter (·.2 ≠ call) } := by
  refine ⟨h.calls, fun i c' hc' hpending => ?_, fun q hq => h.requests q (List.mem_filter.mp hq).1⟩
  refine List.mem_filter.mpr ⟨h.pending i c' hc' hpending, decide_eq_true ?_⟩
  rintro rfl
  obtain rfl : c = c' := Option.some.inj (hc.symm.trans hc')
  rw [FirmwareCall.result, if_pos hpending] at hresult
  cases hresult

theorem Called.apart (h : sys.Called ctx) {d file : String} (hok : sys.Orderly (.onFirmwareInstall d file)) :
    sys.pipeline.debian.Apart (.installFirmware d (ctx.deviceFile d file)) := by
  intro c hc hpending
  obtain ⟨call, hc⟩ := List.mem_iff_getElem?.mp hc
  exact hok _ (h.pending call c hc hpending)

/-! ## Balance -/

theorem perm_sends {svc svc' : FirmwareUpdateService} {rs others : List FirmwareReport}
    (h : (svc.published ++ svc.queue).Perm (others ++ own)) (hsends : svc.Sends svc' rs) :
    (svc'.published ++ svc'.queue).Perm (others ++ (own ++ rs)) := by
  rw [hsends.published, hsends.queue, ← List.append_assoc]
  refine List.Perm.trans ?_ (h.append_right rs)
  rw [List.append_assoc, List.append_assoc]
  exact List.perm_append_comm.append_left _

theorem Balanced.same (h : sys.Balanced ctx absolutePath queue own answered)
    (hservice : sys'.service = sys.service) (hasked : sys'.asked = sys.asked)
    (hrequests : sys'.requests = sys.requests) (hloaded : sys'.loaded = sys.loaded)
    (hgrows : PipelineSystem.Grows sys.pipeline sys'.pipeline) :
    sys'.Balanced ctx absolutePath queue own answered where
  published := hloaded ▸ hservice ▸ h.published
  reports := h.reports.imp fun _ _ hr => hr.mono (fun _ _ => hasked ▸ id) hgrows
  nodup := h.nodup
  known := hasked ▸ h.known
  waiting := hrequests ▸ h.waiting
  settled := by
    rw [hasked, hrequests, hservice]
    exact h.settled

theorem Balanced.publishQueue (h : sys.Balanced ctx absolutePath queue own answered) :
    Balanced ctx absolutePath queue { sys with service := sys.service.publishQueue } own answered where
  published := by
    rw [FirmwareUpdateService.publishQueue, List.append_nil]
    exact h.published
  reports := h.reports
  nodup := h.nodup
  known := h.known
  waiting := h.waiting
  settled := h.settled

/-- `loadState` leaves what is going on alone, and its report is none of the answers. -/
theorem Balanced.loadState (h : sys.Balanced ctx absolutePath queue own answered) (d : String) :
    (sys.loadState ctx d).Balanced ctx absolutePath queue own answered where
  published := by
    rw [RolloutSystem.loadState, FirmwareUpdateService.loadState_eq,
      FirmwareUpdateService.deleteSessionFile_eq]
    have hmoved : (queue ++ sys.loaded ++ own ++ sys.service.loadedReports ctx d).Perm
        (queue ++ sys.loaded ++ (sys.service.loadedReports ctx d ++ own)) := by
      rw [List.append_assoc _ own]
      exact List.perm_append_comm.append_left _
    dsimp only
    rw [← List.append_assoc, ← List.append_assoc queue, List.append_assoc _ _ own]
    exact (h.published.append_right _).trans hmoved
  reports := h.reports.imp fun _ _ hr => hr.mono (fun _ _ => id) (.refl _)
  nodup := h.nodup
  known := h.known
  waiting := h.waiting
  settled := by
    have hongoing : ∀ d', (sys.service.loadState ctx d).ongoing d' = sys.service.ongoing d' := by
      intro d'
      unfold FirmwareUpdateService.ongoing
      rw [FirmwareUpdateService.installation_loadState]
    intro hmade call d' file hasked
    change _ ∨ _ ∨ (sys.service.loadState ctx d).ongoing d' = true
    rw [hongoing]
    exact h.settled hmade call d' file hasked

theorem Balanced.onFirmwareInstall (h : sys.Balanced ctx absolutePath queue own answered)
    (hcalled : sys.Called ctx) (d file : String) (installer : FirmwareInstaller) :
    Balanced ctx absolutePath queue
      { sys with
        service := sys.service.beginInstall ctx d installer
        pipeline := { sys.pipeline with
          debian := sys.pipeline.debian.installFirmware d (ctx.deviceFile d file) }
        asked := sys.asked ++ [(d, file)]
        requests := sys.requests ++ [(d, sys.pipeline.debian.calls.length)] }
      (own ++ FirmwareUpdateService.reports ctx d .installing .none) answered := by
  have hsends := FirmwareUpdateService.sends_beginInstall ctx sys.service d installer
  refine ⟨perm_sends h.published hsends, ?_, h.nodup, fun call hcall => ?_, fun q hq => ?_,
    fun hmade call d' file' hasked => ?_⟩
  · rw [List.filter_append, FirmwareUpdateService.filter_reports_installing, List.append_nil]
    refine h.reports.imp fun r call hr => hr.mono (fun i q hq => ?_) (.same rfl rfl List.prefix_rfl)
    exact (List.getElem?_append_left (List.getElem?_eq_some_iff.mp hq).1).trans hq
  · rw [List.length_append]
    exact Nat.lt_add_right _ (h.known call hcall)
  · rcases List.mem_append.mp hq with hq | hq
    · exact h.waiting q hq
    · rw [List.mem_singleton.mp hq]
      intro hmem
      exact absurd (h.known _ hmem) (by rw [hcalled.length]; exact Nat.lt_irrefl _)
  · change (sys.asked ++ [(d, file)])[call]? = some (d', file') at hasked
    rw [List.getElem?_append] at hasked
    split_ifs at hasked with hlt
    · rcases h.settled hmade call d' file' hasked with hanswered | hwaiting | hongoing
      · exact .inl hanswered
      · exact .inr (.inl (List.mem_append_left _ hwaiting))
      · exact .inr (.inr (hsends.ongoing d' hongoing))
    · have hlast := (List.getElem?_eq_some_iff.mp hasked).1
      rw [List.length_singleton] at hlast
      cases List.mem_singleton.mp (List.mem_of_getElem? hasked)
      refine .inr (.inl (List.mem_append_right _ ?_))
      rw [hcalled.length, List.mem_singleton]
      congr 1
      omega

theorem filter_reports (d : String) (m : FirmwareUpdateStatusMessage) :
    (FirmwareUpdateService.reports ctx d m.status m.error).filter (·.final) = [] ∨
      (⟨d, m⟩ : FirmwareReport).final = true ∧
        (FirmwareUpdateService.reports ctx d m.status m.error).filter (·.final) = [⟨d, m⟩] := by
  unfold FirmwareUpdateService.reports
  split_ifs
  · cases hfinal : (⟨d, m⟩ : FirmwareReport).final with
    | true => exact .inr ⟨rfl, List.filter_cons_of_pos hfinal⟩
    | false => exact .inl (List.filter_cons_of_neg (by simp [hfinal]))
  · exact .inl rfl

/-- Without a report the device has no other installation. -/
theorem ongoing_of_unreported (hmade : ∀ d m, ctx.makeOutboundMessage d m = true)
    {svc : FirmwareUpdateService} {d : String} {response : InstallResponse}
    (hnone : (FirmwareUpdateService.reports ctx d response.message.status
      response.message.error).filter (·.final) = []) :
    (svc.finishInstall ctx d response).ongoing d = true := by
  rw [FirmwareUpdateService.reports_made hmade] at hnone
  cases response with
  | willInstall => exact FirmwareUpdateService.ongoing_willInstall ctx svc d
  | failedToInstall | noFile | installed => cases hnone

/-- The service reports the end of one call, or leaves its device alone from now on. -/
theorem Balanced.installed (h : sys.Balanced ctx absolutePath queue own answered) {d file : String}
    {call : Nat} (hq : (d, call) ∈ sys.requests) (hasked : sys.asked[call]? = some (d, file))
    {response : InstallResponse} (hanswers : (⟨d, response.message⟩ : FirmwareReport).final = true →
      sys.Answers ctx absolutePath ⟨d, response.message⟩ call) :
    ∃ own answered, Balanced ctx absolutePath queue
      { sys with
        service := sys.service.finishInstall ctx d response
        requests := sys.requests.filter (·.2 ≠ call) } own answered := by
  have hsends := FirmwareUpdateService.sends_finishInstall ctx sys.service d response
  have hpublished := perm_sends h.published hsends
  have hkept : List.Forall₂ (Answers ctx absolutePath { sys with
      service := sys.service.finishInstall ctx d response
      requests := sys.requests.filter (·.2 ≠ call) }) (own.filter (·.final)) answered :=
    h.reports.imp fun _ _ hr => hr.mono (fun _ _ => id) (.refl _)
  -- The other calls are as settled as before.
  have hsettled : ∀ answered' : List Nat, answered ⊆ answered' →
      ((∀ d m, ctx.makeOutboundMessage d m = true) →
        call ∈ answered' ∨ (sys.service.finishInstall ctx d response).ongoing d = true) →
      (∀ d m, ctx.makeOutboundMessage d m = true) → ∀ (i : Nat) d' file', sys.asked[i]? = some (d', file') →
        i ∈ answered' ∨ (d', i) ∈ sys.requests.filter (·.2 ≠ call) ∨
          (sys.service.finishInstall ctx d response).ongoing d' = true := by
    intro answered' hsubset hcall hmade i d' file' hi
    by_cases hne : i = call
    · subst hne
      cases hasked.symm.trans hi
      exact (hcall hmade).imp id .inr
    · rcases h.settled hmade i d' file' hi with hmem | hmem | hongoing
      · exact .inl (hsubset hmem)
      · exact .inr (.inl (List.mem_filter.mpr ⟨hmem, decide_eq_true hne⟩))
      · exact .inr (.inr (hsends.ongoing d' hongoing))
  rcases filter_reports d response.message with hnone | ⟨hfinal, hone⟩
  · refine ⟨_, answered, hpublished, ?_, h.nodup, h.known,
      fun q hq => h.waiting q (List.mem_filter.mp hq).1,
      hsettled answered (List.Subset.refl _) fun hmade => .inr (ongoing_of_unreported hmade hnone)⟩
    rw [List.filter_append, hnone, List.append_nil]
    exact hkept
  · refine ⟨_, answered ++ [call], hpublished, ?_, ?_, fun i hi => ?_, fun q hq' hmem => ?_,
      hsettled _ (List.subset_append_left _ _) fun _ => .inl (List.mem_append_right _ List.mem_cons_self)⟩
    · rw [List.filter_append, hone]
      exact List.rel_append hkept (.cons ((hanswers hfinal).mono (fun _ _ => id) (.refl _)) .nil)
    · exact List.nodup_append.mpr ⟨h.nodup, List.nodup_cons.mpr ⟨nofun, .nil⟩, fun i hi j hj hij =>
        h.waiting _ hq (List.mem_singleton.mp hj ▸ hij ▸ hi)⟩
    · rcases List.mem_append.mp hi with hi | hi
      · exact h.known i hi
      · rw [List.mem_singleton.mp hi]
        exact (List.getElem?_eq_some_iff.mp hasked).1
    · obtain ⟨hq', hne⟩ := List.mem_filter.mp hq'
      rcases List.mem_append.mp hmem with hmem | hmem
      · exact h.waiting q hq' hmem
      · exact of_decide_eq_true hne (List.mem_singleton.mp hmem)

/-! ## Runs -/

structure Accounted (ctx : FirmwareContext) (absolutePath : String → String) (queue : List FirmwareReport)
    (sys : RolloutSystem) : Prop where
  linked : sys.pipeline.Linked absolutePath
  neverNoFile : sys.pipeline.debian.NeverNoFile
  called : sys.Called ctx
  recounts : ∀ r ∈ sys.loaded, r.Recounts ctx
  balanced : ∃ own answered, sys.Balanced ctx absolutePath queue own answered

theorem Accounted.onFirmwareInstall (h : sys.Accounted ctx absolutePath queue) {d file : String}
    (hok : sys.Orderly (.onFirmwareInstall d file)) :
    (sys.onFirmwareInstall ctx d file).Accounted ctx absolutePath queue := by
  unfold RolloutSystem.onFirmwareInstall
  split
  · exact h
  · split_ifs
    · exact h
    · obtain ⟨own, answered, hbalanced⟩ := h.balanced
      exact ⟨h.linked.installFirmware (h.called.apart hok), h.neverNoFile.installFirmware _ _,
        h.called.onFirmwareInstall d file, h.recounts, _, _, hbalanced.onFirmwareInstall h.called d file _⟩

theorem Accounted.onFirmwareAbort (h : sys.Accounted ctx absolutePath queue) (d : String) :
    (sys.onFirmwareAbort ctx d).Accounted ctx absolutePath queue := by
  unfold RolloutSystem.onFirmwareAbort
  split_ifs
  · obtain ⟨own, answered, hbalanced⟩ := h.balanced
    have hfollows := DebianSystem.follows_notify sys.pipeline.debian
      (sys.pipeline.debian.installer.callOf d)
    exact ⟨h.linked.follows (h.linked.attributed.notify _) hfollows, h.neverNoFile.notify _,
      h.called.goes (hfollows.mono fun _ _ _ hf => hf.goes), h.recounts, own, answered,
      hbalanced.same rfl rfl rfl rfl (.same rfl rfl List.prefix_rfl)⟩
  · exact h

theorem Accounted.loadState (h : sys.Accounted ctx absolutePath queue) (d : String) :
    (sys.loadState ctx d).Accounted ctx absolutePath queue := by
  obtain ⟨own, answered, hbalanced⟩ := h.balanced
  refine ⟨h.linked, h.neverNoFile, ⟨h.called.calls, h.called.pending, h.called.requests⟩, fun r hr => ?_,
    own, answered, hbalanced.loadState d⟩
  rcases List.mem_append.mp hr with hr | hr
  · exact h.recounts r hr
  · exact FirmwareUpdateService.recounts_loadedReports ctx sys.service d hr

theorem Accounted.installed (h : sys.Accounted ctx absolutePath queue) (call : Nat) :
    (sys.installed ctx call).Accounted ctx absolutePath queue := by
  unfold RolloutSystem.installed
  split
  · rename_i d i response hfind hbind
    obtain ⟨c, hc, hresult⟩ := Option.bind_eq_some_iff.mp hbind
    have hmem := List.mem_of_find?_eq_some hfind
    have hsame := List.find?_some hfind
    obtain rfl : i = call := of_decide_eq_true hsame
    obtain ⟨file, hasked⟩ := h.called.requests _ hmem
    have hfileName := h.called.fileName hc hasked
    have hresponse : c.phase.response = some response := by
      unfold FirmwareCall.result at hresult
      split_ifs at hresult
      exact hresult
    obtain ⟨own, answered, hbalanced⟩ := h.balanced
    refine ⟨h.linked, h.neverNoFile, h.called.installed hc hresult, h.recounts,
      hbalanced.installed hmem hasked fun hfinal => ⟨file, hasked, ?_⟩⟩
    -- What the call returns rests on what was done for its file.
    dsimp only
    rw [← hfileName]
    cases response with
    | installed => exact .inl ⟨rfl, h.linked.of_installed hc hresponse⟩
    | failedToInstall => exact .inr ⟨rfl, h.linked.of_failed hc hresponse⟩
    | willInstall => cases hfinal
    | noFile => exact absurd hresponse (h.neverNoFile.calls c (List.mem_of_getElem? hc))
  · exact h

theorem Accounted.installer (h : sys.Accounted ctx absolutePath queue) {e : PipelineEvent}
    (hok : sys.Orderly (.installer e)) {pipeline : PipelineSystem}
    (hs : sys.pipeline.step absolutePath e = .ok pipeline) :
    Accounted ctx absolutePath queue { sys with pipeline := pipeline } := by
  obtain ⟨own, answered, hbalanced⟩ := h.balanced
  exact ⟨h.linked.step hok.2 hs, PipelineSystem.neverNoFile_step h.neverNoFile hs,
    h.called.goes (PipelineSystem.goes_step hok.1 hs), h.recounts, own, answered,
    hbalanced.same rfl rfl rfl rfl (PipelineSystem.grows_step hok.2 hs)⟩

theorem Accounted.step (h : sys.Accounted ctx absolutePath queue) {e : RolloutEvent} (hok : sys.Orderly e)
    (hs : sys.step ctx absolutePath e = .ok sys') : sys'.Accounted ctx absolutePath queue := by
  cases e with
  | onFirmwareInstall d file => cases hs; exact h.onFirmwareInstall hok
  | onFirmwareAbort d => cases hs; exact h.onFirmwareAbort d
  | installed call => cases hs; exact h.installed call
  | installer e =>
    cases hpipeline : sys.pipeline.step absolutePath e with
    | error fault => exact fault.elim
    | ok pipeline =>
      simp only [RolloutSystem.step, hpipeline] at hs
      cases hs
      exact h.installer hok hpipeline
  | loadState d => cases hs; exact h.loadState d
  | publishQueue =>
    cases hs
    obtain ⟨own, answered, hbalanced⟩ := h.balanced
    exact ⟨h.linked, h.neverNoFile, ⟨h.called.calls, h.called.pending, h.called.requests⟩, h.recounts, own,
      answered, hbalanced.publishQueue⟩

theorem accounted_create (ctx : FirmwareContext) (absolutePath : String → String)
    (queue : List FirmwareReport) (sessionFiles : OrderedMap String String) :
    (create queue sessionFiles).Accounted ctx absolutePath queue where
  linked := PipelineSystem.linked_create
  neverNoFile := ⟨nofun, nofun⟩
  called := ⟨rfl, nofun, nofun⟩
  recounts := nofun
  balanced := ⟨[], [], by rw [List.append_nil, create, List.append_nil]; exact .refl _, .nil, .nil, nofun, nofun, nofun⟩

end RolloutSystem

end WolkConnect
