import WolkConnect.Firmware.Apt
import WolkConnect.Firmware.Model

/-!
# Installing a firmware package

`DebianPackageInstaller.cpp`: calls of `installFirmware`, step by step. A call waits for the callback
of its update, with a mutex that the callback holds weakly.
-/

namespace WolkConnect

/-- The members of the class. A condition variable is that of the call with this number. -/
structure DebianPackageInstaller where
  devicesInstallingFiles : OrderedMap String String
  deviceInstallationResult : OrderedMap String InstallResponse
  conditionVariables : OrderedMap String Nat

namespace DebianPackageInstaller

variable (x : DebianPackageInstaller) (deviceKey fileName : String)

def create : DebianPackageInstaller := ⟨.empty, .empty, .empty⟩

/-- What `update` returns. -/
def updateStarts (result : InstallationResult) : Bool := decide (result = .installing)

/-- What the callback of `update` is called with. The service is restarted if the package was
installed. -/
def updateSucceeds (result : InstallationResult) (restarted : Bool) : Bool :=
  if result = .installed then restarted else false

/-- The first block of `installFirmware`. -/
def prepare (call : Nat) : DebianPackageInstaller where
  devicesInstallingFiles := x.devicesInstallingFiles.insert deviceKey fileName
  deviceInstallationResult := x.deviceInstallationResult.insert deviceKey .willInstall
  conditionVariables := x.conditionVariables.insert fileName call

def refuse : DebianPackageInstaller :=
  { x with deviceInstallationResult := x.deviceInstallationResult.insert deviceKey .failedToInstall }

/-- What the callback writes. -/
def report (installation : Bool) : DebianPackageInstaller :=
  match x.deviceInstallationResult.find? deviceKey with
  | none => x
  | some _ =>
    { x with
      deviceInstallationResult := x.deviceInstallationResult.insert deviceKey
        (if installation then .installed else .failedToInstall) }

/-- The last block of `installFirmware`. -/
def finish : InstallResponse × DebianPackageInstaller :=
  ((x.deviceInstallationResult.find? deviceKey).getD .failedToInstall,
    { x with
      devicesInstallingFiles := x.devicesInstallingFiles.erase deviceKey
      conditionVariables := x.conditionVariables.erase fileName })

/-- The call that `abortFirmwareInstall` notifies. -/
def callOf : Option Nat :=
  (x.devicesInstallingFiles.find? deviceKey).bind x.conditionVariables.find?

end DebianPackageInstaller

/-- Where a call of `installFirmware` is, after its first block. The mutex of the call goes with its
variables when it has returned. -/
inductive FirmwareCallPhase
  | updating
  | updated (installing : Bool)
  /-- The call holds its mutex. -/
  | locked
  | waiting
  /-- The wait is over, and the call holds its mutex again. -/
  | woken
  | finishing (installing : Bool)
  /-- The `return` of the last block has been executed. -/
  | leaving (installing : Bool) (response : InstallResponse)
  | returned (installing : Bool) (response : InstallResponse)
  deriving DecidableEq

namespace FirmwareCallPhase

/-- What `update` has returned. -/
def installing : FirmwareCallPhase → Option Bool
  | .updating => none
  | .updated installing | .finishing installing | .leaving installing _ | .returned installing _ =>
    some installing
  | .locked | .waiting | .woken => some true

def response : FirmwareCallPhase → Option InstallResponse
  | .leaving _ response | .returned _ response => some response
  | .updating | .updated _ | .locked | .waiting | .woken | .finishing _ => none

def holdsMutex : FirmwareCallPhase → Bool
  | .locked | .woken => true
  | .updating | .updated _ | .waiting | .finishing _ | .leaving _ _ | .returned _ _ => false

def pending : FirmwareCallPhase → Bool
  | .returned _ _ => false
  | .updating | .updated _ | .locked | .waiting | .woken | .finishing _ | .leaving _ _ => true

end FirmwareCallPhase

/-- `reports` has what the callback of the call has reported before the `return`. -/
structure FirmwareCall where
  deviceKey : String
  fileName : String
  phase : FirmwareCallPhase
  reports : List Bool

namespace FirmwareCall

variable (c : FirmwareCall)

def hear (installation : Bool) : FirmwareCall :=
  if c.phase.response = none then { c with reports := c.reports ++ [installation] } else c

/-- The response comes from what happened to the call itself. -/
structure Earned (response : InstallResponse) : Prop where
  installed : response = .installed → true ∈ c.reports
  failedToInstall : response = .failedToInstall →
    c.phase.installing = some false ∨ false ∈ c.reports
  willInstall : response = .willInstall → c.reports = []

end FirmwareCall

inductive DebianEvent
  | installFirmware (deviceKey fileName : String)
  /-- `update` returns to the call. -/
  | updated (call : Nat) (result : InstallationResult)
  | next (call : Nat)
  /-- The wait of the call ends, for no reason or because its time is over. -/
  | wake (call : Nat)
  /-- The callback of the update runs, and the service is restarted or not. -/
  | callback (call : Nat) (result : InstallationResult) (restarted : Bool)
  | abortFirmwareInstall (deviceKey : String)

structure DebianSystem where
  installer : DebianPackageInstaller
  calls : List FirmwareCall

namespace DebianSystem

variable (sys : DebianSystem)

def create : DebianSystem := ⟨.create, []⟩

def installFirmware (deviceKey fileName : String) : DebianSystem :=
  ⟨sys.installer.prepare deviceKey fileName sys.calls.length,
    sys.calls ++ [⟨deviceKey, fileName, .updating, []⟩]⟩

def advance (call : Nat) (c : FirmwareCall) (phase : FirmwareCallPhase) : DebianSystem :=
  { sys with calls := sys.calls.set call { c with phase := phase } }

def wake (call : Nat) : DebianSystem :=
  match sys.calls[call]? with
  | none => sys
  | some c => if c.phase = .waiting then sys.advance call c .woken else sys

/-- `notify_one`, on the condition variable of a call. -/
def notify : Option Nat → DebianSystem
  | none => sys
  | some call => sys.wake call

def updated (call : Nat) (result : InstallationResult) : DebianSystem :=
  match sys.calls[call]? with
  | none => sys
  | some c =>
    if c.phase = .updating then
      sys.advance call c (.updated (DebianPackageInstaller.updateStarts result))
    else sys

def next (call : Nat) : DebianSystem :=
  match sys.calls[call]? with
  | none => sys
  | some c =>
    match c.phase with
    | .updating | .waiting | .returned _ _ => sys
    | .updated true => sys.advance call c .locked
    | .updated false =>
      { sys.advance call c (.finishing false) with installer := sys.installer.refuse c.deviceKey }
    | .locked => sys.advance call c .waiting
    | .woken => sys.advance call c (.finishing true)
    | .finishing installing =>
      let finished := sys.installer.finish c.deviceKey c.fileName
      { sys.advance call c (.leaving installing finished.1) with installer := finished.2 }
    | .leaving installing response => sys.advance call c (.returned installing response)

/-- The callback waits while the call holds its mutex. It writes when there still is a mutex. -/
def callback (call : Nat) (result : InstallationResult) (restarted : Bool) : DebianSystem :=
  match sys.calls[call]? with
  | none => sys
  | some c =>
    let installation := DebianPackageInstaller.updateSucceeds result restarted
    if c.phase.holdsMutex then sys
    else if c.phase.pending then
      ({ installer := sys.installer.report c.deviceKey installation
         calls := sys.calls.set call (c.hear installation) } : DebianSystem).notify
        (sys.installer.conditionVariables.find? c.fileName)
    else sys.notify (sys.installer.conditionVariables.find? c.fileName)

def step (sys : DebianSystem) : DebianEvent → Except Empty DebianSystem
  | .installFirmware deviceKey fileName => .ok (sys.installFirmware deviceKey fileName)
  | .updated call result => .ok (sys.updated call result)
  | .next call => .ok (sys.next call)
  | .wake call => .ok (sys.wake call)
  | .callback call result restarted => .ok (sys.callback call result restarted)
  | .abortFirmwareInstall deviceKey => .ok (sys.notify (sys.installer.callOf deviceKey))

/-- The calls for a device do not overlap. -/
def Apart (sys : DebianSystem) : DebianEvent → Prop
  | .installFirmware deviceKey _ => ∀ c ∈ sys.calls, c.phase.pending = true → c.deviceKey ≠ deviceKey
  | .updated _ _ | .next _ | .wake _ | .callback _ _ _ | .abortFirmwareInstall _ => True

instance (sys : DebianSystem) : (e : DebianEvent) → Decidable (sys.Apart e)
  | .installFirmware _ _ => inferInstanceAs (Decidable (∀ _ ∈ _, _ → _ ≠ _))
  | .updated _ _ | .next _ | .wake _ | .callback _ _ _ | .abortFirmwareInstall _ => isTrue trivial

end DebianSystem

/-! ## Results of calls -/

namespace FirmwareCall

variable {c c' : FirmwareCall} {m m' : OrderedMap String InstallResponse} {response : InstallResponse}

/-- What the call returns, or what is recorded for its device before that, is earned. -/
def Recorded (c : FirmwareCall) (m : OrderedMap String InstallResponse) : Prop :=
  ∃ response, c.Earned response ∧
    (c.phase.response = some response ∨
      c.phase.response = none ∧ m.find? c.deviceKey = some response)

theorem earned_installed (h : true ∈ c.reports) : c.Earned .installed where
  installed _ := h
  failedToInstall hr := by cases hr
  willInstall hr := by cases hr

theorem earned_failedToInstall (h : c.phase.installing = some false ∨ false ∈ c.reports) :
    c.Earned .failedToInstall where
  installed hr := by cases hr
  failedToInstall _ := h
  willInstall hr := by cases hr

theorem earned_willInstall (h : c.reports = []) : c.Earned .willInstall where
  installed hr := by cases hr
  failedToInstall hr := by cases hr
  willInstall _ := h

theorem Earned.congr (h : c.Earned response) (hreports : c'.reports = c.reports)
    (hrefused : c.phase.installing = some false → c'.phase.installing = some false) :
    c'.Earned response where
  installed hr := hreports ▸ h.installed hr
  failedToInstall hr := by
    rw [hreports]
    exact (h.failedToInstall hr).imp_left hrefused
  willInstall hr := hreports.trans (h.willInstall hr)

theorem pending_of_response (h : c.phase.response = none) : c.phase.pending = true := by
  cases hphase : c.phase with
  | leaving | returned => rw [hphase] at h; cases h
  | updating | updated | locked | waiting | woken | finishing => rfl

/-- Only what is recorded for the device of a call that has not returned matters. -/
theorem Recorded.frame (h : c.Recorded m)
    (hsame : c.phase.pending = true → m'.find? c.deviceKey = m.find? c.deviceKey) : c.Recorded m' := by
  obtain ⟨response, hearned, hreturned | ⟨hnone, hfind⟩⟩ := h
  · exact ⟨response, hearned, .inl hreturned⟩
  · exact ⟨response, hearned, .inr ⟨hnone, (hsame (pending_of_response hnone)).trans hfind⟩⟩

/-- A call goes on to a phase in which it knows as much about its update. -/
theorem Recorded.advance (h : c.Recorded m) {phase : FirmwareCallPhase}
    (hresponse : phase.response = c.phase.response)
    (hrefused : c.phase.installing = some false → phase.installing = some false) :
    ({ c with phase := phase } : FirmwareCall).Recorded m := by
  obtain ⟨response, hearned, hreturned⟩ := h
  refine ⟨response, hearned.congr rfl hrefused, ?_⟩
  rw [hresponse]
  exact hreturned

end FirmwareCall

namespace DebianSystem

/-- Every result is earned, and the calls that have not returned are for different devices. -/
structure Attributed (sys : DebianSystem) : Prop where
  recorded : ∀ c ∈ sys.calls, c.Recorded sys.installer.deviceInstallationResult
  apart : ∀ (i j : Nat) c c', sys.calls[i]? = some c → sys.calls[j]? = some c' →
    c.phase.pending = true → c'.phase.pending = true → c.deviceKey = c'.deviceKey → i = j

variable {sys sys' : DebianSystem} {es : List DebianEvent}

/-- What a call returns it has earned. -/
theorem Attributed.earned (h : sys.Attributed) {c : FirmwareCall} (hc : c ∈ sys.calls)
    {response : InstallResponse} (hresponse : c.phase.response = some response) : c.Earned response := by
  obtain ⟨response', hearned, hsame | ⟨hnone, -⟩⟩ := h.recorded c hc
  · rw [hresponse] at hsame
    cases hsame
    exact hearned
  · rw [hresponse] at hnone
    cases hnone

/-- A step of a call that has not returned, which may write the result of its device. -/
theorem Attributed.set (h : sys.Attributed) {call : Nat} {c c' : FirmwareCall}
    (hc : sys.calls[call]? = some c) (hpending : c.phase.pending = true)
    {installer : DebianPackageInstaller}
    (hrecorded : c'.Recorded installer.deviceInstallationResult) (hdevice : c'.deviceKey = c.deviceKey)
    (hother : ∀ deviceKey, c.deviceKey ≠ deviceKey →
      installer.deviceInstallationResult.find? deviceKey =
        sys.installer.deviceInstallationResult.find? deviceKey) :
    Attributed ⟨installer, sys.calls.set call c'⟩ := by
  constructor
  · intro b hb
    obtain ⟨j, hj⟩ := List.mem_iff_getElem?.mp hb
    rw [List.getElem?_set] at hj
    split_ifs at hj with hcall
    · cases hj
      exact hrecorded
    · refine (h.recorded b (List.mem_of_getElem? hj)).frame fun hb' => hother b.deviceKey fun heq => ?_
      exact hcall (h.apart call j c b hc hj hpending hb' heq)
  · intro i j b b' hi hj hb hb' heq
    -- The call that takes the step is for the same device as before.
    have hbefore : ∀ (k : Nat) d, (sys.calls.set call c')[k]? = some d → d.phase.pending = true →
        ∃ d', sys.calls[k]? = some d' ∧ d'.phase.pending = true ∧ d'.deviceKey = d.deviceKey := by
      intro k d hk hd
      rw [List.getElem?_set] at hk
      split_ifs at hk with hcall
      · cases hk
        exact ⟨c, hcall ▸ hc, hpending, hdevice.symm⟩
      · exact ⟨d, hk, hd, rfl⟩
    obtain ⟨d, hd, hdp, hdk⟩ := hbefore i b hi hb
    obtain ⟨d', hd', hdp', hdk'⟩ := hbefore j b' hj hb'
    exact h.apart i j d d' hd hd' hdp hdp' (hdk.trans (heq.trans hdk'.symm))

theorem Attributed.advance (h : sys.Attributed) {call : Nat} {c : FirmwareCall}
    (hc : sys.calls[call]? = some c) {before after : FirmwareCallPhase} (hphase : c.phase = before)
    (hpending : before.pending = true) (hresponse : after.response = before.response)
    (hrefused : before.installing = some false → after.installing = some false) :
    (sys.advance call c after).Attributed := by
  subst hphase
  have hrecorded := (h.recorded c (List.mem_of_getElem? hc)).advance hresponse hrefused
  exact h.set hc hpending hrecorded rfl fun _ _ => rfl

theorem wake_cases (sys : DebianSystem) (call : Nat) :
    sys.wake call = sys ∨ ∃ c, sys.calls[call]? = some c ∧ c.phase = .waiting ∧
      sys.wake call = sys.advance call c .woken := by
  unfold wake
  cases hc : sys.calls[call]? with
  | none => exact .inl rfl
  | some c =>
    dsimp only
    split_ifs with hphase
    · exact .inr ⟨c, rfl, hphase, rfl⟩
    · exact .inl rfl

theorem Attributed.wake (h : sys.Attributed) (call : Nat) : (sys.wake call).Attributed := by
  rcases sys.wake_cases call with heq | ⟨c, hc, hphase, heq⟩
  · rw [heq]
    exact h
  · rw [heq]
    exact h.advance hc hphase rfl rfl id

theorem Attributed.notify (h : sys.Attributed) (call : Option Nat) : (sys.notify call).Attributed := by
  cases call with
  | none => exact h
  | some call => exact h.wake call

theorem Attributed.installFirmware (h : sys.Attributed) {deviceKey : String} (fileName : String)
    (hapart : ∀ c ∈ sys.calls, c.phase.pending = true → c.deviceKey ≠ deviceKey) :
    (sys.installFirmware deviceKey fileName).Attributed := by
  constructor
  · intro c hc
    change c.Recorded (sys.installer.deviceInstallationResult.insert deviceKey .willInstall)
    rcases List.mem_append.mp hc with hold | hnew
    · refine (h.recorded c hold).frame fun hpending => ?_
      exact OrderedMap.find?_insert_ne _ _ (hapart c hold hpending).symm
    · rw [List.mem_singleton.mp hnew]
      refine ⟨.willInstall, FirmwareCall.earned_willInstall rfl, .inr ⟨rfl, ?_⟩⟩
      exact OrderedMap.find?_insert_self _ _ _
  · intro i j c c' hi hj hpending hpending' heq
    refine Machine.unrelated_append
      (P := fun c c' => c.phase.pending = true ∧ c'.phase.pending = true ∧ c.deviceKey = c'.deviceKey)
      (fun i j c c' hi hj hP => h.apart i j c c' hi hj hP.1 hP.2.1 hP.2.2) (fun c hc => ?_)
      i j hi hj ⟨hpending, hpending', heq⟩
    exact ⟨fun hP => hapart c hc hP.1 hP.2.2, fun hP => hapart c hc hP.2.1 hP.2.2.symm⟩

theorem Attributed.updated (h : sys.Attributed) (call : Nat) (result : InstallationResult) :
    (sys.updated call result).Attributed := by
  unfold DebianSystem.updated
  cases hc : sys.calls[call]? with
  | none => exact h
  | some c =>
    dsimp only
    split_ifs with hphase
    · exact h.advance hc hphase rfl rfl fun hnone => by cases hnone
    · exact h

theorem Attributed.next (h : sys.Attributed) (call : Nat) : (sys.next call).Attributed := by
  unfold DebianSystem.next
  cases hc : sys.calls[call]? with
  | none => exact h
  | some c =>
    have hrecorded := h.recorded c (List.mem_of_getElem? hc)
    dsimp only
    cases hphase : c.phase with
    | updating | waiting | returned => exact h
    | locked | woken | leaving => exact h.advance hc hphase rfl rfl id
    | updated installing =>
      cases installing with
      | true => exact h.advance hc hphase rfl rfl id
      | false =>
        have hrefused : FirmwareCall.Recorded { c with phase := .finishing false }
            (sys.installer.refuse c.deviceKey).deviceInstallationResult :=
          ⟨.failedToInstall, FirmwareCall.earned_failedToInstall (.inl rfl),
            .inr ⟨rfl, OrderedMap.find?_insert_self _ _ _⟩⟩
        refine h.set hc (by rw [hphase]; rfl) hrefused rfl fun deviceKey hne => ?_
        exact OrderedMap.find?_insert_ne _ _ hne
    | finishing installing =>
      obtain ⟨response, hearned, hreturned | ⟨-, hfind⟩⟩ := hrecorded
      · rw [hphase] at hreturned
        cases hreturned
      · have hfinished : (sys.installer.finish c.deviceKey c.fileName).1 = response := by
          change (sys.installer.deviceInstallationResult.find? c.deviceKey).getD _ = _
          rw [hfind, Option.getD_some]
        have hreturns : FirmwareCall.Recorded { c with phase := .leaving installing response }
            (sys.installer.finish c.deviceKey c.fileName).2.deviceInstallationResult :=
          ⟨response, hearned.congr rfl (by rw [hphase]; exact id), .inl rfl⟩
        dsimp only
        rw [hfinished]
        exact h.set hc (by rw [hphase]; rfl) hreturns rfl fun _ _ => rfl

/-- The callback of a call that has not returned, which is neither to wait nor late. -/
theorem Attributed.report (h : sys.Attributed) {call : Nat} {c : FirmwareCall}
    (hc : sys.calls[call]? = some c) (hpending : c.phase.pending = true) (installation : Bool) :
    Attributed ⟨sys.installer.report c.deviceKey installation,
      sys.calls.set call (c.hear installation)⟩ := by
  have hother : ∀ deviceKey, c.deviceKey ≠ deviceKey →
      (sys.installer.report c.deviceKey installation).deviceInstallationResult.find? deviceKey =
        sys.installer.deviceInstallationResult.find? deviceKey := by
    intro deviceKey hne
    unfold DebianPackageInstaller.report
    cases sys.installer.deviceInstallationResult.find? c.deviceKey with
    | none => rfl
    | some _ => exact OrderedMap.find?_insert_ne _ _ hne
  have hrecorded := h.recorded c (List.mem_of_getElem? hc)
  have hdevice : (c.hear installation).deviceKey = c.deviceKey := by
    unfold FirmwareCall.hear
    split_ifs <;> rfl
  refine h.set hc hpending ?_ hdevice hother
  unfold FirmwareCall.hear
  split_ifs with hnone
  · obtain ⟨response, -, hreturned | ⟨-, hfind⟩⟩ := hrecorded
    · rw [hnone] at hreturned
      cases hreturned
    · unfold DebianPackageInstaller.report
      rw [hfind]
      refine ⟨if installation then .installed else .failedToInstall, ?_, .inr ⟨hnone, ?_⟩⟩
      · cases installation with
        | true => exact FirmwareCall.earned_installed (by simp)
        | false => exact FirmwareCall.earned_failedToInstall (.inr (by simp))
      · exact OrderedMap.find?_insert_self _ _ _
  · obtain ⟨response, hearned, hreturned | ⟨hno, -⟩⟩ := hrecorded
    · exact ⟨response, hearned, .inl hreturned⟩
    · exact absurd hno hnone

theorem Attributed.callback (h : sys.Attributed) (call : Nat) (result : InstallationResult)
    (restarted : Bool) : (sys.callback call result restarted).Attributed := by
  unfold DebianSystem.callback
  cases hc : sys.calls[call]? with
  | none => exact h
  | some c =>
    dsimp only
    split_ifs with hholds hpending
    · exact h
    · exact (h.report hc hpending _).notify _
    · exact h.notify _

theorem Attributed.step (h : sys.Attributed) {e : DebianEvent} (hok : sys.Apart e)
    (hs : sys.step e = .ok sys') : sys'.Attributed := by
  cases e with
  | installFirmware deviceKey fileName => cases hs; exact h.installFirmware fileName hok
  | updated call result => cases hs; exact h.updated call result
  | next call => cases hs; exact h.next call
  | wake call => cases hs; exact h.wake call
  | callback call result restarted => cases hs; exact h.callback call result restarted
  | abortFirmwareInstall deviceKey => cases hs; exact h.notify _

theorem attributed_create : create.Attributed where
  recorded c hc := absurd hc List.not_mem_nil
  apart i j c c' hi := by cases hi

end DebianSystem

/-! ## What the steps of a call keep -/

namespace DebianSystem

variable {sys sys' sys'' : DebianSystem} {R R' : Nat → FirmwareCall → FirmwareCall → Prop}

/-- The calls are as many, and each is as the relation says. -/
def Pairs (R : Nat → FirmwareCall → FirmwareCall → Prop) (sys sys' : DebianSystem) : Prop :=
  ∀ i : Nat, (sys.calls[i]? = none ∧ sys'.calls[i]? = none) ∨
    ∃ c c', sys.calls[i]? = some c ∧ sys'.calls[i]? = some c' ∧ R i c c'

theorem Pairs.before (h : Pairs R sys sys') {i : Nat} {c' : FirmwareCall}
    (hc' : sys'.calls[i]? = some c') : ∃ c, sys.calls[i]? = some c ∧ R i c c' := by
  rcases h i with ⟨-, hnone⟩ | ⟨c, d, hc, hd, hR⟩
  · rw [hnone] at hc'
    cases hc'
  · rw [hd] at hc'
    cases hc'
    exact ⟨c, hc, hR⟩

theorem Pairs.after (h : Pairs R sys sys') {i : Nat} {c : FirmwareCall}
    (hc : sys.calls[i]? = some c) : ∃ c', sys'.calls[i]? = some c' ∧ R i c c' := by
  rcases h i with ⟨hnone, -⟩ | ⟨d, c', hd, hc', hR⟩
  · rw [hnone] at hc
    cases hc
  · rw [hd] at hc
    cases hc
    exact ⟨c', hc', hR⟩

theorem Pairs.refl (hR : ∀ i c, R i c c) (sys : DebianSystem) : Pairs R sys sys := fun i => by
  cases hc : sys.calls[i]? with
  | none => exact .inl ⟨rfl, rfl⟩
  | some c => exact .inr ⟨c, c, rfl, rfl, hR i c⟩

theorem Pairs.mono (h : Pairs R sys sys') (hR : ∀ i c c', R i c c' → R' i c c') : Pairs R' sys sys' :=
  fun i => (h i).imp_right fun ⟨c, c', hc, hc', hr⟩ => ⟨c, c', hc, hc', hR i c c' hr⟩

theorem Pairs.trans (h : Pairs R sys sys') (h' : Pairs R' sys' sys'')
    {S : Nat → FirmwareCall → FirmwareCall → Prop}
    (hS : ∀ i c c' c'', R i c c' → R' i c' c'' → S i c c'') : Pairs S sys sys'' := fun i => by
  rcases h i with ⟨hnone, hnone'⟩ | ⟨c, c', hc, hc', hr⟩
  · rcases h' i with ⟨-, hnone''⟩ | ⟨d, d', hd, -⟩
    · exact .inl ⟨hnone, hnone''⟩
    · rw [hnone'] at hd
      cases hd
  · obtain ⟨c'', hc'', hr'⟩ := h'.after hc'
    exact .inr ⟨c, c'', hc, hc'', hS i c c' c'' hr hr'⟩

theorem Pairs.set (hR : ∀ i c, R i c c) {call : Nat} {c c' : FirmwareCall}
    (hc : sys.calls[call]? = some c) (hc' : R call c c') (installer : DebianPackageInstaller) :
    Pairs R sys ⟨installer, sys.calls.set call c'⟩ := by
  intro i
  have hlt := (List.getElem?_eq_some_iff.mp hc).1
  by_cases hi : i = call
  · subst hi
    exact .inr ⟨c, c', hc, List.getElem?_set_self hlt, hc'⟩
  · dsimp only
    rw [List.getElem?_set_ne (Ne.symm hi)]
    exact Pairs.refl hR sys i

/-- The call is the same one, and what it returns does not change. -/
structure Goes (c c' : FirmwareCall) : Prop where
  deviceKey : c'.deviceKey = c.deviceKey
  fileName : c'.fileName = c.fileName
  pending : c'.phase.pending = true → c.phase.pending = true
  response : ∀ response, c.phase.response = some response → c'.phase.response = some response

theorem Goes.refl (c : FirmwareCall) : Goes c c := ⟨rfl, rfl, id, fun _ => id⟩

theorem Goes.trans {c c' c'' : FirmwareCall} (h : Goes c c') (h' : Goes c' c'') : Goes c c'' where
  deviceKey := h'.deviceKey.trans h.deviceKey
  fileName := h'.fileName.trans h.fileName
  pending hc := h.pending (h'.pending hc)
  response r hr := h'.response r (h.response r hr)

theorem goes_phase {c : FirmwareCall} {phase : FirmwareCallPhase} (hpending : c.phase.pending = true)
    (hresponse : ∀ response, c.phase.response = some response → phase.response = some response) :
    Goes c { c with phase := phase } := ⟨rfl, rfl, fun _ => hpending, hresponse⟩

/-- The call has gone on, and knows as much as before. -/
structure Follows (_ : Nat) (c c' : FirmwareCall) : Prop where
  goes : Goes c c'
  reports : c'.reports = c.reports
  installing : c'.phase.installing = c.phase.installing

theorem Follows.refl (i : Nat) (c : FirmwareCall) : Follows i c c := ⟨.refl c, rfl, rfl⟩

theorem follows_wake (sys : DebianSystem) (call : Nat) : Pairs Follows sys (sys.wake call) := by
  rcases sys.wake_cases call with heq | ⟨c, hc, hphase, heq⟩
  · rw [heq]
    exact .refl .refl sys
  · rw [heq]
    refine .set .refl hc ⟨goes_phase ?_ ?_, rfl, ?_⟩ _ <;> rw [hphase]
    · rfl
    · exact nofun
    · rfl

theorem follows_notify (sys : DebianSystem) (call : Option Nat) :
    Pairs Follows sys (sys.notify call) := by
  cases call with
  | none => exact .refl .refl sys
  | some call => exact follows_wake sys call

theorem follows_next (sys : DebianSystem) (call : Nat) : Pairs Follows sys (sys.next call) := by
  unfold next
  cases hc : sys.calls[call]? with
  | none => exact .refl .refl sys
  | some c =>
    dsimp only
    cases hphase : c.phase with
    | updating | waiting | returned => exact .refl .refl sys
    | locked | woken | finishing =>
      refine .set .refl hc ⟨goes_phase ?_ ?_, rfl, ?_⟩ _ <;> rw [hphase]
      · rfl
      · exact nofun
      · rfl
    | leaving =>
      refine .set .refl hc ⟨goes_phase ?_ ?_, rfl, ?_⟩ _ <;> rw [hphase]
      · rfl
      · exact fun _ => id
      · rfl
    | updated installing =>
      cases installing with
      | true | false =>
        refine .set .refl hc ⟨goes_phase ?_ ?_, rfl, ?_⟩ _ <;> rw [hphase]
        · rfl
        · exact nofun
        · rfl

/-- `update` returns to the call. -/
structure Hears (call : Nat) (result : InstallationResult) (i : Nat) (c c' : FirmwareCall) : Prop where
  goes : Goes c c'
  reports : c'.reports = c.reports
  installing : c'.phase.installing = c.phase.installing ∨
    i = call ∧ c'.phase.installing = some (decide (result = .installing))

theorem hears_updated (sys : DebianSystem) (call : Nat) (result : InstallationResult) :
    Pairs (Hears call result) sys (sys.updated call result) := by
  have hrefl : ∀ i c, Hears call result i c c := fun _ c => ⟨.refl c, rfl, .inl rfl⟩
  unfold updated
  cases hc : sys.calls[call]? with
  | none => exact .refl hrefl sys
  | some c =>
    dsimp only
    split_ifs with hphase
    · have hgoes : Goes c { c with phase := .updated (DebianPackageInstaller.updateStarts result) } := by
        refine goes_phase ?_ ?_ <;> rw [hphase]
        · rfl
        · exact nofun
      exact .set hrefl hc ⟨hgoes, rfl, .inr ⟨rfl, rfl⟩⟩ _
    · exact .refl hrefl sys

/-- The callback reports to its call. -/
structure Told (call : Nat) (installation : Bool) (i : Nat) (c c' : FirmwareCall) : Prop where
  goes : Goes c c'
  installing : c'.phase.installing = c.phase.installing
  reports : ∀ b ∈ c'.reports, b ∈ c.reports ∨ i = call ∧ b = installation

theorem told_callback (sys : DebianSystem) (call : Nat) (result : InstallationResult) (restarted : Bool) :
    Pairs (Told call (DebianPackageInstaller.updateSucceeds result restarted)) sys
      (sys.callback call result restarted) := by
  generalize hinstallation : DebianPackageInstaller.updateSucceeds result restarted = installation
  have hfollows : ∀ i c c', Follows i c c' → Told call installation i c c' := fun _ _ _ h =>
    ⟨h.goes, h.installing, fun b hb => .inl (h.reports ▸ hb)⟩
  have hrefl : ∀ i c, Told call installation i c c := fun i c => hfollows i c c (.refl i c)
  unfold callback
  cases hc : sys.calls[call]? with
  | none => exact .refl hrefl sys
  | some c =>
    have hhear : Told call installation call c (c.hear installation) := by
      unfold FirmwareCall.hear
      split_ifs
      · refine ⟨⟨rfl, rfl, id, fun _ => id⟩, rfl, fun b hb => ?_⟩
        rcases List.mem_append.mp hb with hb | hb
        · exact .inl hb
        · exact .inr ⟨rfl, List.mem_singleton.mp hb⟩
      · exact hrefl call c
    rw [hinstallation]
    dsimp only
    split_ifs
    · exact .refl hrefl sys
    · refine (Pairs.set hrefl hc hhear _).trans (follows_notify _ _) fun i c c' c'' h h' => ?_
      exact ⟨h.goes.trans h'.goes, h'.installing.trans h.installing,
        fun b hb => h.reports b (h'.reports ▸ hb)⟩
    · exact (follows_notify sys _).mono hfollows

end DebianSystem

end WolkConnect
