import WolkConnect.Firmware.Debian
import WolkConnect.Firmware.Transactions

/-!
# From the package to the service

`installFirmware` goes through `update`, `installPackage`, the signal of the transaction, the command
buffer and `restartService`. Several devices install at the same time, and share all of these.
-/

namespace WolkConnect

/-- `pathToDebianFile.substr(pathToDebianFile.rfind('/') + 1)`, up to the first '_'. -/
def serviceNameOf (pathToDebianFile : String) : String :=
  let fileName := (pathToDebianFile.toList.reverse.takeWhile (· ≠ '/')).reverse
  String.ofList (fileName.takeWhile (· ≠ '_'))

/-- `restartService` succeeds unless the DBus connection throws. -/
def restartSucceeds : DBusAnswer → Bool
  | .exception => false
  | .value _ | .null => true

/-- What APT and systemd have done. -/
inductive PipelineDeed
  | finished (objectPath value : String)
  /-- The callback of this call had the service restarted, or failed to. -/
  | restarted (call : Nat) (serviceName : String) (succeeded : Bool)
  deriving DecidableEq

/-- `issued` has the call of `installFirmware` behind each call of `installPackage`. `executed` counts the
commands of APT that were taken out, and `reporting` is the callback of the last one with its arguments,
while it waits for the mutex of its call. `log` has what was done, in its order. -/
structure PipelineSystem where
  debian : DebianSystem
  apt : AptSystem
  issued : List Nat
  executed : Nat
  reporting : Option (Nat × InstallationResult × Bool)
  log : List PipelineDeed

inductive PipelineEvent
  | installFirmware (deviceKey fileName : String)
  /-- `update` of the call gets the mutex of APT. -/
  | installPackage (call : Nat)
  /-- The call that has it gets an answer over DBus. -/
  | answer (answer : DBusAnswer)
  | finished (objectPath value : String)
  /-- The next command of APT is executed, and the service is restarted if the package was installed. -/
  | execute (restart : DBusAnswer)
  | report
  | next (call : Nat)
  | wake (call : Nat)
  | abortFirmwareInstall (deviceKey : String)

namespace PipelineSystem

variable (absolutePath : String → String) (sys : PipelineSystem)

def create : PipelineSystem := ⟨.create, .create, [], 0, none, []⟩

def installPackage (call : Nat) : PipelineSystem :=
  match sys.debian.calls[call]?, sys.apt.current with
  | some c, none =>
    if c.phase = .updating ∧ call ∉ sys.issued then
      { sys with
        apt := { sys.apt with current := some ⟨absolutePath c.fileName, .creating⟩ }
        issued := sys.issued ++ [call] }
    else sys
  | _, _ => sys

/-- `installPackage` goes on, and `update` with it when it returns. -/
def answer (answer : DBusAnswer) : PipelineSystem :=
  match sys.apt.current with
  | none => sys
  | some c =>
    let apt := sys.apt.next c answer
    match c.phase.next answer, sys.issued[sys.apt.returned.length]? with
    | .error result, some call => { sys with apt := apt, debian := sys.debian.updated call result }
    | _, _ => { sys with apt := apt }

/-- The call of `installFirmware` that a command of APT is for, with the path of its package. -/
def target (command : InstallationCommand) : Option (Nat × String) :=
  (sys.issued[command.callback]?).bind fun call =>
    (sys.debian.calls[call]?).map fun c => (call, absolutePath c.fileName)

def execute (restart : DBusAnswer) : PipelineSystem :=
  match sys.reporting, sys.apt.installer.commandBuffer[sys.executed]? with
  | none, some command =>
    match sys.target absolutePath command with
    | none => sys
    | some (call, path) =>
      { sys with
        executed := sys.executed + 1
        reporting := some (call, command.result, restartSucceeds restart)
        log := sys.log ++ if command.result = .installed then
          [.restarted call (serviceNameOf path) (restartSucceeds restart)] else [] }
  | _, _ => sys

/-- The callback waits while the call holds its mutex. -/
def report : PipelineSystem :=
  match sys.reporting with
  | none => sys
  | some (call, result, restarted) =>
    if (sys.debian.calls[call]?).any (·.phase.holdsMutex) then sys
    else { sys with debian := sys.debian.callback call result restarted, reporting := none }

def step (sys : PipelineSystem) : PipelineEvent → Except Empty PipelineSystem
  | .installFirmware deviceKey fileName =>
    .ok { sys with debian := sys.debian.installFirmware deviceKey fileName }
  | .installPackage call => .ok (sys.installPackage absolutePath call)
  | .answer answer => .ok (sys.answer answer)
  | .finished objectPath value => .ok { sys with
      apt := { sys.apt with
        installer := sys.apt.installer.handleFinishedSignal objectPath value
        finished := sys.apt.finished.insert objectPath value }
      log := sys.log ++ [.finished objectPath value] }
  | .execute restart => .ok (sys.execute absolutePath restart)
  | .report => .ok sys.report
  | .next call => .ok { sys with debian := sys.debian.next call }
  | .wake call => .ok { sys with debian := sys.debian.wake call }
  | .abortFirmwareInstall deviceKey =>
    .ok { sys with debian := sys.debian.notify (sys.debian.installer.callOf deviceKey) }

/-- The calls for a device do not overlap, and the signals of APT are its own. -/
def Orderly (sys : PipelineSystem) : PipelineEvent → Prop
  | .installFirmware deviceKey fileName => sys.debian.Apart (.installFirmware deviceKey fileName)
  | .answer answer => sys.apt.Delivers (.next answer)
  | .finished objectPath value => sys.apt.Delivers (.finished objectPath value)
  | .installPackage _ | .execute _ | .report | .next _ | .wake _ | .abortFirmwareInstall _ => True

instance (sys : PipelineSystem) : (e : PipelineEvent) → Decidable (sys.Orderly e)
  | .installFirmware d f => inferInstanceAs (Decidable (sys.debian.Apart (.installFirmware d f)))
  | .answer a => inferInstanceAs (Decidable (sys.apt.Delivers (.next a)))
  | .finished o v => inferInstanceAs (Decidable (sys.apt.Delivers (.finished o v)))
  | .installPackage _ | .execute _ | .report | .next _ | .wake _ | .abortFirmwareInstall _ => .isTrue trivial

end PipelineSystem

/-! ## Commands of APT -/

namespace AptSystem

variable {sys sys' : AptSystem} {c : InstallCall} {k : Nat}

/-- The path that a call was given. -/
def pathOf (sys : AptSystem) (k : Nat) : Option String :=
  match sys.returned[k]? with
  | some r => some r.absolutePath
  | none => if k = sys.returned.length then sys.current.map (·.absolutePath) else none

theorem pathOf_next (hc : sys.current = some c) (answer : DBusAnswer) (k : Nat) :
    (sys.next c answer).pathOf k = sys.pathOf k := by
  cases hphase : c.phase.next answer with
  | ok phase =>
    rw [next_ok hphase]
    simp [pathOf, hc]
  | error result =>
    rw [next_error hphase]
    simp only [pathOf, hc, List.length_append, List.length_singleton, Option.map_none, ite_self]
    rcases lt_trichotomy k sys.returned.length with hlt | rfl | hgt
    · rw [List.getElem?_append_left hlt, List.getElem?_eq_getElem hlt]
    · simp
    · rw [List.getElem?_eq_none (by simp; omega), List.getElem?_eq_none (by omega), if_neg (by omega)]

/-- A command says what the signal of the transaction of its call said. -/
def Answered (sys : AptSystem) : Prop :=
  ∀ command ∈ sys.installer.commandBuffer, ∃ name value,
    sys.transaction command.callback = some name ∧ sys.finished.find? name = some value ∧
      command.result = finishedResult value

theorem Answered.next (h : sys.Answered) (hc : sys.current = some c) {answer : DBusAnswer}
    (hok : sys.Delivers (.next answer)) : (sys.next c answer).Answered := by
  intro command hcommand
  rw [next_installer, record_commandBuffer] at hcommand
  obtain ⟨name, value, hname, hvalue, hresult⟩ := h command hcommand
  exact ⟨name, value, next_keeps hc hok hname, by rw [next_finished, hvalue], hresult⟩

theorem finished_mono {objectPath value : String} (hok : sys.Delivers (.finished objectPath value))
    {name value' : String} (h : sys.finished.find? name = some value') :
    (sys.finished.insert objectPath value).find? name = some value' := by
  rw [OrderedMap.find?_insert, if_neg]
  · exact h
  · rintro rfl
    rw [hok.2] at h
    cases h

theorem Answered.finished (h : sys.Answered) (howned : sys.Owned) {objectPath value : String}
    (hok : sys.Delivers (.finished objectPath value)) :
    Answered { sys with
      installer := sys.installer.handleFinishedSignal objectPath value
      finished := sys.finished.insert objectPath value } := by
  intro command hcommand
  have hold : command ∈ sys.installer.commandBuffer → ∃ name value',
      sys.transaction command.callback = some name ∧
        (sys.finished.insert objectPath value).find? name = some value' ∧
        command.result = finishedResult value' := by
    intro hmem
    obtain ⟨name, value', hname, hvalue, hresult⟩ := h command hmem
    exact ⟨name, value', hname, finished_mono hok hvalue, hresult⟩
  rcases handleFinishedSignal_cases sys.installer objectPath value with
    ⟨k, path, hcallback, -, heq⟩ | ⟨-, heq⟩
  · simp only [heq, List.mem_append, List.mem_singleton] at hcommand
    rcases hcommand with hmem | rfl
    · exact hold hmem
    · exact ⟨objectPath, value, howned.callbacks objectPath k hcallback,
        OrderedMap.find?_insert_self _ _ _, rfl⟩
  · simp only [heq] at hcommand
    exact hold hcommand

end AptSystem

/-! ## Links -/

namespace PipelineSystem

variable {absolutePath : String → String} {sys sys' : PipelineSystem} {i : Nat} {path value : String}

/-- The transaction that APT has made for the package of the call. -/
def Made (sys : PipelineSystem) (i : Nat) (path name : String) : Prop :=
  ∃ k : Nat, sys.issued[k]? = some i ∧ sys.apt.pathOf k = some path ∧ sys.apt.transaction k = some name

/-- APT has finished the transaction for the package of the call. -/
def Transacted (sys : PipelineSystem) (i : Nat) (path value : String) : Prop :=
  ∃ name, sys.Made i path name ∧ .finished name value ∈ sys.log

/-- After that, the callback of the call had the service of the package restarted, or failed to. -/
def Restarted (sys : PipelineSystem) (i : Nat) (path : String) (succeeded : Bool) : Prop :=
  ∃ name, sys.Made i path name ∧ List.Sublist
    [.finished name "exit-success", .restarted i (serviceNameOf path) succeeded] sys.log

/-- `installPackage` has returned to the call that it does not install. -/
def Refused (sys : PipelineSystem) (i : Nat) (path : String) : Prop :=
  ∃ (k : Nat) (r : InstallReturn), sys.issued[k]? = some i ∧ sys.apt.returned[k]? = some r ∧
    r.absolutePath = path ∧ r.result ≠ .installing

/-- What the report to a call rests on: the transaction of its package, and the restart of its service. -/
def Rests (sys : PipelineSystem) (i : Nat) (path : String) : Bool → Prop
  | true => sys.Restarted i path true
  | false => (∃ value, value ≠ "exit-success" ∧ sys.Transacted i path value) ∨
    sys.Restarted i path false

/-- Nothing that was done is undone. -/
structure Grows (sys sys' : PipelineSystem) : Prop where
  issued : ∀ k i : Nat, sys.issued[k]? = some i → sys'.issued[k]? = some i
  paths : ∀ k path, sys.apt.pathOf k = some path → sys'.apt.pathOf k = some path
  transactions : ∀ k name, sys.apt.transaction k = some name → sys'.apt.transaction k = some name
  returned : ∀ (k : Nat) r, sys.apt.returned[k]? = some r → sys'.apt.returned[k]? = some r
  log : sys.log <+: sys'.log

theorem Grows.same (hapt : sys'.apt = sys.apt) (hissued : sys'.issued = sys.issued)
    (hlog : sys.log <+: sys'.log) : Grows sys sys' :=
  ⟨by simp [hissued], by simp [hapt], by simp [hapt], by simp [hapt], hlog⟩

theorem Grows.refl (sys : PipelineSystem) : Grows sys sys := .same rfl rfl List.prefix_rfl

theorem Grows.trans {sys'' : PipelineSystem} (h : Grows sys sys') (h' : Grows sys' sys'') :
    Grows sys sys'' where
  issued k i hk := h'.issued k i (h.issued k i hk)
  paths k path hk := h'.paths k path (h.paths k path hk)
  transactions k name hk := h'.transactions k name (h.transactions k name hk)
  returned k r hr := h'.returned k r (h.returned k r hr)
  log := h.log.trans h'.log

theorem Made.mono {name : String} (h : sys.Made i path name) (hgrows : Grows sys sys') :
    sys'.Made i path name := by
  obtain ⟨k, hissued, hpath, htransaction⟩ := h
  exact ⟨k, hgrows.issued k i hissued, hgrows.paths k path hpath,
    hgrows.transactions k name htransaction⟩

theorem Transacted.mono (h : sys.Transacted i path value) (hgrows : Grows sys sys') :
    sys'.Transacted i path value := by
  obtain ⟨name, hmade, hfinished⟩ := h
  exact ⟨name, hmade.mono hgrows, hgrows.log.subset hfinished⟩

theorem Restarted.mono {succeeded : Bool} (h : sys.Restarted i path succeeded)
    (hgrows : Grows sys sys') : sys'.Restarted i path succeeded := by
  obtain ⟨name, hmade, hlog⟩ := h
  exact ⟨name, hmade.mono hgrows, hlog.trans hgrows.log.sublist⟩

theorem Refused.mono (h : sys.Refused i path) (hgrows : Grows sys sys') : sys'.Refused i path := by
  obtain ⟨k, r, hissued, hr, hpath, hresult⟩ := h
  exact ⟨k, r, hgrows.issued k i hissued, hgrows.returned k r hr, hpath, hresult⟩

theorem Rests.mono {b : Bool} (h : sys.Rests i path b) (hgrows : Grows sys sys') :
    sys'.Rests i path b := by
  cases b with
  | true => exact Restarted.mono h hgrows
  | false =>
    rcases h with ⟨value, hne, h⟩ | h
    · exact .inl ⟨value, hne, h.mono hgrows⟩
    · exact .inr (h.mono hgrows)

variable (absolutePath sys) in
theorem grows_installPackage (call : Nat) : Grows sys (sys.installPackage absolutePath call) := by
  unfold PipelineSystem.installPackage
  split
  · rename_i c hc hidle
    split_ifs
    · refine ⟨fun k i hk => ?_, fun k path hk => ?_, fun k name hk => ?_, fun _ _ => id,
        List.prefix_rfl⟩
      · change (sys.issued ++ [call])[k]? = some i
        rw [List.getElem?_append_left (List.getElem?_eq_some_iff.mp hk).1]
        exact hk
      · unfold AptSystem.pathOf at hk ⊢
        rw [hidle] at hk
        dsimp only at hk ⊢
        split at hk
        · exact hk
        · split_ifs at hk
          cases hk
      · exact (AptSystem.installPackage_transaction hidle k).trans hk
    · exact .refl sys
  · exact .refl sys

theorem grows_next {c : InstallCall} (hcurrent : sys.apt.current = some c) {answer : DBusAnswer}
    (hok : sys.apt.Delivers (.next answer)) : Grows sys { sys with apt := sys.apt.next c answer } := by
  refine ⟨fun _ _ => id, fun k path hk => ?_, fun k name hk => ?_, fun k r hr => ?_, List.prefix_rfl⟩
  · exact (AptSystem.pathOf_next hcurrent answer k).trans hk
  · exact AptSystem.next_keeps hcurrent hok hk
  · cases hphase : c.phase.next answer with
    | ok phase =>
      rw [AptSystem.next_ok hphase]
      exact hr
    | error result =>
      rw [AptSystem.next_error hphase]
      dsimp only
      rw [List.getElem?_append_left (List.getElem?_eq_some_iff.mp hr).1]
      exact hr

theorem grows_answer {answer : DBusAnswer} (hok : sys.apt.Delivers (.next answer)) :
    Grows sys (sys.answer answer) := by
  unfold PipelineSystem.answer
  split
  · exact .refl sys
  · rename_i c hcurrent
    have hgrows := grows_next hcurrent hok
    dsimp only
    split
    · exact hgrows.trans (.same rfl rfl List.prefix_rfl)
    · exact hgrows

variable (sys) in
theorem grows_finished (objectPath value : String) : Grows sys { sys with
    apt := { sys.apt with
      installer := sys.apt.installer.handleFinishedSignal objectPath value
      finished := sys.apt.finished.insert objectPath value }
    log := sys.log ++ [.finished objectPath value] } :=
  ⟨fun _ _ => id, fun _ _ => id, fun _ _ => id, fun _ _ => id, List.prefix_append _ _⟩

variable (absolutePath sys) in
theorem grows_execute (restart : DBusAnswer) : Grows sys (sys.execute absolutePath restart) := by
  unfold PipelineSystem.execute
  split
  · split
    · exact .refl sys
    · exact .same rfl rfl (List.prefix_append _ _)
  · exact .refl sys

variable (sys) in
theorem grows_report : Grows sys sys.report := by
  unfold PipelineSystem.report
  split
  · exact .refl sys
  · split_ifs
    · exact .refl sys
    · exact .same rfl rfl List.prefix_rfl

theorem grows_step {e : PipelineEvent} (hok : sys.Orderly e) (hs : sys.step absolutePath e = .ok sys') :
    Grows sys sys' := by
  cases e with
  | installPackage call => cases hs; exact grows_installPackage absolutePath sys call
  | answer answer => cases hs; exact grows_answer hok
  | finished objectPath value => cases hs; exact grows_finished sys objectPath value
  | execute restart => cases hs; exact grows_execute absolutePath sys restart
  | report => cases hs; exact grows_report sys
  | installFirmware | next | wake | abortFirmwareInstall => cases hs; exact .same rfl rfl List.prefix_rfl

/-! ## Steps -/

/-- What a call or the command buffer has rests on what was done for the package of the call. -/
structure Linked (absolutePath : String → String) (sys : PipelineSystem) : Prop where
  attributed : sys.debian.Attributed
  owned : sys.apt.Owned
  answered : sys.apt.Answered
  logged : ∀ name value, sys.apt.finished.find? name = some value → .finished name value ∈ sys.log
  length : sys.issued.length = sys.apt.returned.length + sys.apt.current.toList.length
  paths : ∀ k i : Nat, sys.issued[k]? = some i → ∃ c, sys.debian.calls[i]? = some c ∧
    sys.apt.pathOf k = some (absolutePath c.fileName)
  refused : ∀ i c, sys.debian.calls[i]? = some c → c.phase.installing = some false →
    sys.Refused i (absolutePath c.fileName)
  reporting : ∀ i result restarted, sys.reporting = some (i, result, restarted) →
    ∃ c, sys.debian.calls[i]? = some c ∧ sys.Rests i (absolutePath c.fileName)
      (DebianPackageInstaller.updateSucceeds result restarted)
  reports : ∀ i c b, sys.debian.calls[i]? = some c → b ∈ c.reports →
    sys.Rests i (absolutePath c.fileName) b
  restarts : ∀ i serviceName succeeded, .restarted i serviceName succeeded ∈ sys.log →
    ∃ c, sys.debian.calls[i]? = some c ∧ serviceName = serviceNameOf (absolutePath c.fileName) ∧
      sys.Restarted i (absolutePath c.fileName) succeeded

/-- The calls of `installFirmware` go on, or there is a new one. What they know rests on what was done. -/
theorem Linked.calls (h : sys.Linked absolutePath) {debian : DebianSystem}
    {reporting : Option (Nat × InstallationResult × Bool)} (hattributed : debian.Attributed)
    (hkept : ∀ (i : Nat) c, sys.debian.calls[i]? = some c →
      ∃ c', debian.calls[i]? = some c' ∧ c'.fileName = c.fileName)
    (hreporting : ∀ p, reporting = some p → sys.reporting = some p)
    (hrefused : ∀ (i : Nat) c, debian.calls[i]? = some c → c.phase.installing = some false →
      sys.Refused i (absolutePath c.fileName))
    (hreports : ∀ (i : Nat) c b, debian.calls[i]? = some c → b ∈ c.reports →
      sys.Rests i (absolutePath c.fileName) b) :
    Linked absolutePath { sys with debian := debian, reporting := reporting } := by
  have hgrows : Grows sys { sys with debian := debian, reporting := reporting } :=
    .same rfl rfl List.prefix_rfl
  refine ⟨hattributed, h.owned, h.answered, h.logged, h.length, ?_, ?_, ?_, ?_, ?_⟩
  · intro k i hk
    obtain ⟨c, hc, hpath⟩ := h.paths k i hk
    obtain ⟨c', hc', hfileName⟩ := hkept i c hc
    exact ⟨c', hc', hfileName ▸ hpath⟩
  · exact fun i c hc hfalse => (hrefused i c hc hfalse).mono hgrows
  · intro i result restarted hr
    obtain ⟨c, hc, hrests⟩ := h.reporting i result restarted (hreporting _ hr)
    obtain ⟨c', hc', hfileName⟩ := hkept i c hc
    exact ⟨c', hc', hfileName ▸ hrests.mono hgrows⟩
  · exact fun i c b hc hb => (hreports i c b hc hb).mono hgrows
  · intro i serviceName succeeded hlog
    obtain ⟨c, hc, hname, hrestarted⟩ := h.restarts i serviceName succeeded hlog
    obtain ⟨c', hc', hfileName⟩ := hkept i c hc
    rw [← hfileName] at hname hrestarted
    exact ⟨c', hc', hname, hrestarted.mono hgrows⟩

/-- The calls of `installFirmware` go on. -/
theorem Linked.follows (h : sys.Linked absolutePath) {debian : DebianSystem}
    (hattributed : debian.Attributed) (hfollows : DebianSystem.Pairs DebianSystem.Follows sys.debian debian) :
    Linked absolutePath { sys with debian := debian } := by
  refine h.calls hattributed (fun i c hc => ?_) (fun _ => id) (fun i c' hc' hrefused => ?_)
    fun i c' b hc' hb => ?_
  · obtain ⟨c', hc', hf⟩ := hfollows.after hc
    exact ⟨c', hc', hf.goes.fileName⟩
  · obtain ⟨c, hc, hf⟩ := hfollows.before hc'
    rw [hf.goes.fileName]
    exact h.refused i c hc (hf.installing ▸ hrefused)
  · obtain ⟨c, hc, hf⟩ := hfollows.before hc'
    rw [hf.goes.fileName]
    exact h.reports i c b hc (hf.reports ▸ hb)

theorem Linked.installFirmware (h : sys.Linked absolutePath) {d f : String}
    (hapart : sys.debian.Apart (.installFirmware d f)) :
    Linked absolutePath { sys with debian := sys.debian.installFirmware d f } := by
  have hkept : ∀ (i : Nat) c, sys.debian.calls[i]? = some c →
      (sys.debian.installFirmware d f).calls[i]? = some c := by
    intro i c hc
    change (sys.debian.calls ++ [_])[i]? = some c
    rw [List.getElem?_append_left (List.getElem?_eq_some_iff.mp hc).1]
    exact hc
  have hcalls : ∀ (i : Nat) c, (sys.debian.installFirmware d f).calls[i]? = some c →
      sys.debian.calls[i]? = some c ∨ c.phase = .updating ∧ c.reports = [] := by
    intro i c hc
    change (sys.debian.calls ++ [_])[i]? = some c at hc
    rw [List.getElem?_append] at hc
    split_ifs at hc
    · exact .inl hc
    · obtain rfl := List.mem_singleton.mp (List.mem_of_getElem? hc)
      exact .inr ⟨rfl, rfl⟩
  refine h.calls (h.attributed.installFirmware f hapart) (fun i c hc => ⟨c, hkept i c hc, rfl⟩)
    (fun _ => id) (fun i c hc hrefused => ?_) fun i c b hc hb => ?_
  · rcases hcalls i c hc with hc | ⟨hphase, -⟩
    · exact h.refused i c hc hrefused
    · rw [hphase] at hrefused
      cases hrefused
  · rcases hcalls i c hc with hc | ⟨-, hreports⟩
    · exact h.reports i c b hc hb
    · rw [hreports] at hb
      cases hb

/-- The packages and their transactions go on, and the calls stay. -/
theorem Linked.grows (h : sys.Linked absolutePath) (hdebian : sys'.debian = sys.debian)
    (hgrows : Grows sys sys') (howned : sys'.apt.Owned) (hanswered : sys'.apt.Answered)
    (hlogged : ∀ name value, sys'.apt.finished.find? name = some value →
      .finished name value ∈ sys'.log)
    (hlength : sys'.issued.length = sys'.apt.returned.length + sys'.apt.current.toList.length)
    (hpaths : ∀ k i : Nat, sys'.issued[k]? = some i → sys.issued[k]? = some i ∨
      ∃ c, sys.debian.calls[i]? = some c ∧ sys'.apt.pathOf k = some (absolutePath c.fileName))
    (hreporting : ∀ i result restarted, sys'.reporting = some (i, result, restarted) →
      sys.reporting = some (i, result, restarted) ∨
        ∃ c, sys.debian.calls[i]? = some c ∧ sys'.Rests i (absolutePath c.fileName)
          (DebianPackageInstaller.updateSucceeds result restarted))
    (hrestarts : ∀ i serviceName succeeded, .restarted i serviceName succeeded ∈ sys'.log →
      .restarted i serviceName succeeded ∈ sys.log ∨
        ∃ c, sys.debian.calls[i]? = some c ∧ serviceName = serviceNameOf (absolutePath c.fileName) ∧
          sys'.Restarted i (absolutePath c.fileName) succeeded) : sys'.Linked absolutePath := by
  refine ⟨hdebian ▸ h.attributed, howned, hanswered, hlogged, hlength, ?_, ?_, ?_, ?_, ?_⟩
  · intro k i hk
    rw [hdebian]
    rcases hpaths k i hk with hk | hnew
    · obtain ⟨c, hc, hpath⟩ := h.paths k i hk
      exact ⟨c, hc, hgrows.paths k _ hpath⟩
    · exact hnew
  · intro i c hc hrefused
    rw [hdebian] at hc
    exact (h.refused i c hc hrefused).mono hgrows
  · intro i result restarted hr
    rw [hdebian]
    rcases hreporting i result restarted hr with hr | hnew
    · obtain ⟨c, hc, hrests⟩ := h.reporting i result restarted hr
      exact ⟨c, hc, hrests.mono hgrows⟩
    · exact hnew
  · intro i c b hc hb
    rw [hdebian] at hc
    exact (h.reports i c b hc hb).mono hgrows
  · intro i serviceName succeeded hlog
    rw [hdebian]
    rcases hrestarts i serviceName succeeded hlog with hlog | hnew
    · obtain ⟨c, hc, hname, hrestarted⟩ := h.restarts i serviceName succeeded hlog
      exact ⟨c, hc, hname, hrestarted.mono hgrows⟩
    · exact hnew

theorem Linked.installPackage (h : sys.Linked absolutePath) (call : Nat) :
    (sys.installPackage absolutePath call).Linked absolutePath := by
  have hgrows := grows_installPackage absolutePath sys call
  unfold PipelineSystem.installPackage at hgrows ⊢
  split
  · rename_i c hc hidle
    simp only [hc, hidle] at hgrows
    split_ifs at hgrows ⊢ with hnew
    · have hlength := h.length
      rw [hidle] at hlength
      have hend : sys.issued.length = sys.apt.returned.length := hlength
      have howned : AptSystem.Owned { sys.apt with
          current := some ⟨absolutePath c.fileName, .creating⟩ } := by
        have hstep : sys.apt.step (.installPackage (absolutePath c.fileName)) = .ok { sys.apt with
            current := some ⟨absolutePath c.fileName, .creating⟩ } := by
          unfold AptSystem.step
          rw [hidle]
        exact h.owned.step (e := .installPackage (absolutePath c.fileName)) trivial hstep
      refine h.grows rfl hgrows howned ?_ h.logged ?_ ?_ (fun _ _ _ => .inl) fun _ _ _ => .inl
      · intro command hcommand
        obtain ⟨name, value, hname, hrest⟩ := h.answered command hcommand
        exact ⟨name, value, (AptSystem.installPackage_transaction hidle _).trans hname, hrest⟩
      · rw [List.length_append, hend]
        rfl
      · intro k i hk
        change (sys.issued ++ [call])[k]? = some i at hk
        rw [List.getElem?_append] at hk
        split_ifs at hk with hlt
        · exact .inl hk
        · obtain rfl := List.mem_singleton.mp (List.mem_of_getElem? hk)
          have hk' : k = sys.issued.length := by
            have hlast := (List.getElem?_eq_some_iff.mp hk).1
            rw [List.length_singleton] at hlast
            omega
          refine .inr ⟨c, hc, ?_⟩
          simp [AptSystem.pathOf, hk', hend]
    · exact h
  · exact h

/-- `update` returns to the call of `installFirmware` what `installPackage` has returned. -/
theorem Linked.updated (h : sys.Linked absolutePath) {k call : Nat} {r : InstallReturn}
    (hcall : sys.issued[k]? = some call) (hr : sys.apt.returned[k]? = some r) :
    Linked absolutePath { sys with debian := sys.debian.updated call r.result } := by
  obtain ⟨c, hc, hpath⟩ := h.paths k call hcall
  have hheard := DebianSystem.hears_updated sys.debian call r.result
  refine h.calls (h.attributed.updated call r.result) (fun i d hd => ?_) (fun _ => id)
    (fun i d' hd' hrefused => ?_) fun i d' b hd' hb => ?_
  · obtain ⟨d', hd', hf⟩ := hheard.after hd
    exact ⟨d', hd', hf.goes.fileName⟩
  · obtain ⟨d, hd, hf⟩ := hheard.before hd'
    rw [hf.goes.fileName]
    rcases hf.installing with hsame | ⟨rfl, hstarts⟩
    · exact h.refused i d hd (hsame ▸ hrefused)
    · rw [hrefused] at hstarts
      have hresult : r.result ≠ .installing := of_decide_eq_false (Option.some.inj hstarts).symm
      obtain rfl : d = c := Option.some.inj (hd.symm.trans hc)
      rw [AptSystem.pathOf, hr] at hpath
      exact ⟨k, r, hcall, hr, Option.some.inj hpath, hresult⟩
  · obtain ⟨d, hd, hf⟩ := hheard.before hd'
    rw [hf.goes.fileName]
    exact h.reports i d b hd (hf.reports ▸ hb)

theorem Linked.answer (h : sys.Linked absolutePath) {answer : DBusAnswer}
    (hok : sys.apt.Delivers (.next answer)) : (sys.answer answer).Linked absolutePath := by
  unfold PipelineSystem.answer
  cases hcurrent : sys.apt.current with
  | none => exact h
  | some c =>
    have hlength := h.length
    rw [hcurrent] at hlength
    have hend : sys.issued.length = sys.apt.returned.length + 1 := hlength
    have hgrows := grows_next hcurrent hok
    have hcount : sys.issued.length =
        (sys.apt.next c answer).returned.length + (sys.apt.next c answer).current.toList.length := by
      cases hphase : c.phase.next answer with
      | ok phase =>
        rw [AptSystem.next_ok hphase]
        exact hend
      | error result =>
        rw [AptSystem.next_error hphase]
        simp [hend]
    have hlogged : ∀ name value, (sys.apt.next c answer).finished.find? name = some value →
        .finished name value ∈ sys.log := by
      rw [AptSystem.next_finished]
      exact h.logged
    have hlinked : Linked absolutePath { sys with apt := sys.apt.next c answer } :=
      h.grows rfl hgrows (h.owned.next hcurrent hok) (h.answered.next hcurrent hok) hlogged hcount
        (fun _ _ => .inl) (fun _ _ _ => .inl) fun _ _ _ => .inl
    dsimp only
    split
    · rename_i result call hphase hcall
      have hlast : (sys.apt.next c answer).returned[sys.apt.returned.length]? =
          some ⟨c.absolutePath, c.phase.transaction, result⟩ := by
        rw [AptSystem.next_error hphase]
        exact List.getElem?_concat_length
      exact hlinked.updated hcall hlast
    · exact hlinked

theorem Linked.finished (h : sys.Linked absolutePath) {objectPath value : String}
    (hok : sys.apt.Delivers (.finished objectPath value)) :
    Linked absolutePath { sys with
      apt := { sys.apt with
        installer := sys.apt.installer.handleFinishedSignal objectPath value
        finished := sys.apt.finished.insert objectPath value }
      log := sys.log ++ [.finished objectPath value] } := by
  refine h.grows rfl (grows_finished sys objectPath value) (h.owned.finished rfl)
    (h.answered.finished h.owned hok) (fun name value' hfind => ?_) h.length (fun _ _ => .inl)
    (fun _ _ _ => .inl) fun i serviceName succeeded hlog => ?_
  · change (OrderedMap.insert _ objectPath value).find? name = some value' at hfind
    rw [OrderedMap.find?_insert] at hfind
    split_ifs at hfind with hsame
    · cases hfind
      rw [← hsame]
      exact List.mem_append_right _ List.mem_cons_self
    · exact List.mem_append_left _ (h.logged name value' hfind)
  · rcases List.mem_append.mp hlog with hlog | hlog
    · exact .inl hlog
    · cases List.mem_singleton.mp hlog

theorem finishedResult_installed : finishedResult value = .installed ↔ value = "exit-success" := by
  unfold finishedResult
  split_ifs with hvalue <;> simp [hvalue]

/-- The callback of a command is given what its transaction came to. -/
theorem rests_executed {name : String} (hmade : sys.Made i path name)
    (hfinished : .finished name value ∈ sys.log) {result : InstallationResult}
    (hresult : result = finishedResult value) (restarted : Bool)
    (hrestarted : result = .installed → sys.Restarted i path restarted) :
    sys.Rests i path (DebianPackageInstaller.updateSucceeds result restarted) := by
  unfold DebianPackageInstaller.updateSucceeds
  by_cases hinstalled : result = .installed
  · rw [if_pos hinstalled]
    cases restarted with
    | true => exact hrestarted hinstalled
    | false => exact .inr (hrestarted hinstalled)
  · rw [if_neg hinstalled]
    refine .inl ⟨value, fun hsuccess => hinstalled ?_, name, hmade, hfinished⟩
    rw [hresult]
    exact finishedResult_installed.mpr hsuccess

theorem Linked.execute (h : sys.Linked absolutePath) (restart : DBusAnswer) :
    (sys.execute absolutePath restart).Linked absolutePath := by
  have hgrows := grows_execute absolutePath sys restart
  unfold PipelineSystem.execute at hgrows ⊢
  split
  · rename_i command hidle hcommand
    cases htarget : sys.target absolutePath command with
    | none => exact h
    | some target =>
      obtain ⟨call, path⟩ := target
      obtain ⟨_, hcall, hmap⟩ := Option.bind_eq_some_iff.mp htarget
      obtain ⟨c, hc, heq⟩ := Option.map_eq_some_iff.mp hmap
      cases heq
      obtain ⟨name, value, hname, hvalue, hresult⟩ := h.answered command (List.mem_of_getElem? hcommand)
      obtain ⟨c', hc', hpath⟩ := h.paths _ call hcall
      obtain rfl : c = c' := Option.some.inj (hc.symm.trans hc')
      have hmade : sys.Made call (absolutePath c.fileName) name := ⟨_, hcall, hpath, hname⟩
      have hfinished := h.logged name value hvalue
      simp only [hidle, hcommand, htarget] at hgrows
      dsimp only
      generalize hsucceeded : restartSucceeds restart = succeeded at hgrows ⊢
      -- The service is restarted after its transaction.
      have hrestarted : command.result = .installed → Restarted { sys with
          executed := sys.executed + 1
          reporting := some (call, command.result, succeeded)
          log := sys.log ++ if command.result = .installed then
            [.restarted call (serviceNameOf (absolutePath c.fileName)) succeeded] else [] }
          call (absolutePath c.fileName) succeeded := by
        intro hinstalled
        have hsuccess : value = "exit-success" := finishedResult_installed.mp (hresult ▸ hinstalled)
        refine ⟨name, hmade.mono hgrows, ?_⟩
        dsimp only
        rw [if_pos hinstalled]
        exact (List.singleton_sublist.mpr (hsuccess ▸ hfinished)).append (List.Sublist.refl [_])
      refine h.grows rfl hgrows h.owned h.answered
        (fun name value hfind => List.mem_append_left _ (h.logged name value hfind)) h.length
        (fun _ _ => .inl) ?_ ?_
      · rintro i result restarted heq
        cases heq
        exact .inr ⟨c, hc, rests_executed (hmade.mono hgrows) (hgrows.log.subset hfinished) hresult
          succeeded hrestarted⟩
      · intro i serviceName succeeded' hlog
        rcases List.mem_append.mp hlog with hlog | hlog
        · exact .inl hlog
        · split_ifs at hlog with hinstalled
          · cases List.mem_singleton.mp hlog
            exact .inr ⟨c, hc, rfl, hrestarted hinstalled⟩
          · cases hlog
  · exact h

theorem Linked.report (h : sys.Linked absolutePath) : sys.report.Linked absolutePath := by
  unfold PipelineSystem.report
  split
  · exact h
  · rename_i call result restarted hreporting
    split_ifs
    · exact h
    · have htold := DebianSystem.told_callback sys.debian call result restarted
      obtain ⟨c₀, hc₀, hrests⟩ := h.reporting call result restarted hreporting
      refine h.calls (h.attributed.callback call result restarted) (fun i c hc => ?_) nofun
        (fun i c' hc' hrefused => ?_) fun i c' b hc' hb => ?_
      · obtain ⟨c', hc', hf⟩ := htold.after hc
        exact ⟨c', hc', hf.goes.fileName⟩
      · obtain ⟨c, hc, hf⟩ := htold.before hc'
        rw [hf.goes.fileName]
        exact h.refused i c hc (hf.installing ▸ hrefused)
      · obtain ⟨c, hc, hf⟩ := htold.before hc'
        rw [hf.goes.fileName]
        rcases hf.reports b hb with hb | ⟨rfl, rfl⟩
        · exact h.reports i c b hc hb
        · obtain rfl : c = c₀ := Option.some.inj (hc.symm.trans hc₀)
          exact hrests

theorem Linked.step (h : sys.Linked absolutePath) {e : PipelineEvent} (hok : sys.Orderly e)
    (hs : sys.step absolutePath e = .ok sys') : sys'.Linked absolutePath := by
  cases e with
  | installFirmware d f => cases hs; exact h.installFirmware hok
  | installPackage call => cases hs; exact h.installPackage call
  | answer answer => cases hs; exact h.answer hok
  | finished objectPath value => cases hs; exact h.finished hok
  | execute restart => cases hs; exact h.execute restart
  | report => cases hs; exact h.report
  | next call => cases hs; exact h.follows (h.attributed.next call) (DebianSystem.follows_next _ call)
  | wake call => cases hs; exact h.follows (h.attributed.wake call) (DebianSystem.follows_wake _ call)
  | abortFirmwareInstall d =>
    cases hs
    exact h.follows (h.attributed.notify _) (DebianSystem.follows_notify _ _)

theorem linked_create : create.Linked absolutePath where
  attributed := DebianSystem.attributed_create
  owned := AptSystem.create_owned
  answered := nofun
  logged := nofun
  length := rfl
  paths := nofun
  refused := nofun
  reporting := nofun
  reports := nofun
  restarts := nofun

theorem Linked.of_installed (h : sys.Linked absolutePath) {c : FirmwareCall}
    (hc : sys.debian.calls[i]? = some c) (hresponse : c.phase.response = some .installed) :
    sys.Rests i (absolutePath c.fileName) true :=
  h.reports i c true hc ((h.attributed.earned (List.mem_of_getElem? hc) hresponse).installed rfl)

theorem Linked.of_failed (h : sys.Linked absolutePath) {c : FirmwareCall}
    (hc : sys.debian.calls[i]? = some c) (hresponse : c.phase.response = some .failedToInstall) :
    sys.Refused i (absolutePath c.fileName) ∨ sys.Rests i (absolutePath c.fileName) false := by
  rcases (h.attributed.earned (List.mem_of_getElem? hc) hresponse).failedToInstall rfl with hrefused | hfailed
  · exact .inl (h.refused i c hc hrefused)
  · exact .inr (h.reports i c false hc hfailed)

end PipelineSystem

end WolkConnect
