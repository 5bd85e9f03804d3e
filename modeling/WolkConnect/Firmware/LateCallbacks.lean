import WolkConnect.Firmware.Debian

/-!
# Callbacks after the return

The callback of `installFirmware` looks whether the mutex of its call is still there before it writes
the result. It notifies in any case, and finds the condition variable by the name of the file, which by
then may be that of a later call.
-/

namespace WolkConnect

namespace DebianSystem

/-- What the calls for the device return that came after `call` is the same in both states, however
they go on. -/
def Unaffected (sys sys' : DebianSystem) (call : Nat) (deviceKey : String) : Prop :=
  ∀ es t t', Machine.Run step Apart sys es t → Machine.Run step Apart sys' es t' →
    ∀ (later : Nat) c c', call < later → t.calls[later]? = some c → t'.calls[later]? = some c' →
      c.deviceKey = deviceKey → ∀ response response', c.phase.response = some response →
        c'.phase.response = some response' → response' = response

/-- A step that is the callback of a call that has returned changes no result of a later call. -/
def Harmless (sys : DebianSystem) (e : DebianEvent) (sys' : DebianSystem) : Prop :=
  ∀ call result restarted c, e = .callback call result restarted → sys.calls[call]? = some c →
    c.phase.pending = false → sys.Unaffected sys' call c.deviceKey

/-- When the callback of a call that has returned runs, no call waits on the condition variable that is
recorded for its file. -/
def Spares (sys : DebianSystem) : DebianEvent → Prop
  | .callback call _ _ => ∀ c ∈ sys.calls[call]?, c.phase.pending = false →
      ∀ other ∈ sys.installer.conditionVariables.find? c.fileName, ∀ c' ∈ sys.calls[other]?,
        c'.phase ≠ .waiting
  | .installFirmware _ _ | .updated _ _ | .next _ | .wake _ | .abortFirmwareInstall _ => True

instance (sys : DebianSystem) : (e : DebianEvent) → Decidable (sys.Spares e)
  | .callback _ _ _ => inferInstanceAs (Decidable (∀ _ ∈ _, _))
  | .installFirmware _ _ | .updated _ _ | .next _ | .wake _ | .abortFirmwareInstall _ => .isTrue trivial

variable {sys sys' t : DebianSystem} {es : List DebianEvent} {call k : Nat} {c : FirmwareCall}
  {deviceKey fileName : String}

/-! ## Calls for a device come one after the other -/

/-- Only the last call for a device has not returned. -/
def Successive (sys : DebianSystem) : Prop :=
  ∀ (i j : Nat) c c', sys.calls[i]? = some c → sys.calls[j]? = some c' → c.deviceKey = c'.deviceKey →
    c.phase.pending = true → j ≤ i

/-- The calls go on, unless there is a new one. -/
theorem goes_step {e : DebianEvent} (hs : sys.step e = .ok sys') :
    (∃ deviceKey fileName, e = .installFirmware deviceKey fileName) ∨
      Pairs (fun _ => Goes) sys sys' := by
  cases e with
  | installFirmware deviceKey fileName => exact .inl ⟨deviceKey, fileName, rfl⟩
  | updated call result =>
    cases hs
    exact .inr ((hears_updated sys call result).mono fun _ _ _ h => h.goes)
  | next call => cases hs; exact .inr ((follows_next sys call).mono fun _ _ _ h => h.goes)
  | wake call => cases hs; exact .inr ((follows_wake sys call).mono fun _ _ _ h => h.goes)
  | callback call result restarted =>
    cases hs
    exact .inr ((told_callback sys call result restarted).mono fun _ _ _ h => h.goes)
  | abortFirmwareInstall deviceKey =>
    cases hs
    exact .inr ((follows_notify sys _).mono fun _ _ _ h => h.goes)

theorem Successive.installFirmware (h : sys.Successive)
    (hapart : sys.Apart (.installFirmware deviceKey fileName)) :
    (sys.installFirmware deviceKey fileName).Successive := by
  intro i j c c' hi hj hdevice hpending
  change (sys.calls ++ [_])[i]? = some c at hi
  change (sys.calls ++ [_])[j]? = some c' at hj
  have hlast : j ≤ sys.calls.length := by
    have hlt := (List.getElem?_eq_some_iff.mp hj).1
    rw [List.length_append, List.length_singleton] at hlt
    omega
  rw [List.getElem?_append] at hi hj
  split_ifs at hi hj with hlt hlt'
  · exact h i j c c' hi hj hdevice hpending
  · obtain rfl := List.mem_singleton.mp (List.mem_of_getElem? hj)
    exact absurd hdevice (hapart c (List.mem_of_getElem? hi) hpending)
  · omega
  · omega

theorem Successive.step (h : sys.Successive) {e : DebianEvent} (hok : sys.Apart e)
    (hs : sys.step e = .ok sys') : sys'.Successive := by
  rcases goes_step hs with ⟨deviceKey, fileName, rfl⟩ | hgoes
  · cases hs
    exact h.installFirmware hok
  · intro i j c c' hi hj hdevice hpending
    obtain ⟨b, hb, hgo⟩ := hgoes.before hi
    obtain ⟨b', hb', hgo'⟩ := hgoes.before hj
    rw [hgo.deviceKey, hgo'.deviceKey] at hdevice
    exact h i j b b' hb hb' hdevice (hgo.pending hpending)

/-- What a call has returned it has returned for good. -/
theorem response_kept (hrun : Machine.Run step Apart sys es t) (hc : sys.calls[k]? = some c)
    {response : InstallResponse} (hresponse : c.phase.response = some response) :
    ∃ c', t.calls[k]? = some c' ∧ c'.deviceKey = c.deviceKey ∧ c'.phase.response = some response := by
  refine hrun.invariant (fun t => ∃ c', t.calls[k]? = some c' ∧ c'.deviceKey = c.deviceKey ∧
    c'.phase.response = some response) ⟨c, hc, rfl, hresponse⟩ ?_
  rintro s e s' ⟨b, hb, hdevice, hreturned⟩ hok hs
  rcases goes_step hs with ⟨deviceKey, fileName, rfl⟩ | hgoes
  · cases hs
    refine ⟨b, ?_, hdevice, hreturned⟩
    exact (List.getElem?_append_left (List.getElem?_eq_some_iff.mp hb).1).trans hb
  · obtain ⟨b', hb', hgo⟩ := hgoes.after hb
    exact ⟨b', hb', hgo.deviceKey.trans hdevice, hgo.response _ hreturned⟩

/-! ## What a late callback does -/

theorem installer_wake (sys : DebianSystem) (call : Nat) :
    (sys.wake call).installer = sys.installer := by
  rcases sys.wake_cases call with heq | ⟨c, -, -, heq⟩ <;> rw [heq]
  rfl

theorem installer_notify (sys : DebianSystem) (call : Option Nat) :
    (sys.notify call).installer = sys.installer := by
  cases call with
  | none => rfl
  | some call => exact sys.installer_wake call

theorem wake_waiting (hc : sys.calls[k]? = some c) (hphase : c.phase = .waiting) :
    sys.wake k = sys.advance k c .woken := by
  unfold wake
  rw [hc]
  exact if_pos hphase

theorem wake_other (hc : sys.calls[k]? = some c) (hphase : c.phase ≠ .waiting) : sys.wake k = sys := by
  unfold wake
  rw [hc]
  exact if_neg hphase

/-- The mutex of a call that has returned is gone, so that its callback only notifies. -/
theorem callback_late (hc : sys.calls[call]? = some c) (hlate : c.phase.pending = false)
    (result : InstallationResult) (restarted : Bool) : sys.callback call result restarted =
      sys.notify (sys.installer.conditionVariables.find? c.fileName) := by
  have hfree : c.phase.holdsMutex = false := by
    cases hphase : c.phase with
    | locked | woken => rw [hphase] at hlate; cases hlate
    | updating | updated | waiting | finishing | leaving | returned => rfl
  unfold callback
  rw [hc]
  dsimp only
  rw [hfree, hlate, if_neg Bool.false_ne_true, if_neg Bool.false_ne_true]

theorem callback_pending (hc : sys.calls[call]? = some c) (hpending : c.phase.pending = true)
    (hfree : c.phase.holdsMutex = false) (result : InstallationResult) (restarted : Bool) :
    sys.callback call result restarted = ({
      installer := sys.installer.report c.deviceKey
        (DebianPackageInstaller.updateSucceeds result restarted)
      calls := sys.calls.set call (c.hear (DebianPackageInstaller.updateSucceeds result restarted)) } :
        DebianSystem).notify (sys.installer.conditionVariables.find? c.fileName) := by
  unfold callback
  rw [hc]
  dsimp only
  rw [hfree, hpending, if_neg Bool.false_ne_true, if_pos rfl]

/-- A late callback that wakes no call leaves everything as it is. -/
theorem harmless_of_spares {e : DebianEvent} (hspares : sys.Spares e) (hs : sys.step e = .ok sys') :
    sys.Harmless e sys' := by
  rintro call result restarted c rfl hc hlate
  have hsame : sys' = sys := by
    cases hs
    rw [callback_late hc hlate]
    cases hother : sys.installer.conditionVariables.find? c.fileName with
    | none => rfl
    | some other =>
      change sys.wake other = sys
      cases hc' : sys.calls[other]? with
      | none =>
        unfold wake
        rw [hc']
      | some c' => exact wake_other hc' (hspares c hc hlate other hother c' hc')
  subst hsame
  rintro es t t' hrun hrun' later b b' - hb hb' - response response' hresponse hresponse'
  cases hrun.unique hrun'
  cases hb.symm.trans hb'
  exact Option.some.inj (hresponse'.symm.trans hresponse)

/-! ## Steps of one call -/

theorem run_one {e : DebianEvent} (hok : sys.Apart e) (hs : sys.step e = .ok sys') :
    Machine.Run step Apart sys [e] sys' :=
  .snoc .nil hok hs

/-- Whatever begins no call can happen. -/
theorem exists_run (es : List DebianEvent) (hes : ∀ e ∈ es, ∀ sys : DebianSystem, sys.Apart e)
    (sys : DebianSystem) : ∃ t, Machine.Run step Apart sys es t := by
  induction es generalizing sys with
  | nil => exact ⟨sys, .nil⟩
  | cons e es ih =>
    obtain ⟨s, hs⟩ : ∃ s, sys.step e = .ok s := by cases e <;> exact ⟨_, rfl⟩
    obtain ⟨t, ht⟩ := ih (fun e' he' => hes e' (List.mem_cons_of_mem _ he')) s
    exact ⟨t, (run_one (hes e List.mem_cons_self sys) hs).append ht⟩

theorem getElem?_advance (hc : sys.calls[k]? = some c) (phase : FirmwareCallPhase) :
    (sys.advance k c phase).calls[k]? = some { c with phase := phase } :=
  List.getElem?_set_self (List.getElem?_eq_some_iff.mp hc).1

theorem next_idle (hc : sys.calls[k]? = some c)
    (hphase : c.phase = .waiting ∨ ∃ installing response, c.phase = .returned installing response) :
    sys.next k = sys := by
  unfold next
  rw [hc]
  rcases hphase with hphase | ⟨installing, response, hphase⟩ <;> simp only [hphase]

/-- A call that waits goes on waiting. -/
theorem run_idle (hc : sys.calls[k]? = some c)
    (hphase : c.phase = .waiting ∨ ∃ installing response, c.phase = .returned installing response) :
    Machine.Run step Apart sys [.next k, .next k] sys := by
  have hone : Machine.Run step Apart sys [.next k] sys :=
    run_one trivial (congrArg Except.ok (next_idle hc hphase))
  exact hone.append hone

/-- The `return` of a call whose wait is over. -/
def leave (sys : DebianSystem) (k : Nat) (c : FirmwareCall) : DebianSystem where
  installer := (sys.installer.finish c.deviceKey c.fileName).2
  calls := sys.calls.set k
    { c with phase := .leaving true (sys.installer.finish c.deviceKey c.fileName).1 }

theorem getElem?_leave (hc : sys.calls[k]? = some c) : (sys.leave k c).calls[k]? =
    some { c with phase := .leaving true (sys.installer.finish c.deviceKey c.fileName).1 } :=
  List.getElem?_set_self (List.getElem?_eq_some_iff.mp hc).1

theorem run_leave (hc : sys.calls[k]? = some c) (hphase : c.phase = .woken) :
    Machine.Run step Apart sys [.next k, .next k] (sys.leave k c) := by
  have hfirst : sys.next k = sys.advance k c (.finishing true) := by
    unfold next
    rw [hc]
    simp only [hphase]
  have hget := getElem?_advance hc (.finishing true)
  have hsecond : (sys.advance k c (.finishing true)).next k = sys.leave k c := by
    unfold next
    rw [hget]
    simp [advance, leave]
  exact (run_one (e := .next k) trivial (congrArg Except.ok hfirst)).append
    (run_one (e := .next k) trivial (congrArg Except.ok hsecond))

theorem run_wake_leave (hc : sys.calls[k]? = some c) (hphase : c.phase = .waiting) :
    Machine.Run step Apart sys [.wake k, .next k, .next k] (sys.leave k c) := by
  have hwoken := getElem?_advance hc .woken
  have hleave : (sys.advance k c .woken).leave k { c with phase := .woken } = sys.leave k c := by
    simp [leave, advance]
  have hwake := run_one (e := .wake k) trivial (congrArg Except.ok (wake_waiting hc hphase))
  have hrun := hwake.append (run_leave hwoken rfl)
  rwa [hleave] at hrun

/-- A call whose result is read returns it. -/
theorem run_left (hc : sys.calls[k]? = some c) {installing : Bool} {response : InstallResponse}
    (hphase : c.phase = .leaving installing response) : Machine.Run step Apart sys
      [.wake k, .next k, .next k] (sys.advance k c (.returned installing response)) := by
  have hwake : sys.wake k = sys := wake_other hc (by rw [hphase]; exact FirmwareCallPhase.noConfusion)
  have hfirst : sys.next k = sys.advance k c (.returned installing response) := by
    unfold next
    rw [hc]
    simp only [hphase]
  have hsecond := next_idle (getElem?_advance hc (.returned installing response)) (.inr ⟨_, _, rfl⟩)
  refine ((run_one (e := .wake k) trivial (congrArg Except.ok hwake)).append
    (run_one (e := .next k) trivial (congrArg Except.ok hfirst))).append ?_
  exact run_one (e := .next k) trivial (congrArg Except.ok hsecond)

/-- A new call comes to its wait. -/
theorem run_begin (hok : sys.Apart (.installFirmware deviceKey fileName)) :
    Machine.Run step Apart sys [.installFirmware deviceKey fileName, .updated sys.calls.length .installing,
      .next sys.calls.length, .next sys.calls.length]
      ⟨sys.installer.prepare deviceKey fileName sys.calls.length,
        sys.calls ++ [⟨deviceKey, fileName, .waiting, []⟩]⟩ := by
  refine (((run_one hok rfl).append (run_one (e := .updated _ _) trivial rfl)).append
    (run_one (e := .next _) trivial rfl)).append (run_one (e := .next _) trivial ?_)
  simp [step, installFirmware, updated, next, advance, DebianPackageInstaller.updateStarts]

/-! ## A call whose wait is ended -/

theorem getElem?_notify (hc : sys.calls[k]? = some c) (other : Option Nat) :
    (sys.notify other).calls[k]? = some c ∨
      (sys.notify other).calls[k]? = some { c with phase := .woken } := by
  cases other with
  | none => exact .inl hc
  | some other =>
    change (sys.wake other).calls[k]? = _ ∨ (sys.wake other).calls[k]? = _
    rcases sys.wake_cases other with heq | ⟨b, hb, -, heq⟩
    · rw [heq]
      exact .inl hc
    · rw [heq]
      by_cases hsame : other = k
      · subst hsame
        cases hb.symm.trans hc
        exact .inr (getElem?_advance hc .woken)
      · exact .inl ((List.getElem?_set_ne hsame).trans hc)

theorem report_self (x : DebianPackageInstaller) (deviceKey : String) {recorded : InstallResponse}
    (hfind : x.deviceInstallationResult.find? deviceKey = some recorded) (installation : Bool) :
    (x.report deviceKey installation).deviceInstallationResult.find? deviceKey =
      some (if installation then .installed else .failedToInstall) := by
  unfold DebianPackageInstaller.report
  rw [hfind]
  exact OrderedMap.find?_insert_self _ _ _

/-- The callback of a call that waits runs, and then its wait ends: it returns what was reported. -/
theorem run_report_leave (hc : sys.calls[k]? = some c) (hphase : c.phase = .waiting)
    {recorded : InstallResponse}
    (hfind : sys.installer.deviceInstallationResult.find? c.deviceKey = some recorded)
    (result : InstallationResult) (restarted : Bool) :
    ∃ t b, Machine.Run step Apart sys [.callback k result restarted, .wake k, .next k, .next k] t ∧
      t.calls[k]? = some b ∧ b.deviceKey = c.deviceKey ∧ b.phase.response =
        some (if DebianPackageInstaller.updateSucceeds result restarted then .installed
          else .failedToInstall) := by
  generalize hsucceeds : DebianPackageInstaller.updateSucceeds result restarted = installation
  obtain ⟨s, hstep, hs, hinstaller⟩ : ∃ s : DebianSystem,
      sys.step (.callback k result restarted) = .ok s ∧
      (s.calls[k]? = some { c with reports := c.reports ++ [installation] } ∨
        s.calls[k]? = some { c with phase := .woken, reports := c.reports ++ [installation] }) ∧
      s.installer = sys.installer.report c.deviceKey installation := by
    have hhear : c.hear installation = { c with reports := c.reports ++ [installation] } := by
      unfold FirmwareCall.hear
      rw [hphase]
      exact if_pos rfl
    have hcallback := callback_pending hc (by rw [hphase]; rfl) (by rw [hphase]; rfl) result restarted
    rw [hsucceeds, hhear] at hcallback
    refine ⟨_, congrArg Except.ok hcallback, ?_, installer_notify _ _⟩
    exact getElem?_notify (List.getElem?_set_self (List.getElem?_eq_some_iff.mp hc).1) _
  have hone : Machine.Run step Apart sys [.callback k result restarted] s := run_one trivial hstep
  have hreturns : (s.installer.finish c.deviceKey c.fileName).1 =
      if installation then .installed else .failedToInstall := by
    change (s.installer.deviceInstallationResult.find? c.deviceKey).getD _ = _
    rw [hinstaller, report_self _ _ hfind]
    rfl
  rcases hs with hs | hs
  · refine ⟨_, _, hone.append (run_wake_leave hs hphase), getElem?_leave hs, rfl, ?_⟩
    exact congrArg some hreturns
  · have hwake : s.wake k = s := wake_other hs (by simp)
    have hstay : Machine.Run step Apart s [.wake k] s := run_one trivial (congrArg Except.ok hwake)
    refine ⟨_, _, hone.append (hstay.append (run_leave hs rfl)), getElem?_leave hs, rfl, ?_⟩
    exact congrArg some hreturns

/-- A call may return different results in the two states, while the same happens. -/
def Differ (sys sys' : DebianSystem) (k : Nat) (deviceKey : String) : Prop :=
  ∃ es t t' b b' response response', Machine.Run step Apart sys es t ∧
    Machine.Run step Apart sys' es t' ∧ t.calls[k]? = some b ∧ t'.calls[k]? = some b' ∧
    b.deviceKey = deviceKey ∧ b.phase.response = some response ∧
    b'.phase.response = some response' ∧ response' ≠ response

/-- The call that is woken returns before its callback has run, and would return something else if the
callback ran first. -/
theorem differ_of_woken (hattributed : sys.Attributed) (hc : sys.calls[k]? = some c)
    (hphase : c.phase = .waiting) : Differ sys (sys.advance k c .woken) k c.deviceKey := by
  obtain ⟨recorded, -, hreturned | ⟨-, hfind⟩⟩ := hattributed.recorded c (List.mem_of_getElem? hc)
  · rw [hphase] at hreturned
    cases hreturned
  -- The callback reports what is not recorded yet.
  obtain ⟨result, hdiffers⟩ : ∃ result, recorded ≠
      if DebianPackageInstaller.updateSucceeds result true then .installed else .failedToInstall := by
    by_cases hinstalled : recorded = .installed
    · exact ⟨.packageNotFound, by rw [hinstalled]; decide⟩
    · exact ⟨.installed, hinstalled⟩
  obtain ⟨t, b, ht, hb, hdevice, hresponse⟩ := run_report_leave hc hphase hfind result true
  have hwoken := getElem?_advance hc .woken
  obtain ⟨t', ht'⟩ := exists_run [.callback k result true, .wake k, .next k, .next k]
    (by simp [Apart]) ((sys.advance k c .woken).leave k { c with phase := .woken })
  have hreturns : ((sys.advance k c .woken).installer.finish c.deviceKey c.fileName).1 = recorded := by
    change (sys.installer.deviceInstallationResult.find? c.deviceKey).getD _ = recorded
    rw [hfind]
    rfl
  obtain ⟨b', hb', -, hresponse'⟩ := response_kept ht' (getElem?_leave hwoken) (congrArg some hreturns)
  exact ⟨_, t, t', b, b', _, recorded, (run_idle hc (.inl hphase)).append ht,
    (run_leave hwoken rfl).append ht', hb, hb', hdevice, hresponse, hresponse', hdiffers⟩

/-! ## A call for another device -/

/-- What brings a call to its end. -/
def returning (k : Nat) : FirmwareCallPhase → List DebianEvent
  | .returned _ _ => []
  | .leaving _ _ => [.next k]
  | .finishing _ => [.next k, .next k]
  | .woken | .updated false => [.next k, .next k, .next k]
  | .waiting => [.wake k, .next k, .next k, .next k]
  | .locked => [.next k, .wake k, .next k, .next k, .next k]
  | .updated true => [.next k, .next k, .wake k, .next k, .next k, .next k]
  | .updating => [.updated k .packageNotFound, .next k, .next k, .next k]

/-- The call returns, and nothing happens to the others. -/
def Returns (sys : DebianSystem) (k : Nat) (c : FirmwareCall) (es : List DebianEvent) : Prop :=
  ∃ t installing response, Machine.Run step Apart sys es t ∧
    t.calls = sys.calls.set k { c with phase := .returned installing response }

theorem Returns.cons {e : DebianEvent} {phase : FirmwareCallPhase} (hc : sys.calls[k]? = some c)
    (hok : sys.Apart e) (hs : sys.step e = .ok sys')
    (hcalls : sys'.calls = sys.calls.set k { c with phase := phase })
    (h : ∀ s : DebianSystem, s.calls[k]? = some { c with phase := phase } →
      s.Returns k { c with phase := phase } es) : sys.Returns k c (e :: es) := by
  obtain ⟨t, installing, response, hrun, ht⟩ := h sys' (by
    rw [hcalls]
    exact List.getElem?_set_self (List.getElem?_eq_some_iff.mp hc).1)
  refine ⟨t, installing, response, (run_one hok hs).append hrun, ?_⟩
  rw [ht, hcalls, List.set_set]

theorem returns (hc : sys.calls[k]? = some c) : sys.Returns k c (returning k c.phase) := by
  obtain ⟨d, f, phase, reports⟩ := c
  have hreturned : ∀ b r (s : DebianSystem), s.calls[k]? = some ⟨d, f, .returned b r, reports⟩ →
      s.Returns k ⟨d, f, .returned b r, reports⟩ (returning k (.returned b r)) := by
    intro b r s hs
    refine ⟨s, b, r, .nil, ?_⟩
    obtain ⟨hlt, hget⟩ := List.getElem?_eq_some_iff.mp hs
    rw [← hget, List.set_getElem_self]
  have hleaving : ∀ b r (s : DebianSystem), s.calls[k]? = some ⟨d, f, .leaving b r, reports⟩ →
      s.Returns k ⟨d, f, .leaving b r, reports⟩ (returning k (.leaving b r)) := fun b r s hs =>
    .cons hs trivial rfl (by simp [next, hs, advance]) (hreturned b r)
  have hfinishing : ∀ b (s : DebianSystem), s.calls[k]? = some ⟨d, f, .finishing b, reports⟩ →
      s.Returns k ⟨d, f, .finishing b, reports⟩ (returning k (.finishing b)) := fun b s hs =>
    .cons hs trivial rfl (by simp [next, hs, advance]; rfl) (hleaving b _)
  have hwoken : ∀ s : DebianSystem, s.calls[k]? = some ⟨d, f, .woken, reports⟩ →
      s.Returns k ⟨d, f, .woken, reports⟩ (returning k .woken) := fun s hs =>
    .cons hs trivial rfl (by simp [next, hs, advance]) (hfinishing true)
  have hrefused : ∀ s : DebianSystem, s.calls[k]? = some ⟨d, f, .updated false, reports⟩ →
      s.Returns k ⟨d, f, .updated false, reports⟩ (returning k (.updated false)) := fun s hs =>
    .cons hs trivial rfl (by simp [next, hs, advance]) (hfinishing false)
  have hwaiting : ∀ s : DebianSystem, s.calls[k]? = some ⟨d, f, .waiting, reports⟩ →
      s.Returns k ⟨d, f, .waiting, reports⟩ (returning k .waiting) := fun s hs =>
    .cons hs trivial rfl (by simp [wake, hs, advance]) hwoken
  have hlocked : ∀ s : DebianSystem, s.calls[k]? = some ⟨d, f, .locked, reports⟩ →
      s.Returns k ⟨d, f, .locked, reports⟩ (returning k .locked) := fun s hs =>
    .cons hs trivial rfl (by simp [next, hs, advance]) hwaiting
  cases phase with
  | returned b r => exact hreturned b r sys hc
  | leaving b r => exact hleaving b r sys hc
  | finishing b => exact hfinishing b sys hc
  | woken => exact hwoken sys hc
  | waiting => exact hwaiting sys hc
  | locked => exact hlocked sys hc
  | updated b =>
    cases b with
    | true => exact .cons hc trivial rfl (by simp [next, hc, advance]) hlocked
    | false => exact hrefused sys hc
  | updating =>
    refine .cons (e := .updated k .packageNotFound) hc trivial rfl ?_ hrefused
    simp [updated, hc, advance, DebianPackageInstaller.updateStarts]

/-- No call for the device is left when the one that had not returned has. -/
theorem Successive.apart_of_returned (h : sys.Successive) (hc : sys.calls[k]? = some c)
    (hpending : c.phase.pending = true) {installing : Bool} {response : InstallResponse}
    (hcalls : t.calls = sys.calls.set k { c with phase := .returned installing response })
    (fileName : String) : t.Apart (.installFirmware c.deviceKey fileName) := by
  intro b hb hpending' hdevice
  rw [hcalls] at hb
  obtain ⟨n, hn⟩ := List.mem_iff_getElem?.mp hb
  rw [List.getElem?_set] at hn
  split_ifs at hn with hkn
  · cases hn
    cases hpending'
  · have hle := h k n c b hc hn hdevice.symm hpending
    have hge := h n k b c hn hc hdevice hpending'
    omega

/-- Whether the call that waits for another device is woken or not, the calls for the device can be
brought to an end. -/
theorem exists_settled (hsuccessive : sys.Successive) (hc : sys.calls[k]? = some c)
    (hphase : c.phase = .waiting) (hother : c.deviceKey ≠ deviceKey) :
    ∃ es t t', Machine.Run step Apart sys es t ∧
      Machine.Run step Apart (sys.advance k c .woken) es t' ∧
      t.calls[k]? = some c ∧ t'.calls[k]? = some { c with phase := .woken } ∧
      t.calls.length = sys.calls.length ∧ t'.calls.length = sys.calls.length ∧
      ∀ fileName, t.Apart (.installFirmware deviceKey fileName) ∧
        t'.Apart (.installFirmware deviceKey fileName) := by
  have hwoken := getElem?_advance hc .woken
  have hlength : (sys.advance k c .woken).calls.length = sys.calls.length := List.length_set
  by_cases hleft : ∃ (j : Nat) (b : FirmwareCall), sys.calls[j]? = some b ∧ b.phase.pending = true ∧
      b.deviceKey = deviceKey
  · obtain ⟨j, b, hb, hpending, rfl⟩ := hleft
    have hne : k ≠ j := by
      rintro rfl
      cases hb.symm.trans hc
      exact hother rfl
    have hb' : (sys.advance k c .woken).calls[j]? = some b := (List.getElem?_set_ne hne).trans hb
    have hsuccessive' : (sys.advance k c .woken).Successive :=
      hsuccessive.step (e := .wake k) trivial (congrArg Except.ok (wake_waiting hc hphase))
    obtain ⟨t, installing, response, hrun, hcalls⟩ := returns hb
    obtain ⟨t', installing', response', hrun', hcalls'⟩ := returns hb'
    refine ⟨_, t, t', hrun, hrun', ?_, ?_, by rw [hcalls, List.length_set],
      by rw [hcalls', List.length_set, hlength], fun fileName => ⟨?_, ?_⟩⟩
    · rw [hcalls, List.getElem?_set_ne hne.symm]
      exact hc
    · rw [hcalls', List.getElem?_set_ne hne.symm]
      exact hwoken
    · exact hsuccessive.apart_of_returned hb hpending hcalls fileName
    · exact hsuccessive'.apart_of_returned hb' hpending hcalls' fileName
  · have hfree : ∀ fileName, sys.Apart (.installFirmware deviceKey fileName) := by
      intro fileName b hb hpending hdevice
      obtain ⟨j, hj⟩ := List.mem_iff_getElem?.mp hb
      exact hleft ⟨j, b, hj, hpending, hdevice⟩
    refine ⟨[], sys, sys.advance k c .woken, .nil, .nil, hc, hwoken, rfl, hlength,
      fun fileName => ⟨hfree fileName, fun b hb hpending => ?_⟩⟩
    rcases List.mem_or_eq_of_mem_set hb with hb | rfl
    · exact hfree fileName b hb hpending
    · exact hother

/-- A call for the same file begins and waits, is aborted, and then has its callback run. -/
def overtaking (k last : Nat) (deviceKey fileName : String) : List DebianEvent :=
  [.next k, .next k] ++ [.installFirmware deviceKey fileName, .updated last .installing, .next last,
    .next last] ++ [.wake k, .next k, .next k] ++ [.abortFirmwareInstall deviceKey] ++
  [.next last, .next last] ++ [.callback last .installed true, .wake last, .next last, .next last]

/-- The last call, when another one has returned from its wait after it began. -/
theorem run_late_return (hc : sys.calls[k]? = some c) (hphase : c.phase = .waiting)
    (hother : c.deviceKey ≠ deviceKey) (hfree : sys.Apart (.installFirmware deviceKey c.fileName)) :
    ∃ t b, Machine.Run step Apart sys (overtaking k sys.calls.length deviceKey c.fileName) t ∧
      t.calls[sys.calls.length]? = some b ∧ b.deviceKey = deviceKey ∧
      b.phase.response = some .installed := by
  have hlt := (List.getElem?_eq_some_iff.mp hc).1
  let begun : DebianSystem := ⟨sys.installer.prepare deviceKey c.fileName sys.calls.length,
    sys.calls ++ [⟨deviceKey, c.fileName, .waiting, []⟩]⟩
  have hk : begun.calls[k]? = some c := (List.getElem?_append_left hlt).trans hc
  have hlast : (begun.leave k c).calls[sys.calls.length]? =
      some ⟨deviceKey, c.fileName, .waiting, []⟩ :=
    (List.getElem?_set_ne (Nat.ne_of_lt hlt)).trans List.getElem?_concat_length
  -- Its condition variable went with the other call.
  have hnone : (begun.leave k c).installer.callOf deviceKey = none := by
    simp [begun, leave, DebianPackageInstaller.finish, DebianPackageInstaller.prepare,
      DebianPackageInstaller.callOf, OrderedMap.find?_erase, hother]
  have habort : (begun.leave k c).step (.abortFirmwareInstall deviceKey) = .ok (begun.leave k c) := by
    simp only [step, hnone, notify]
  have hfind : (begun.leave k c).installer.deviceInstallationResult.find? deviceKey = some .willInstall :=
    OrderedMap.find?_insert_self _ _ _
  obtain ⟨t, b, hrun, hb, hdevice, hresponse⟩ := run_report_leave hlast rfl hfind .installed true
  exact ⟨t, b, (((((run_idle hc (.inl hphase)).append (run_begin hfree)).append
    (run_wake_leave hk hphase)).append (run_one (e := .abortFirmwareInstall deviceKey) trivial habort)).append
      (run_idle hlast (.inl rfl))).append hrun, hb, hdevice, hresponse⟩

/-- A call that waits is aborted, and returns before its callback runs. -/
theorem run_abort_return {s : DebianSystem} (hrun : Machine.Run step Apart s es sys)
    (hc : sys.calls[k]? = some c) (hphase : c.phase = .waiting)
    (hsome : sys.installer.callOf c.deviceKey = some k)
    (hfind : sys.installer.deviceInstallationResult.find? c.deviceKey = some .willInstall) :
    ∃ t b, Machine.Run step Apart s (es ++ [.abortFirmwareInstall c.deviceKey] ++ [.next k, .next k] ++
        [.callback k .installed true, .wake k, .next k, .next k]) t ∧
      t.calls[k]? = some b ∧ b.phase.response = some .willInstall := by
  have habort : sys.step (.abortFirmwareInstall c.deviceKey) = .ok (sys.advance k c .woken) := by
    simp only [step, hsome, notify]
    rw [wake_waiting hc hphase]
  have hwoken := getElem?_advance hc .woken
  have hreturns : ((sys.advance k c .woken).installer.finish c.deviceKey c.fileName).1 =
      .willInstall := by
    change (sys.installer.deviceInstallationResult.find? c.deviceKey).getD _ = _
    rw [hfind]
    rfl
  obtain ⟨t, ht⟩ := exists_run [.callback k .installed true, .wake k, .next k, .next k] (by simp [Apart])
    ((sys.advance k c .woken).leave k { c with phase := .woken })
  obtain ⟨b, hb, -, hresponse⟩ := response_kept ht (getElem?_leave hwoken) (congrArg some hreturns)
  exact ⟨t, b, ((hrun.append (run_one (e := .abortFirmwareInstall c.deviceKey) trivial habort)).append
    (run_leave hwoken rfl)).append ht, hb, hresponse⟩

/-- The same events, when the wait of the other call had ended already. -/
theorem run_early_return (hc : sys.calls[k]? = some c) (hphase : c.phase = .woken)
    (hother : c.deviceKey ≠ deviceKey) (hfree : sys.Apart (.installFirmware deviceKey c.fileName)) :
    ∃ t b, Machine.Run step Apart sys (overtaking k sys.calls.length deviceKey c.fileName) t ∧
      t.calls[sys.calls.length]? = some b ∧ b.phase.response = some .willInstall := by
  have hlt := (List.getElem?_eq_some_iff.mp hc).1
  have hlength : (sys.leave k c).calls.length = sys.calls.length := List.length_set
  have hfree' : (sys.leave k c).Apart (.installFirmware deviceKey c.fileName) := by
    intro b hb hpending
    rcases List.mem_or_eq_of_mem_set hb with hb | rfl
    · exact hfree b hb hpending
    · exact hother
  have hbegin := run_begin hfree'
  rw [hlength] at hbegin
  let begun : DebianSystem := ⟨(sys.leave k c).installer.prepare deviceKey c.fileName sys.calls.length,
    (sys.leave k c).calls ++ [⟨deviceKey, c.fileName, .waiting, []⟩]⟩
  have hk : begun.calls[k]? = some { c with
      phase := .leaving true (sys.installer.finish c.deviceKey c.fileName).1 } :=
    (List.getElem?_append_left (hlength.symm ▸ hlt)).trans (List.getElem?_set_self hlt)
  have hleft := run_left hk rfl
  generalize hended : begun.advance k { c with
    phase := .leaving true (sys.installer.finish c.deviceKey c.fileName).1 }
      (.returned true (sys.installer.finish c.deviceKey c.fileName).1) = ended at hleft
  have hinstaller : ended.installer = begun.installer := by rw [← hended]; rfl
  have hlast : ended.calls[sys.calls.length]? = some ⟨deviceKey, c.fileName, .waiting, []⟩ := by
    rw [← hended]
    refine (List.getElem?_set_ne (Nat.ne_of_lt hlt)).trans ?_
    rw [← hlength]
    exact List.getElem?_concat_length
  -- Its condition variable is there.
  have hsome : ended.installer.callOf deviceKey = some sys.calls.length := by
    rw [hinstaller]
    simp [begun, DebianPackageInstaller.prepare, DebianPackageInstaller.callOf]
  have hfind : ended.installer.deviceInstallationResult.find? deviceKey = some .willInstall := by
    rw [hinstaller]
    exact OrderedMap.find?_insert_self _ _ _
  exact run_abort_return (((run_leave hc hphase).append hbegin).append hleft) hlast rfl hsome hfind

/-- The next call for the device and the file has its condition variable, or not, depending on when the
call returns that waits for another device. -/
theorem differ_of_other (hsuccessive : sys.Successive) (hc : sys.calls[k]? = some c)
    (hphase : c.phase = .waiting) (hother : c.deviceKey ≠ deviceKey) :
    Differ sys (sys.advance k c .woken) sys.calls.length deviceKey := by
  obtain ⟨es, s, s', hs, hs', hk, hk', hlength, hlength', hapart⟩ :=
    exists_settled hsuccessive hc hphase hother
  obtain ⟨hfree, hfree'⟩ := hapart c.fileName
  obtain ⟨t, b, ht, hb, hdevice, hresponse⟩ := run_late_return hk hphase hother hfree
  obtain ⟨t', b', ht', hb', hresponse'⟩ := run_early_return hk' rfl hother hfree'
  rw [hlength] at ht hb
  rw [hlength'] at ht' hb'
  exact ⟨_, t, t', b, b', .installed, .willInstall, hs.append ht, hs'.append ht', hb, hb', hdevice,
    hresponse, hresponse', by decide⟩

/-! ## Runs -/

/-- From a state that a run has come to, a late callback that ends a wait changes a result in some run,
and one that ends none changes none. -/
theorem harmless_iff_spares (hattributed : sys.Attributed) (hsuccessive : sys.Successive)
    {e : DebianEvent} (hs : sys.step e = .ok sys') : sys.Harmless e sys' ↔ sys.Spares e := by
  refine ⟨fun hharmless => ?_, fun hspares => harmless_of_spares hspares hs⟩
  cases e with
  | callback call result restarted =>
    intro c hc hlate other hother c' hc' hwaits
    have hwoken : sys' = sys.advance other c' .woken := by
      cases hs
      rw [callback_late hc hlate, hother]
      exact wake_waiting hc' hwaits
    have hunaffected := hharmless call result restarted c rfl hc hlate
    rw [hwoken] at hunaffected
    by_cases hdevice : c'.deviceKey = c.deviceKey
    · have hle := hsuccessive other call c' c hc' hc hdevice (by rw [hwaits]; rfl)
      have hne : call ≠ other := by
        rintro rfl
        cases hc.symm.trans hc'
        rw [hwaits] at hlate
        cases hlate
      obtain ⟨es, t, t', b, b', response, response', ht, ht', hb, hb', hsame, hr, hr', hdiffers⟩ :=
        differ_of_woken hattributed hc' hwaits
      exact hdiffers (hunaffected es t t' ht ht' other b b' (by omega) hb hb' (hsame.trans hdevice)
        response response' hr hr')
    · obtain ⟨es, t, t', b, b', response, response', ht, ht', hb, hb', hsame, hr, hr', hdiffers⟩ :=
        differ_of_other hsuccessive hc' hwaits hdevice
      exact hdiffers (hunaffected es t t' ht ht' _ b b' (List.getElem?_eq_some_iff.mp hc).1 hb hb' hsame
        response response' hr hr')
  | installFirmware | updated | next | wake | abortFirmwareInstall => trivial

/-- **Results of installations.** In every run a call returns that the package was installed only if its
own callback had reported that, that it failed only if the update was not started or its own callback had
reported that, and that it will be installed only if its callback had not run. The callbacks of calls
that have returned change no result of a later call for their device in exactly the runs in which none of
them ends a wait. -/
theorem results_belong (hrun : Machine.Run step Apart create es sys) :
    ((∀ c ∈ sys.calls, ∀ response, c.phase.response = some response → c.Earned response) ∧
      ∀ es₁ e es₂ s s', es = es₁ ++ e :: es₂ → Machine.Run step Apart create es₁ s →
        s.step e = .ok s' → s.Harmless e s') ↔
    Machine.Run step (fun s e => s.Apart e ∧ s.Spares e) create es sys := by
  have hinit : create.Attributed ∧ create.Successive := ⟨attributed_create, fun _ _ _ _ h => by cases h⟩
  have hkeep : ∀ s e t, Attributed s ∧ Successive s → s.Apart e → s.step e = .ok t →
      Attributed t ∧ Successive t := fun s e t h hok hs => ⟨h.1.step hok hs, h.2.step hok hs⟩
  have hattributed := (hrun.invariant (fun s => Attributed s ∧ Successive s) hinit hkeep).1
  have hearned : ∀ c ∈ sys.calls, ∀ response, c.phase.response = some response → c.Earned response :=
    fun c hc response hreturned => hattributed.earned hc hreturned
  rw [← hrun.steps_iff Harmless (fun s => Attributed s ∧ Successive s) hinit hkeep
    fun s e t h hok hs => (harmless_iff_spares h.1 h.2 hs).trans ⟨fun hspares => ⟨hok, hspares⟩, And.right⟩]
  exact and_iff_right hearned

/-- The first call is out of time. Its callback reports a failure while the second call installs another
file for the device. -/
theorem results_belong_sample : ∃ es sys, Machine.Run step Apart create es sys ∧
    (∀ c ∈ sys.calls, ∀ response, c.phase.response = some response → c.Earned response) ∧
    (∀ es₁ e es₂ s s', es = es₁ ++ e :: es₂ → Machine.Run step Apart create es₁ s →
      s.step e = .ok s' → s.Harmless e s') ∧
    sys.calls.map (fun c => c.phase.response) = [some .willInstall, some .installed] := by
  obtain ⟨sys, hspares, hresponses⟩ := Machine.Run.exists_of_check step
    (fun s e => s.Apart e ∧ s.Spares e) create
    [.installFirmware "d" "a.deb", .updated 0 .installing, .next 0, .next 0, .wake 0, .next 0, .next 0,
      .next 0, .installFirmware "d" "b.deb", .updated 1 .installing, .next 1, .next 1,
      .callback 0 .packageNotFound false, .callback 1 .installed true, .next 1, .next 1, .next 1]
    (fun sys => sys.calls.map fun c => c.phase.response) [some .willInstall, some .installed]
    (by decide +kernel)
  have hrun := hspares.mono fun _ _ h => h.1
  obtain ⟨hearned, hharmless⟩ := (results_belong hrun).mpr hspares
  exact ⟨_, sys, hrun, hearned, hharmless, hresponses⟩

/-- The first call is out of time, and the second one waits for the same file. The callback of the first
call ends this wait, before the second callback can report. -/
theorem late_callback_ends_wait : ¬ ∀ es sys, Machine.Run step Apart create es sys →
    (∀ c ∈ sys.calls, ∀ response, c.phase.response = some response → c.Earned response) ∧
    ∀ es₁ e es₂ s s', es = es₁ ++ e :: es₂ → Machine.Run step Apart create es₁ s →
      s.step e = .ok s' → s.Harmless e s' := by
  intro hclaim
  let before : List DebianEvent := [.installFirmware "d" "a.deb", .updated 0 .installing, .next 0, .next 0,
    .wake 0, .next 0, .next 0, .next 0, .installFirmware "d" "a.deb", .updated 1 .installing, .next 1,
    .next 1]
  let after : List DebianEvent := [.next 1, .next 1, .callback 1 .installed true, .next 1, .next 1]
  let read (sys : DebianSystem) := sys.calls.map fun c => (c.deviceKey, c.phase.pending, c.phase.response)
  obtain ⟨s, hs, hwaits⟩ := Machine.Run.exists_of_check step Apart create before read
    [("d", false, some .willInstall), ("d", true, none)] (by decide +kernel)
  obtain ⟨t, ht, hreturns⟩ := Machine.Run.exists_of_check step Apart create (before ++ after) read
    [("d", false, some .willInstall), ("d", true, some .installed)] (by decide +kernel)
  obtain ⟨t', ht', hreturns'⟩ := Machine.Run.exists_of_check step Apart create
    ((before ++ [.callback 0 .installed true]) ++ after) read
    [("d", false, some .willInstall), ("d", false, some .willInstall)] (by decide +kernel)
  have hlate := hs.append (run_one (e := .callback 0 .installed true) trivial rfl)
  obtain ⟨s₁, hs₁, hst⟩ := ht.split
  obtain ⟨s₂, hs₂, hst'⟩ := ht'.split
  cases hs₁.unique hs
  cases hs₂.unique hlate
  have hcall : ∀ (sys : DebianSystem) (i : Nat) {p l}, read sys = l → l[i]? = some p →
      ∃ c, sys.calls[i]? = some c ∧ (c.deviceKey, c.phase.pending, c.phase.response) = p := by
    intro sys i p l hl hp
    rw [← hl, List.getElem?_map] at hp
    exact Option.map_eq_some_iff.mp hp
  obtain ⟨c, hc, hfirst⟩ := hcall s 0 hwaits rfl
  obtain ⟨b, hb, hsecond⟩ := hcall t 1 hreturns rfl
  obtain ⟨b', hb', hsecond'⟩ := hcall t' 1 hreturns' rfl
  simp only [Prod.mk.injEq] at hfirst hsecond hsecond'
  obtain ⟨-, hharmless⟩ := hclaim _ _ hlate
  have hsame := hharmless before _ [] s _ rfl hs rfl 0 .installed true c rfl hc hfirst.2.1 after t t' hst
    hst' 1 b b' Nat.one_pos hb hb' (hsecond.1.trans hfirst.1.symm) _ _ hsecond.2.2 hsecond'.2.2
  cases hsame

end DebianSystem

end WolkConnect
