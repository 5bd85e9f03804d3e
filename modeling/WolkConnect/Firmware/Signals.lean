import WolkConnect.Firmware.Transactions

/-!
# Finished transactions and their callbacks

A signal finds the callback of its call only when both path and callback are recorded. What is lost
before that stays lost, because the signal does not come again.
-/

namespace WolkConnect.AptSystem

variable {sys sys' : AptSystem} {c : InstallCall} {answer : DBusAnswer} {k j : Nat}
  {name objectPath value : String}

/-! ## What is known of a call -/

/-- Nothing is recorded or queued. -/
def Unrecorded (sys : AptSystem) (k : Nat) (made : Option String) : Prop :=
  sys.queued k = [] ∧ ∀ name, made = some name →
    sys.installer.callbacks.find? name = none ∧ sys.installer.transactions.find? name = none

/-- Path and callback are recorded until the signal is handled. -/
def Recorded (sys : AptSystem) (k : Nat) (name path : String) : Prop :=
  sys.queued k = sys.answers k name path ∧ (sys.finished.find? name = none →
    sys.installer.callbacks.find? name = some k ∧ sys.installer.transactions.find? name = some path)

def Stage (sys : AptSystem) (k : Nat) (c : InstallCall) : Prop :=
  match c.phase with
  | .creating | .subscribing _ _ | .running _ => sys.Unrecorded k c.phase.transaction
  | .recordingPath name => sys.Unrecorded k (some name) ∧ sys.finished.find? name = none
  | .recordingCallback name => sys.queued k = [] ∧ sys.finished.find? name = none ∧
      sys.installer.callbacks.find? name = none ∧
      sys.installer.transactions.find? name = some c.absolutePath
  | .returning name => sys.Recorded k name c.absolutePath

def Settled (sys : AptSystem) (k : Nat) (r : InstallReturn) : Prop :=
  (r.result = .installing → ∃ name, r.transaction = some name ∧ sys.Recorded k name r.absolutePath) ∧
    (r.result ≠ .installing → sys.Unrecorded k r.transaction)

/-- All calls are where they should be. -/
structure Timely (sys : AptSystem) : Prop where
  past : ∀ k r, sys.returned[k]? = some r → sys.Settled k r
  now : ∀ c, sys.current = some c → sys.Stage sys.returned.length c

/-- The two states are the same as far as a call and its transaction are concerned. -/
structure Same (sys sys' : AptSystem) (k : Nat) (made : Option String) : Prop where
  queued : sys'.queued k = sys.queued k
  finished : ∀ name, made = some name → sys'.finished.find? name = sys.finished.find? name
  callbacks : ∀ name, made = some name →
    sys'.installer.callbacks.find? name = sys.installer.callbacks.find? name
  transactions : ∀ name, made = some name →
    sys'.installer.transactions.find? name = sys.installer.transactions.find? name

variable {made : Option String} {path : String}

theorem Same.unrecorded (hsame : Same sys sys' k made) (h : sys.Unrecorded k made) :
    sys'.Unrecorded k made := by
  refine ⟨hsame.queued.trans h.1, fun name hname => ?_⟩
  rw [hsame.callbacks name hname, hsame.transactions name hname]
  exact h.2 name hname

theorem Same.recorded (hsame : Same sys sys' k (some name)) (h : sys.Recorded k name path) :
    sys'.Recorded k name path := by
  unfold Recorded answers
  rw [hsame.queued, hsame.finished name rfl, hsame.callbacks name rfl, hsame.transactions name rfl]
  exact h

theorem Same.settled {r : InstallReturn} (hsame : Same sys sys' k r.transaction)
    (h : sys.Settled k r) : sys'.Settled k r := by
  refine ⟨fun hresult => ?_, fun hresult => hsame.unrecorded (h.2 hresult)⟩
  obtain ⟨name, hname, hrecorded⟩ := h.1 hresult
  rw [hname] at hsame
  exact ⟨name, hname, hsame.recorded hrecorded⟩

/-- A step of the call in progress is nothing to another. -/
theorem same_next (answer : DBusAnswer) (h : sys.Owned) (hc : sys.current = some c) (hne : k ≠ sys.returned.length) :
    Same sys (sys.next c answer) k (sys.transaction k) := by
  have hother : ∀ name made, sys.transaction k = some name → c.phase.transaction = some made →
      made ≠ name := by
    rintro name made hname hmade rfl
    refine hne (h.unique hname ?_)
    rw [transaction_current hc, hmade]
  refine ⟨?_, ?_, ?_, ?_⟩
  · unfold queued
    rw [next_installer, record_commandBuffer]
  · intro name _
    rw [next_finished]
  · intro name hname
    rw [next_installer]
    unfold record
    split
    · rfl
    · rename_i made hphase
      rw [OrderedMap.find?_emplace, if_neg (hother name made hname (by rw [hphase]; rfl))]
    all_goals rfl
  · intro name hname
    rw [next_installer]
    unfold record
    split
    · rename_i made hphase
      rw [OrderedMap.find?_emplace, if_neg (hother name made hname (by rw [hphase]; rfl))]
    all_goals rfl

/-- A signal is nothing to a call that has not made its transaction. -/
theorem same_finished (h : sys.Owned) (hother : sys.transaction k ≠ some objectPath)
    (hs : sys.step (.finished objectPath value) = .ok sys') :
    Same sys sys' k (sys.transaction k) := by
  cases hs
  have hne : ∀ name, sys.transaction k = some name → objectPath ≠ name := by
    rintro name hname rfl
    exact hother hname
  have hfinished : ∀ name, sys.transaction k = some name →
      (sys.finished.insert objectPath value).find? name = sys.finished.find? name :=
    fun name hname => OrderedMap.find?_insert_ne _ _ (hne name hname)
  rcases handleFinishedSignal_cases sys.installer objectPath value with
    ⟨j, path, hcallback, -, heq⟩ | ⟨-, heq⟩
  · have hj : j ≠ k := by
      rintro rfl
      exact hother (h.callbacks objectPath j hcallback)
    refine ⟨?_, hfinished, fun name hname => ?_, fun name hname => ?_⟩
    · simp [queued, heq, hj]
    · simp only [heq, OrderedMap.find?_erase, if_neg (hne name hname)]
    · simp only [heq, OrderedMap.find?_erase, if_neg (hne name hname)]
  · refine ⟨?_, hfinished, fun name _ => ?_, fun name _ => ?_⟩
    · simp only [queued, heq]
    · simp only [heq]
    · simp only [heq]

/-- The callback is missing, and the handler does nothing. -/
theorem Unrecorded.finished (hk : sys.Unrecorded k made) (h : sys.Owned)
    (hmade : sys.transaction k = made) (hs : sys.step (.finished objectPath value) = .ok sys') :
    sys'.Unrecorded k made := by
  subst hmade
  by_cases hother : sys.transaction k = some objectPath
  · have hnone := (hk.2 objectPath hother).1
    cases hs
    rcases handleFinishedSignal_cases sys.installer objectPath value with
      ⟨j, path, hcallback, -, -⟩ | ⟨-, heq⟩
    · rw [hnone] at hcallback
      cases hcallback
    · refine ⟨?_, fun name hname => ?_⟩
      · simp only [queued, heq]
        exact hk.1
      · simp only [heq]
        exact hk.2 name hname
  · exact (same_finished h hother hs).unrecorded hk

/-- The signal of a recorded transaction queues the callback. -/
theorem Recorded.finished (hk : sys.Recorded k name path) (h : sys.Owned)
    (hmade : sys.transaction k = some name) (hok : sys.Delivers (.finished objectPath value))
    (hs : sys.step (.finished objectPath value) = .ok sys') : sys'.Recorded k name path := by
  by_cases hother : sys.transaction k = some objectPath
  · rw [hmade] at hother
    cases hother
    obtain ⟨-, hfresh⟩ := hok
    obtain ⟨hqueued, hrecorded⟩ := hk
    obtain ⟨hcallback, hpath⟩ := hrecorded hfresh
    have hnone : sys.queued k = [] := by simp [hqueued, answers, hfresh]
    cases hs
    have heq : sys.installer.handleFinishedSignal name value =
        { commandBuffer := sys.installer.commandBuffer ++ [⟨k, path, finishedResult value⟩]
          callbacks := sys.installer.callbacks.erase name
          transactions := sys.installer.transactions.erase name } := by
      simp only [APTPackageInstaller.handleFinishedSignal, hcallback, hpath]
    refine ⟨?_, fun hnone' => ?_⟩
    · unfold queued at hnone
      simp [queued, answers, heq, hnone]
    · simp at hnone'
  · have hsame := same_finished h hother hs
    rw [hmade] at hsame
    exact hsame.recorded hk

theorem Settled.finished {r : InstallReturn} (hk : sys.Settled k r) (h : sys.Owned)
    (hmade : sys.transaction k = r.transaction) (hok : sys.Delivers (.finished objectPath value))
    (hs : sys.step (.finished objectPath value) = .ok sys') : sys'.Settled k r := by
  refine ⟨fun hresult => ?_, fun hresult => (hk.2 hresult).finished h hmade hs⟩
  obtain ⟨name, hname, hrecorded⟩ := hk.1 hresult
  exact ⟨name, hname, hrecorded.finished h (hmade.trans hname) hok hs⟩

theorem Stage.finished (hk : sys.Stage k c) (h : sys.Owned) (hc : sys.current = some c)
    (hmade : sys.transaction k = c.phase.transaction)
    (hok : sys.Delivers (.finished objectPath value)) (htime : sys.InTime (.finished objectPath value))
    (hs : sys.step (.finished objectPath value) = .ok sys') : sys'.Stage k c := by
  have htime' : sys.recording ≠ some objectPath := htime
  obtain ⟨path, phase⟩ := c
  unfold recording at htime'
  rw [hc] at htime'
  cases phase with
  | creating => exact Unrecorded.finished hk h hmade hs
  | subscribing name signals => exact Unrecorded.finished hk h hmade hs
  | running name => exact Unrecorded.finished hk h hmade hs
  | recordingPath name =>
    have hother : sys.transaction k ≠ some objectPath := by
      rw [hmade]
      exact htime'
    have hsame := same_finished h hother hs
    rw [hmade] at hsame
    exact ⟨hsame.unrecorded hk.1, (hsame.finished name rfl).trans hk.2⟩
  | recordingCallback name =>
    have hother : sys.transaction k ≠ some objectPath := by
      rw [hmade]
      exact htime'
    have hsame := same_finished h hother hs
    rw [hmade] at hsame
    obtain ⟨hqueued, hfresh, hcallback, hpath⟩ := hk
    exact ⟨hsame.queued.trans hqueued, (hsame.finished name rfl).trans hfresh,
      (hsame.callbacks name rfl).trans hcallback, (hsame.transactions name rfl).trans hpath⟩
  | returning name => exact Recorded.finished hk h hmade hok hs

theorem next_queued (sys : AptSystem) (c : InstallCall) (answer : DBusAnswer) (k : Nat) :
    (sys.next c answer).queued k = sys.queued k := by
  unfold queued
  rw [next_installer, record_commandBuffer]

/-- The steps that record nothing. -/
theorem record_eq (hpath : ∀ name, c.phase ≠ .recordingPath name)
    (hcallback : ∀ name, c.phase ≠ .recordingCallback name) : sys.record c = sys.installer := by
  unfold record
  split
  · rename_i name hphase
    exact absurd hphase (hpath name)
  · rename_i name hphase
    exact absurd hphase (hcallback name)
  all_goals rfl

theorem Unrecorded.next (hk : sys.Unrecorded k made) (hpath : ∀ name, c.phase ≠ .recordingPath name)
    (hcallback : ∀ name, c.phase ≠ .recordingCallback name) :
    (sys.next c answer).Unrecorded k made := by
  unfold Unrecorded
  rw [next_queued, next_installer, record_eq hpath hcallback]
  exact hk

/-- A transaction that is new is not recorded. -/
theorem Owned.unrecorded_new (h : sys.Owned) (hqueued : sys.queued k = [])
    (hfree : sys.owners.find? name = none) : sys.Unrecorded k (some name) := by
  have hunmade : ∀ j, sys.transaction j ≠ some name := by
    intro j hj
    rw [← h.owner, hfree] at hj
    cases hj
  refine ⟨hqueued, fun name' hname' => ?_⟩
  cases hname'
  constructor
  · refine Option.eq_none_iff_forall_ne_some.mpr fun j hj => ?_
    exact hunmade j (h.callbacks name j hj)
  · refine Option.eq_none_iff_forall_ne_some.mpr fun path hpath => ?_
    obtain ⟨j, hj⟩ := h.paths name path hpath
    exact hunmade j hj

theorem Stage.next (hk : sys.Stage sys.returned.length c) (h : sys.Owned) (hc : sys.current = some c)
    (hok : sys.Delivers (.next answer)) (htime : sys.InTime (.next answer)) {phase : InstallPhase}
    (hnext : c.phase.next answer = .ok phase) :
    (sys.next c answer).Stage sys.returned.length { c with phase := phase } := by
  obtain ⟨path, before⟩ := c
  cases before with
  | creating =>
    cases answer with
    | value name =>
      cases hnext
      exact (h.unrecorded_new hk.1 (hok (by rw [hc]; rfl))).next nofun nofun
    | null | exception => cases hnext
  | subscribing name signals =>
    have hkeep : ∀ answer, (sys.next ⟨path, .subscribing name signals⟩ answer).Unrecorded
        sys.returned.length (some name) := fun _ => Unrecorded.next hk nofun nofun
    cases signals with
    | nil =>
      cases hnext
      exact hkeep answer
    | cons signal rest =>
      cases answer with
      | value text =>
        cases hnext
        exact hkeep _
      | null =>
        simp only [InstallPhase.next] at hnext
        split_ifs at hnext
        cases hnext
        exact hkeep _
      | exception => cases hnext
  | running name =>
    have hkeep : ∀ answer, (sys.next ⟨path, .running name⟩ answer).Unrecorded
        sys.returned.length (some name) := fun _ => Unrecorded.next hk nofun nofun
    have hfresh : answer ≠ .exception → (sys.next ⟨path, .running name⟩ answer).finished.find? name =
        none := by
      intro hanswer
      rw [next_finished]
      exact htime hanswer name (by simp [AptSystem.running, hc])
    cases answer with
    | value | null =>
      cases hnext
      exact ⟨hkeep _, hfresh nofun⟩
    | exception => cases hnext
  | recordingPath name =>
    cases hnext
    obtain ⟨⟨hqueued, hnone⟩, hfresh⟩ := hk
    obtain ⟨hcallback, hpath⟩ := hnone name rfl
    refine ⟨(next_queued ..).trans hqueued, (congrArg (·.find? name) (next_finished ..)).trans hfresh, ?_, ?_⟩
    · rw [next_installer]
      exact hcallback
    · rw [next_installer]
      simp [record, OrderedMap.find?_emplace, hpath]
  | recordingCallback name =>
    cases hnext
    obtain ⟨hqueued, hfresh, hcallback, hpath⟩ := hk
    refine ⟨?_, fun _ => ⟨?_, ?_⟩⟩
    · unfold answers
      rw [next_queued, next_finished, hqueued, hfresh]
      rfl
    · rw [next_installer]
      simp [record, OrderedMap.find?_emplace, hcallback]
    · rw [next_installer]
      exact hpath
  | returning name => cases hnext

theorem Stage.returns (hk : sys.Stage sys.returned.length c) {result : InstallationResult}
    (hnext : c.phase.next answer = .error result) :
    (sys.next c answer).Settled sys.returned.length
      ⟨c.absolutePath, c.phase.transaction, result⟩ := by
  obtain ⟨path, before⟩ := c
  have hfails : ∀ made, sys.Unrecorded sys.returned.length made → result ≠ .installing →
      (∀ name, before ≠ .recordingPath name) → (∀ name, before ≠ .recordingCallback name) →
      (sys.next ⟨path, before⟩ answer).Settled sys.returned.length ⟨path, made, result⟩ :=
    fun made hmade hresult hpath hcallback =>
      ⟨fun h => absurd h hresult, fun _ => hmade.next hpath hcallback⟩
  cases before with
  | creating =>
    cases answer with
    | value name => cases hnext
    | null | exception => cases hnext; exact hfails _ hk nofun nofun nofun
  | subscribing name signals =>
    cases signals with
    | nil => cases hnext
    | cons signal rest =>
      cases answer with
      | value text => cases hnext
      | null =>
        simp only [InstallPhase.next] at hnext
        split_ifs at hnext
        cases hnext
        exact hfails _ hk nofun nofun nofun
      | exception => cases hnext; exact hfails _ hk nofun nofun nofun
  | running name =>
    cases answer with
    | value | null => cases hnext
    | exception => cases hnext; exact hfails _ hk nofun nofun nofun
  | recordingPath name | recordingCallback name => cases hnext
  | returning name =>
    cases hnext
    refine ⟨fun _ => ⟨name, rfl, ?_⟩, fun h => absurd rfl h⟩
    unfold Recorded answers
    rw [next_queued, next_finished, next_installer]
    exact hk

/-! ## Runs -/

theorem Owned.queued_unmade (h : sys.Owned) (hk : sys.transaction k = none) : sys.queued k = [] := by
  refine List.filter_eq_nil_iff.mpr fun command hcommand hcallback => ?_
  obtain ⟨name, hname⟩ := h.commands command hcommand
  rw [of_decide_eq_true hcallback, hk] at hname
  cases hname

theorem lt_of_returned {r : InstallReturn} (hr : sys.returned[k]? = some r) : k < sys.returned.length :=
  (List.getElem?_eq_some_iff.mp hr).1

/-- A step of the call in progress leaves the calls that have returned settled. -/
theorem Timely.past_next (ht : sys.Timely) (h : sys.Owned) (hc : sys.current = some c) {r : InstallReturn}
    (hr : sys.returned[k]? = some r) : (sys.next c answer).Settled k r := by
  have hsame := same_next answer h hc (lt_of_returned hr).ne
  rw [transaction_returned hr] at hsame
  exact hsame.settled (ht.past k r hr)

theorem Timely.next (ht : sys.Timely) (h : sys.Owned) (hc : sys.current = some c)
    (hok : sys.Delivers (.next answer)) (htime : sys.InTime (.next answer)) :
    (sys.next c answer).Timely := by
  have hpast : ∀ k r, sys.returned[k]? = some r → (sys.next c answer).Settled k r :=
    fun _ _ hr => ht.past_next h hc hr
  cases hnext : c.phase.next answer with
  | ok phase =>
    have hnow := (ht.now c hc).next h hc hok htime hnext
    rw [next_ok hnext] at hpast hnow ⊢
    refine ⟨hpast, fun c' hc' => ?_⟩
    cases hc'
    exact hnow
  | error result =>
    have hreturns := (ht.now c hc).returns hnext
    rw [next_error hnext] at hpast hreturns ⊢
    refine ⟨fun k r hr => ?_, fun c' hc' => by cases hc'⟩
    by_cases hlt : k < sys.returned.length
    · rw [List.getElem?_append_left hlt] at hr
      exact hpast k r hr
    · have hle := (List.getElem?_eq_some_iff.mp hr).1
      rw [List.length_append, List.length_singleton] at hle
      have hlast : k = sys.returned.length := by omega
      subst hlast
      rw [List.getElem?_concat_length] at hr
      cases hr
      exact hreturns

theorem Timely.step (ht : sys.Timely) (h : sys.Owned) {e : AptEvent} (hok : sys.Delivers e)
    (htime : sys.InTime e) (hs : sys.step e = .ok sys') : sys'.Timely := by
  rcases step_cases hs with rfl | ⟨path, rfl, hnone, rfl⟩ | ⟨answer, c, rfl, hc, rfl⟩ |
    ⟨objectPath, value, rfl⟩
  · exact ht
  · refine ⟨ht.past, fun c hc => ?_⟩
    cases hc
    refine ⟨h.queued_unmade ?_, fun name hname => by cases hname⟩
    rw [transaction_length, hnone]
    rfl
  · exact ht.next h hc hok htime
  · have hreturned : sys'.returned = sys.returned := by cases hs; rfl
    have hcurrent : sys'.current = sys.current := by cases hs; rfl
    refine ⟨fun k r hr => ?_, fun c hc => ?_⟩
    · rw [hreturned] at hr
      exact (ht.past k r hr).finished h (transaction_returned hr) hok hs
    · rw [hcurrent] at hc
      rw [hreturned]
      exact (ht.now c hc).finished h hc (transaction_current hc) hok htime hs

theorem Timely.reaches (h : sys.Timely) : sys.Reaches where
  installing k r hr hresult := by
    obtain ⟨name, hname, hrecorded⟩ := (h.past k r hr).1 hresult
    exact ⟨name, hname, hrecorded.1⟩
  failed k r hr hresult := ((h.past k r hr).2 hresult).1

/-- `Run` has succeeded for a call, and the signal of its transaction was handled with nothing queued. -/
structure LostAt (sys : AptSystem) (k : Nat) (name value : String) : Prop where
  made : sys.transaction k = some name
  accepted : (∃ r, sys.returned[k]? = some r ∧ r.result = .installing) ∨
    k = sys.returned.length ∧ ∃ c, sys.current = some c ∧ c.phase.accepted = true
  finished : sys.finished.find? name = some value
  queued : sys.queued k = []

def Lost (sys : AptSystem) : Prop := ∃ k name value, sys.LostAt k name value

theorem accepted_next (answer : DBusAnswer) {phase : InstallPhase} (h : phase.accepted = true) :
    phase.next answer = .error .installing ∨
      ∃ phase', phase.next answer = .ok phase' ∧ phase'.accepted = true := by
  cases phase with
  | creating | subscribing | running => cases h
  | recordingPath name | recordingCallback name => exact .inr ⟨_, rfl, rfl⟩
  | returning name => exact .inl rfl

/-- A call for which `Run` has succeeded returns `Installing` in the end. -/
theorem accepted_step (hc : sys.current = some c) (haccepted :
    (∃ r, sys.returned[k]? = some r ∧ r.result = .installing) ∨
      k = sys.returned.length ∧ ∃ c, sys.current = some c ∧ c.phase.accepted = true) :
    (∃ r, (sys.next c answer).returned[k]? = some r ∧ r.result = .installing) ∨
      k = (sys.next c answer).returned.length ∧
        ∃ c', (sys.next c answer).current = some c' ∧ c'.phase.accepted = true := by
  rcases haccepted with ⟨r, hr, hresult⟩ | ⟨rfl, c', hc', hphase⟩
  · refine .inl ⟨r, ?_, hresult⟩
    cases hnext : c.phase.next answer with
    | ok phase =>
      rw [next_ok hnext]
      exact hr
    | error result =>
      rw [next_error hnext]
      exact (List.getElem?_append_left (lt_of_returned hr)).trans hr
  · rw [hc] at hc'
    cases hc'
    rcases accepted_next answer hphase with hnext | ⟨phase, hnext, hphase'⟩
    · rw [next_error hnext]
      exact .inl ⟨_, List.getElem?_concat_length, rfl⟩
    · rw [next_ok hnext]
      exact .inr ⟨rfl, _, rfl, hphase'⟩

/-- The signal does not come again. -/
theorem Lost.step (hlost : sys.Lost) {e : AptEvent} (h : sys.Owned) (hok : sys.Delivers e)
    (hs : sys.step e = .ok sys') : sys'.Lost := by
  obtain ⟨k, name, text, hmade, haccepted, hfinished, hqueued⟩ := hlost
  rcases step_cases hs with rfl | ⟨path, rfl, hnone, rfl⟩ | ⟨answer, c, rfl, hc, rfl⟩ |
    ⟨objectPath, value, rfl⟩
  · exact ⟨k, name, text, hmade, haccepted, hfinished, hqueued⟩
  · refine ⟨k, name, text, (installPackage_transaction hnone k).trans hmade, ?_, hfinished, hqueued⟩
    rcases haccepted with hreturned | ⟨-, c, hc, -⟩
    · exact .inl hreturned
    · rw [hnone] at hc
      cases hc
  · refine ⟨k, name, text, next_keeps hc hok hmade, accepted_step hc haccepted, ?_,
      (next_queued ..).trans hqueued⟩
    rw [next_finished]
    exact hfinished
  · have hne : sys.transaction k ≠ some objectPath := by
      intro hsame
      rw [hmade] at hsame
      cases hsame
      rw [hok.2] at hfinished
      cases hfinished
    have hsame := same_finished h hne hs
    refine ⟨k, name, text, ?_, ?_, (hsame.finished name hmade).trans hfinished,
      hsame.queued.trans hqueued⟩ <;> cases hs
    · exact hmade
    · exact haccepted

/-- A signal that is not in time is lost. -/
theorem Timely.lost (ht : sys.Timely) {e : AptEvent} (htime : ¬ sys.InTime e)
    (hs : sys.step e = .ok sys') : sys'.Lost := by
  cases e with
  | installPackage path => exact absurd trivial htime
  | next answer =>
    obtain ⟨hanswer, htime⟩ := Classical.not_imp.mp htime
    obtain ⟨name, hname⟩ := not_forall.mp htime
    obtain ⟨hrunning, hfinished⟩ := Classical.not_imp.mp hname
    obtain ⟨text, htext⟩ := Option.ne_none_iff_exists'.mp hfinished
    unfold running at hrunning
    split at hrunning
    · rename_i path name' hc
      cases hrunning
      simp only [AptSystem.step, hc] at hs
      cases hs
      have hstage := ht.now _ hc
      have hnext : InstallPhase.next answer (.running name) = .ok (.recordingPath name) := by
        cases answer with
        | value | null => rfl
        | exception => exact absurd rfl hanswer
      refine ⟨sys.returned.length, name, text, ?_, ?_, ?_, (next_queued ..).trans hstage.1⟩
      · rw [next_transaction, if_pos rfl]
        rfl
      · rw [next_ok hnext]
        exact .inr ⟨rfl, _, rfl, rfl⟩
      · rw [next_finished]
        exact htext
    · cases hrunning
  | finished objectPath value =>
    have hrecording : sys.recording = some objectPath := Classical.not_not.mp htime
    have hstage : ∃ c, sys.current = some c ∧ c.phase.transaction = some objectPath ∧
        c.phase.accepted = true ∧ sys.queued sys.returned.length = [] ∧
        sys.installer.callbacks.find? objectPath = none := by
      unfold recording at hrecording
      split at hrecording
      · rename_i path name hc
        cases hrecording
        have hstage := ht.now _ hc
        exact ⟨_, hc, rfl, rfl, hstage.1.1, (hstage.1.2 _ rfl).1⟩
      · rename_i path name hc
        cases hrecording
        have hstage := ht.now _ hc
        exact ⟨_, hc, rfl, rfl, hstage.1, hstage.2.2.1⟩
      · cases hrecording
    obtain ⟨c, hc, hmade, haccepted, hqueued, hcallback⟩ := hstage
    cases hs
    rcases handleFinishedSignal_cases sys.installer objectPath value with
      ⟨k, path, hsome, -⟩ | ⟨-, heq⟩
    · rw [hcallback] at hsome
      cases hsome
    · refine ⟨sys.returned.length, objectPath, value, (transaction_current hc).trans hmade,
        .inr ⟨rfl, c, hc, haccepted⟩, ?_, ?_⟩
      · simp
      · simp only [queued, heq]
        exact hqueued

theorem Lost.not_reaches (hlost : sys.Lost) (hidle : sys.current = none) : ¬ sys.Reaches := by
  obtain ⟨k, name, text, hmade, haccepted, hfinished, hqueued⟩ := hlost
  intro hreaches
  rcases haccepted with ⟨r, hr, hresult⟩ | ⟨-, c, hc, -⟩
  · obtain ⟨name', hname', hanswers⟩ := hreaches.installing k r hr hresult
    rw [transaction_returned hr, hname'] at hmade
    cases hmade
    rw [hqueued, answers, hfinished] at hanswers
    cases hanswers
  · rw [hidle] at hc
    cases hc

/-- **A finished transaction reaches its callback** in the runs in which no signal is handled before the
callback is recorded, and of those that end with no call in progress in no others. -/
theorem transaction_reaches_iff {es : List AptEvent}
    (hrun : Machine.Run AptSystem.step Delivers create es sys) :
    (Machine.Run AptSystem.step (fun sys e => sys.Delivers e ∧ sys.InTime e) create es sys →
      sys.Reaches) ∧
    (sys.current = none → (sys.Reaches ↔
      Machine.Run AptSystem.step (fun sys e => sys.Delivers e ∧ sys.InTime e) create es sys)) := by
  have hgood : Machine.Run AptSystem.step (fun sys e => sys.Delivers e ∧ sys.InTime e) create es sys →
      sys.Reaches := by
    intro htimely
    have hinv := htimely.invariant (fun sys => sys.Owned ∧ sys.Timely)
      ⟨create_owned, nofun, nofun⟩ fun _ _ _ h hok hs =>
        ⟨h.1.step hok.1 hs, h.2.step h.1 hok.1 hok.2 hs⟩
    exact hinv.2.reaches
  refine ⟨hgood, fun hidle => ⟨fun hreaches => ?_, hgood⟩⟩
  have hcases := hrun.meets_or_bad (fun sys => sys.Owned ∧ sys.Timely)
    (fun sys => sys.Owned ∧ sys.Lost) ⟨create_owned, nofun, nofun⟩
    (fun _ _ _ h (hok : _ ∧ _) hs => ⟨h.1.step hok.1 hs, h.2.step h.1 hok.1 hok.2 hs⟩)
    (fun _ _ _ h hok hlate hs =>
      ⟨h.1.step hok hs, h.2.lost (fun htime => hlate ⟨hok, htime⟩) hs⟩)
    fun _ _ _ h hok hs => ⟨h.1.step hok hs, h.2.step h.1 hok hs⟩
  rcases hcases with ⟨htimely, -⟩ | ⟨-, hlost⟩
  · exact htimely
  · exact absurd hreaches (hlost.not_reaches hidle)

/-- A call up to the return of `Run`. -/
def starting (path name : String) (run : DBusAnswer) : List AptEvent :=
  [.installPackage path, .next (.value name), .next (.value ""), .next .null, .next (.value ""),
    .next .null, .next run]

/-- The first transaction finishes while the second call is at `Run`, which fails. -/
def overlapping : List AptEvent :=
  starting "a.deb" "t" (.value "") ++ [.next .null, .next .null, .next .null] ++
    (starting "b.deb" "u" .exception).dropLast ++
    [.finished "t" "exit-success", .finished "u" "exit-failed", .next .exception]

theorem transaction_reaches_iff_overlapping : ∃ sys : AptSystem, sys.Reaches ∧
    sys.returned.map (·.result) = [.installing, .failedToConnectToAPT] ∧
    sys.installer.commandBuffer = [⟨0, "a.deb", .installed⟩] := by
  obtain ⟨sys, hrun, hsys⟩ := Machine.Run.exists_of_check AptSystem.step
    (fun sys e => sys.Delivers e ∧ sys.InTime e) create overlapping
    (fun sys => (sys.returned.map (·.result), sys.installer.commandBuffer))
    ([.installing, .failedToConnectToAPT], [⟨0, "a.deb", .installed⟩]) (by decide +kernel)
  obtain ⟨hreturned, hcommands⟩ := Prod.mk.inj hsys
  exact ⟨sys, (transaction_reaches_iff (hrun.mono fun _ _ hok => hok.1)).1 hrun, hreturned, hcommands⟩

/-- The signal comes while `Run` has not returned, and the callback is never queued. -/
def early : List AptEvent :=
  (starting "a.deb" "t" (.value "")).dropLast ++ [.finished "t" "exit-success"] ++
    List.replicate 4 (.next .null)

theorem callback_lost : ∃ sys : AptSystem,
    Machine.Run AptSystem.step Delivers create early sys ∧
      sys.returned.map (·.result) = [.installing] ∧ sys.finished.find? "t" = some "exit-success" ∧
      ¬ sys.Reaches := by
  obtain ⟨sys, hrun, hsys⟩ := Machine.Run.exists_of_check AptSystem.step Delivers create early
    (fun sys => decide (sys.transaction 0 = some "t" ∧
      sys.returned.map (·.result) = [.installing] ∧
      sys.finished.find? "t" = some "exit-success" ∧ sys.queued 0 = [] ∧ sys.current.isNone = true))
    true (by decide +kernel)
  obtain ⟨hmade, hresults, hfinished, hqueued, hidle⟩ := of_decide_eq_true hsys
  have haccepted : ∃ r, sys.returned[0]? = some r ∧ r.result = .installing := by
    have hfirst : (sys.returned.map (·.result))[0]? = some .installing := by
      rw [hresults]
      rfl
    rw [List.getElem?_map] at hfirst
    exact Option.map_eq_some_iff.mp hfirst
  have hlost : sys.Lost := ⟨0, "t", "exit-success", hmade, .inl haccepted, hfinished, hqueued⟩
  exact ⟨sys, hrun, hresults, hfinished, hlost.not_reaches (Option.isNone_iff_eq_none.mp hidle)⟩

end WolkConnect.AptSystem
