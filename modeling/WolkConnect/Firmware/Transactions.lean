import WolkConnect.Firmware.Apt

/-!
# Transactions and their calls

Whatever the interleaving, what the installer has recorded or queued under a transaction is for the
call that made it.
-/

namespace WolkConnect.AptSystem

/-- The transaction that a call has made. -/
def transaction (sys : AptSystem) (k : Nat) : Option String :=
  match sys.returned[k]? with
  | some r => r.transaction
  | none => if k = sys.returned.length then sys.current.bind (·.phase.transaction) else none

/-- What is recorded or queued is so for the call that made the transaction. -/
structure Owned (sys : AptSystem) : Prop where
  owner : ∀ name k, sys.owners.find? name = some k ↔ sys.transaction k = some name
  callbacks : ∀ name k, sys.installer.callbacks.find? name = some k → sys.transaction k = some name
  paths : ∀ name path, sys.installer.transactions.find? name = some path →
    ∃ k, sys.transaction k = some name
  commands : ∀ c ∈ sys.installer.commandBuffer, ∃ name, sys.transaction c.callback = some name

variable {sys sys' : AptSystem} {c : InstallCall} {answer : DBusAnswer} {k j : Nat}
  {name objectPath value : String}

theorem transaction_returned {r : InstallReturn} (hr : sys.returned[k]? = some r) :
    sys.transaction k = r.transaction := by
  unfold transaction
  rw [hr]

theorem transaction_length :
    sys.transaction sys.returned.length = sys.current.bind (·.phase.transaction) := by
  simp [transaction]

theorem transaction_of_ne (hne : k ≠ sys.returned.length) :
    sys.transaction k = (sys.returned[k]?).bind (·.transaction) := by
  unfold transaction
  cases sys.returned[k]? with
  | none => exact if_neg hne
  | some r => rfl

theorem transaction_current (hc : sys.current = some c) :
    sys.transaction sys.returned.length = c.phase.transaction := by
  rw [transaction_length, hc]
  rfl

theorem create_owned : create.Owned := by
  have hnone : ∀ k, create.transaction k = none := by
    intro k
    by_cases hk : k = create.returned.length
    · rw [hk, transaction_length]
      rfl
    · rw [transaction_of_ne hk]
      rfl
  refine ⟨fun name k => ?_, nofun, nofun, nofun⟩
  rw [hnone]
  exact ⟨nofun, nofun⟩

theorem Owned.unique (h : sys.Owned) (hk : sys.transaction k = some name)
    (hj : sys.transaction j = some name) : k = j := by
  have hk' := (h.owner name k).mpr hk
  rw [(h.owner name j).mpr hj] at hk'
  exact (Option.some.inj hk').symm

/-- What a step can be. A call waits while another is in progress. -/
theorem step_cases {e : AptEvent} (hs : sys.step e = .ok sys') :
    sys' = sys ∨
    (∃ path, e = .installPackage path ∧ sys.current = none ∧
      sys' = { sys with current := some ⟨path, .creating⟩ }) ∨
    (∃ answer c, e = .next answer ∧ sys.current = some c ∧ sys' = sys.next c answer) ∨
    ∃ objectPath value, e = .finished objectPath value := by
  cases e with
  | installPackage path =>
    simp only [AptSystem.step] at hs
    split at hs
    · exact .inl (Except.ok.inj hs).symm
    · rename_i hnone
      exact .inr (.inl ⟨path, rfl, hnone, (Except.ok.inj hs).symm⟩)
  | next answer =>
    simp only [AptSystem.step] at hs
    split at hs
    · rename_i c hc
      exact .inr (.inr (.inl ⟨answer, c, rfl, hc, (Except.ok.inj hs).symm⟩))
    · exact .inl (Except.ok.inj hs).symm
  | finished objectPath value => exact .inr (.inr (.inr ⟨objectPath, value, rfl⟩))

/-- The transaction of the call in progress after its next step. -/
def madeBy (c : InstallCall) (answer : DBusAnswer) : Option String :=
  match c.phase, answer with
  | .creating, .value name => some name
  | phase, _ => phase.transaction

theorem madeBy_of_ok {phase : InstallPhase} (h : c.phase.next answer = .ok phase) :
    madeBy c answer = phase.transaction := by
  unfold madeBy
  cases hphase : c.phase with
  | creating =>
    rw [hphase] at h
    cases answer with
    | value made => cases h; rfl
    | null | exception => cases h
  | subscribing name signals =>
    rw [hphase] at h
    unfold InstallPhase.next at h
    cases signals with
    | nil => cases h; rfl
    | cons signal rest =>
      cases answer with
      | value => cases h; rfl
      | null =>
        dsimp only at h
        split_ifs at h
        cases h
        rfl
      | exception => cases h
  | running name =>
    rw [hphase] at h
    cases answer with
    | value | null => cases h; rfl
    | exception => cases h
  | recordingPath name | recordingCallback name =>
    rw [hphase] at h
    cases h
    rfl
  | returning name =>
    rw [hphase] at h
    cases h

theorem madeBy_of_error {result : InstallationResult} (h : c.phase.next answer = .error result) :
    madeBy c answer = c.phase.transaction := by
  unfold madeBy
  split
  · rename_i hphase
    rw [hphase] at h
    cases h
  · rfl

theorem created_value (hphase : c.phase = .creating) (name : String) :
    sys.created c (.value name) = sys.owners.insert name sys.returned.length := by
  unfold created
  rw [hphase]

/-- Only an answer to `InstallFile` makes a transaction. -/
theorem created_other (h : c.phase = .creating → ∀ name, answer ≠ .value name) :
    sys.created c answer = sys.owners := by
  unfold created
  split
  · rename_i name hphase
    exact absurd rfl (h hphase name)
  · rfl

theorem begun_last (hphase : c.phase = .subscribing name []) :
    sys.begun c = sys.started ++ [name] := by
  unfold begun
  rw [hphase]

/-- `Run` is called only when there is nothing more to subscribe to. -/
theorem begun_other (h : ∀ name, c.phase ≠ .subscribing name []) : sys.begun c = sys.started := by
  unfold begun
  split
  · rename_i name hphase
    exact absurd hphase (h name)
  · rfl

theorem mem_begun (hname : name ∈ sys.started) : name ∈ sys.begun c := by
  unfold begun
  split
  · exact List.mem_append_left _ hname
  · exact hname

theorem next_ok {phase : InstallPhase} (h : c.phase.next answer = .ok phase) :
    sys.next c answer = { sys with
      installer := sys.record c, owners := sys.created c answer, started := sys.begun c
      current := some { c with phase := phase } } := by
  simp only [next, h]

theorem next_error {result : InstallationResult} (h : c.phase.next answer = .error result) :
    sys.next c answer = { sys with
      installer := sys.record c, owners := sys.created c answer, started := sys.begun c
      current := none
      returned := sys.returned ++ [⟨c.absolutePath, c.phase.transaction, result⟩] } := by
  simp only [next, h]

theorem next_transaction (sys : AptSystem) (c : InstallCall) (answer : DBusAnswer) (k : Nat) :
    (sys.next c answer).transaction k =
      if k = sys.returned.length then madeBy c answer else sys.transaction k := by
  cases hphase : c.phase.next answer with
  | ok phase =>
    rw [next_ok hphase]
    split_ifs with hk
    · rw [hk, madeBy_of_ok hphase]
      refine (transaction_current (c := { c with phase := phase }) ?_)
      rfl
    · rw [transaction_of_ne hk]
      exact transaction_of_ne hk
  | error result =>
    rw [next_error hphase]
    split_ifs with hk
    · rw [hk, madeBy_of_error hphase]
      refine transaction_returned (r := ⟨c.absolutePath, c.phase.transaction, result⟩) ?_
      exact List.getElem?_concat_length
    · rw [transaction_of_ne hk]
      by_cases hlast : k = sys.returned.length + 1
      · subst hlast
        simp [transaction]
      · refine (transaction_of_ne ?_).trans ?_
        · simpa using hlast
        · dsimp only
          rcases Nat.lt_or_gt_of_ne hk with hlt | hgt
          · rw [List.getElem?_append_left hlt]
          · rw [List.getElem?_eq_none, List.getElem?_eq_none hgt.le]
            rw [List.length_append, List.length_singleton]
            omega

/-- The handler runs the callback, or one of the two is missing. -/
theorem handleFinishedSignal_cases (x : APTPackageInstaller) (objectPath value : String) :
    (∃ k path, x.callbacks.find? objectPath = some k ∧ x.transactions.find? objectPath = some path ∧
      x.handleFinishedSignal objectPath value =
        { commandBuffer := x.commandBuffer ++ [⟨k, path, finishedResult value⟩]
          callbacks := x.callbacks.erase objectPath
          transactions := x.transactions.erase objectPath }) ∨
    (x.callbacks.find? objectPath = none ∨ x.transactions.find? objectPath = none) ∧
      x.handleFinishedSignal objectPath value = x := by
  unfold APTPackageInstaller.handleFinishedSignal
  cases hcallback : x.callbacks.find? objectPath with
  | none => exact .inr ⟨.inl rfl, rfl⟩
  | some k =>
    cases hpath : x.transactions.find? objectPath with
    | none => exact .inr ⟨.inr rfl, rfl⟩
    | some path => exact .inl ⟨k, path, rfl, rfl, rfl⟩

theorem next_owners (sys : AptSystem) (c : InstallCall) (answer : DBusAnswer) :
    (sys.next c answer).owners = sys.created c answer := by
  unfold next
  split <;> rfl

theorem next_started (sys : AptSystem) (c : InstallCall) (answer : DBusAnswer) :
    (sys.next c answer).started = sys.begun c := by
  unfold next
  split <;> rfl

theorem next_installer (sys : AptSystem) (c : InstallCall) (answer : DBusAnswer) :
    (sys.next c answer).installer = sys.record c := by
  unfold next
  split <;> rfl

theorem next_finished (sys : AptSystem) (c : InstallCall) (answer : DBusAnswer) :
    (sys.next c answer).finished = sys.finished := by
  unfold next
  split <;> rfl

/-- A call keeps the transaction that it has made, and a new one is not owned yet. -/
theorem madeBy_cases (hc : sys.current = some c) (hok : sys.Delivers (.next answer)) :
    (madeBy c answer = c.phase.transaction ∧ sys.created c answer = sys.owners) ∨
      ∃ name, c.phase = .creating ∧ madeBy c answer = some name ∧ sys.owners.find? name = none ∧
        sys.created c answer = sys.owners.insert name sys.returned.length := by
  obtain ⟨path, phase⟩ := c
  cases phase with
  | creating =>
    cases answer with
    | value name => exact .inr ⟨name, rfl, rfl, hok (by rw [hc]; rfl), rfl⟩
    | null | exception => exact .inl ⟨rfl, rfl⟩
  | _ => exact .inl ⟨rfl, rfl⟩

theorem record_commandBuffer (sys : AptSystem) (c : InstallCall) :
    (sys.record c).commandBuffer = sys.installer.commandBuffer := by
  unfold record
  split <;> rfl

theorem next_keeps (hc : sys.current = some c) (hok : sys.Delivers (.next answer))
    (hk : sys.transaction k = some name) : (sys.next c answer).transaction k = some name := by
  rw [next_transaction]
  split_ifs with hlast
  · rw [hlast, transaction_current hc] at hk
    rcases madeBy_cases hc hok with ⟨hmade, -⟩ | ⟨_, hphase, -⟩
    · rw [hmade, hk]
    · rw [hphase] at hk
      cases hk
  · exact hk

theorem Owned.next (h : sys.Owned) (hc : sys.current = some c) (hok : sys.Delivers (.next answer)) :
    (sys.next c answer).Owned := by
  have hcurrent : sys.transaction sys.returned.length = c.phase.transaction := transaction_current hc
  have hrecording : ∀ name, c.phase = .recordingPath name ∨ c.phase = .recordingCallback name →
      sys.transaction sys.returned.length = some name := by
    rintro name (hphase | hphase) <;>
    · rw [hcurrent, hphase]
      rfl
  refine ⟨fun name k => ?_, fun name k hk => next_keeps hc hok ?_, fun name path hpath => ?_,
    fun command hcommand => ?_⟩
  · rw [next_transaction, next_owners]
    rcases madeBy_cases hc hok with ⟨hmade, howners⟩ | ⟨made, hphase, hmade, hfree, howners⟩
    · rw [hmade, howners, h.owner, ← hcurrent]
      split_ifs with hlast
      · rw [hlast]
      · rfl
    · rw [hmade, howners, OrderedMap.find?_insert]
      by_cases hname : made = name
      · subst hname
        rw [if_pos rfl]
        split_ifs with hlast
        · simp [hlast]
        · rw [← h.owner, hfree]
          simp [Ne.symm hlast]
      · rw [if_neg hname, h.owner]
        split_ifs with hlast
        · rw [hlast, hcurrent, hphase]
          simp [InstallPhase.transaction, hname]
        · rfl
  · rw [next_installer] at hk
    unfold record at hk
    split at hk
    · exact h.callbacks name k hk
    · rename_i made hphase
      rcases OrderedMap.find?_emplace_eq_some hk with hold | ⟨-, rfl, rfl⟩
      · exact h.callbacks name k hold
      · exact hrecording _ (.inr hphase)
    all_goals exact h.callbacks name k hk
  · rw [next_installer] at hpath
    unfold record at hpath
    have hmade : ∃ k, sys.transaction k = some name := by
      split at hpath
      · rename_i made hphase
        rcases OrderedMap.find?_emplace_eq_some hpath with hold | ⟨-, rfl, -⟩
        · exact h.paths name path hold
        · exact ⟨_, hrecording _ (.inl hphase)⟩
      all_goals exact h.paths name path hpath
    obtain ⟨k, hk⟩ := hmade
    exact ⟨k, next_keeps hc hok hk⟩
  · rw [next_installer, record_commandBuffer] at hcommand
    obtain ⟨name, hname⟩ := h.commands command hcommand
    exact ⟨name, next_keeps hc hok hname⟩

theorem Owned.finished (h : sys.Owned)
    (hs : sys.step (.finished objectPath value) = .ok sys') : sys'.Owned := by
  cases hs
  rcases handleFinishedSignal_cases sys.installer objectPath value with
    ⟨k, path, hcallback, -, heq⟩ | ⟨-, heq⟩
  · refine ⟨h.owner, fun name j hj => ?_, fun name path' hpath' => ?_, fun command hcommand => ?_⟩
    · simp only [heq, OrderedMap.find?_erase] at hj
      split_ifs at hj
      exact h.callbacks name j hj
    · simp only [heq, OrderedMap.find?_erase] at hpath'
      split_ifs at hpath'
      exact h.paths name path' hpath'
    · simp only [heq, List.mem_append, List.mem_singleton] at hcommand
      rcases hcommand with hold | rfl
      · exact h.commands command hold
      · exact ⟨objectPath, h.callbacks objectPath k hcallback⟩
  · refine ⟨h.owner, ?_, ?_, ?_⟩ <;> simp only [heq]
    · exact h.callbacks
    · exact h.paths
    · exact h.commands

theorem installPackage_transaction {path : String} (hnone : sys.current = none) (k : Nat) :
    transaction { sys with current := some ⟨path, .creating⟩ } k = sys.transaction k := by
  unfold transaction
  rw [hnone]
  rfl

theorem Owned.step (h : sys.Owned) {e : AptEvent} (hok : sys.Delivers e)
    (hs : sys.step e = .ok sys') : sys'.Owned := by
  rcases step_cases hs with rfl | ⟨path, rfl, hnone, rfl⟩ | ⟨answer, c, rfl, hc, rfl⟩ |
    ⟨objectPath, value, rfl⟩
  · exact h
  · refine ⟨fun name k => ?_, fun name k hk => ?_, fun name path hpath => ?_,
      fun command hcommand => ?_⟩
    · rw [installPackage_transaction hnone]
      exact h.owner name k
    · rw [installPackage_transaction hnone]
      exact h.callbacks name k hk
    · obtain ⟨k, hk⟩ := h.paths name path hpath
      exact ⟨k, by rw [installPackage_transaction hnone, hk]⟩
    · obtain ⟨name, hname⟩ := h.commands command hcommand
      exact ⟨name, by rw [installPackage_transaction hnone, hname]⟩
  · exact h.next hc hok
  · exact h.finished hs

end WolkConnect.AptSystem
