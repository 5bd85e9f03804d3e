import WolkConnect.Monitor.Maximum

/-!
# The samples of the monitor

Passes of the main loop and ticks of the timers, in any order. The vectors are filled by
the loop, and cleared by the timers.
-/

namespace WolkConnect

/-- `readTemperatures` gives nothing, or four values. -/
theorem readTemperatures_eq_nil_or (values : List ℚ) :
    readTemperatures values = [] ∧ ¬ 4 ≤ values.length ∨
      (readTemperatures values).length = 4 ∧ 4 ≤ values.length := by
  unfold readTemperatures
  split_ifs with h
  · refine .inr ⟨?_, h⟩
    rw [List.length_drop]
    omega
  · exact .inl ⟨rfl, h⟩

namespace MonitorSystem

variable (sys : MonitorSystem)

/-- No vector was used outside of its elements, and each tick of `timerCpu` added the values that were
sampled last. -/
structure Safe : Prop where
  inRange : ∀ a ∈ sys.accesses, a.InRange
  cores : ∀ tick ∈ sys.coreTicks, tick.1 = Monitor.coreReadings tick.2

/-- There are four values, and values whose maximum is computed lie between -1 and their number.
`timerCpu` never ticks. -/
def Inside (sys : MonitorSystem) : MonitorEvent → Prop
  | .iterate _ _ values => 4 ≤ values.length ∧ ∀ t ∈ readTemperatures values, -1 < t ∧ t < 4
  | .timerCpu _ => False
  | .timerCpuMax _ => sys.monitor.temperaturesMax ≠ [] ∧
      ∀ t ∈ sys.monitor.temperaturesMax, -1 < t ∧ t < sys.monitor.temperaturesMax.length
  | .timerIp => True

instance (sys : MonitorSystem) : (e : MonitorEvent) → Decidable (sys.Inside e)
  | .iterate _ _ _ => inferInstanceAs (Decidable (_ ∧ ∀ _ ∈ _, _ ∧ _))
  | .timerCpu _ => inferInstanceAs (Decidable False)
  | .timerCpuMax _ => inferInstanceAs (Decidable (_ ∧ ∀ _ ∈ _, _ ∧ _))
  | .timerIp => inferInstanceAs (Decidable True)

def uses (sys : MonitorSystem) : MonitorEvent → List Access
  | .iterate past newIp values => (sys.monitor.iterate past newIp values).1.accesses
  | .timerCpu past => (sys.monitor.timerCpu past).1.accesses
  | .timerCpuMax past => (sys.monitor.timerCpuMax past).1.accesses
  | .timerIp => sys.monitor.timerIp.1.accesses

variable {sys} {sys' : MonitorSystem} {es : List MonitorEvent} {ip : String}

theorem accesses_step {e : MonitorEvent} (hs : sys.step e = .ok sys') :
    sys'.accesses = sys.accesses ++ sys.uses e := by
  cases e <;> cases hs <;> rfl

/-- A tick of `timerCpu` uses the values after it has cleared them. -/
theorem timerCpu_outside (m : Monitor) (past : Int → ℚ) :
    ∃ a ∈ (m.timerCpu past).1.accesses, ¬ a.InRange := by
  refine ⟨⟨0, 0⟩, List.mem_append_right _ ?_, by decide⟩
  exact List.mem_map_of_mem (f := fun index => (⟨index, 0⟩ : Access)) List.mem_cons_self

theorem uses_inRange_iff (sys : MonitorSystem) (e : MonitorEvent) :
    (∀ a ∈ sys.uses e, a.InRange) ↔ sys.Inside e := by
  cases e with
  | iterate past newIp values =>
    refine (accesses_inRange_iff past (readTemperatures values)).trans ?_
    rcases readTemperatures_eq_nil_or values with ⟨hnil, hfew⟩ | ⟨hlength, hfour⟩
    · exact iff_of_false (fun h => h.1 hnil) fun h => hfew h.1
    · have hne : readTemperatures values ≠ [] := List.ne_nil_of_length_pos (by omega)
      rw [hlength]
      exact ⟨fun h => ⟨hfour, h.2⟩, fun h => ⟨hne, h.2⟩⟩
  | timerCpu past =>
    obtain ⟨a, ha, hout⟩ := timerCpu_outside sys.monitor past
    exact iff_of_false (fun h => hout (h a ha)) id
  | timerCpuMax past =>
    refine Iff.trans ?_ (accesses_inRange_iff past sys.monitor.temperaturesMax)
    change (∀ a ∈ _ ++ _ ++ _, Access.InRange a) ↔ _
    simp only [List.mem_append, or_self]
  | timerIp => exact iff_of_true (fun a ha => absurd ha List.not_mem_nil) trivial

theorem Safe.step (h : sys.Safe) {e : MonitorEvent} (hok : sys.Inside e)
    (hs : sys.step e = .ok sys') : sys'.Safe := by
  have hcores : sys'.coreTicks = sys.coreTicks := by
    cases e with
    | iterate | timerCpuMax | timerIp => cases hs; rfl
    | timerCpu => exact hok.elim
  refine ⟨?_, hcores ▸ h.cores⟩
  rw [accesses_step hs]
  intro a ha
  rcases List.mem_append.mp ha with hold | hnew
  · exact h.inRange a hold
  · exact (sys.uses_inRange_iff e).mpr hok a hnew

theorem safe_create (ip : String) : (create ip).Safe :=
  ⟨fun _ ha => absurd ha List.not_mem_nil, fun _ ht => absurd ht List.not_mem_nil⟩

/-- **Samples.** The monitor stays inside of its vectors, and adds the values of the cores that were
sampled last, in exactly the runs in which every pass gets four values that lie between -1 and 4, the
values so far lie between -1 and their number whenever `timerCpuMax` ticks, and `timerCpu` never
ticks. -/
theorem samples_read_iff (hrun : Machine.Run step (fun _ _ => True) (create ip) es sys) :
    sys.Safe ↔ Machine.Run step Inside (create ip) es sys := by
  refine hrun.iff_meets Safe (fun s => ∃ a ∈ s.accesses, ¬ a.InRange) (safe_create ip)
    (fun _ _ _ h hok hs => h.step hok hs) ?_ ?_ id ?_
  · intro s e t _ _ hout hs
    have hbad : ¬ ∀ a ∈ s.uses e, a.InRange := fun h => hout ((s.uses_inRange_iff e).mp h)
    push Not at hbad
    obtain ⟨a, ha, hnot⟩ := hbad
    rw [accesses_step hs]
    exact ⟨a, List.mem_append_right _ ha, hnot⟩
  · rintro s e t ⟨a, ha, hnot⟩ _ hs
    rw [accesses_step hs]
    exact ⟨a, List.mem_append_left _ ha, hnot⟩
  · rintro ⟨a, ha, hnot⟩ hsafe
    exact hnot (hsafe.inRange a ha)

/-- Two passes in a room that is hardly above zero, and a tick of `timerCpuMax`. -/
theorem samples_read_sample : ∃ sys : MonitorSystem, sys.Safe ∧
    sys.readings = [⟨"CPU_T_core_max", .number 1⟩] := by
  obtain ⟨sys, hrun, hreadings⟩ := Machine.Run.exists_of_check step Inside (create "10.0.0.1")
    [.iterate (fun _ => 0) "10.0.0.1" [7, 1 / 2, 1, 3 / 2, 0],
      .iterate (fun _ => 0) "10.0.0.1" [0, 0, 1, 0], .timerCpuMax fun _ => 0]
    MonitorSystem.readings [⟨"CPU_T_core_max", .number 1⟩] (by decide +kernel)
  exact ⟨sys, (samples_read_iff (hrun.mono fun _ _ _ => trivial)).mpr hrun, hreadings⟩

/-- The first tick of `timerCpu` uses the first of the values that it has just cleared. -/
theorem cleared_samples_read : ∃ sys : MonitorSystem,
    Machine.Run step (fun _ _ => True) (create "10.0.0.1")
      [.iterate (fun _ => 0) "10.0.0.1" [1, 2, 3, 0], .timerCpu fun _ => 0] sys ∧ ¬ sys.Safe := by
  obtain ⟨sys, hrun, hused⟩ := Machine.Run.exists_of_check step (fun _ _ => True) (create "10.0.0.1")
    [.iterate (fun _ => 0) "10.0.0.1" [1, 2, 3, 0], .timerCpu fun _ => 0]
    (fun sys => decide (⟨0, 0⟩ ∈ sys.accesses)) true (by decide +kernel)
  refine ⟨sys, hrun, fun hsafe => ?_⟩
  exact absurd (hsafe.inRange _ (of_decide_eq_true hused)) (by decide)

end MonitorSystem

end WolkConnect
