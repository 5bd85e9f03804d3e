import Mathlib.Data.List.Perm.Subperm
import WolkConnect.Data.System

/-!
# Parameters and the subscriptions that wait for them

The loop of `checkIfSubscriptionIsWaiting` compares a length and looks each requested name up. For
names that are requested once this is a permutation, and the loop takes the first of the map.
-/

namespace WolkConnect

variable {ρ : Type}

/-- The values are of the requested parameters, in any order. -/
def ParameterSubscription.Matches (s : ParameterSubscription ρ) (values : List Parameter) : Prop :=
  s.parameters.Perm (values.map Prod.fst)

theorem ParameterSubscription.awaits_iff {s : ParameterSubscription ρ} {values : List Parameter} :
    s.awaits values = true ↔
      values.length = s.parameters.length ∧ s.parameters ⊆ values.map Prod.fst := by
  simp [awaits, List.subset_def]

/-- Names without repeats that are all found among as many are those names. -/
theorem ParameterSubscription.awaits_iff_matches {s : ParameterSubscription ρ}
    {values : List Parameter} (hnodup : s.parameters.Nodup) :
    s.awaits values = true ↔ s.Matches values := by
  rw [awaits_iff]
  constructor
  · rintro ⟨hlength, hsubset⟩
    refine (hnodup.subperm hsubset).perm_of_length_le ?_
    rw [List.length_map, hlength]
  · intro hperm
    refine ⟨?_, hperm.subset⟩
    rw [hperm.length_eq, List.length_map]

namespace DataService

variable {svc : DataService ρ} {values : List Parameter} {k : Nat} {s : ParameterSubscription ρ}

/-- No subscription asks for a parameter twice. -/
def RequestedOnce (svc : DataService ρ) : Prop :=
  ∀ k s, svc.parameterSubscriptions.find? k = some s → s.parameters.Nodup

/-- The matching subscription with the smallest id. -/
def FirstMatch (svc : DataService ρ) (values : List Parameter) (k : Nat)
    (s : ParameterSubscription ρ) : Prop :=
  svc.parameterSubscriptions.find? k = some s ∧ s.Matches values ∧
    ∀ j t, svc.parameterSubscriptions.find? j = some t → t.Matches values → k ≤ j

theorem findSubscription_iff (hnodup : svc.RequestedOnce) :
    svc.findSubscription values = some (k, s) ↔ svc.FirstMatch values k s := by
  rw [findSubscription_eq_some]
  constructor
  · rintro ⟨hs, hawaits, hnone⟩
    refine ⟨hs, (ParameterSubscription.awaits_iff_matches (hnodup k s hs)).mp hawaits, ?_⟩
    intro j t ht hmatches
    by_contra hlt
    have hawaits' := (ParameterSubscription.awaits_iff_matches (hnodup j t ht)).mpr hmatches
    rw [hnone j t (Nat.lt_of_not_le hlt) ht] at hawaits'
    cases hawaits'
  · rintro ⟨hs, hmatches, hfirst⟩
    refine ⟨hs, (ParameterSubscription.awaits_iff_matches (hnodup k s hs)).mpr hmatches, ?_⟩
    intro j t hlt ht
    by_contra hawaits
    have hmatches' := (ParameterSubscription.awaits_iff_matches (hnodup j t ht)).mp
      (Bool.eq_true_of_not_eq_false hawaits)
    exact absurd hlt (Nat.not_lt_of_le (hfirst j t ht hmatches'))

theorem findSubscription_isNone (hnodup : svc.RequestedOnce)
    (h : svc.findSubscription values = none) :
    ∀ j t, svc.parameterSubscriptions.find? j = some t → ¬ t.Matches values := by
  intro j t ht hmatches
  have hawaits := List.find?_eq_none.mp h (j, t) (OrderedMap.find?_eq_some.mp ht)
  exact hawaits ((ParameterSubscription.awaits_iff_matches (hnodup j t ht)).mpr hmatches)

/-- **A message with parameters goes to the first subscription for just those parameters**, and that
one is removed. Where there is none, nothing changes and the handler is called. -/
theorem checkIfSubscriptionIsWaiting_matches (ctx : DataContext) (svc : DataService ρ)
    (d : String) (values : List Parameter) (hnodup : svc.RequestedOnce) :
    ((svc.checkIfSubscriptionIsWaiting d values).1 = true ↔
      ∃ k s, svc.parameterSubscriptions.find? k = some s ∧ s.Matches values) ∧
    ((svc.checkIfSubscriptionIsWaiting d values).1 = true → ∃ k s, svc.FirstMatch values k s ∧
      (svc.checkIfSubscriptionIsWaiting d values).2 =
        { svc with
          parameterSubscriptions := svc.parameterSubscriptions.erase k
          commandBuffer := svc.commandBuffer ++ [.parameters s.callback d values] } ∧
      (∀ j, (svc.parameterSubscriptions.erase k).find? j =
        if k = j then none else svc.parameterSubscriptions.find? j) ∧
      (d ≠ "" → svc.messageReceived ctx d (.parameterSync values) =
        (svc.checkIfSubscriptionIsWaiting d values).2)) ∧
    ((svc.checkIfSubscriptionIsWaiting d values).1 = false →
      (svc.checkIfSubscriptionIsWaiting d values).2 = svc ∧
      (d ≠ "" → svc.messageReceived ctx d (.parameterSync values) =
        { svc with
          handled := svc.handled ++
            if ctx.parameterSyncHandler then [.parameterSync d values] else [] })) := by
  rcases Option.eq_none_or_eq_some (svc.findSubscription values) with hnone | ⟨⟨k, s⟩, hsome⟩
  · have hno := findSubscription_isNone hnodup hnone
    rw [checkIfSubscriptionIsWaiting_none hnone]
    refine ⟨⟨nofun, ?_⟩, nofun, fun _ => ⟨rfl, fun hd => ?_⟩⟩
    · rintro ⟨k, s, hs, hmatches⟩
      exact absurd hmatches (hno k s hs)
    · rcases messageReceived_parameterSync ctx svc hd values with ⟨k, s, hsome, -⟩ | ⟨-, hsvc⟩
      · rw [hnone] at hsome
        cases hsome
      · exact hsvc
  · have hfirst := (findSubscription_iff hnodup).mp hsome
    rw [checkIfSubscriptionIsWaiting_some hsome]
    refine ⟨⟨fun _ => ⟨k, s, hfirst.1, hfirst.2.1⟩, fun _ => rfl⟩, fun _ => ?_, nofun⟩
    refine ⟨k, s, hfirst, rfl, OrderedMap.find?_erase _ k, fun hd => ?_⟩
    rcases messageReceived_parameterSync ctx svc hd values with
      ⟨k', s', hsome', hsvc⟩ | ⟨hnone, -⟩
    · rw [hsome] at hsome'
      cases hsome'
      exact hsvc
    · rw [hsome] at hnone
      cases hnone

/-- Subscriptions for one parameter and for two. -/
def twoSubscriptions : DataService Nat :=
  ((DataService.create .empty).subscribe [.firmwareUpdateRepository] 0).subscribe
    [.firmwareUpdateCheckTime, .firmwareUpdateRepository] 1

/-- The values come in another order than they were asked for. -/
theorem checkIfSubscriptionIsWaiting_matches_two :
    (twoSubscriptions.checkIfSubscriptionIsWaiting "d"
      [(.firmwareUpdateRepository, "u"), (.firmwareUpdateCheckTime, "1")]).1 = true := by
  refine (checkIfSubscriptionIsWaiting_matches reliable twoSubscriptions "d"
    [(.firmwareUpdateRepository, "u"), (.firmwareUpdateCheckTime, "1")] ?_).1.mpr ?_
  · have hall : ∀ e ∈ twoSubscriptions.parameterSubscriptions.entries, e.2.parameters.Nodup := by
      decide
    exact fun k s hs => hall (k, s) (OrderedMap.find?_eq_some.mp hs)
  · exact ⟨1, ⟨[.firmwareUpdateCheckTime, .firmwareUpdateRepository], 1⟩, by decide, List.Perm.swap ..⟩

/-- With a name that is requested twice, another is let through. -/
example : ((DataService.create .empty).subscribe [.firmwareUpdateCheckTime, .firmwareUpdateCheckTime] 0
    |>.checkIfSubscriptionIsWaiting "d"
      [(.firmwareUpdateCheckTime, "1"), (.firmwareUpdateRepository, "u")]).1 = true := by
  decide

end DataService

end WolkConnect
