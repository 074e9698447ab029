import EverestCore.Ocpp.V16.Profile
import EverestCore.Ocpp.V2.CompositeSchedule

/-!
# Combining intermediate profiles

`combine_list_of_profiles` of `v16/profile.cpp` and of `v2/profile.cpp` is the same loop over
different periods. It goes from breakpoint to breakpoint of all profiles, combines the periods in
force there, and leaves a result out that does not differ from the last one.

The largest 32-bit number marks that there is no next breakpoint, so a period that starts then is
not seen.

Results:
* `combined_pointwise`: this for both versions.
-/

namespace EverestCore.Ocpp

open EverestCore.Lib EverestCore.Lib.StepFunction List
open EverestCore.Lib.PrioritySweep (lastAt lastAt_cons lastAt_map Timeline)

section Combine

variable {P : Type} (startPeriod : P → Int) (withStart : P → Int → P) (same : P → P → Bool)
  (default_ : P) (combinator : List P → P)

/-- The loop of `combine_list_of_profiles`; none if it takes more than the given rounds. -/
def combineLoop : Nat → Int → List (P × List P) → List P → Option (List P)
  | 0, _, _, _ => none
  | rounds + 1, currentPeriod, iterators, combined =>
    if iterators.isEmpty then some combined
    else
      let period := withStart (combinator (iterators.map Prod.fst)) currentPeriod
      let combined := push same combined period
      let nextLowestPeriod := nextLowest startPeriod currentPeriod int32Max iterators
      if nextLowestPeriod = int32Max then some combined
      else
        combineLoop rounds nextLowestPeriod (iterators.map (advance startPeriod nextLowestPeriod))
          combined

/-- The iterator to the first period of a profile that is not empty. -/
def iteratorOf : List P → Option (P × List P)
  | [] => none
  | p :: ps => some (p, ps)

def combineListOfProfiles (rounds : Nat) (profiles : List (List P)) : Option (List P) :=
  if profiles.isEmpty then some [default_]
  else
    (combineLoop startPeriod withStart same combinator rounds 0 (profiles.filterMap iteratorOf)
      []).map fun combined => if combined.isEmpty then [default_] else combined

/-- The number of periods of all profiles. -/
def totalPeriods (profiles : List (List P)) : Nat := (profiles.map List.length).sum

/-- The starts of a profile increase from 0. -/
structure IsProfile (profile : List P) : Prop where
  begins : profile.head?.map startPeriod = some 0
  strict : profile.Pairwise (startPeriod · < startPeriod ·)

/-- `out` is the pointwise combination of the profiles: at each instant every profile has a period
in force, and so has `out`, the same as the combination of theirs. -/
structure IsCombination (profiles : List (List P)) (out : List P) : Prop where
  begins : out.head?.map startPeriod = some 0
  strict : out.Pairwise (startPeriod · < startPeriod ·)
  pointwise : ∀ t, 0 ≤ t → ∃ periods p,
    profiles.map (lastAt startPeriod · t) = periods.map some ∧ lastAt startPeriod out t = some p ∧
      same (combinator periods) p = true

variable {startPeriod withStart same default_ combinator}

theorem combineLoop_eq (rounds : Nat) (current : Int) (iterators : List (P × List P))
    (combined : List P) (h : iterators ≠ []) :
    combineLoop startPeriod withStart same combinator rounds current iterators combined
      = (sweep startPeriod int32Max rounds current iterators).map fun segs =>
          (segs.map fun seg => withStart (combinator seg.2) seg.1).foldl (push same) combined := by
  induction rounds generalizing current iterators combined with
  | zero => rfl
  | succ rounds ih =>
    have he : iterators.isEmpty = false := by simpa using h
    rw [combineLoop, sweep, he]
    by_cases hend : nextLowest startPeriod current int32Max iterators = int32Max
    · rw [if_pos hend, if_pos hend]
      rfl
    · rw [if_neg hend, if_neg hend, ih _ _ _ (by simpa using h), Option.map_map]
      rfl

variable {profiles : List (List P)}

/-- The iterators at the start stand at the periods in force at 0. -/
theorem forall₂_reading (h : ∀ profile ∈ profiles, IsProfile startPeriod profile)
    (hbo : ∀ profile ∈ profiles, ∀ p ∈ profile, startPeriod p < int32Max) :
    List.Forall₂ (Reading startPeriod int32Max 0) profiles (profiles.filterMap iteratorOf) ∧
      remaining (profiles.filterMap iteratorOf) + profiles.length = totalPeriods profiles := by
  induction profiles with
  | nil => exact ⟨.nil, rfl⟩
  | cons profile profiles ih =>
    obtain ⟨hp, hpr⟩ := forall_mem_cons.mp h
    obtain ⟨hlt, hlts⟩ := forall_mem_cons.mp hbo
    obtain ⟨hr, hc⟩ := ih hpr hlts
    cases profile with
    | nil => exact absurd hp.begins (by simp)
    | cons p ps =>
      have hz : startPeriod p = 0 := Option.some.inj hp.begins
      refine ⟨.cons ⟨⟨[], rfl⟩, hp.strict, hlt, hz.le, fun b hb => ?_⟩ hr, ?_⟩
      · exact hz ▸ (pairwise_cons.mp hp.strict).1 b hb
      · simp only [remaining, totalPeriods, filterMap_cons, iteratorOf, map_cons,
          sum_cons, length_cons] at hc ⊢
        omega

theorem IsProfile.isSome_lastAt {profile : List P} (h : IsProfile startPeriod profile) {t : Int}
    (ht : 0 ≤ t) : (lastAt startPeriod profile t).isSome := by
  cases profile with
  | nil => exact absurd h.begins (by simp)
  | cons p ps =>
    have hz : startPeriod p = 0 := Option.some.inj h.begins
    rw [lastAt_cons, if_pos (hz ▸ ht)]
    cases lastAt startPeriod ps t <;> rfl

theorem map_lastAt_eq
    (h : ∀ profile ∈ profiles, IsProfile startPeriod profile) {t : Int} (ht : 0 ≤ t) :
    profiles.map (lastAt startPeriod · t) = (inForce startPeriod profiles t).map some := by
  induction profiles with
  | nil => rfl
  | cons profile profiles ih =>
    obtain ⟨hpro, hpr⟩ := forall_mem_cons.mp h
    obtain ⟨p, hp⟩ := Option.isSome_iff_exists.mp (hpro.isSome_lastAt ht)
    rw [map_cons, ih hpr, inForce, inForce, filterMap_cons, hp]
    rfl

/-- What the loop leaves of the breakpoints is the pointwise combination. -/
theorem isCombination_merge (hp : ∀ profile ∈ profiles, IsProfile startPeriod profile)
    (hst : ∀ p c, startPeriod (withStart p c) = c)
    (hsa : ∀ p c q, same (withStart p c) q = same p q)
    (hr : ∀ p c, same p (withStart p c)) {segs : List (Int × List P)}
    (h : Timeline (fun _ => True) (inForce startPeriod profiles) 0 segs) :
    IsCombination startPeriod same combinator profiles
      (merge same (segs.map fun seg => withStart (combinator seg.2) seg.1)) := by
  have hs : (segs.map fun seg => withStart (combinator seg.2) seg.1).Pairwise
      (startPeriod · < startPeriod ·) := by
    rw [pairwise_map]
    simpa only [hst] using h.ordered
  refine ⟨?_, hs.sublist (merge_sublist _), fun t ht => ?_⟩
  · have hh := h.head
    rw [head?_merge, List.head?_map, Option.map_map]
    simpa only [Function.comp_def, hst] using hh
  · obtain ⟨seg, hseg, hf⟩ := Option.map_eq_some_iff.mp (h.inForce t ht trivial)
    have hraw : lastAt startPeriod (segs.map fun seg => withStart (combinator seg.2) seg.1) t
        = some (withStart (combinator seg.2) seg.1) := by
      rw [lastAt_map (k := Prod.fst) (t := t) fun seg _ => by rw [hst], hseg]
      rfl
    obtain ⟨q, hq, heq⟩ : ∃ q, lastAt startPeriod (merge same _) t = some q ∧ _ :=
      exists_lastAt_merge hs hraw
    refine ⟨_, q, map_lastAt_eq hp ht, hq, ?_⟩
    rw [← hf]
    rcases heq with rfl | hm
    · exact hr _ _
    · rwa [hsa] at hm

/-- **`combine_list_of_profiles` is the pointwise combination** and needs at most one round for
each period of the profiles, if there are profiles and none has a period at the mark. -/
theorem combineListOfProfiles_spec (hne : profiles ≠ [])
    (hp : ∀ profile ∈ profiles, IsProfile startPeriod profile)
    (hbo : ∀ profile ∈ profiles, ∀ p ∈ profile, startPeriod p < int32Max)
    (hst : ∀ p c, startPeriod (withStart p c) = c) (hs : ∀ p c q, same (withStart p c) q = same p q)
    (hre : ∀ p c, same p (withStart p c)) :
    ∃ out, (∀ rounds, totalPeriods profiles ≤ rounds →
        combineListOfProfiles startPeriod withStart same default_ combinator rounds profiles
          = some out) ∧
      IsCombination startPeriod same combinator profiles out := by
  obtain ⟨hrd, hc⟩ := forall₂_reading hp hbo
  have hlen : 0 < profiles.length := length_pos_of_ne_nil hne
  have hi : profiles.filterMap iteratorOf ≠ [] := by
    rw [← length_pos_iff, ← hrd.length_eq]
    exact hlen
  obtain ⟨segs, hse, hbre⟩ :=
    sweep_spec hrd (by omega : _ < totalPeriods profiles)
  have hout : IsCombination startPeriod same combinator profiles _ :=
    isCombination_merge hp hst hs hre hbre
  refine ⟨_, fun rounds hr => ?_, hout⟩
  have hn : (merge same (segs.map fun seg => withStart (combinator seg.2) seg.1)).isEmpty
      = false := by
    have hb := hout.begins
    rw [isEmpty_eq_false_iff]
    intro hnil
    rw [hnil] at hb
    cases hb
  have he : profiles.isEmpty = false := by simpa using hne
  rw [combineListOfProfiles, he, combineLoop_eq _ _ _ _ hi, sweep_mono hse hr]
  simp only [Bool.false_eq_true, if_false, Option.map_some, foldl_push, hn]

/-- Every period of the result is a combination. -/
theorem combineLoop_all {I : P → Bool} (hI : ∀ periods c, I (withStart (combinator periods) c))
    (rounds : Nat) (current : Int) (iterators : List (P × List P)) {combined : List P}
    (h : combined.all I) : (combineLoop startPeriod withStart same combinator rounds current
      iterators combined).all (·.all I) := by
  induction rounds generalizing current iterators combined with
  | zero => rfl
  | succ rounds ih =>
    have hp : ∀ p, I p → (push same combined p).all I := by
      intro p hp
      unfold push
      split_ifs <;> simp [h, hp]
    rw [combineLoop]
    dsimp only
    split_ifs
    · exact h
    · exact hp _ (hI _ _)
    · exact ih _ _ (hp _ (hI _ _))

theorem combineListOfProfiles_all {I : P → Bool} (hd : I default_)
    (hI : ∀ periods c, I (withStart (combinator periods) c)) (rounds : Nat)
    (profiles : List (List P)) : (combineListOfProfiles startPeriod withStart same default_
      combinator rounds profiles).all (·.all I) := by
  have h : Option.all (·.all I) (combineLoop startPeriod withStart same combinator rounds 0
    (profiles.filterMap iteratorOf) []) := combineLoop_all hI rounds 0 _ rfl
  unfold combineListOfProfiles
  split_ifs
  · simp [hd]
  · revert h
    cases combineLoop startPeriod withStart same combinator rounds 0
      (profiles.filterMap iteratorOf) [] with
    | none => exact id
    | some out => by_cases he : out = [] <;> simp [he, hd]

theorem IsCombination.any_lastAt {out : List P}
    (h : IsCombination startPeriod same combinator profiles out) {t : Int} (ht : 0 ≤ t) :
    (lastAt startPeriod out t).any (same (combinator (inForce startPeriod profiles t))) := by
  obtain ⟨periods, p, hper, hp, hs⟩ := h.pointwise t ht
  have hf : inForce startPeriod profiles t = periods := by
    have hid : inForce startPeriod profiles t
        = (profiles.map (lastAt startPeriod · t)).filterMap id := by
      rw [filterMap_map]
      rfl
    rw [hid, hper, filterMap_map]
    simp
  rw [hf, hp]
  exact hs

end Combine

/-! ## The two versions -/

namespace V16

/-- The period with the given start. -/
def IntermediatePeriod.startingAt (p : IntermediatePeriod) (startPeriod : Int) :
    IntermediatePeriod := { p with startPeriod }

/-- No condition holds under which a period is pushed after `back`. -/
def samePeriod (p back : IntermediatePeriod) : Bool :=
  p.currentLimit = back.currentLimit ∧ p.powerLimit = back.powerLimit ∧
    p.numberPhases = back.numberPhases ∧ p.stackLevelCurrent = back.stackLevelCurrent ∧
    p.stackLevelPower = back.stackLevelPower

/-- `combine_list_of_profiles` of OCPP 1.6. -/
def combineListOfProfiles (combinator : List IntermediatePeriod → IntermediatePeriod)
    (rounds : Nat) (profiles : List (List IntermediatePeriod)) :
    Option (List IntermediatePeriod) :=
  Ocpp.combineListOfProfiles (·.startPeriod) IntermediatePeriod.startingAt samePeriod (gapPeriod 0)
    combinator rounds profiles

end V16

namespace V2

/-- The period with the given start. -/
def IntermediatePeriod.startingAt (p : IntermediatePeriod) (startPeriod : Int) :
    IntermediatePeriod := { p with startPeriod }

/-- `PeriodLimit::operator==`. -/
def PeriodLimit.equal (a b : PeriodLimit) : Bool :=
  isEqual a.limit b.limit && isEqual a.limitL2 b.limitL2 && isEqual a.limitL3 b.limitL3

/-- No condition holds under which a period is pushed after `back`. -/
def samePeriod (p back : IntermediatePeriod) : Bool :=
  p.currentLimit.equal back.currentLimit && p.powerLimit.equal back.powerLimit &&
    p.currentDischargeLimit.equal back.currentDischargeLimit &&
    p.powerDischargeLimit.equal back.powerDischargeLimit &&
    p.currentSetpoint.equal back.currentSetpoint && p.powerSetpoint.equal back.powerSetpoint &&
    p.numberPhases = back.numberPhases && p.stackLevelCurrent = back.stackLevelCurrent &&
    p.stackLevelPower = back.stackLevelPower &&
    effectiveMode p.operationMode = effectiveMode back.operationMode

/-- `combine_list_of_profiles` of OCPP 2.x. -/
def combineListOfProfiles (indet : Int → Int × Int)
    (combinator : List IntermediatePeriod → IntermediatePeriod) (rounds : Nat)
    (profiles : List (List IntermediatePeriod)) : Option (List IntermediatePeriod) :=
  Ocpp.combineListOfProfiles (·.startPeriod) IntermediatePeriod.startingAt samePeriod
    (defaultIntermediatePeriod indet 0) combinator rounds profiles

theorem isEqual_self (x : Rat) : isEqual x x := by
  simp [isEqual]

theorem PeriodLimit.equal_self (a : PeriodLimit) : a.equal a := by
  simp [PeriodLimit.equal, isEqual_self]

theorem samePeriod_startingAt (p : IntermediatePeriod) (c : Int) :
    samePeriod p (p.startingAt c) := by
  simp [samePeriod, IntermediatePeriod.startingAt, PeriodLimit.equal_self]

/-- The combinator takes the period: it differs from the default one. -/
def picked (p : IntermediatePeriod) : Bool :=
  let default_ := defaultIntermediatePeriod (fun _ => (0, 0)) 0
  !p.currentLimit.equal default_.currentLimit || !p.powerLimit.equal default_.powerLimit ||
    !p.currentDischargeLimit.equal default_.currentDischargeLimit ||
    !p.powerDischargeLimit.equal default_.powerDischargeLimit ||
    !p.currentSetpoint.equal default_.currentSetpoint ||
    !p.powerSetpoint.equal default_.powerSetpoint || effectiveMode p.operationMode ≠ .ChargingOnly

/-- The first period that is taken; the phase to use is not among the fields that are copied. -/
def firstPicked (periods : List IntermediatePeriod) : IntermediatePeriod :=
  match periods.find? picked with
  | some p => { p with startPeriod := 0, phaseToUse := none }
  | none => defaultIntermediatePeriod (fun _ => (0, 0)) 0

def mergeTxProfileWithTxDefaultProfile (indet : Int → Int × Int) (rounds : Nat)
    (txProfile txDefaultProfile : List IntermediatePeriod) : Option (List IntermediatePeriod) :=
  combineListOfProfiles indet firstPicked rounds [txProfile, txDefaultProfile]

/-- The intermediate profile of the transaction profiles and the default ones. -/
def txIntermediateProfile (indet : Int → Int × Int) (dateSorter : StdSort EarlierStart)
    (levelSorter : StdSort (HigherStackLevel PeriodEntry.toSpan)) (fuel : Nat) (now fin : Int)
    (sessionStart : Option Int) (profiles : List ChargingProfile) :
    Option (List IntermediatePeriod) := do
  let profileOf := fun purpose => (generateProfileFromPeriods indet levelSorter fuel
    (calculateAllProfiles dateSorter now fin sessionStart profiles purpose) now fin).toOption
  mergeTxProfileWithTxDefaultProfile indet fuel (← profileOf .TxProfile)
    (← profileOf .TxDefaultProfile)

/-- **The phase to use does not survive**: no period of the result names one, whatever the stored
profiles do. -/
theorem phaseToUse_dropped (indet : Int → Int × Int) (dateSorter : StdSort EarlierStart)
    (levelSorter : StdSort (HigherStackLevel PeriodEntry.toSpan)) (fuel : Nat) (now fin : Int)
    (sessionStart : Option Int) (profiles : List ChargingProfile) :
    (txIntermediateProfile indet dateSorter levelSorter fuel now fin sessionStart profiles).all
      (·.all (·.phaseToUse.isNone)) := by
  have hI : ∀ periods c, ((firstPicked periods).startingAt c).phaseToUse.isNone := by
    intro periods c
    unfold firstPicked
    split <;> rfl
  have hd : (defaultIntermediatePeriod indet 0).phaseToUse.isNone := rfl
  simp only [txIntermediateProfile, bind, Option.all_bind, Option.all_eq_true,
    Function.comp_apply]
  intro tx _ txDefault _
  rw [← Option.all_eq_true, mergeTxProfileWithTxDefaultProfile, combineListOfProfiles]
  exact combineListOfProfiles_all (I := fun p : IntermediatePeriod => p.phaseToUse.isNone) hd hI
    fuel _

/-- One period, on the second phase. -/
def secondPhase : ChargingProfile where
  stackLevel := 0
  chargingProfilePurpose := .TxProfile
  chargingProfileKind := .Absolute
  chargingSchedule :=
    { chargingRateUnit := .A
      chargingSchedulePeriod := [⟨0, some 16, none, none, some 1, some 2, none, none, none, none,
        none, none, none⟩]
      startSchedule := some 0 }

theorem secondPhase_lost :
    (txIntermediateProfile (fun _ => (0, 0)) (StdSort.byKey fun e : PeriodEntry => e.start)
      (StdSort.byFallingKey fun e : PeriodEntry => e.stackLevel) 9 0 (seconds 60) none
      [secondPhase]).map (·.map fun p => (p.startPeriod, p.numberPhases, p.phaseToUse)) =
        some [(0, some 1, none)] := by
  decide +kernel

end V2

/-- **Combining profiles is pointwise**, in OCPP 1.6 and in OCPP 2.x: for every combinator and for
all profiles, of which there is one at least and none has a period at the mark, as many rounds as
there are periods are enough for the loop, and its result is the pointwise combination. Without a
profile the result is the default period. -/
theorem combined_pointwise :
    (∀ combinator : List V16.IntermediatePeriod → V16.IntermediatePeriod,
      (∀ rounds, V16.combineListOfProfiles combinator rounds [] = some [V16.gapPeriod 0]) ∧
      ∀ profiles : List (List V16.IntermediatePeriod), profiles ≠ [] →
        (∀ profile ∈ profiles, IsProfile (·.startPeriod) profile ∧
          ∀ p ∈ profile, p.startPeriod < int32Max) →
        ∃ out, (∀ rounds, totalPeriods profiles ≤ rounds →
            V16.combineListOfProfiles combinator rounds profiles = some out) ∧
          IsCombination (·.startPeriod) V16.samePeriod combinator profiles out) ∧
    ∀ (indet : Int → Int × Int) (combinator : List V2.IntermediatePeriod → V2.IntermediatePeriod),
      (∀ rounds, V2.combineListOfProfiles indet combinator rounds [] =
        some [V2.defaultIntermediatePeriod indet 0]) ∧
      ∀ profiles : List (List V2.IntermediatePeriod), profiles ≠ [] →
        (∀ profile ∈ profiles, IsProfile (·.startPeriod) profile ∧
          ∀ p ∈ profile, p.startPeriod < int32Max) →
        ∃ out, (∀ rounds, totalPeriods profiles ≤ rounds →
            V2.combineListOfProfiles indet combinator rounds profiles = some out) ∧
          IsCombination (·.startPeriod) V2.samePeriod combinator profiles out := by
  constructor
  · refine fun combinator => ⟨fun _ => rfl, fun profiles hne h => ?_⟩
    refine combineListOfProfiles_spec hne (fun profile hp => (h profile hp).1)
      (fun profile hp => (h profile hp).2) (fun _ _ => rfl) (fun _ _ _ => rfl) fun p c => ?_
    simp [V16.samePeriod, V16.IntermediatePeriod.startingAt]
  · refine fun indet combinator => ⟨fun _ => rfl, fun profiles hne h => ?_⟩
    exact combineListOfProfiles_spec hne (fun profile hp => (h profile hp).1)
      (fun profile hp => (h profile hp).2) (fun _ _ => rfl) (fun _ _ _ => rfl)
      V2.samePeriod_startingAt

/-- What is not pointwise, in both versions. Without a profile the result is the period without
limits, whatever the combinator gives. A second period at the largest 32-bit number is not seen. -/
theorem combined_not_pointwise :
    (∀ out, V16.combineListOfProfiles (fun _ => { V16.gapPeriod 0 with currentLimit := 16 }) 0 []
          = some out →
      ¬ IsCombination (·.startPeriod) V16.samePeriod
        (fun _ => { V16.gapPeriod 0 with currentLimit := 16 }) [] out) ∧
    (∀ out, V16.combineListOfProfiles (·.headD (V16.gapPeriod 0)) 2
          [[V16.gapPeriod 0, { V16.gapPeriod int32Max with currentLimit := 16 }]] = some out →
      ¬ IsCombination (·.startPeriod) V16.samePeriod (·.headD (V16.gapPeriod 0))
        [[V16.gapPeriod 0, { V16.gapPeriod int32Max with currentLimit := 16 }]] out) ∧
    (∀ out, V2.combineListOfProfiles (fun _ => (0, 0))
          (fun _ => V2.currentPeriod 0 (.all 16)) 0 [] = some out →
      ¬ IsCombination (·.startPeriod) V2.samePeriod (fun _ => V2.currentPeriod 0 (.all 16)) []
        out) ∧
    (∀ out, V2.combineListOfProfiles (fun _ => (0, 0)) (·.headD (V2.currentPeriod 0 (.all 16))) 2
          [[V2.currentPeriod 0 (.all 16), V2.currentPeriod int32Max (.all 10)]] = some out →
      ¬ IsCombination (·.startPeriod) V2.samePeriod (·.headD (V2.currentPeriod 0 (.all 16)))
        [[V2.currentPeriod 0 (.all 16), V2.currentPeriod int32Max (.all 10)]] out) := by
  refine ⟨?_, ?_, ?_, ?_⟩
  · intro out hout h
    obtain rfl := Option.some.inj hout
    exact absurd (h.any_lastAt le_rfl) (by decide +kernel)
  · intro out hout h
    have hr : V16.combineListOfProfiles (·.headD (V16.gapPeriod 0)) 2
        [[V16.gapPeriod 0, { V16.gapPeriod int32Max with currentLimit := 16 }]]
          = some [V16.gapPeriod 0] := by decide +kernel
    obtain rfl := Option.some.inj (hr.symm.trans hout)
    exact absurd (h.any_lastAt (t := int32Max) (by decide)) (by decide +kernel)
  · intro out hout h
    obtain rfl := Option.some.inj hout
    exact absurd (h.any_lastAt le_rfl) (by decide +kernel)
  · intro out hout h
    have hr : V2.combineListOfProfiles (fun _ => (0, 0)) (·.headD (V2.currentPeriod 0 (.all 16))) 2
        [[V2.currentPeriod 0 (.all 16), V2.currentPeriod int32Max (.all 10)]]
          = some [V2.currentPeriod 0 (.all 16)] := by decide +kernel
    obtain rfl := Option.some.inj (hr.symm.trans hout)
    exact absurd (h.any_lastAt (t := int32Max) (by decide)) (by decide +kernel)

end EverestCore.Ocpp
