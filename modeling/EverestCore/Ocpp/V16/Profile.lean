import EverestCore.Ocpp.Profile

/-!
# OCPP 1.6 charging profiles (`ocpp/v16/profile.cpp`)

From a list of charging profiles to the intermediate profile of one purpose:
`calculate_all_profiles` places every schedule period on the time line, and
`generate_profile_from_periods` resolves the overlaps. Limits are `float` in the source and
rationals here; they are only copied. The ids of a profile, which occur in log messages only, are
left out.
-/

namespace EverestCore.Ocpp.V16

open EverestCore.Lib EverestCore.Lib.PrioritySweep

inductive ChargingRateUnit
  | A | W

/-- `ChargingProfilePurposeType`. -/
inductive ChargingProfilePurpose
  | ChargePointMaxProfile | TxDefaultProfile | TxProfile
  deriving DecidableEq

/-- `ChargingProfileKindType`. -/
inductive ChargingProfileKind
  | Absolute | Recurring | Relative

structure ChargingSchedulePeriod where
  startPeriod : Int
  limit : Rat
  numberPhases : Option Int

structure ChargingSchedule where
  chargingRateUnit : ChargingRateUnit
  chargingSchedulePeriod : List ChargingSchedulePeriod
  duration : Option Int := none
  startSchedule : Option Int := none
  minChargingRate : Option Rat := none

structure ChargingProfile where
  stackLevel : Int
  chargingProfilePurpose : ChargingProfilePurpose
  chargingProfileKind : ChargingProfileKind
  chargingSchedule : ChargingSchedule
  recurrencyKind : Option RecurrencyKind := none
  validFrom : Option Int := none
  validTo : Option Int := none

/-- `period_entry_t`. -/
structure PeriodEntry extends Span where
  limit : Rat
  numberPhases : Option Int
  chargingRateUnit : ChargingRateUnit
  minChargingRate : Option Rat

structure IntermediatePeriod where
  startPeriod : Int
  currentLimit : Rat
  powerLimit : Rat
  stackLevelCurrent : Int
  stackLevelPower : Int
  numberPhases : Option Int
  phaseToUse : Option Int
  deriving DecidableEq

def noLimitSpecified : Rat := -1

/-! ## Placing the periods -/

def calculateStart (inNow inEnd : Int) (inSessionStart : Option Int)
    (inProfile : ChargingProfile) : List Int :=
  match inProfile.chargingProfileKind with
  | .Absolute => [absoluteStart inNow inProfile.chargingSchedule.startSchedule inProfile.validFrom]
  | .Recurring =>
    match inProfile.recurrencyKind, inProfile.chargingSchedule.startSchedule with
    | some k, some startSchedule => recurringStarts id inNow inEnd k startSchedule
    | _, _ => []
  | .Relative => [relativeStart inNow inSessionStart]

/-- The two last bounds of a duration are compared before they are cut to 32 bits. -/
def shorten (bound duration : Int) : Int := if bound < duration then clampTo bound else duration

/-- `period_entry_t::init` followed by `period_entry_t::validate`. -/
def initValidated (entryStart duration now : Int) (period : ChargingSchedulePeriod)
    (inProfile : ChargingProfile) : Option PeriodEntry :=
  ((Span.init entryStart period.startPeriod duration inProfile.stackLevel).validate
    inProfile.validFrom now).map fun span =>
      { toSpan := span
        limit := period.limit
        numberPhases := period.numberPhases
        chargingRateUnit := inProfile.chargingSchedule.chargingRateUnit
        minChargingRate := inProfile.chargingSchedule.minChargingRate }

/-- `calculate_profile_entry`: an index out of range, a first period that does not start at 0 and
a period that does not start after the one before it give nothing. -/
def calculateProfileEntry (inNow inEnd : Int) (inSessionStart : Option Int)
    (inProfile : ChargingProfile) (inPeriodIndex : Nat) : List PeriodEntry :=
  let periods := inProfile.chargingSchedule.chargingSchedulePeriod
  match periods[inPeriodIndex]? with
  | none => []
  | some thisPeriod =>
    if inPeriodIndex = 0 ∧ thisPeriod.startPeriod ≠ 0 then []
    else if 0 < inPeriodIndex ∧
        (periods[inPeriodIndex - 1]?).any (fun p => decide (thisPeriod.startPeriod ≤ p.startPeriod))
      then []
    else
      (withNext (calculateStart inNow inEnd inSessionStart inProfile)).filterMap
        fun (start, next) =>
        initValidated start
          (entryDuration shorten (periods[inPeriodIndex + 1]?.map (·.startPeriod))
            inProfile.chargingSchedule.duration inProfile.validTo start next)
          (floorSeconds inNow) thisPeriod inProfile

def calculateProfileUnsorted (now fin : Int) (sessionStart : Option Int)
    (profile : ChargingProfile) : List PeriodEntry :=
  (List.range profile.chargingSchedule.chargingSchedulePeriod.length).flatMap fun i =>
    (calculateProfileEntry now fin sessionStart profile i).filter fun e => decide (e.start ≤ fin)

/-- The comparator of `sort_periods_into_date_order`. -/
abbrev EarlierStart (a b : PeriodEntry) : Bool := decide (a.start < b.start)

def calculateAllProfiles (sorter : StdSort EarlierStart) (now fin : Int)
    (sessionStart : Option Int) (profiles : List ChargingProfile)
    (purpose : ChargingProfilePurpose) : List PeriodEntry :=
  sorter.sort ((profiles.filter fun p => p.chargingProfilePurpose = purpose).flatMap
    (calculateProfileUnsorted now fin sessionStart))

/-! ## Resolving the overlaps -/

/-- The period pushed for a gap. -/
def gapPeriod (startPeriod : Int) : IntermediatePeriod :=
  ⟨startPeriod, noLimitSpecified, noLimitSpecified, 0, 0, none, none⟩

/-- The period pushed for the chosen entry. -/
def chosenPeriod (startPeriod : Int) (chosen : PeriodEntry) : IntermediatePeriod :=
  match chosen.chargingRateUnit with
  | .A => ⟨startPeriod, chosen.limit, noLimitSpecified, chosen.stackLevel, 0, chosen.numberPhases,
      none⟩
  | .W => ⟨startPeriod, noLimitSpecified, chosen.limit, 0, chosen.stackLevel, chosen.numberPhases,
      none⟩

def generateProfileFromPeriods (sorter : StdSort (HigherStackLevel PeriodEntry.toSpan))
    (fuel : Nat) (periods : List PeriodEntry) (inNow inEnd : Int) :
    Except Fault (List IntermediatePeriod) :=
  if periods.isEmpty then .ok [gapPeriod 0]
  else generate PeriodEntry.toSpan sorter gapPeriod chosenPeriod fuel periods inNow inEnd

/-! ## The stack level law -/

/-- The period carries the entry's limit, in its unit, and its number of phases. -/
def Carries (p : IntermediatePeriod) (e : PeriodEntry) : Prop :=
  (match e.chargingRateUnit with
    | .A => p.currentLimit = e.limit ∧ p.powerLimit = noLimitSpecified
    | .W => p.currentLimit = noLimitSpecified ∧ p.powerLimit = e.limit) ∧
  p.numberPhases = e.numberPhases

/-- The period carries no limit. -/
def NoLimit (p : IntermediatePeriod) : Prop :=
  p.currentLimit = noLimitSpecified ∧ p.powerLimit = noLimitSpecified

theorem carries_chosenPeriod (n : Int) (e : PeriodEntry) : Carries (chosenPeriod n e) e := by
  unfold chosenPeriod Carries
  cases e.chargingRateUnit <;> exact ⟨⟨rfl, rfl⟩, rfl⟩

theorem mem_calculateProfileEntry {inNow inEnd : Int} {inSessionStart : Option Int}
    {inProfile : ChargingProfile} {i : Nat} {e : PeriodEntry}
    (h : e ∈ calculateProfileEntry inNow inEnd inSessionStart inProfile i) :
    WholeSecond e.start ∧ WholeSecond e.stop ∧ floorSeconds inNow < e.stop := by
  unfold calculateProfileEntry at h
  simp only at h
  split at h
  · exact absurd h List.not_mem_nil
  · split_ifs at h
    · exact absurd h List.not_mem_nil
    · exact absurd h List.not_mem_nil
    · obtain ⟨⟨start, next⟩, -, hin⟩ := List.mem_filterMap.mp h
      obtain ⟨span, hs, rfl⟩ := Option.map_eq_some_iff.mp hin
      exact Span.validate_spec hs

/-- **The entries of `calculate_all_profiles` are usable** in the window they were made for. -/
theorem usable_of_mem_calculateAllProfiles {sorter : StdSort EarlierStart} {now fin : Int}
    {sessionStart : Option Int} {profiles : List ChargingProfile}
    {purpose : ChargingProfilePurpose} {e : PeriodEntry}
    (h : e ∈ calculateAllProfiles sorter now fin sessionStart profiles purpose) :
    e.toSpan.Usable (floorSeconds now) (floorSeconds fin) := by
  obtain ⟨p, -, hp⟩ := List.mem_flatMap.mp (sorter.mem_sort.mp h)
  obtain ⟨i, -, hi⟩ := List.mem_flatMap.mp hp
  obtain ⟨he, hfin⟩ := List.mem_filter.mp hi
  obtain ⟨hst, hs, ho⟩ := mem_calculateProfileEntry he
  exact ⟨hst, hs, hst.le_floorSeconds (of_decide_eq_true hfin), ho⟩

end EverestCore.Ocpp.V16
