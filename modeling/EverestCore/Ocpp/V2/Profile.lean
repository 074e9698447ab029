import EverestCore.Ocpp.Profile

/-!
# OCPP 2.x charging profiles (`ocpp/v2/profile.cpp`)

The OCPP 2 counterpart of `V16.Profile`: a limit has a value per phase, a period may also state a
discharge limit, a setpoint and an operation mode, and a profile may be `Dynamic`. Only the first
charging schedule of a profile is read (`chargingSchedule.front()`), so a profile has one here.
`default_intermediate_period` leaves the two stack levels uninitialised; they are whatever
`indet` gives for the offset of the period.

* `usable_of_mem_calculateAllProfiles`, as for OCPP 1.6.
-/

namespace EverestCore.Ocpp.V2

open EverestCore.Lib EverestCore.Lib.PrioritySweep

/-- `ChargingRateUnitEnum`. -/
inductive ChargingRateUnit
  | A | W
  deriving DecidableEq

/-- `ChargingProfilePurposeEnum`. -/
inductive ChargingProfilePurpose
  | ChargingStationExternalConstraints | ChargingStationMaxProfile | TxDefaultProfile | TxProfile
  | PriorityCharging | LocalGeneration
  deriving DecidableEq

/-- `ChargingProfileKindEnum`. -/
inductive ChargingProfileKind
  | Absolute | Recurring | Relative | Dynamic
  deriving DecidableEq

/-- `OperationModeEnum`. -/
inductive OperationMode
  | Idle | ChargingOnly | CentralSetpoint | ExternalSetpoint | ExternalLimits | CentralFrequency
  | LocalFrequency | LocalLoadBalancing
  deriving DecidableEq

/-- The fields of `ChargingSchedulePeriod` the composite calculation reads. -/
structure ChargingSchedulePeriod where
  startPeriod : Int
  limit : Option Rat := none
  limitL2 : Option Rat := none
  limitL3 : Option Rat := none
  numberPhases : Option Int := none
  phaseToUse : Option Int := none
  dischargeLimit : Option Rat := none
  dischargeLimitL2 : Option Rat := none
  dischargeLimitL3 : Option Rat := none
  setpoint : Option Rat := none
  setpointL2 : Option Rat := none
  setpointL3 : Option Rat := none
  operationMode : Option OperationMode := none

structure ChargingSchedule where
  chargingRateUnit : ChargingRateUnit
  chargingSchedulePeriod : List ChargingSchedulePeriod
  startSchedule : Option Int := none
  duration : Option Int := none
  minChargingRate : Option Rat := none

structure ChargingProfile where
  stackLevel : Int
  chargingProfilePurpose : ChargingProfilePurpose
  chargingProfileKind : ChargingProfileKind
  chargingSchedule : ChargingSchedule
  recurrencyKind : Option RecurrencyKind := none
  validFrom : Option Int := none
  validTo : Option Int := none

structure PeriodLimit where
  limit : Rat
  limitL2 : Rat
  limitL3 : Rat
  deriving DecidableEq

/-- The same value on every phase. -/
def PeriodLimit.all (x : Rat) : PeriodLimit := ⟨x, x, x⟩

/-- `period_entry_t`. -/
structure PeriodEntry extends Span where
  limit : PeriodLimit
  dischargeLimit : PeriodLimit
  setpoint : PeriodLimit
  numberPhases : Option Int
  phaseToUse : Option Int
  operationMode : Option OperationMode
  chargingRateUnit : ChargingRateUnit
  minChargingRate : Option Rat

structure IntermediatePeriod where
  startPeriod : Int
  currentLimit : PeriodLimit
  powerLimit : PeriodLimit
  currentDischargeLimit : PeriodLimit
  powerDischargeLimit : PeriodLimit
  currentSetpoint : PeriodLimit
  powerSetpoint : PeriodLimit
  stackLevelCurrent : Int
  stackLevelPower : Int
  numberPhases : Option Int
  phaseToUse : Option Int
  operationMode : Option OperationMode
  deriving DecidableEq

def noLimitSpecified : Rat := -1

/-- `NO_SETPOINT_SPECIFIED`, the largest `float`. -/
def noSetpointSpecified : Rat := (2 ^ 24 - 1) * 2 ^ 104

def noDischargeLimitSpecified : Rat := -noSetpointSpecified

/-- `DEFAULT_LIMIT_AMPS` and `DEFAULT_LIMIT_WATTS`. -/
def defaultLimit : ChargingRateUnit → Rat
  | .A => 48
  | .W => 33120

/-! ## Placing the periods -/

def calculateStart (inNow inEnd : Int) (inSessionStart : Option Int)
    (inProfile : ChargingProfile) : List Int :=
  match inProfile.chargingProfileKind with
  | .Absolute => [absoluteStart inNow inProfile.chargingSchedule.startSchedule inProfile.validFrom]
  | .Recurring =>
    match inProfile.recurrencyKind, inProfile.chargingSchedule.startSchedule with
    | some k, some startSchedule => recurringStarts clampTo inNow inEnd k startSchedule
    | _, _ => []
  | .Relative => [relativeStart inNow inSessionStart]
  | .Dynamic => [floorSeconds (floorSeconds inNow)]

/-- The two last bounds of a duration are cut to 32 bits before they are compared. -/
def shorten (bound duration : Int) : Int :=
  if clampTo bound < duration then clampTo bound else duration

/-- `period_entry_t::init`, the limit of the first phase: a period without one that only charges
gets the default of its unit. -/
def initLimit (unit : ChargingRateUnit) (period : ChargingSchedulePeriod) : Rat :=
  match period.limit, period.operationMode with
  | some l, _ => l
  | none, none => defaultLimit unit
  | none, some .ChargingOnly => defaultLimit unit
  | none, some _ => noLimitSpecified

/-- `period_entry_t::init` followed by `period_entry_t::validate`. The phase to use is not set. -/
def initValidated (entryStart duration now : Int) (period : ChargingSchedulePeriod)
    (inProfile : ChargingProfile) : Option PeriodEntry :=
  ((Span.init entryStart period.startPeriod duration inProfile.stackLevel).validate
    inProfile.validFrom now).map fun span =>
      { toSpan := span
        limit := ⟨initLimit inProfile.chargingSchedule.chargingRateUnit period,
          period.limitL2.getD noLimitSpecified, period.limitL3.getD noLimitSpecified⟩
        dischargeLimit := ⟨period.dischargeLimit.getD noDischargeLimitSpecified,
          period.dischargeLimitL2.getD noDischargeLimitSpecified,
          period.dischargeLimitL3.getD noDischargeLimitSpecified⟩
        setpoint := ⟨period.setpoint.getD noSetpointSpecified,
          period.setpointL2.getD noSetpointSpecified, period.setpointL3.getD noSetpointSpecified⟩
        numberPhases := period.numberPhases
        phaseToUse := none
        operationMode := period.operationMode
        chargingRateUnit := inProfile.chargingSchedule.chargingRateUnit
        minChargingRate := inProfile.chargingSchedule.minChargingRate }

/-- `calculate_profile_entry`: an index out of range, a first period that does not start at 0 and
a period that does not start after the one before it give nothing. -/
def calculateProfileEntry (inNow inEnd : Int) (inSessionStart : Option Int)
    (inProfile : ChargingProfile) (inPeriodIndex : Nat) : List PeriodEntry :=
  let periods := inProfile.chargingSchedule.chargingSchedulePeriod
  match periods[inPeriodIndex]? with
  | none => []
  | some thisPeriod =>
    if inPeriodIndex = 0 ∧ thisPeriod.startPeriod ≠ 0 then []
    else if 0 < inPeriodIndex ∧
        (periods[inPeriodIndex - 1]?).any (fun p => decide (thisPeriod.startPeriod ≤ p.startPeriod))
      then []
    else
      (withNext (calculateStart inNow inEnd inSessionStart inProfile)).filterMap
        fun (start, next) =>
        initValidated start
          (entryDuration shorten (periods[inPeriodIndex + 1]?.map (·.startPeriod))
            inProfile.chargingSchedule.duration inProfile.validTo start next)
          (floorSeconds inNow) thisPeriod inProfile

def calculateProfileUnsorted (now fin : Int) (sessionStart : Option Int)
    (profile : ChargingProfile) : List PeriodEntry :=
  (List.range profile.chargingSchedule.chargingSchedulePeriod.length).flatMap fun i =>
    (calculateProfileEntry now fin sessionStart profile i).filter fun e => decide (e.start ≤ fin)

/-- The comparator of `sort_periods_into_date_order`. -/
abbrev EarlierStart (a b : PeriodEntry) : Bool := decide (a.start < b.start)

def calculateAllProfiles (sorter : StdSort EarlierStart) (now fin : Int)
    (sessionStart : Option Int) (profiles : List ChargingProfile)
    (purpose : ChargingProfilePurpose) : List PeriodEntry :=
  sorter.sort ((profiles.filter fun p => p.chargingProfilePurpose = purpose).flatMap
    (calculateProfileUnsorted now fin sessionStart))

/-! ## Resolving the overlaps -/

def defaultIntermediatePeriod (indet : Int → Int × Int) (startPeriod : Int) :
    IntermediatePeriod where
  startPeriod := startPeriod
  currentLimit := .all noLimitSpecified
  powerLimit := .all noLimitSpecified
  currentDischargeLimit := .all noDischargeLimitSpecified
  powerDischargeLimit := .all noDischargeLimitSpecified
  currentSetpoint := .all noSetpointSpecified
  powerSetpoint := .all noSetpointSpecified
  stackLevelCurrent := (indet startPeriod).1
  stackLevelPower := (indet startPeriod).2
  numberPhases := none
  phaseToUse := none
  operationMode := none

/-- The period pushed for the chosen entry. -/
def chosenPeriod (startPeriod : Int) (chosen : PeriodEntry) : IntermediatePeriod :=
  let isCurrent := decide (chosen.chargingRateUnit = .A)
  { startPeriod := startPeriod
    currentLimit := if isCurrent then chosen.limit else .all noLimitSpecified
    powerLimit := if isCurrent then .all noLimitSpecified else chosen.limit
    currentDischargeLimit :=
      if isCurrent then chosen.dischargeLimit else .all noDischargeLimitSpecified
    powerDischargeLimit :=
      if isCurrent then .all noDischargeLimitSpecified else chosen.dischargeLimit
    currentSetpoint := if isCurrent then chosen.setpoint else .all noSetpointSpecified
    powerSetpoint := if isCurrent then .all noSetpointSpecified else chosen.setpoint
    stackLevelCurrent := if isCurrent then chosen.stackLevel else 0
    stackLevelPower := if isCurrent then 0 else chosen.stackLevel
    numberPhases := chosen.numberPhases
    phaseToUse := chosen.phaseToUse
    operationMode := chosen.operationMode }

def generateProfileFromPeriods (indet : Int → Int × Int)
    (sorter : StdSort (HigherStackLevel PeriodEntry.toSpan)) (fuel : Nat)
    (periods : List PeriodEntry) (inNow inEnd : Int) : Except Fault (List IntermediatePeriod) :=
  if periods.isEmpty then .ok [defaultIntermediatePeriod indet 0]
  else generate PeriodEntry.toSpan sorter (defaultIntermediatePeriod indet) chosenPeriod fuel
    periods inNow inEnd

/-! ## The stack level law -/

/-- The period carries the entry's limit, in its unit, and its number of phases. -/
def Carries (p : IntermediatePeriod) (e : PeriodEntry) : Prop :=
  (match e.chargingRateUnit with
    | .A => p.currentLimit = e.limit ∧ p.powerLimit = .all noLimitSpecified
    | .W => p.currentLimit = .all noLimitSpecified ∧ p.powerLimit = e.limit) ∧
  p.numberPhases = e.numberPhases

/-- The period carries no limit. -/
def NoLimit (p : IntermediatePeriod) : Prop :=
  p.currentLimit = .all noLimitSpecified ∧ p.powerLimit = .all noLimitSpecified

theorem carries_chosenPeriod (n : Int) (e : PeriodEntry) : Carries (chosenPeriod n e) e := by
  unfold Carries
  cases h : e.chargingRateUnit <;> simp [chosenPeriod, h]

theorem mem_calculateProfileEntry {inNow inEnd : Int} {inSessionStart : Option Int}
    {inProfile : ChargingProfile} {i : Nat} {e : PeriodEntry}
    (h : e ∈ calculateProfileEntry inNow inEnd inSessionStart inProfile i) :
    WholeSecond e.start ∧ WholeSecond e.stop ∧ floorSeconds inNow < e.stop := by
  unfold calculateProfileEntry at h
  simp only at h
  split at h
  · exact absurd h List.not_mem_nil
  · split_ifs at h
    · exact absurd h List.not_mem_nil
    · exact absurd h List.not_mem_nil
    · obtain ⟨⟨start, next⟩, -, hin⟩ := List.mem_filterMap.mp h
      obtain ⟨span, hs, rfl⟩ := Option.map_eq_some_iff.mp hin
      exact Span.validate_spec hs

/-- **The entries of `calculate_all_profiles` are usable** in the window they were made for. -/
theorem usable_of_mem_calculateAllProfiles {sorter : StdSort EarlierStart} {now fin : Int}
    {sessionStart : Option Int} {profiles : List ChargingProfile}
    {purpose : ChargingProfilePurpose} {e : PeriodEntry}
    (h : e ∈ calculateAllProfiles sorter now fin sessionStart profiles purpose) :
    e.toSpan.Usable (floorSeconds now) (floorSeconds fin) := by
  obtain ⟨p, -, hp⟩ := List.mem_flatMap.mp (sorter.mem_sort.mp h)
  obtain ⟨i, -, hi⟩ := List.mem_flatMap.mp hp
  obtain ⟨he, hfin⟩ := List.mem_filter.mp hi
  obtain ⟨hst, hs, ho⟩ := mem_calculateProfileEntry he
  exact ⟨hst, hs, hst.le_floorSeconds (of_decide_eq_true hfin), ho⟩

end EverestCore.Ocpp.V2
