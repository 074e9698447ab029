import EverestCore.Lib.FloatValue
import EverestCore.Lib.StepFunction
import EverestCore.Ocpp.V2.Profile

/-!
# From an intermediate profile to a schedule (`ocpp/v2/profile.cpp`)

`convert_intermediate_into_schedule` turns the periods of an intermediate profile, which has
limits in A and in W, into those of a schedule in one unit, and leaves a period out that does not
differ from the one before.

The limits of a profile are numbers; what is calculated from them may also be infinite or not a
number, as the number of phases can be 0. `round` is the rounding of `float`.

Results:
* `schedule_values_iff`: the schedule has the values of the profile at every instant iff no two
  neighbours differ in these phases only.
-/

namespace EverestCore.Ocpp.V2

open EverestCore.Lib FloatValue StepFunction
open EverestCore.Lib.PrioritySweep (lastAt lastAt_map)

/-- `is_equal`: equal up to the epsilon of `double`. -/
def isEqual (value1 value2 : Rat) : Bool := |value1 - value2| < 1 / 2 ^ 52

def effectiveMode (mode : Option OperationMode) : OperationMode := mode.getD .ChargingOnly

/-- The values of a limit, discharge limit or setpoint for the phases L1, L2 and L3. -/
structure PhaseValues where
  value : Option FloatValue := none
  valueL2 : Option FloatValue := none
  valueL3 : Option FloatValue := none

/-- The fields of `EnhancedChargingSchedulePeriod` that are set here. -/
structure EnhancedChargingSchedulePeriod where
  startPeriod : Int
  limit : PhaseValues
  numberPhases : Option Int
  dischargeLimit : PhaseValues
  setpoint : PhaseValues
  operationMode : Option OperationMode
  stackLevel : Int

section Convert

variable (round : Rat → FloatValue)

/-- An output variable, set if the input is specified. -/
def storeLimit (input notSpecified : Rat) (value : Option FloatValue) : Option FloatValue :=
  if isEqual input notSpecified then value else some (.finite input)

def storeLimitToPhaseLimits (input : PeriodLimit) (notSpecified : Rat) (out : PhaseValues) :
    PhaseValues where
  value := storeLimit input.limit notSpecified out.value
  valueL2 := storeLimit input.limitL2 notSpecified out.valueL2
  valueL3 := storeLimit input.limitL3 notSpecified out.valueL3

def convertAndTransformLimitValue (input notSpecified : Rat) (transformValue : FloatValue)
    (value : Option FloatValue) (useMin useDivide : Bool) : Option FloatValue :=
  if isEqual input notSpecified then value
  else
    let transformed :=
      if useDivide then div round (.finite input) transformValue
      else mul round (.finite input) transformValue
    match value with
    | none => some transformed
    | some value =>
      some (if useMin then minimum value transformed
        else maximum value transformed)

/-- `convert_and_transform_limit_to_period_schedule`: without L2 and L3 the limit is the total
over all phases. -/
def convertAndTransformLimitToPeriodSchedule (input : PeriodLimit) (notSpecified : Rat)
    (transformValue : FloatValue) (numberPhases : Int) (out : PhaseValues)
    (useMin useDivide : Bool) : PhaseValues :=
  let t :=
    if isEqual input.limitL2 notSpecified && isEqual input.limitL3 notSpecified then
      mul round transformValue (round numberPhases)
    else transformValue
  { value :=
      convertAndTransformLimitValue round input.limit notSpecified t out.value useMin useDivide
    valueL2 :=
      convertAndTransformLimitValue round input.limitL2 notSpecified t out.valueL2 useMin useDivide
    valueL3 :=
      convertAndTransformLimitValue round input.limitL3 notSpecified t out.valueL3 useMin
        useDivide }

/-- The limit before any is stored: the default if the period has none in either unit, else the
largest `float`. -/
def initialLimit (period : IntermediatePeriod) (defaultLimit : Rat) : PhaseValues :=
  if isEqual period.currentLimit.limit noLimitSpecified &&
      isEqual period.powerLimit.limit noLimitSpecified then
    { value := some (.finite defaultLimit) }
  else { value := some (.finite noSetpointSpecified) }

/-- A limit of the schedule's unit, and then the one of the other unit transformed. -/
def bothUnits (own other : PeriodLimit) (notSpecified : Rat) (supplyVoltage : Rat)
    (numberPhases : Int) (out : PhaseValues) (useMin useDivide : Bool) : PhaseValues :=
  convertAndTransformLimitToPeriodSchedule round other notSpecified (.finite supplyVoltage)
    numberPhases (storeLimitToPhaseLimits own notSpecified out) useMin useDivide

/-- The arguments of `convert_intermediate_into_schedule` besides the profile. -/
structure Target where
  chargingRateUnit : ChargingRateUnit
  defaultLimit : Rat
  defaultNumberPhases : Int
  supplyVoltage : Rat

/-- The conversion of one period. -/
def convertPeriod (target : Target) (period : IntermediatePeriod) :
    EnhancedChargingSchedulePeriod :=
  let numberPhases := period.numberPhases.getD target.defaultNumberPhases
  match target.chargingRateUnit with
  | .A =>
    { startPeriod := period.startPeriod
      limit := bothUnits round period.currentLimit period.powerLimit noLimitSpecified
        target.supplyVoltage numberPhases (initialLimit period target.defaultLimit) true true
      numberPhases := period.numberPhases
      dischargeLimit := bothUnits round period.currentDischargeLimit period.powerDischargeLimit
        noDischargeLimitSpecified target.supplyVoltage numberPhases {} false true
      setpoint := bothUnits round period.currentSetpoint period.powerSetpoint noSetpointSpecified
        target.supplyVoltage numberPhases {} true true
      operationMode := period.operationMode
      stackLevel :=
        if period.currentLimit.limit ≠ noLimitSpecified then period.stackLevelCurrent else 0 }
  | .W =>
    { startPeriod := period.startPeriod
      limit := bothUnits round period.powerLimit period.currentLimit noLimitSpecified
        target.supplyVoltage numberPhases (initialLimit period target.defaultLimit) true false
      numberPhases := period.numberPhases
      dischargeLimit := bothUnits round period.powerDischargeLimit period.currentDischargeLimit
        noDischargeLimitSpecified target.supplyVoltage numberPhases {} false false
      setpoint := bothUnits round period.powerSetpoint period.currentSetpoint noSetpointSpecified
        target.supplyVoltage numberPhases {} true false
      operationMode := period.operationMode
      stackLevel :=
        if period.powerLimit.limit ≠ noLimitSpecified then period.stackLevelPower else 0 }

/-- `!=` of two `std::optional<float>`. -/
def optionalNe : Option FloatValue → Option FloatValue → Bool
  | none, none => false
  | some a, some b => ne a b
  | _, _ => true

/-- Whether a period is pushed after `back`. Of the values for the phases only L1 is compared. -/
def differs (p back : EnhancedChargingSchedulePeriod) : Bool :=
  optionalNe p.limit.value back.limit.value || p.numberPhases ≠ back.numberPhases ||
    optionalNe p.setpoint.value back.setpoint.value ||
    optionalNe p.dischargeLimit.value back.dischargeLimit.value ||
    p.operationMode ≠ back.operationMode

def convertIntermediateIntoSchedule (target : Target) (profile : List IntermediatePeriod) :
    List EnhancedChargingSchedulePeriod :=
  profile.foldl
    (fun output period =>
      push (fun p back => !differs p back) output (convertPeriod round target period))
    []

end Convert

/-! ## What merging keeps -/

/-- The values of a period. -/
def EnhancedChargingSchedulePeriod.values (p : EnhancedChargingSchedulePeriod) :
    PhaseValues × PhaseValues × PhaseValues × Option Int × Option OperationMode :=
  (p.limit, p.dischargeLimit, p.setpoint, p.numberPhases, p.operationMode)

/-- Two triples of values agree in the phases L2 and L3. -/
def PhaseValues.SameL2L3 (v w : PhaseValues) : Prop :=
  v.valueL2 = w.valueL2 ∧ v.valueL3 = w.valueL3

/-- Two periods agree in the phases L2 and L3 of their limits, discharge limits and setpoints. -/
def SameL2L3 (p q : EnhancedChargingSchedulePeriod) : Prop :=
  p.limit.SameL2L3 q.limit ∧ p.dischargeLimit.SameL2L3 q.dischargeLimit ∧
    p.setpoint.SameL2L3 q.setpoint

/-- Neighbours of the profile that do not differ in phase L1, in the number of phases and in the
operation mode, do not differ in the phases L2 and L3 either. -/
def PhasesFollow (round : Rat → FloatValue) (target : Target)
    (profile : List IntermediatePeriod) : Prop :=
  profile.IsChain fun p q =>
    differs (convertPeriod round target q) (convertPeriod round target p) = false →
      SameL2L3 (convertPeriod round target q) (convertPeriod round target p)

theorem eq_of_optionalNe {a b : Option FloatValue} (h : optionalNe a b = false) : a = b := by
  cases a with
  | none =>
    cases b with
    | none => rfl
    | some b => cases h
  | some a =>
    cases b with
    | none => cases h
    | some b => exact congrArg some (eq_of_ne_eq_false h)

theorem PhaseValues.eq_iff {v w : PhaseValues} (h : v.value = w.value) : v = w ↔ v.SameL2L3 w := by
  constructor
  · rintro rfl
    exact ⟨rfl, rfl⟩
  · rintro ⟨h2, h3⟩
    cases v
    simp only at h h2 h3
    rw [h, h2, h3]

/-- Two periods that do not differ have the same values, except for the phases L2 and L3. -/
theorem values_of_not_differs {p q : EnhancedChargingSchedulePeriod} (h : differs p q = false) :
    p.values = q.values ↔ SameL2L3 p q := by
  simp only [differs, Bool.or_eq_false_iff, decide_eq_false_iff_not, not_not] at h
  obtain ⟨⟨⟨⟨hl, hp⟩, hset⟩, hdis⟩, hm⟩ := h
  simp only [EnhancedChargingSchedulePeriod.values, Prod.mk.injEq, hp, hm, and_true,
    PhaseValues.eq_iff (eq_of_optionalNe hl), PhaseValues.eq_iff (eq_of_optionalNe hdis),
    PhaseValues.eq_iff (eq_of_optionalNe hset), SameL2L3]

/-- The comparison sees nothing but values. -/
theorem differs_congr (p : EnhancedChargingSchedulePeriod) {q back : EnhancedChargingSchedulePeriod}
    (h : back.values = q.values) : differs p back = differs p q := by
  simp only [EnhancedChargingSchedulePeriod.values, Prod.mk.injEq] at h
  obtain ⟨hl, hdis, hset, hp, hm⟩ := h
  rw [differs, differs, hl, hdis, hset, hp, hm]

section Schedule

variable {round : Rat → FloatValue} {target : Target}

theorem startPeriod_convertPeriod (period : IntermediatePeriod) :
    (convertPeriod round target period).startPeriod = period.startPeriod := by
  unfold convertPeriod
  cases target.chargingRateUnit <;> rfl

theorem convertIntermediateIntoSchedule_eq (profile : List IntermediatePeriod) :
    convertIntermediateIntoSchedule round target profile
      = merge (fun p back => !differs p back)
          (profile.map (convertPeriod round target)) := by
  rw [← foldl_push, List.foldl_map]
  rfl

/-- **The schedule has the values of the profile at every instant iff no two neighbours of the
profile differ in the phases L2 and L3 only.** -/
theorem schedule_values_iff (round : Rat → FloatValue) (target : Target)
    (profile : List IntermediatePeriod)
    (hprofile : profile.Pairwise (·.startPeriod < ·.startPeriod)) :
    (∀ t, (lastAt (·.startPeriod) (convertIntermediateIntoSchedule round target profile) t).map
          (·.values)
        = (lastAt (·.startPeriod) profile t).map fun p => (convertPeriod round target p).values) ↔
      PhasesFollow round target profile := by
  have hs : (profile.map (convertPeriod round target)).Pairwise
      (·.startPeriod < ·.startPeriod) := by
    rw [List.pairwise_map]
    simpa only [startPeriod_convertPeriod] using hprofile
  have hl : ∀ t, lastAt (·.startPeriod) (profile.map (convertPeriod round target)) t
      = (lastAt (·.startPeriod) profile t).map (convertPeriod round target) := by
    intro t
    refine lastAt_map fun p _ => ?_
    rw [startPeriod_convertPeriod]
  have hiff : (∀ t, (lastAt (·.startPeriod) (merge (fun p back => !differs p back)
        (profile.map (convertPeriod round target))) t).map (·.values) = _) ↔ _ :=
    merge_lossless_iff (fun p q back h => by rw [differs_congr p h]) hs
  simp only [hl, Option.map_map, ← convertIntermediateIntoSchedule_eq] at hiff
  refine hiff.trans ?_
  rw [List.isChain_map, PhasesFollow]
  refine List.IsChain.iff fun p q => ?_
  rw [Bool.not_eq_true']
  exact forall_congr' fun h => values_of_not_differs h

/-- A period with the given current limits and nothing else. -/
def currentPeriod (startPeriod : Int) (limit : PeriodLimit) : IntermediatePeriod :=
  { defaultIntermediatePeriod (fun _ => (0, 0)) startPeriod with
    currentLimit := limit
    numberPhases := some 3 }

/-- A schedule in A, at 230 V on three phases. -/
def ampereTarget : Target := ⟨.A, 48, 3, 230⟩

theorem schedule_values_iff_two_limits :
    (∀ t, (lastAt (·.startPeriod) (convertIntermediateIntoSchedule .finite ampereTarget
          [currentPeriod 0 ⟨16, 16, 16⟩, currentPeriod 60 ⟨10, 10, 10⟩]) t).map (·.values)
        = (lastAt (·.startPeriod) [currentPeriod 0 ⟨16, 16, 16⟩, currentPeriod 60 ⟨10, 10, 10⟩]
            t).map fun p => (convertPeriod .finite ampereTarget p).values) ↔
      PhasesFollow .finite ampereTarget
        [currentPeriod 0 ⟨16, 16, 16⟩, currentPeriod 60 ⟨10, 10, 10⟩] :=
  schedule_values_iff .finite ampereTarget _ (by decide)

/-- From 60 s on L2 and L3 are limited to 10 A. The limit of L1 stays at 16 A, so the period is
left out and 16 A stay in force on all phases. -/
theorem lower_L2_limit_lost :
    ¬ ∀ t, (lastAt (·.startPeriod) (convertIntermediateIntoSchedule .finite ampereTarget
          [currentPeriod 0 ⟨16, 16, 16⟩, currentPeriod 60 ⟨16, 10, 10⟩]) t).map (·.values)
        = (lastAt (·.startPeriod) [currentPeriod 0 ⟨16, 16, 16⟩, currentPeriod 60 ⟨16, 10, 10⟩]
            t).map fun p => (convertPeriod .finite ampereTarget p).values := by
  intro h
  have hL2 := congrArg (Option.map fun v => v.1.valueL2) (h 60)
  exact absurd hL2 (by decide +kernel)

end Schedule

end EverestCore.Ocpp.V2
