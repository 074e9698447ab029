import EverestCore.Lib.Machine
import EverestCore.Ocpp.V2.ProfileStore

/-!
# Competing charging profiles (`ocpp/v2/functional_blocks/smart_charging.cpp`)

The composite schedule takes the profile with the highest stack level, so the table must not hold
two profiles between which it could not decide. `conform_validate_and_add_profile` refuses a profile
that would compete with a stored one, and replaces the profile with its id.

Results:
* **`no_competing_profiles`**: in every history in which no window is rounded into another one, no
  two rows compete; `roundsApart_of_wholeMillis`.
* `rounded_windows_overlap`: two accepted profiles of which the rows do.
* **`rate_limit_justified`**: when the rate limit reacts to accepted profiles only;
  `refused_attempt_blocks`.
-/

namespace EverestCore.Ocpp.V2.Store

open List

open EverestCore.Lib.Machine (run Along run_invariant_along along_of_invariant)

/-! ## Checks -/

/-- `ProfileValidationResultEnum`. `InvalidSchedule` stands for the results of the checks that only
look at the schedules. -/
inductive ProfileValidationResult
  | Valid | RequestStartTransactionNonTxProfile | EvseDoesNotExist
  | ChargingProfileIdSmallerThanMaxExternalConstraintsId
  | ExistingChargingStationExternalConstraints | InvalidSchedule | DuplicateProfileValidityPeriod
  | InvalidProfileType | ChargingStationMaxProfileEvseIdGreaterThanZero
  | ChargingStationMaxProfileCannotBeRelative | DuplicateTxDefaultProfileFound
  | TxProfileEvseIdNotGreaterThanZero | TxProfileMissingTransactionId
  | TxProfileEvseHasNoActiveTransaction | TxProfileTransactionNotOnEvse
  | TxProfileConflictingStackLevel | ChargingSchedulePriorityExtranousDuration
  deriving DecidableEq

inductive AddChargingProfileSource
  | SetChargingProfile | RequestStartTransactionRequest
  deriving DecidableEq

/-- What the checks read: the number of EVSEs and the transaction of each, the protocol version and
`MaxExternalConstraintsId`, and the results of `validate_profile_schedules` and of the checks after
`conform_and_validate_profile` (setpoints, phases and rate limit). -/
structure Station where
  numberOfEvses : Nat
  transaction : Int → Option String
  v21 : Bool := false
  maxExternalConstraintsId : Option Int := none
  schedules : ProfileValidationResult := .Valid
  limits : ProfileValidationResult := .Valid

/-- The result of checks that are made one after another until one fails. -/
def firstError (checks : List ProfileValidationResult) : ProfileValidationResult :=
  (checks.find? (· ≠ .Valid)).getD .Valid

/-- `if (failed) return error`. -/
def failIf (failed : Bool) (error : ProfileValidationResult) : ProfileValidationResult :=
  if failed then error else .Valid

/-- `date::utc_clock::time_point::max()`. -/
def timePointMax : Int := 2 ^ 63 - 1

def conformValidityPeriods (p : ChargingProfile) : ChargingProfile :=
  { p with
    validFrom := some (p.validFrom.getD 0)
    validTo := some (p.validTo.getD timePointMax) }

variable (st : Station)

def validateEvseExists (evseId : Int) : ProfileValidationResult :=
  failIf (!decide (0 ≤ evseId ∧ evseId ≤ st.numberOfEvses)) .EvseDoesNotExist

variable (rows : List Row)

def verifyNoConflictingExternalConstraintsId
    (p : ChargingProfile) : ProfileValidationResult :=
  firstError [
    failIf (st.v21 && st.maxExternalConstraintsId.any fun max => decide (p.id ≤ max))
      .ChargingProfileIdSmallerThanMaxExternalConstraintsId,
    failIf (rows.any fun r => decide (r.profile.id = p.id) &&
        decide (r.profile.chargingProfilePurpose = .ChargingStationExternalConstraints))
      .ExistingChargingStationExternalConstraints]

/-- `<=` on `std::optional`: an empty one comes first. -/
def optLe : Option Int → Option Int → Bool
  | none, _ => true
  | some _, none => false
  | some a, some b => decide (a ≤ b)

/-- The windows `[validFrom, validTo]` of two profiles overlap. -/
def windowsOverlap (p q : ChargingProfile) : Bool :=
  optLe p.validFrom q.validTo && optLe q.validFrom p.validTo

def isOverlappingValidityPeriod (p : ChargingProfile) (evseId : Int) : Bool :=
  decide (p.chargingProfilePurpose ≠ .TxProfile) &&
    rows.any fun r =>
      decide (r.profile.chargingProfilePurpose = p.chargingProfilePurpose ∧ r.evseId = evseId ∧
        r.profile.id ≠ p.id ∧ r.profile.stackLevel = p.stackLevel) && windowsOverlap p r.profile

def validateChargingStationMaxProfile (p : ChargingProfile) (evseId : Int) :
    ProfileValidationResult :=
  firstError [
    failIf (decide (p.chargingProfilePurpose ≠ .ChargingStationMaxProfile)) .InvalidProfileType,
    failIf (decide (0 < evseId)) .ChargingStationMaxProfileEvseIdGreaterThanZero,
    failIf (decide (p.chargingProfileKind = .Relative)) .ChargingStationMaxProfileCannotBeRelative]

/-- `get_evse_specific_tx_default_profiles`, `get_station_wide_tx_default_profiles`. -/
def txDefaultProfiles (stationWide : Bool) : List ChargingProfile :=
  (rows.filter fun r => decide (r.profile.chargingProfilePurpose = .TxDefaultProfile) &&
    decide (r.evseId = 0) == stationWide).map (·.profile)

/-- `validate_tx_default_profile`: the profiles of the station against those of the EVSEs. -/
def validateTxDefaultProfile (p : ChargingProfile) (evseId : Int) : ProfileValidationResult :=
  failIf ((txDefaultProfiles rows (decide (evseId ≠ 0))).any fun candidate =>
      decide (candidate.stackLevel = p.stackLevel) && decide (candidate.id ≠ p.id))
    .DuplicateTxDefaultProfileFound

/-- `validate_tx_profile`. The transaction of a RequestStartTransactionRequest is not known yet. -/
def validateTxProfile (p : ChargingProfile) (evseId : Int)
    (sourceOfRequest : AddChargingProfileSource) : ProfileValidationResult :=
  firstError ([failIf (decide (evseId ≤ 0)) .TxProfileEvseIdNotGreaterThanZero,
      validateEvseExists st evseId] ++
    if sourceOfRequest = .RequestStartTransactionRequest then []
    else [failIf p.transactionId.isNone .TxProfileMissingTransactionId,
      failIf (st.transaction evseId).isNone .TxProfileEvseHasNoActiveTransaction,
      failIf (decide (st.transaction evseId ≠ p.transactionId)) .TxProfileTransactionNotOnEvse,
      failIf (rows.any fun r => decide (r.profile.transactionId = p.transactionId ∧
          r.profile.stackLevel = p.stackLevel ∧ r.profile.id ≠ p.id))
        .TxProfileConflictingStackLevel])

def validatePriorityChargingProfile (p : ChargingProfile) : ProfileValidationResult :=
  firstError [
    failIf (decide (p.chargingProfilePurpose ≠ .PriorityCharging)) .InvalidProfileType,
    failIf (p.chargingSchedule.any fun s => s.duration.isSome)
      .ChargingSchedulePriorityExtranousDuration]

/-- The check of `conform_and_validate_profile` for the purpose. -/
def validatePurpose (p : ChargingProfile) (evseId : Int)
    (sourceOfRequest : AddChargingProfileSource) : ProfileValidationResult :=
  match p.chargingProfilePurpose with
  | .ChargingStationMaxProfile => validateChargingStationMaxProfile p evseId
  | .TxDefaultProfile => validateTxDefaultProfile rows p evseId
  | .TxProfile => validateTxProfile st rows p evseId sourceOfRequest
  | .ChargingStationExternalConstraints => .Valid
  | .PriorityCharging => validatePriorityChargingProfile p
  | .LocalGeneration => .InvalidProfileType

/-- `conform_and_validate_profile`, for a profile with its validity periods. -/
def conformAndValidateProfile (p : ChargingProfile) (evseId : Int)
    (sourceOfRequest : AddChargingProfileSource) : ProfileValidationResult :=
  firstError [
    failIf (decide (sourceOfRequest = .RequestStartTransactionRequest) &&
      decide (p.chargingProfilePurpose ≠ .TxProfile)) .RequestStartTransactionNonTxProfile,
    if evseId = 0 then .Valid else validateEvseExists st evseId,
    verifyNoConflictingExternalConstraintsId st rows p,
    st.schedules,
    failIf (isOverlappingValidityPeriod rows p evseId) .DuplicateProfileValidityPeriod,
    validatePurpose st rows p evseId sourceOfRequest]

/-- All checks of `conform_validate_and_add_profile`. -/
def validate (p : ChargingProfile) (evseId : Int)
    (sourceOfRequest : AddChargingProfileSource) : ProfileValidationResult :=
  firstError [conformAndValidateProfile st rows p evseId sourceOfRequest, st.limits]

/-- `conform_validate_and_add_profile`: the table, and the result that the response tells. -/
def conformValidateAndAddProfile (now : Int) (p : ChargingProfile) (evseId : Int)
    (chargingLimitSource : String) (sourceOfRequest : AddChargingProfileSource)
    (rows : List Row) : List Row × ProfileValidationResult :=
  let p := conformValidityPeriods p
  let result := validate st rows p evseId sourceOfRequest
  if result = .Valid then
    let dynUpdateTime :=
      if p.chargingProfileKind = .Dynamic then some (p.dynUpdateTime.getD now) else p.dynUpdateTime
    (insertOrUpdateChargingProfile evseId { p with dynUpdateTime } chargingLimitSource rows, result)
  else (rows, result)

/-! ## Histories -/

/-- What changes the table. -/
inductive Event
  | setChargingProfile (station : Station) (now : Int) (profile : ChargingProfile) (evseId : Int)
      (chargingLimitSource : String)
  | clearChargingProfile (id : Option Int) (criteria : Option ClearChargingProfile)
  | transactionEnded (transactionId : String)

/-- One event. -/
def step : Event → List Row
  | .setChargingProfile st now p evseId source =>
    (conformValidateAndAddProfile st now p evseId source .SetChargingProfile rows).1
  | .clearChargingProfile id criteria => clearChargingProfilesMatchingCriteria id criteria rows
  | .transactionEnded transactionId => deleteChargingProfileByTransactionId transactionId rows

/-- Two rows between which the composite schedule cannot decide: of one purpose and EVSE with
overlapping windows, default profiles of the station and of an EVSE, or of one transaction, and in
each case with the same stack level. -/
def competes (r q : Row) : Bool :=
  decide (r.profile.stackLevel = q.profile.stackLevel ∧
    r.profile.chargingProfilePurpose = q.profile.chargingProfilePurpose) &&
  match r.profile.chargingProfilePurpose with
  | .TxProfile =>
    r.profile.transactionId.isSome && decide (r.profile.transactionId = q.profile.transactionId)
  | .TxDefaultProfile =>
    (decide (r.evseId = q.evseId) && windowsOverlap r.profile q.profile) ||
      decide (r.evseId = 0) != decide (q.evseId = 0)
  | _ => decide (r.evseId = q.evseId) && windowsOverlap r.profile q.profile

/-- The window of the request does not overlap that of a row only once it is cut down to
milliseconds. -/
def RoundsApart : Event → Prop
  | .setChargingProfile _ _ p evseId _ =>
    isOverlappingValidityPeriod rows (conformValidityPeriods p).stored evseId = true →
      isOverlappingValidityPeriod rows (conformValidityPeriods p) evseId = true
  | _ => True

/-- The bounds of the request are whole milliseconds. -/
def Event.WholeMillis : Event → Prop
  | .setChargingProfile _ _ p _ _ =>
    (∀ t ∈ p.validFrom, toMillis t = t) ∧ ∀ t ∈ p.validTo, toMillis t = t
  | _ => True

/-- The primary key, and no two rows compete. -/
structure Apart (rows : List Row) : Prop where
  keyed : Keyed rows
  apart : ∀ r ∈ rows, ∀ q ∈ rows, r.profile.id ≠ q.profile.id → competes r q = false

/-! ## What the checks ensure -/

theorem firstError_eq_valid {checks : List ProfileValidationResult} :
    firstError checks = .Valid ↔ ∀ c ∈ checks, c = .Valid := by
  unfold firstError
  cases h : checks.find? (· ≠ .Valid) with
  | none => simpa using h
  | some c =>
    have hne : c ≠ .Valid := by simpa using find?_some h
    exact ⟨fun hc => absurd hc hne, fun hall => hall c (mem_of_find?_eq_some h)⟩

theorem failIf_eq_valid {failed : Bool} {error : ProfileValidationResult} (he : error ≠ .Valid) :
    failIf failed error = .Valid ↔ failed = false := by
  cases failed <;> simp [failIf, he]

theorem windowsOverlap_comm (p q : ChargingProfile) : windowsOverlap p q = windowsOverlap q p :=
  Bool.and_comm _ _

theorem competes_comm (r q : Row) : competes r q = competes q r := by
  by_cases hp : r.profile.chargingProfilePurpose = q.profile.chargingProfilePurpose
  · unfold competes
    rw [windowsOverlap_comm q.profile r.profile, hp]
    congr 1
    · simp only [eq_comm]
    · cases q.profile.chargingProfilePurpose <;> dsimp only
      case TxProfile =>
        by_cases htx : r.profile.transactionId = q.profile.transactionId
        · simp [htx]
        · simp [htx, Ne.symm htx]
      case TxDefaultProfile =>
        simp only [eq_comm (a := r.evseId) (b := q.evseId), bne_comm]
      all_goals simp only [eq_comm (a := r.evseId) (b := q.evseId)]
  · simp [competes, hp, Ne.symm hp]

section Accepted

variable {st : Station} {rows : List Row} {p : ChargingProfile} {evseId : Int}

/-- The window of no other row of the purpose, EVSE and stack level overlaps that of the profile. -/
theorem apart_of_not_overlapping (h : isOverlappingValidityPeriod rows p evseId = false)
    (hp : p.chargingProfilePurpose ≠ .TxProfile) {r : Row} (hr : r ∈ rows)
    (hid : r.profile.id ≠ p.id) (hle : p.stackLevel = r.profile.stackLevel)
    (hs : p.chargingProfilePurpose = r.profile.chargingProfilePurpose) :
    (decide (evseId = r.evseId) && windowsOverlap p r.profile) = false := by
  by_cases hev : evseId = r.evseId
  · simp only [isOverlappingValidityPeriod, decide_eq_true hp, Bool.true_and,
      any_eq_false] at h
    simpa [hs, hev, hid, hle] using h r hr
  · simp [hev]

theorem apart_of_validateTxProfile
    (h : validateTxProfile st rows p evseId .SetChargingProfile = .Valid) {r : Row} (hr : r ∈ rows)
    (hid : r.profile.id ≠ p.id) (hle : p.stackLevel = r.profile.stackLevel) :
    p.transactionId ≠ r.profile.transactionId := by
  intro htx
  have hcon := firstError_eq_valid.mp h (failIf (rows.any fun r =>
    decide (r.profile.transactionId = p.transactionId ∧ r.profile.stackLevel = p.stackLevel ∧
      r.profile.id ≠ p.id)) .TxProfileConflictingStackLevel) (by simp)
  rw [failIf_eq_valid (by decide), any_eq_false] at hcon
  exact hcon r hr (by simp [htx, hle, hid])

/-- No default profile on the other side, station or EVSE, has the stack level. -/
theorem apart_of_validateTxDefaultProfile (h : validateTxDefaultProfile rows p evseId = .Valid)
    {r : Row} (hr : r ∈ rows) (hid : r.profile.id ≠ p.id)
    (hle : p.stackLevel = r.profile.stackLevel)
    (hp : r.profile.chargingProfilePurpose = .TxDefaultProfile) :
    (decide (evseId = 0) != decide (r.evseId = 0)) = false := by
  unfold validateTxDefaultProfile at h
  rw [failIf_eq_valid (by decide), any_eq_false] at h
  by_contra hs
  have ho : (decide (r.evseId = 0) == decide (evseId ≠ 0)) := by
    by_cases h0 : evseId = 0 <;> by_cases h1 : r.evseId = 0 <;> simp_all
  refine h r.profile (mem_map.mpr ⟨r, mem_filter.mpr ⟨hr, ?_⟩, rfl⟩) ?_
  · simp only [hp, decide_true, Bool.true_and]
    exact ho
  · simp [hle, hid]

/-- **An accepted profile competes with no row of another id**, where its window is not rounded
into one of theirs. -/
theorem validate_apart (h : validate st rows p evseId .SetChargingProfile = .Valid)
    (hro : isOverlappingValidityPeriod rows p.stored evseId →
      isOverlappingValidityPeriod rows p evseId) {new : Row}
    (hnew : new.evseId = evseId ∧ new.profile.stackLevel = p.stackLevel ∧
      new.profile.chargingProfilePurpose = p.chargingProfilePurpose ∧
      new.profile.transactionId = p.transactionId ∧
      new.profile.validFrom = p.stored.validFrom ∧ new.profile.validTo = p.stored.validTo)
    {r : Row} (hr : r ∈ rows) (hid : r.profile.id ≠ p.id) : competes new r = false := by
  obtain ⟨hev, hle, hpur, htx, hf, hto⟩ := hnew
  have hall := firstError_eq_valid.mp (firstError_eq_valid.mp h _ (mem_cons_self ..))
  have hv : validatePurpose st rows p evseId .SetChargingProfile = .Valid := hall _ (by simp)
  -- the window as it was received overlaps no row, so neither does what is stored of it
  have hno := hall (failIf (isOverlappingValidityPeriod rows p evseId)
    .DuplicateProfileValidityPeriod) (by simp)
  rw [failIf_eq_valid (by decide)] at hno
  have hsto : isOverlappingValidityPeriod rows p.stored evseId = false :=
    Bool.eq_false_iff.2 fun hs => by cases hno.symm.trans (hro hs)
  have hwin : windowsOverlap new.profile r.profile = windowsOverlap p.stored r.profile := by
    unfold windowsOverlap
    rw [hf, hto]
  unfold competes
  rw [hwin, hev, hle, hpur, htx]
  by_cases hs : p.stackLevel = r.profile.stackLevel ∧
      p.chargingProfilePurpose = r.profile.chargingProfilePurpose
  · obtain ⟨hst, hs⟩ := hs
    have ha := fun hne => apart_of_not_overlapping hsto hne hr hid hst hs
    unfold validatePurpose at hv
    cases hp : p.chargingProfilePurpose <;> rw [hp] at hv <;> dsimp only at hv
    case TxProfile =>
      have hne := apart_of_validateTxProfile hv hr hid hst
      simp [hne]
    case TxDefaultProfile =>
      have hsi := apart_of_validateTxDefaultProfile hv hr hid hst (hs ▸ hp)
      have hne : p.stored.chargingProfilePurpose ≠ .TxProfile := by
        simp [ChargingProfile.stored, hp]
      rw [ha hne, hsi]
      simp
    all_goals
      have hne : p.stored.chargingProfilePurpose ≠ .TxProfile := by
        simp [ChargingProfile.stored, hp]
      rw [ha hne]
      simp
  · rw [decide_eq_false hs, Bool.false_and]

end Accepted

/-! ## Events -/

theorem Apart.filter {rows : List Row} (h : Apart rows) (keep : Row → Bool) :
    Apart (rows.filter keep) where
  keyed := h.keyed.filter keep
  apart := fun r hr q hq =>
    h.apart r (mem_of_mem_filter hr) q (mem_of_mem_filter hq)

theorem Apart.insertOrUpdate {rows : List Row} (h : Apart rows) {evseId : Int} {p : ChargingProfile}
    {source : String}
    (hnew : ∀ r ∈ rows, r.profile.id ≠ p.id → competes ⟨evseId, p.stored, source⟩ r = false) :
    Apart (insertOrUpdateChargingProfile evseId p source rows) where
  keyed := h.keyed.insertOrUpdate evseId p source
  apart := by
    intro r hr q hq hne
    rcases mem_insertOrUpdate.mp hr with ⟨hr, hrid⟩ | rfl
    · rcases mem_insertOrUpdate.mp hq with ⟨hq, -⟩ | rfl
      · exact h.apart r hr q hq hne
      · rw [competes_comm]
        exact hnew r hr hrid
    · rcases mem_insertOrUpdate.mp hq with ⟨hq, hqid⟩ | rfl
      · exact hnew q hq hqid
      · exact absurd rfl hne

/-- **An event keeps the rows apart**, unless its window is rounded into another one. -/
theorem step_apart (rows : List Row) (e : Event) (he : RoundsApart rows e)
    (h : Apart rows) : Apart (step rows e) := by
  cases e with
  | setChargingProfile _ _ p evseId =>
    simp only [step, conformValidateAndAddProfile]
    split
    · rename_i hv
      refine h.insertOrUpdate fun r hr hid => ?_
      exact validate_apart hv he ⟨rfl, rfl, rfl, rfl, rfl, rfl⟩ hr hid
    · exact h
  | clearChargingProfile | transactionEnded => exact h.filter _

theorem optLe_mono {a : Option Int} {x y : Int} (h : x ≤ y) (ha : optLe a (some x)) :
    optLe a (some y) := by
  cases a with
  | none => rfl
  | some a => exact decide_eq_true ((of_decide_eq_true ha).trans h)

theorem windowsOverlap_of_stored {p q : ChargingProfile} (hf : ∀ t ∈ p.validFrom, toMillis t = t)
    (ht : ∀ t ∈ p.validTo, toMillis t = t)
    (h : windowsOverlap (conformValidityPeriods p).stored q) :
    windowsOverlap (conformValidityPeriods p) q := by
  have hfrom : toMillis (p.validFrom.getD 0) = p.validFrom.getD 0 := by
    cases hp : p.validFrom with
    | none => rfl
    | some t => exact hf t hp
  have hto : toMillis (p.validTo.getD timePointMax) ≤ p.validTo.getD timePointMax := by
    cases hp : p.validTo with
    | none => decide
    | some t => exact (ht t hp).le
  obtain ⟨h₁, h₂⟩ := Bool.and_eq_true_iff.1 h
  refine Bool.and_eq_true_iff.2 ⟨?_, optLe_mono hto h₂⟩
  exact (congrArg (fun t => optLe (some t) q.validTo) hfrom).symm.trans h₁

/-- **Whole milliseconds are not rounded.** -/
theorem roundsApart_of_wholeMillis (rows : List Row) (e : Event) (he : e.WholeMillis) :
    RoundsApart rows e := by
  cases e with
  | setChargingProfile _ _ p evseId =>
    intro h
    obtain ⟨hp, h⟩ := Bool.and_eq_true_iff.1 h
    obtain ⟨r, hr, h⟩ := any_eq_true.1 h
    obtain ⟨hs, h⟩ := Bool.and_eq_true_iff.1 h
    refine Bool.and_eq_true_iff.2 ⟨hp, any_eq_true.2 ⟨r, hr, Bool.and_eq_true_iff.2 ⟨hs, ?_⟩⟩⟩
    exact windowsOverlap_of_stored he.1 he.2 h
  | clearChargingProfile | transactionEnded => trivial

/-- **The charging profile store never holds two competing profiles**, as long as no window
overlaps a stored one only after it was cut down to milliseconds. -/
theorem no_competing_profiles (es : List Event) (hes : Along step RoundsApart [] es) :
    ((run step [] es).map fun r => r.profile.id).Nodup ∧
      ∀ r ∈ run step [] es, ∀ q ∈ run step [] es, r.profile.id ≠ q.profile.id →
        competes r q = false := by
  have hem : Apart [] := ⟨nodup_nil, by simp⟩
  have h := run_invariant_along step_apart es hes hem
  exact ⟨h.keyed, h.apart⟩

/-! ## Windows that are rounded into each other -/

/-- A station with one EVSE. -/
def oneEvse : Station := { numberOfEvses := 1, transaction := fun _ => none }

/-- A default profile of stack level 0 for EVSE 1 that is valid in `[validFrom, validTo]`. -/
def defaultProfile (id validFrom validTo : Int) : ChargingProfile :=
  { id, stackLevel := 0, chargingProfilePurpose := .TxDefaultProfile,
    chargingProfileKind := .Absolute, validFrom := some validFrom, validTo := some validTo }

/-- A second, a window that overlaps it and is refused, and one after them without an end. -/
theorem no_competing_seconds :
    let es := [.setChargingProfile oneEvse 0 (defaultProfile 1 0 1000000000) 1 "CSO",
      .setChargingProfile oneEvse 0 (defaultProfile 2 500000000 1500000000) 1 "CSO",
      .setChargingProfile oneEvse 0 { defaultProfile 3 2000000000 0 with validTo := none } 1 "CSO"]
    (run step [] es).map (·.profile.id) = [1, 3] ∧
      ((run step [] es).map fun r => r.profile.id).Nodup ∧
      ∀ r ∈ run step [] es, ∀ q ∈ run step [] es, r.profile.id ≠ q.profile.id →
        competes r q = false := by
  refine ⟨by decide, no_competing_profiles _ ⟨?_, ?_, ?_, trivial⟩⟩
  all_goals
    refine roundsApart_of_wholeMillis _ _ ⟨?_, ?_⟩ <;> rintro _ ⟨⟩ <;> decide

/-- The second window begins 400 microseconds after the first one ends. In the table both hold the
end of the first. -/
theorem rounded_windows_overlap :
    let rows := run step [] [ .setChargingProfile oneEvse 0 (defaultProfile 1 0 1000000000) 1 "CSO",
      .setChargingProfile oneEvse 0 (defaultProfile 2 1000400000 2000000000) 1 "CSO"]
    (rows.map fun r => (r.profile.id, r.profile.validFrom, r.profile.validTo))
        = [(1, some 0, some 1000000000), (2, some 1000000000, some 2000000000)] ∧
      ∃ r ∈ rows, ∃ q ∈ rows, r.profile.id ≠ q.profile.id ∧ competes r q = true := by
  decide

/-! ## The rate limit -/

/-- A profile that comes to `verify_rate_limit` when the checks before it pass. The limit is
`ChargingProfileUpdateRateLimit` in seconds, for OCPP 2.1 only; the clock is read for the comparison
and once more for the map. -/
structure RateRequest where
  purpose : ChargingProfilePurpose
  passed : Bool := true
  updateRateLimit : Option Int
  now : Int
  stored : Int
  -- `add_profile` stores the profile
  added : Bool := true

/-- The map, and the requests that came to the check, newest first, with whether the profile was
accepted. -/
structure RateLimiter where
  lastChargingProfileUpdate : ChargingProfilePurpose → Option Int := fun _ => none
  checked : List (RateRequest × Bool) := []

namespace RateLimiter

variable (s : RateLimiter) (r : RateRequest)

/-- The time since `last` is below the limit, in whole seconds. -/
def tooEarly (last : Int) : Bool :=
  r.updateRateLimit.any fun limit => (r.now - last).tdiv 1000000000 < limit

/-- `verify_rate_limit` returns `ChargingProfileRateLimitExceeded`. -/
def exceeded : Bool := r.passed && (s.lastChargingProfileUpdate r.purpose).any (tooEarly r)

/-- `conform_validate_and_add_profile`, for the rate limit. -/
def step : RateLimiter :=
  if r.passed then
    { lastChargingProfileUpdate :=
        if r.updateRateLimit.isSome then
          Function.update s.lastChargingProfileUpdate r.purpose (some r.stored)
        else s.lastChargingProfileUpdate
      checked := (r, !s.exceeded r && r.added) :: s.checked }
  else s

/-- The request that set the entry of the purpose. -/
def setter : Option (RateRequest × Bool) :=
  s.checked.find? fun c => c.1.purpose = r.purpose && c.1.updateRateLimit.isSome

/-- An accepted profile of the same purpose is less than the limit old. -/
def Justified : Prop :=
  s.exceeded r = true → ∃ c ∈ s.checked, c.2 = true ∧ c.1.purpose = r.purpose ∧
    r.updateRateLimit.any fun limit => r.now - c.1.stored < limit * 1000000000

/-- The last request of the purpose was accepted, or is at least the limit old. -/
def Spaced : Prop := ∀ c, s.setter r = some c → c.2 = true ∨ tooEarly r c.1.stored = false

/-- The map holds the times of the setters. -/
def Recorded : Prop := ∀ r, s.lastChargingProfileUpdate r.purpose = (s.setter r).map (·.1.stored)

variable {s r}

theorem step_recorded (h : s.Recorded) : (s.step r).Recorded := by
  intro r'
  unfold step
  split_ifs with hp hl
  · by_cases hr : r'.purpose = r.purpose
    · simp [setter, hr, hl]
    · have hr' : ¬ r.purpose = r'.purpose := fun h => hr h.symm
      simpa [setter, hr, hr'] using h r'
  · simpa [setter, hl] using h r'
  · exact h r'

theorem step_justified (h : s.Recorded) (hs : s.Spaced r) : s.Justified r := by
  intro he
  obtain ⟨-, he⟩ := Bool.and_eq_true_iff.1 he
  rw [h r, Option.any_map, Option.any_eq_true] at he
  obtain ⟨c, hc, he⟩ := he
  have hp := find?_some hc
  simp only [Bool.and_eq_true, decide_eq_true_eq] at hp
  refine ⟨c, mem_of_find?_eq_some hc, ?_, hp.1, ?_⟩
  · exact (hs c hc).resolve_right fun hno => by cases he.symm.trans hno
  · obtain ⟨limit, hl, ht⟩ := (Option.any_eq_true _ _).1 he
    rw [hl, Option.any_some, decide_eq_true_eq]
    exact Int.lt_mul_of_tdiv_lt (by decide) (of_decide_eq_true ht)

/-- **The rate limit reacts to accepted profiles only**, in a sequence where no request follows
within the limit on one of its purpose that was not accepted. -/
theorem rate_limit_justified (rs : List RateRequest) (h : Along step Spaced {} rs) :
    Along step Justified {} rs :=
  along_of_invariant (I := Recorded)
    (fun _ _ hs hI => ⟨step_justified hI hs, step_recorded hI⟩) rs h fun _ => rfl

/-- Station maxima at the given seconds, with a limit of ten seconds. -/
def maximaAt (seconds : List Int) : List RateRequest :=
  seconds.map fun t =>
    { purpose := .ChargingStationMaxProfile, updateRateLimit := some 10
      now := t * 1000000000, stored := t * 1000000000 }

theorem rate_limit_justified_twice : Along step Justified {} (maximaAt [0, 5]) := by
  refine rate_limit_justified _ ⟨nofun, fun c hc => ?_, trivial⟩
  cases hc
  exact .inl rfl

/-- **An attempt that was refused prolongs the block**: the accepted profile is 16 s old. -/
theorem refused_attempt_blocks : ¬ Along step Justified {} (maximaAt [0, 8, 16]) := by
  rintro ⟨-, -, h, -⟩
  exact absurd (h rfl) (by decide)

end RateLimiter

end EverestCore.Ocpp.V2.Store
