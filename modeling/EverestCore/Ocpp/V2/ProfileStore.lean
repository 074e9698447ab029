import EverestCore.Ocpp.V2.Profile

/-!
# The table of charging profiles (`ocpp/v2/database_handler.cpp`)

The profiles that SetChargingProfile stores, one row for each id. `CHARGING_PROFILES` has the
columns `EVSE_ID`, `STACK_LEVEL`, `CHARGING_PROFILE_PURPOSE` and `TRANSACTION_ID` beside the profile
itself, which is kept as JSON; the last three repeat what the profile says.

* `stored`: a profile after it was written as JSON and read again. `DateTime::to_rfc3339` writes
  milliseconds, so what a date has beyond them is lost.
* `insertOrUpdateChargingProfile`: INSERT OR REPLACE, which puts the new row at the end.
* `deleteChargingProfileByTransactionId`, `clearChargingProfilesMatchingCriteria`.

Of a profile there are here the fields that the checks, the dynamic schedule updates and the offline
timer read. Of a charging schedule period there are the values that a dynamic schedule update sets.
-/

namespace EverestCore.Ocpp.V2.Store

/-! ## Profiles -/

/-- The fields that `ChargingScheduleUpdate` and `ChargingSchedulePeriod` share
(`K28_UPDATE_FIELDS`). -/
inductive UpdateField
  | limit | limitL2 | limitL3 | dischargeLimit | dischargeLimitL2 | dischargeLimitL3 | setpoint
  | setpointL2 | setpointL3 | setpointReactive | setpointReactiveL2 | setpointReactiveL3
  deriving DecidableEq

/-- `K28_UPDATE_FIELDS`. -/
def updateFields : List UpdateField :=
  [.limit, .limitL2, .limitL3, .dischargeLimit, .dischargeLimitL2, .dischargeLimitL3, .setpoint,
    .setpointL2, .setpointL3, .setpointReactive, .setpointReactiveL2, .setpointReactiveL3]

abbrev ChargingScheduleUpdate := UpdateField → Option Rat

abbrev ChargingSchedulePeriod := UpdateField → Option Rat

structure ChargingSchedule where
  duration : Option Int := none
  chargingSchedulePeriod : List ChargingSchedulePeriod

/-- `ChargingProfile`. Dates are nanoseconds, as in `DateTime`. -/
structure ChargingProfile where
  id : Int
  stackLevel : Int
  chargingProfilePurpose : ChargingProfilePurpose
  chargingProfileKind : ChargingProfileKind
  chargingSchedule : List ChargingSchedule := []
  validFrom : Option Int := none
  validTo : Option Int := none
  transactionId : Option String := none
  maxOfflineDuration : Option Int := none
  invalidAfterOfflineDuration : Option Bool := none
  dynUpdateInterval : Option Int := none
  dynUpdateTime : Option Int := none

/-- `to_rfc3339` and back: `time_point_cast<milliseconds>` drops the rest of the nanoseconds. -/
def toMillis (dt : Int) : Int := dt.tdiv 1000000 * 1000000

/-- The profile that is read from the table once `p` was written to it. -/
def ChargingProfile.stored (p : ChargingProfile) : ChargingProfile :=
  { p with
    validFrom := p.validFrom.map toMillis
    validTo := p.validTo.map toMillis
    dynUpdateTime := p.dynUpdateTime.map toMillis }

/-! ## Rows -/

/-- A row of `CHARGING_PROFILES`. -/
structure Row where
  evseId : Int
  profile : ChargingProfile
  chargingLimitSource : String

def insertOrUpdateChargingProfile (evseId : Int) (profile : ChargingProfile)
    (chargingLimitSource : String) (rows : List Row) : List Row :=
  rows.filter (fun r => r.profile.id ≠ profile.id) ++
    [⟨evseId, profile.stored, chargingLimitSource⟩]

def deleteChargingProfileByTransactionId (transactionId : String) (rows : List Row) : List Row :=
  rows.filter fun r => r.profile.transactionId ≠ some transactionId

/-- `ClearChargingProfile`, the criteria of a ClearChargingProfileRequest. -/
structure ClearChargingProfile where
  chargingProfilePurpose : Option ChargingProfilePurpose := none
  evseId : Option Int := none
  stackLevel : Option Int := none
  deriving DecidableEq

/-- The WHERE clause for the criteria: external constraints are never cleared. -/
def ClearChargingProfile.selects (c : ClearChargingProfile) (r : Row) : Bool :=
  decide (r.profile.chargingProfilePurpose ≠ .ChargingStationExternalConstraints) &&
    c.chargingProfilePurpose.all
      (fun purpose => decide (r.profile.chargingProfilePurpose = purpose)) &&
    c.stackLevel.all (fun level => decide (r.profile.stackLevel = level)) &&
    c.evseId.all fun evseId => decide (r.evseId = evseId)

/-- The rows that `clear_charging_profiles_matching_criteria` deletes: the one of an id, all of them
without criteria, those that the criteria select, and none for empty criteria. -/
def isCleared (profileId : Option Int) (criteria : Option ClearChargingProfile) (r : Row) : Bool :=
  match profileId, criteria with
  | some id, _ => decide (r.profile.id = id)
  | none, none => true
  | none, some c => decide (c ≠ {}) && c.selects r

def clearChargingProfilesMatchingCriteria (profileId : Option Int)
    (criteria : Option ClearChargingProfile) (rows : List Row) : List Row :=
  rows.filter fun r => !isCleared profileId criteria r

/-! ## One row for each id -/

variable {rows : List Row}

theorem mem_insertOrUpdate {evseId : Int} {profile : ChargingProfile} {source : String} {r : Row} :
    r ∈ insertOrUpdateChargingProfile evseId profile source rows ↔
      (r ∈ rows ∧ r.profile.id ≠ profile.id) ∨ r = ⟨evseId, profile.stored, source⟩ := by
  simp [insertOrUpdateChargingProfile]

/-- The primary key. -/
def Keyed (rows : List Row) : Prop := (rows.map fun r => r.profile.id).Nodup

theorem Keyed.filter (h : Keyed rows) (p : Row → Bool) : Keyed (rows.filter p) :=
  h.sublist (List.filter_sublist.map _)

theorem Keyed.insertOrUpdate (h : Keyed rows) (evseId : Int)
    (profile : ChargingProfile) (source : String) :
    Keyed (insertOrUpdateChargingProfile evseId profile source rows) := by
  unfold Keyed insertOrUpdateChargingProfile
  rw [List.map_append]
  refine (h.filter _).append (List.nodup_singleton _) ?_
  intro id hid hnew
  obtain ⟨r, hr, rfl⟩ := List.mem_map.mp hid
  have hne : r.profile.id ≠ profile.id := by simpa using (List.mem_filter.mp hr).2
  exact hne (List.mem_singleton.mp hnew)

end EverestCore.Ocpp.V2.Store
