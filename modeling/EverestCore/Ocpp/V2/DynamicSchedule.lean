import EverestCore.Lib.Machine
import EverestCore.Ocpp.V2.ProfileStore

/-!
# Dynamic schedule updates (`ocpp/v2/dynamic_schedule_manager.cpp`)

A `Dynamic` profile gets new limits from the CSMS, pushed with UpdateDynamicSchedule or pulled by
the `DynamicScheduleManager`, whose reaper thread applies the responses. Either way the manager
looks the profile up, changes its copy and writes the copy back with INSERT OR REPLACE. Meanwhile
another thread may have cleared or replaced the profile.

Results:
* **`stored_profile_is_last_set`**: in every interleaving in which no write is disturbed, what is
  stored for an id is what SetChargingProfile stored last, changed by dynamic schedule updates only,
  and nothing is stored for an id that was cleared since.
* `cleared_profile_comes_back`: an interleaving in which it is.
-/

namespace EverestCore.Ocpp.V2.Store

open EverestCore.Lib.Machine List
open Relation (ReflTransGen)

/-! ## Updates -/

variable (update : ChargingScheduleUpdate)

/-- No field of the update is set. -/
def noFieldsSet : Bool :=
  updateFields.all fun f => (update f).isNone

/-- The fields of the update take the place of those of the period. -/
def overwrite (period : ChargingSchedulePeriod) : ChargingSchedulePeriod :=
  fun f => match update f with
    | some x => some x
    | none => period f

/-- The first period of the first schedule is overwritten; `none` where there is none. -/
def overwriteFirst :
    List ChargingSchedule → Option (List ChargingSchedule)
  | [] => none
  | s :: schedules =>
    match s.chargingSchedulePeriod with
    | [] => none
    | period :: periods =>
      some ({ s with chargingSchedulePeriod := overwrite update period :: periods } :: schedules)

/-- `apply_update` before it writes: an update without fields only refreshes `dynUpdateTime`. -/
def applyUpdate (now : Int) (p : ChargingProfile) : Option ChargingProfile :=
  if noFieldsSet update then some { p with dynUpdateTime := some now }
  else (overwriteFirst update p.chargingSchedule).map fun chargingSchedule =>
    { p with chargingSchedule, dynUpdateTime := some now }

/-! ## Deadlines -/

structure ProfileDeadlines where
  pull : Option Int
  expire : Option Int
  deriving DecidableEq

def dynamicPullDeadline (now : Int) (p : ChargingProfile) : Option Int :=
  match p.chargingProfileKind, p.dynUpdateInterval with
  | .Dynamic, some interval =>
    if interval ≤ 0 then none
    else match p.dynUpdateTime with
      | some time => some (time + seconds interval)
      | none => some now
  | _, _ => none

def dynamicExpiryDeadline (p : ChargingProfile) : Option Int :=
  match p.chargingProfileKind, p.chargingSchedule, p.dynUpdateTime with
  | .Dynamic, s :: _, some time =>
    s.duration.bind fun duration =>
      if duration ≤ 0 then none else some (time + seconds duration)
  | _, _, _ => none

/-- `write_deadlines`: the entry of the profile, or no entry where it has no deadline. -/
def writeDeadlines (now : Int) (p : ChargingProfile) (deadlines : Int → Option ProfileDeadlines) :
    Int → Option ProfileDeadlines :=
  let entry : ProfileDeadlines := ⟨dynamicPullDeadline now p, dynamicExpiryDeadline p⟩
  Function.update deadlines p.id (if entry = ⟨none, none⟩ then none else some entry)

/-! ## Threads -/

/-- What SetChargingProfile stored, or the ids that a statement cleared. -/
inductive Effect
  | stored (row : Row)
  | cleared (ids : List Int)

/-- The effect is about a profile with the id. -/
def Effect.touches (id : Int) : Effect → Bool
  | .stored row => decide (row.profile.id = id)
  | .cleared ids => decide (id ∈ ids)

/-- The table, the map of deadlines, and the history. -/
structure Shared where
  rows : List Row := []
  deadlines : Int → Option ProfileDeadlines := fun _ => none
  log : List Effect := []

/-- What comes in: the requests, the responses to pulls, and a look at what is invalid offline. A
SetChargingProfile is `accepted` if its checks find nothing. -/
inductive Call
  | setChargingProfile (accepted : Bool) (row : Row)
  | clearChargingProfile (id : Option Int) (criteria : Option ClearChargingProfile)
  | updateDynamicSchedule (id : Int) (update : ChargingScheduleUpdate)
  | pullResponse (id : Int) (update : ChargingScheduleUpdate)
  | clearOffline

/-- What a section reads: the time, and whether the offline time of a profile has passed. -/
structure Reading where
  now : Int := 0
  due : Int → Bool := fun _ => false

/-- What a handler has still to do.
* `track`: `update_tracking`.
* `delete`: the DELETE for the criteria, after the SELECT for the same ones.
* `untrack`: `erase_tracking` for each id.
* `persist`: the update of the copy `row` and its write. The log had `seen` entries at the look-up.
* `clearInvalid`, `untrackInvalid`: the DELETE and the `erase_tracking` for each profile that is
  invalid after the offline time. -/
inductive Task
  | track (profile : ChargingProfile)
  | delete (criteria : Option ClearChargingProfile) (ids : List Int)
  | untrack (ids : List Int)
  | persist (row : Row) (update : ChargingScheduleUpdate) (seen : Nat)
  | clearInvalid (ids : List Int)
  | untrackInvalid (id : Int) (ids : List Int)

namespace Shared

variable (s : Shared)

def addProfile (row : Row) : Shared :=
  { s with
    rows := insertOrUpdateChargingProfile row.evseId row.profile row.chargingLimitSource s.rows
    log := .stored { row with profile := row.profile.stored } :: s.log }

/-- The ids of the rows that a clear selects. -/
def selected (id : Option Int) (criteria : Option ClearChargingProfile) : List Int :=
  (s.rows.filter (isCleared id criteria)).map (·.profile.id)

/-- The DELETE of a clear. -/
def clear (id : Option Int) (criteria : Option ClearChargingProfile) : Shared :=
  { s with
    rows := clearChargingProfilesMatchingCriteria id criteria s.rows
    log := .cleared (s.selected id criteria) :: s.log }

def eraseTracking (id : Int) : Shared :=
  { s with deadlines := Function.update s.deadlines id none }

/-- `lookup_dynamic_profile`, and the same query of `handle_update_dynamic_schedule_request`. -/
def lookupDynamicProfile (id : Int) : Option Row :=
  (s.rows.find? fun r => r.profile.id = id).filter fun r =>
    decide (r.profile.chargingProfileKind = .Dynamic)

/-- The profile is looked up, and its copy is to be changed and written. -/
def beginUpdate (id : Int) (update : ChargingScheduleUpdate) : List Task :=
  match s.lookupDynamicProfile id with
  | some row => [.persist row update s.log.length]
  | none => []

end Shared

/-- The profile is dropped once it was offline for too long. -/
def invalidOffline (k : Reading) (p : ChargingProfile) : Bool :=
  p.maxOfflineDuration.isSome && k.due p.id && p.invalidAfterOfflineDuration.getD false

/-- The first section of a handler. A ClearChargingProfileRequest for external constraints is
refused. -/
def start (c : Call) (k : Reading) (s : Shared) : Shared × List Task :=
  match c with
  | .setChargingProfile accepted row =>
    if accepted then (s.addProfile row, [.track row.profile]) else (s, [])
  | .clearChargingProfile id criteria =>
    if criteria.any fun c =>
        decide (c.chargingProfilePurpose = some .ChargingStationExternalConstraints) then (s, [])
    else if id.isSome then (s.clear id none, [.untrack (s.selected id none)])
    else (s, [.delete criteria (s.selected none criteria)])
  | .updateDynamicSchedule id update => (s, s.beginUpdate id update)
  | .pullResponse id update => (s, s.beginUpdate id update)
  | .clearOffline =>
    (s, [.clearInvalid ((s.rows.filter fun r => invalidOffline k r.profile).map (·.profile.id))])

/-- The next section of a handler. -/
def resume (t : Task) (k : Reading) (s : Shared) : Shared × List Task :=
  match t with
  | .track p => ({ s with deadlines := writeDeadlines k.now p s.deadlines }, [])
  | .delete criteria ids => (s.clear none criteria, [.untrack ids])
  | .untrack [] => (s, [])
  | .untrack (id :: ids) => (s.eraseTracking id, [.untrack ids])
  | .persist row update _ =>
    match applyUpdate update k.now row.profile with
    | some p =>
      ({ s with rows := insertOrUpdateChargingProfile row.evseId p row.chargingLimitSource s.rows },
        [.track p])
    | none => (s, [])
  | .clearInvalid [] => (s, [])
  | .clearInvalid (id :: ids) =>
    (s.clear (some id) none,
      if s.selected (some id) none = [] then [.clearInvalid ids] else [.untrackInvalid id ids])
  | .untrackInvalid id ids => (s.eraseTracking id, [.clearInvalid ids])

/-- The handlers and the reaper. -/
def handlers : Program Shared Call Reading Task := ⟨start, resume⟩

/-! ## What is to be stored -/

/-- The row that SetChargingProfile stored last for the id, if nothing cleared it since. -/
def origin (id : Int) : List Effect → Option Row
  | [] => none
  | .stored row :: log => if row.profile.id = id then some row else origin id log
  | .cleared ids :: log => if id ∈ ids then none else origin id log

/-- `r'` is `r` after a dynamic schedule update. -/
def Updated (r r' : Row) : Prop :=
  ∃ update now p, applyUpdate update now r.profile = some p ∧ r' = { r with profile := p.stored }

/-- The row is what was stored last for its id, changed by dynamic schedule updates only. -/
def FromOrigin (log : List Effect) (r : Row) : Prop :=
  ∃ r₀, origin r.profile.id log = some r₀ ∧ ReflTransGen Updated r₀ r

/-- Since the look-up of a copy that is about to be written, nobody stored or cleared a profile of
its id. -/
def undisturbed (t : Task) (k : Reading) (s : Shared) : Bool :=
  match t with
  | .persist row update seen =>
    (applyUpdate update k.now row.profile).isNone ||
      (s.log.take (s.log.length - seen)).all fun e => !e.touches row.profile.id
  | _ => true

/-! ## The invariant -/

/-- The table has one row for each id, and records the history. -/
structure Recorded (s : Shared) : Prop where
  keyed : Keyed s.rows
  rows : ∀ r ∈ s.rows, FromOrigin s.log r

/-- A copy that is still to be written comes from the row that was stored when it was looked up. -/
def Backed : Task → Shared → Prop
  | .persist row _ seen, s =>
    seen ≤ s.log.length ∧ FromOrigin (s.log.drop (s.log.length - seen)) row
  | _, _ => True

variable {log : List Effect} {update : ChargingScheduleUpdate} {now : Int} {p : ChargingProfile}

theorem origin_append {id : Int} :
    ∀ {new : List Effect}, (∀ e ∈ new, e.touches id = false) →
      origin id (new ++ log) = origin id log
  | [], _ => rfl
  | .stored row :: new, h => by
    have hrow : ¬ row.profile.id = id := by simpa [Effect.touches] using h _ (mem_cons_self ..)
    rw [cons_append, origin, if_neg hrow]
    exact origin_append fun e he => h e (mem_cons_of_mem _ he)
  | .cleared ids :: new, h => by
    have hids : ¬ id ∈ ids := by simpa [Effect.touches] using h _ (mem_cons_self ..)
    rw [cons_append, origin, if_neg hids]
    exact origin_append fun e he => h e (mem_cons_of_mem _ he)

theorem FromOrigin.cons {r : Row} {e : Effect} (h : FromOrigin log r)
    (he : e.touches r.profile.id = false) : FromOrigin (e :: log) r := by
  obtain ⟨r₀, ho, hu⟩ := h
  refine ⟨r₀, ?_, hu⟩
  rw [← ho]
  show origin r.profile.id ([e] ++ log) = origin r.profile.id log
  exact origin_append (by simpa using he)

theorem applyUpdate_id {p' : ChargingProfile} (h : applyUpdate update now p = some p') :
    p'.id = p.id := by
  unfold applyUpdate at h
  split at h
  · rw [← Option.some.inj h]
  · obtain ⟨_, -, rfl⟩ := Option.map_eq_some_iff.mp h
    rfl

theorem FromOrigin.updated {r : Row} (h : FromOrigin log r)
    (hp : applyUpdate update now r.profile = some p) :
    FromOrigin log { r with profile := p.stored } := by
  obtain ⟨r₀, ho, hu⟩ := h
  refine ⟨r₀, ?_, hu.tail ⟨update, now, p, hp, rfl⟩⟩
  have hid : p.id = r.profile.id := applyUpdate_id hp
  rw [← ho, ← hid]
  rfl

/-! ## Sections -/

variable {s : Shared}

theorem addProfile_recorded (h : Recorded s) (row : Row) : Recorded (s.addProfile row) := by
  refine ⟨h.keyed.insertOrUpdate .., fun r hr => ?_⟩
  rcases mem_insertOrUpdate.mp hr with ⟨hr, hid⟩ | rfl
  · exact (h.rows r hr).cons (decide_eq_false (Ne.symm hid))
  · exact ⟨_, if_pos rfl, .refl⟩

/-- The ids that a clear deletes are those of the rows that are gone. -/
theorem clear_recorded (h : Recorded s) (id : Option Int)
    (criteria : Option ClearChargingProfile) : Recorded (s.clear id criteria) := by
  refine ⟨h.keyed.filter _, fun r hr => ?_⟩
  obtain ⟨hr, hk⟩ := mem_filter.mp hr
  refine (h.rows r hr).cons (decide_eq_false fun hid => ?_)
  obtain ⟨q, hq, hs⟩ := mem_map.mp hid
  obtain ⟨hq, hc⟩ := mem_filter.mp hq
  obtain rfl : q = r := inj_on_of_nodup_map h.keyed hq hr hs
  simp [hc] at hk

theorem beginUpdate_backed (h : Recorded s) (id : Int) (update : ChargingScheduleUpdate) :
    ∀ t ∈ s.beginUpdate id update, Backed t s := by
  intro t ht
  unfold Shared.beginUpdate at ht
  cases hrow : s.lookupDynamicProfile id with
  | none => simp [hrow] at ht
  | some row =>
    simp only [hrow, mem_singleton] at ht
    subst ht
    have hmem : row ∈ s.rows :=
      mem_of_find?_eq_some (Option.filter_eq_some_iff.mp hrow).1
    refine ⟨le_rfl, ?_⟩
    rw [Nat.sub_self, drop_zero]
    exact h.rows row hmem

/-- Writing a copy back, while the row that it was copied from is still the one to be stored. -/
theorem persist_recorded (h : Recorded s) {row : Row} {seen : Nat}
    (hb : Backed (.persist row update seen) s) (hp : applyUpdate update now row.profile = some p)
    (hu : ∀ e ∈ s.log.take (s.log.length - seen), e.touches row.profile.id = false) :
    Recorded { s with
      rows := insertOrUpdateChargingProfile row.evseId p row.chargingLimitSource s.rows } := by
  refine ⟨h.keyed.insertOrUpdate .., fun r hr => ?_⟩
  rcases mem_insertOrUpdate.mp hr with ⟨hr, -⟩ | rfl
  · exact h.rows r hr
  · obtain ⟨r₀, ho, hupd⟩ := hb.2
    rw [← origin_append hu, take_append_drop] at ho
    exact FromOrigin.updated ⟨r₀, ho, hupd⟩ hp

/-- The history only grows, and what was stored at the look-up stays on record. -/
theorem Backed.mono {t : Task} {s' : Shared} (h : Backed t s) {new : List Effect}
    (hlog : s'.log = new ++ s.log) : Backed t s' := by
  cases t with
  | persist row update seen =>
    obtain ⟨hle, ho⟩ := h
    have hlen : s'.log.length = new.length + s.log.length := by rw [hlog, length_append]
    refine ⟨by omega, ?_⟩
    have hd : s'.log.drop (s'.log.length - seen) = s.log.drop (s.log.length - seen) := by
      have hs : s'.log.length - seen = new.length + (s.log.length - seen) := by omega
      rw [hs, hlog, ← drop_drop, drop_left]
    rw [hd]
    exact ho
  | _ => trivial

theorem start_log (c : Call) (k : Reading) (s : Shared) :
    ∃ new, (start c k s).1.log = new ++ s.log := by
  cases c with
  | setChargingProfile accepted =>
    cases accepted with
    | true => exact ⟨[_], rfl⟩
    | false => exact ⟨[], rfl⟩
  | clearChargingProfile =>
    simp only [start]
    split
    · exact ⟨[], rfl⟩
    · split
      · exact ⟨[_], rfl⟩
      · exact ⟨[], rfl⟩
  | updateDynamicSchedule | pullResponse | clearOffline => exact ⟨[], rfl⟩

theorem resume_log (t : Task) (k : Reading) (s : Shared) :
    ∃ new, (resume t k s).1.log = new ++ s.log := by
  cases t with
  | track | untrackInvalid => exact ⟨[], rfl⟩
  | delete => exact ⟨[_], rfl⟩
  | untrack ids => cases ids <;> exact ⟨[], rfl⟩
  | persist =>
    simp only [resume]
    split <;> exact ⟨[], rfl⟩
  | clearInvalid ids =>
    cases ids with
    | nil => exact ⟨[], rfl⟩
    | cons id ids => exact ⟨[_], rfl⟩

theorem start_recorded (c : Call) (k : Reading) (h : Recorded s) :
    Recorded (start c k s).1 ∧ ∀ t ∈ (start c k s).2, Backed t (start c k s).1 := by
  cases c with
  | setChargingProfile accepted row =>
    cases accepted with
    | true => exact ⟨addProfile_recorded h row, by simp [start, Backed]⟩
    | false => exact ⟨h, by simp [start]⟩
  | clearChargingProfile id =>
    simp only [start]
    split
    · exact ⟨h, by simp⟩
    · split
      · exact ⟨clear_recorded h id none, by simp [Backed]⟩
      · exact ⟨h, by simp [Backed]⟩
  | updateDynamicSchedule id update | pullResponse id update =>
    exact ⟨h, beginUpdate_backed h id update⟩
  | clearOffline => exact ⟨h, by simp [start, Backed]⟩

theorem resume_recorded (t : Task) (k : Reading) (ht : undisturbed t k s) (h : Recorded s)
    (hb : Backed t s) :
    Recorded (resume t k s).1 ∧ ∀ t' ∈ (resume t k s).2, Backed t' (resume t k s).1 := by
  cases t with
  | track p => exact ⟨⟨h.keyed, h.rows⟩, by simp [resume]⟩
  | delete criteria ids => exact ⟨clear_recorded h none criteria, by simp [resume, Backed]⟩
  | untrack ids =>
    cases ids with
    | nil => exact ⟨h, by simp [resume]⟩
    | cons id ids => exact ⟨⟨h.keyed, h.rows⟩, by simp [resume, Backed]⟩
  | persist row update seen =>
    simp only [resume]
    cases hp : applyUpdate update k.now row.profile with
    | none => exact ⟨h, by simp⟩
    | some p =>
      refine ⟨persist_recorded h hb hp ?_, by simp [Backed]⟩
      simpa [undisturbed, hp] using ht
  | clearInvalid ids =>
    cases ids with
    | nil => exact ⟨h, by simp [resume]⟩
    | cons id ids =>
      refine ⟨clear_recorded h (some id) none, ?_⟩
      simp only [resume]
      split <;> simp [Backed]
  | untrackInvalid id ids => exact ⟨⟨h.keyed, h.rows⟩, by simp [resume, Backed]⟩

/-- **Undisturbed sections keep the table a record of the history**, and whatever the other threads
do, a copy that is still to be written has its row on record. -/
theorem relies : Program.Relies handlers (fun _ _ _ => True)
    (fun t k s => undisturbed t k s) Recorded Backed where
  start c k _ _ h := start_recorded c k h
  resume t k _ ht h hb := resume_recorded t k ht h hb
  stableStart _ c k s h := (start_log c k s).elim fun _ hlog => h.mono hlog
  stableResume _ t k s h := (resume_log t k s).elim fun _ hlog => h.mono hlog

/-- **A cleared or replaced charging profile does not come back**, as long as nobody stores or
clears a profile between the look-up and the write of a dynamic schedule update of it: what is
stored for an id is what SetChargingProfile stored last, changed by dynamic schedule updates only,
and nothing is stored for an id that was cleared since. -/
theorem stored_profile_is_last_set (as : List (Action Call Reading)) (has : Along handlers.step
      (Program.Guard (fun _ _ _ => True) fun t k s => undisturbed t k s = true) ⟨{}, []⟩ as) :
    let s := (run handlers.step ⟨{}, []⟩ as).shared
    (∀ r ∈ s.rows, ∃ r₀, origin r.profile.id s.log = some r₀ ∧ ReflTransGen Updated r₀ r) ∧
      ∀ id, origin id s.log = none → ∀ r ∈ s.rows, r.profile.id ≠ id := by
  have he : Recorded {} := ⟨nodup_nil, by simp⟩
  obtain ⟨h, -⟩ := Program.run_relies relies as has ⟨he, by simp⟩
  refine ⟨h.rows, fun id hid r hr heq => ?_⟩
  obtain ⟨r₀, ho, -⟩ := h.rows r hr
  rw [heq, hid] at ho
  exact absurd ho (by simp)

/-! ## A disturbed write -/

/-- A dynamic profile with one period. -/
def dynamicRow : Row where
  evseId := 1
  profile :=
    { id := 1, stackLevel := 0, chargingProfilePurpose := .TxDefaultProfile,
      chargingProfileKind := .Dynamic,
      chargingSchedule := [{ chargingSchedulePeriod := [fun _ => none] }] }
  chargingLimitSource := "CSO"

/-- The CSMS sets the limit to 16. -/
def limitTo16 : ChargingScheduleUpdate := fun f => if f = .limit then some 16 else none

/-- The profile is set, pulled, and cleared after the response was applied. -/
theorem cleared_after_update_stays_cleared : let as : List (Action Call Reading) :=
      [.call (.setChargingProfile true dynamicRow) {}, .call (.pullResponse 1 limitTo16) {},
        .proceed 1 {}, .call (.clearChargingProfile (some 1) none) {}]
    let s := (run handlers.step ⟨{}, []⟩ as).shared
    (∀ r ∈ s.rows, ∃ r₀, origin r.profile.id s.log = some r₀ ∧ ReflTransGen Updated r₀ r) ∧
      ∀ id, origin id s.log = none → ∀ r ∈ s.rows, r.profile.id ≠ id :=
  stored_profile_is_last_set _ (by decide)

/-- The profile is cleared between the look-up and the write of the reaper: it is stored again. -/
theorem cleared_profile_comes_back :
    let s := (run handlers.step ⟨{}, []⟩
      [.call (.setChargingProfile true dynamicRow) {}, .call (.pullResponse 1 limitTo16) {},
        .call (.clearChargingProfile (some 1) none) {}, .proceed 1 {}]).shared
    s.rows.map (fun r => r.profile.id) = [1] ∧ (origin 1 s.log).isNone = true := by
  decide

end EverestCore.Ocpp.V2.Store
