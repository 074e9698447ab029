import EverestCore.Ocpp.DateTime
import EverestCore.Lib.PrioritySweep
import EverestCore.Lib.StdSort

/-!
# What the two profile calculations share

`v16/profile.cpp` and `v2/profile.cpp` place the periods of a charging profile on the time line
with the same code over different message types. This file has the parts that do not see the
messages: the start times of `calculate_start`, the placing and the validation of a
`period_entry_t`, and the loop of `generate_profile_from_periods` with the value it pushes left
as a parameter.

Results:
* **`generate_spec`**: on entries that overlap the window, the loop returns, its first period
  starts at 0, and the period in force at any instant comes from the first entry, in stack level
  order, that covers it. The offsets are cut off at the largest 32-bit value (`clamp_to`), so
  they increase strictly only while the window is not longer than that.
-/

namespace EverestCore.Ocpp

open EverestCore.Lib List Option
open EverestCore.Lib.PrioritySweep

/-! ## Start times -/

/-- `RecurrencyKindType` / `RecurrencyKindEnum`. -/
inductive RecurrencyKind
  | Daily | Weekly

/-- `HOURS_PER_DAY * SECONDS_PER_HOUR` and `SECONDS_PER_DAY * DAYS_PER_WEEK`. -/
def RecurrencyKind.period : RecurrencyKind → Int
  | .Daily => 24 * 3600
  | .Weekly => 86400 * 7

theorem RecurrencyKind.seconds_period_pos (k : RecurrencyKind) : 0 < seconds k.period := by
  cases k <;> decide

/-- `calculate_start`, the absolute case: `startSchedule`, else `validFrom`, else now. -/
def absoluteStart (inNow : Int) (startSchedule validFrom : Option Int) : Int :=
  floorSeconds ((startSchedule.orElse fun _ => validFrom).getD (floorSeconds inNow))

/-- How far back the running occurrence began. `cast` is the conversion to the type of the
variable. -/
def secondsToGoBack (cast : Int → Int) (k : RecurrencyKind) (now startSchedule : Int) : Int :=
  let back := cast ((durationCastSeconds (now - startSchedule)).tmod k.period)
  if back < 0 then back + k.period else back

/-- `while (start <= end)`: the occurrences from `start` on. -/
def occurrences (k : RecurrencyKind) (fin start : Int) : List Int :=
  if start ≤ fin then start :: occurrences k fin (start + seconds k.period) else []
termination_by (fin + 1 - start).toNat
decreasing_by
  have := k.seconds_period_pos
  omega

/-- `calculate_start`, the recurring case. -/
def recurringStarts (cast : Int → Int) (inNow inEnd : Int) (k : RecurrencyKind)
    (startSchedule : Int) : List Int :=
  let now := floorSeconds inNow
  occurrences k (floorSeconds inEnd)
    (now - seconds (secondsToGoBack cast k now (floorSeconds startSchedule)))

/-- `calculate_start`, the relative case: the session start, else now. -/
def relativeStart (inNow : Int) (sessionStart : Option Int) : Int :=
  match sessionStart with
  | some s => floorSeconds s
  | none => floorSeconds inNow

/-- Each occurrence with the start of the next one. -/
def withNext : List Int → List (Int × Option Int)
  | [] => []
  | s :: ss => (s, ss.head?) :: withNext ss

/-- The duration of a period in `calculate_profile_entry`, from the start of the schedule: the
sooner of forever, the next period, the schedule's duration, the next occurrence and `validTo`.
`shorten` applies one of the last two bounds. -/
def entryDuration (shorten : Int → Int → Int) (nextPeriod duration validTo : Option Int)
    (entryStart : Int) (nextStart : Option Int) : Int :=
  let forever := nextPeriod.getD int32Max
  let bounded := match duration with
    | some d => if d < forever then d else forever
    | none => forever
  let once := match nextStart with
    | some n => shorten (durationCastSeconds (n - entryStart)) bounded
    | none => bounded
  match validTo with
  | some v => shorten (durationCastSeconds (floorSeconds v - entryStart)) once
  | none => once

/-! ## The span of an entry -/

/-- The members of `period_entry_t` that say when it applies and how strong it is. -/
structure Span where
  start : Int
  stop : Int
  stackLevel : Int

/-- `period_entry_t::init`, the times. The duration counts from the start of the schedule. -/
def Span.init (inStart startPeriod inDuration stackLevel : Int) : Span where
  start := floorSeconds inStart + seconds startPeriod
  stop := floorSeconds inStart + seconds inDuration
  stackLevel := stackLevel

/-- `period_entry_t::validate`, its first half: move the start to `validFrom`, or `none` when the
whole period lies before it. -/
def Span.adjust (validFrom : Option Int) (s : Span) : Option Span :=
  match validFrom with
  | none => some s
  | some v =>
    if s.start < floorSeconds v then
      if s.stop ≤ floorSeconds v then none else some { s with start := floorSeconds v }
    else some s

/-- `period_entry_t::validate`: the adjusted span, or `none` when it is not valid. -/
def Span.validate (validFrom : Option Int) (now : Int) (s : Span) : Option Span :=
  (s.adjust validFrom).filter fun s => decide (s.start < s.stop) && decide (now < s.stop)

/-- A span `generate_profile_from_periods` can be given: on whole seconds, begun by the end of
the window and not over at its start. -/
structure Span.Usable (now fin : Int) (s : Span) : Prop where
  start_whole : WholeSecond s.start
  stop_whole : WholeSecond s.stop
  begun : s.start ≤ fin
  not_over : now < s.stop

theorem Span.adjust_spec {validFrom : Option Int} {s s' : Span} (h : s.adjust validFrom = some s') :
    s'.stop = s.stop ∧ (s'.start = s.start ∨ ∃ v, s'.start = floorSeconds v) := by
  unfold Span.adjust at h
  split at h
  · obtain rfl := some.inj h
    exact ⟨rfl, Or.inl rfl⟩
  · rename_i v
    split_ifs at h
    · obtain rfl := some.inj h
      exact ⟨rfl, Or.inr ⟨v, rfl⟩⟩
    · obtain rfl := some.inj h
      exact ⟨rfl, Or.inl rfl⟩

/-- **A validated span** lies on whole seconds and is not over. -/
theorem Span.validate_spec {inStart startPeriod inDuration stackLevel now : Int}
    {validFrom : Option Int} {s : Span}
    (h : (Span.init inStart startPeriod inDuration stackLevel).validate validFrom now = some s) :
    WholeSecond s.start ∧ WholeSecond s.stop ∧ now < s.stop := by
  obtain ⟨hadj, hv⟩ := filter_eq_some_iff.mp h
  simp only [Bool.and_eq_true, decide_eq_true_eq] at hv
  obtain ⟨hst, hsr⟩ := Span.adjust_spec hadj
  refine ⟨?_, ?_, hv.2⟩
  · rcases hsr with hs | ⟨v, hs⟩
    · rw [hs]
      exact (wholeSecond_floorSeconds inStart).add startPeriod
    · rw [hs]
      exact wholeSecond_floorSeconds v
  · rw [hst]
    exact (wholeSecond_floorSeconds inStart).add inDuration

/-! ## The loop of `generate_profile_from_periods` -/

section Generate

variable {E P : Type} (span : E → Span)

/-- The comparator: highest stack level first. -/
abbrev HigherStackLevel : E → E → Bool := fun a b =>
  decide ((span a).stackLevel > (span b).stackLevel)

/-- The period pushed in a round that begins at `current`. -/
def pushed (gap : Int → P) (use : Int → E → P) (now : Int) : Int × Option E → P
  | (current, none) => gap (elapsedSeconds current now)
  | (current, some e) => use (elapsedSeconds current now) e

/-- The loop on a non-empty list. `gap` and `use` build the pushed period from its offset. -/
def generate (sorter : StdSort (HigherStackLevel span)) (gap : Int → P) (use : Int → E → P)
    (fuel : Nat) (periods : List E) (inNow inEnd : Int) : Except Fault (List P) :=
  let now := floorSeconds inNow
  let fin := floorSeconds inEnd
  (sweep (fun e => (span e).start) (fun e => (span e).stop) (sorter.sort periods) fin fuel now).map
    (map (pushed gap use now))

variable (startPeriod : P → Int) (Carries : P → E → Prop) (NoLimit : P → Prop)

/-- The entry applies at the instant `t`. -/
abbrev CoversAt (e : E) (t : Int) : Prop :=
  Covers (fun e => (span e).start) (fun e => (span e).stop) e t

/-- The stack level law at `t`: the last period that has begun carries a strongest entry among
those covering `t`, or no limit when none does. -/
def PriorityLawAt (periods : List E) (out : List P) (now t : Int) : Prop :=
  ∃ p, lastAt (fun p => seconds (startPeriod p)) out (t - now) = some p ∧
    ((∃ e ∈ periods, CoversAt span e t ∧
        (∀ x ∈ periods, CoversAt span x t → (span x).stackLevel ≤ (span e).stackLevel) ∧
        Carries p e) ∨
      ((∀ e ∈ periods, ¬ CoversAt span e t) ∧ NoLimit p))

/-- What `generate_profile_from_periods` promises of its result. A window of more than `2 ^ 31`
seconds has offsets beyond the type of `startPeriod`, which end up equal. -/
structure GeneratedProfile (periods : List E) (now fin : Int) (out : List P) : Prop where
  begins : out.head?.map startPeriod = some 0
  monotone : out.Pairwise fun a b => startPeriod a ≤ startPeriod b
  strict : fin - now ≤ seconds (2 ^ 31) → out.Pairwise fun a b => startPeriod a < startPeriod b
  pointwise : ∀ t, now ≤ t → t < fin → fin - now ≤ seconds (2 ^ 31) ∨ t - now < seconds int32Max →
    PriorityLawAt span startPeriod Carries NoLimit periods out now t

variable {span startPeriod Carries NoLimit} {now fin : Int} {gap : Int → P} {use : Int → E → P}

/-- Every round begins a whole number of seconds after `now`, and within the window unless it is
the first. -/
theorem segments_offset {es : List E} {segs : List (Int × Option E)}
    (hseg : Segments (fun e => (span e).start) (fun e => (span e).stop) es now fin segs)
    (hnow : WholeSecond now) (hus : ∀ e ∈ es, (span e).Usable now fin) {a : Int × Option E}
    (ha : a ∈ segs) : ∃ m, 0 ≤ m ∧ a.1 = now + seconds m ∧ (m = 0 ∨ seconds m < fin - now) := by
  have hw : WholeSecond a.1 := by
    rcases hseg.cuts a ha with h | ⟨-, e, he, h | h⟩
    · exact h ▸ hnow
    · exact h ▸ (hus e he).start_whole
    · exact h ▸ (hus e he).stop_whole
  obtain ⟨m, hm⟩ := hw
  obtain ⟨m0, hm0⟩ := hnow
  have hlow := hseg.lower a ha
  have hcut : a.1 = now ∨ a.1 < fin := (hseg.cuts a ha).imp id And.left
  have heq : a.1 = now + seconds (m - m0) := by rw [hm, hm0]; unfold seconds; ring
  refine ⟨m - m0, ?_, heq, ?_⟩
  · rw [hm, hm0] at hlow
    unfold seconds ticksPerSecond at hlow
    omega
  · rcases hcut with h | h
    · unfold seconds ticksPerSecond at heq
      omega
    · omega

/-- The sweep behind `generate` returns, whether or not the window is already over. -/
theorem exists_segments {es : List E} (hne : es ≠ []) (hus : ∀ e ∈ es, (span e).Usable now fin) :
    ∃ n segs, (∀ fuel, n ≤ fuel →
      sweep (fun e => (span e).start) (fun e => (span e).stop) es fin fuel now = .ok segs) ∧
      Segments (fun e => (span e).start) (fun e => (span e).stop) es now fin segs := by
  rcases lt_or_ge now fin with h | h
  · obtain ⟨segs, h1, h2⟩ := sweep_spec (fun e => (span e).start) (fun e => (span e).stop) es fin
      (fin - now).toNat now h le_rfl
    exact ⟨_, segs, h1, h2⟩
  · obtain ⟨e, he⟩ := exists_mem_of_ne_nil es hne
    obtain ⟨segs, h1, h2⟩ := sweep_past (fun e => (span e).start)
      (fun e => (span e).stop) h ⟨e, he, (hus e he).begun, (hus e he).not_over⟩
    exact ⟨1, segs, h1, h2⟩

theorem startPeriod_pushed (hgap : ∀ n, startPeriod (gap n) = n)
    (huse : ∀ n e, startPeriod (use n e) = n) (now : Int) (a : Int × Option E) :
    startPeriod (pushed gap use now a) = elapsedSeconds a.1 now := by
  obtain ⟨current, _ | e⟩ := a
  · exact hgap _
  · exact huse _ e

/-- The result for no entries at all: one period without a limit. -/
theorem generatedProfile_nil {p : P} (h0 : startPeriod p = 0) (hno : NoLimit p) :
    GeneratedProfile span startPeriod Carries NoLimit [] now fin [p] := by
  refine ⟨congrArg some h0, pairwise_singleton _ _, fun _ => pairwise_singleton _ _,
    fun t ht _ _ => ⟨p, lastAt_cons_of_lt ?_ fun b hb => absurd hb not_mem_nil,
      Or.inr ⟨fun e he => absurd he not_mem_nil, hno⟩⟩⟩
  simp only [h0, seconds]
  omega

/-- The rounds of the loop, once pushed, obey the law. -/
theorem generatedProfile_of_segments (sorter : StdSort (HigherStackLevel span))
    (hgap : ∀ n, startPeriod (gap n) = n) (huse : ∀ n e, startPeriod (use n e) = n)
    (hno : ∀ n, NoLimit (gap n)) (hcar : ∀ n e, Carries (use n e) e) {periods : List E}
    {segs : List (Int × Option E)} (hnow : WholeSecond now)
    (hus : ∀ e ∈ sorter.sort periods, (span e).Usable now fin)
    (hseg : Segments (fun e => (span e).start) (fun e => (span e).stop) (sorter.sort periods) now
      fin segs) :
    GeneratedProfile span startPeriod Carries NoLimit periods now fin
      (segs.map (pushed gap use now)) := by
  have hoff : ∀ a ∈ segs, ∃ m, startPeriod (pushed gap use now a) = min m int32Max ∧ 0 ≤ m ∧
      a.1 = now + seconds m ∧ (m = 0 ∨ seconds m < fin - now) := fun a ha => by
    obtain ⟨m, hm, ham, hlm⟩ := segments_offset hseg hnow hus ha
    exact ⟨m, by rw [startPeriod_pushed hgap huse, elapsedSeconds_eq ham hm], hm, ham, hlm⟩
  refine ⟨?_, ?_, fun hwin => ?_, fun t ht hf hs => ?_⟩
  · obtain ⟨a, ha, hfst⟩ := map_eq_some_iff.mp hseg.head
    have hz : elapsedSeconds a.1 now = min 0 int32Max :=
      elapsedSeconds_eq (by rw [hfst]; unfold seconds; ring) le_rfl
    rw [head?_map, ha, map_some, map_some, startPeriod_pushed hgap huse, hz]
    rfl
  · rw [pairwise_map]
    refine hseg.ordered.imp_of_mem fun {a b} ha hb hab => ?_
    obtain ⟨m, hms, hm, ham, -⟩ := hoff a ha
    obtain ⟨k, hks, hk, hbk, -⟩ := hoff b hb
    unfold seconds ticksPerSecond at *
    omega
  · rw [pairwise_map]
    refine hseg.ordered.imp_of_mem fun {a b} ha hb hab => ?_
    obtain ⟨m, hms, hm, ham, hlm⟩ := hoff a ha
    obtain ⟨k, hks, hk, hbk, hlk⟩ := hoff b hb
    unfold seconds ticksPerSecond int32Max at *
    omega
  · have hla : lastAt (fun p => seconds (startPeriod p)) (segs.map (pushed gap use now))
        (t - now) = (lastAt Prod.fst segs t).map (pushed gap use now) := by
      refine lastAt_map fun a ha => ?_
      obtain ⟨m, hms, hm, ham, hlm⟩ := hoff a ha
      unfold seconds ticksPerSecond int32Max at *
      omega
    obtain ⟨⟨c, label⟩, hc, hl⟩ := map_eq_some_iff.mp (hseg.inForce t ht hf)
    refine ⟨pushed gap use now (c, label), by rw [hla, hc]; rfl, ?_⟩
    cases label with
    | none =>
      exact Or.inr ⟨fun e he => inForce_eq_none.mp hl.symm e (sorter.mem_sort.mpr he), hno _⟩
    | some e =>
      have hfi : (sorter.sort periods).find? _ = some e := hl.symm
      have hcov : CoversAt span e t := by simpa using find?_some hfi
      exact Or.inl ⟨e, sorter.mem_sort.mp (mem_of_find?_eq_some hfi), hcov,
        fun x hx hcx => sorter.le_of_find? hfi hx (decide_eq_true hcx), hcar _ e⟩

/-- **The loop computes the stack level law**, for every way of sorting equal stack levels. Without
entries there is one period without a limit. -/
theorem generate_spec (sorter : StdSort (HigherStackLevel span))
    (hgap : ∀ n, startPeriod (gap n) = n) (huse : ∀ n e, startPeriod (use n e) = n)
    (hno : ∀ n, NoLimit (gap n)) (hcar : ∀ n e, Carries (use n e) e) {periods : List E}
    {inNow inEnd : Int}
    (hus : ∀ e ∈ periods, (span e).Usable (floorSeconds inNow) (floorSeconds inEnd)) :
    ∃ n out, (∀ fuel, n ≤ fuel → (if periods.isEmpty then .ok [gap 0]
        else generate span sorter gap use fuel periods inNow inEnd) = .ok out) ∧
      GeneratedProfile span startPeriod Carries NoLimit periods (floorSeconds inNow)
        (floorSeconds inEnd) out := by
  rcases eq_or_ne periods [] with rfl | hne
  · exact ⟨0, [gap 0], fun _ _ => rfl, generatedProfile_nil (hgap 0) (hno 0)⟩
  have hne' : sorter.sort periods ≠ [] := fun h =>
    hne (nil_perm.mp (h ▸ sorter.perm periods))
  have hus' : ∀ e ∈ sorter.sort periods,
      (span e).Usable (floorSeconds inNow) (floorSeconds inEnd) :=
    fun e he => hus e (sorter.mem_sort.mp he)
  obtain ⟨n, segs, hs, hseg⟩ := exists_segments hne' hus'
  refine ⟨n, segs.map (pushed gap use (floorSeconds inNow)), fun fuel hf => ?_,
    generatedProfile_of_segments sorter hgap huse hno hcar
      (wholeSecond_floorSeconds inNow) hus' hseg⟩
  rw [if_neg (by simpa using hne), generate, hs fuel hf]
  rfl

end Generate

end EverestCore.Ocpp
