import EverestCore.Ocpp.V16.Profile
import EverestCore.Ocpp.V2.Profile

/-!
# The stack level law of composite schedules

`generate_profile_from_periods`, in both protocol versions, turns the entries of
`calculate_all_profiles` into the profile that follows, at every instant of the window, an entry
with the largest stack level among those that cover it. Sorting leaves entries of one stack level
in any order, so the law names a strongest entry and not which one.

* **`generate_profile_follows_stack_level`**: the law, for both versions.
* `long_window_offsets_collide`: the offsets of a window of more than `2 ^ 31` seconds are cut
  off by `elapsed_seconds` and no longer increase.
-/

namespace EverestCore.Ocpp

open EverestCore.Lib EverestCore.Lib.PrioritySweep

/-- **The stack level law.** For entries produced by `calculate_all_profiles` for any profiles
and any window, the loop returns without dereferencing an empty choice, the offsets begin at 0 and
do not decrease, and in a window of at most `2 ^ 31` seconds they increase strictly and every
instant carries a strongest covering entry; in a longer window every instant before the cut off
does. -/
theorem generate_profile_follows_stack_level :
    (∀ (dateSorter : StdSort V16.EarlierStart)
      (levelSorter : StdSort (HigherStackLevel V16.PeriodEntry.toSpan)) (now fin : Int)
      (sessionStart : Option Int) (profiles : List V16.ChargingProfile)
      (purpose : V16.ChargingProfilePurpose),
      let periods := V16.calculateAllProfiles dateSorter now fin sessionStart profiles purpose
      ∃ n out, (∀ fuel, n ≤ fuel →
          V16.generateProfileFromPeriods levelSorter fuel periods now fin = .ok out) ∧
        GeneratedProfile V16.PeriodEntry.toSpan V16.IntermediatePeriod.startPeriod V16.Carries
          V16.NoLimit periods (floorSeconds now) (floorSeconds fin) out) ∧
    (∀ (indet : Int → Int × Int) (dateSorter : StdSort V2.EarlierStart)
      (levelSorter : StdSort (HigherStackLevel V2.PeriodEntry.toSpan)) (now fin : Int)
      (sessionStart : Option Int) (profiles : List V2.ChargingProfile)
      (purpose : V2.ChargingProfilePurpose),
      let periods := V2.calculateAllProfiles dateSorter now fin sessionStart profiles purpose
      ∃ n out, (∀ fuel, n ≤ fuel →
          V2.generateProfileFromPeriods indet levelSorter fuel periods now fin = .ok out) ∧
        GeneratedProfile V2.PeriodEntry.toSpan V2.IntermediatePeriod.startPeriod V2.Carries
          V2.NoLimit periods (floorSeconds now) (floorSeconds fin) out) := by
  refine ⟨fun _ levelSorter _ _ _ _ _ => ?_, fun _ _ levelSorter _ _ _ _ _ => ?_⟩
  · refine generate_spec levelSorter (fun _ => rfl) (fun n e => ?_) (fun _ => ⟨rfl, rfl⟩)
      V16.carries_chosenPeriod fun _ he => V16.usable_of_mem_calculateAllProfiles he
    unfold V16.chosenPeriod
    split <;> rfl
  · exact generate_spec levelSorter (fun _ => rfl) (fun _ _ => rfl) (fun _ => ⟨rfl, rfl⟩)
      V2.carries_chosenPeriod fun _ he => V2.usable_of_mem_calculateAllProfiles he

/-- A schedule of two periods that begins more than `2 ^ 31` seconds after the epoch. -/
def lateProfile : V16.ChargingProfile where
  stackLevel := 0
  chargingProfilePurpose := .TxProfile
  chargingProfileKind := .Absolute
  chargingSchedule :=
    { chargingRateUnit := .A
      chargingSchedulePeriod := [⟨0, 10, none⟩, ⟨50, 20, none⟩]
      startSchedule := some (seconds (2 ^ 31 + 10)) }

/-- The profile computed for a window of `2 ^ 31 + 100` seconds from the epoch. -/
def lateOut (fuel : Nat) : Except Fault (List V16.IntermediatePeriod) :=
  V16.generateProfileFromPeriods (StdSort.byFallingKey fun e : V16.PeriodEntry => e.stackLevel) fuel
    (V16.calculateAllProfiles (StdSort.byKey fun e : V16.PeriodEntry => e.start) 0
      (seconds (2 ^ 31 + 100)) none
      [lateProfile] .TxProfile) 0 (seconds (2 ^ 31 + 100))

theorem lateOut_eq (fuel : Nat) : lateOut (fuel + 3) = .ok
    [⟨0, -1, -1, 0, 0, none, none⟩, ⟨2147483647, 10, -1, 0, 0, none, none⟩,
      ⟨2147483647, 20, -1, 0, 0, none, none⟩] := by
  rfl

/-- In a window of more than `2 ^ 31` seconds the offsets need not increase strictly. -/
theorem long_window_offsets_collide : ¬ ∃ n out, (∀ fuel, n ≤ fuel → lateOut fuel = .ok out) ∧
    out.Pairwise fun a b => a.startPeriod < b.startPeriod := by
  rintro ⟨n, out, hout, hs⟩
  have heq := (hout (n + 3) (Nat.le_add_right n 3)).symm.trans (lateOut_eq n)
  rw [Except.ok.inj heq] at hs
  revert hs
  decide

end EverestCore.Ocpp
