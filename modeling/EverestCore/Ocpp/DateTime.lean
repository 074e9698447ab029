import Mathlib.Tactic.Linarith
import Mathlib.Tactic.Ring

/-!
# Dates and seconds of the OCPP library

`ocpp::DateTime` wraps a `date::utc_clock` time point, a count of nanoseconds. Here it is an
`Int`, in nanoseconds; that the 64-bit count wraps after 292 years is left out.
`elapsed_seconds` and `floor_seconds` are the same in `v16/profile.cpp` and `v2/profile.cpp`.
-/

namespace EverestCore.Ocpp

def ticksPerSecond : Int := 1000000000

/-- `std::chrono::seconds(n)`, in ticks. -/
def seconds (n : Int) : Int := n * ticksPerSecond

/-- `duration_cast<seconds>(d).count()`, which rounds towards zero. -/
def durationCastSeconds (d : Int) : Int := d.tdiv ticksPerSecond

def floorSeconds (dt : Int) : Int := dt / ticksPerSecond * ticksPerSecond

/-- `std::numeric_limits<std::int32_t>::max()`. -/
def int32Max : Int := 2147483647

/-- `clamp_to<std::int32_t>`: only the upper end is clamped, below it the cast wraps. -/
def clampTo (len : Int) : Int := if len ≤ int32Max then Int.bmod len (2 ^ 32) else int32Max

def elapsedSeconds (to_ from_ : Int) : Int := clampTo (durationCastSeconds (to_ - from_))

/-- A date on a whole second. -/
def WholeSecond (dt : Int) : Prop := ∃ n, dt = seconds n

theorem wholeSecond_floorSeconds (dt : Int) : WholeSecond (floorSeconds dt) :=
  ⟨dt / ticksPerSecond, rfl⟩

theorem WholeSecond.add {dt : Int} (h : WholeSecond dt) (n : Int) :
    WholeSecond (dt + seconds n) := by
  obtain ⟨m, rfl⟩ := h
  exact ⟨m + n, by unfold seconds; ring⟩

/-- A date on a whole second is not later than `dt` iff it is not later than `dt` floored. -/
theorem WholeSecond.le_floorSeconds {s dt : Int} (h : WholeSecond s) (hle : s ≤ dt) :
    s ≤ floorSeconds dt := by
  obtain ⟨n, rfl⟩ := h
  unfold floorSeconds seconds ticksPerSecond at *
  omega

theorem durationCastSeconds_seconds (n : Int) : durationCastSeconds (seconds n) = n := by
  exact Int.mul_tdiv_cancel n (by decide)

theorem clampTo_of_mem {n : Int} (h0 : 0 ≤ n) (h1 : n ≤ int32Max) : clampTo n = n := by
  unfold clampTo
  rw [if_pos h1]
  unfold int32Max at h1
  exact Int.bmod_eq_of_le (by omega) (by omega)

theorem clampTo_of_nonneg {n : Int} (h0 : 0 ≤ n) : clampTo n = min n int32Max := by
  rcases le_or_gt n int32Max with h | h
  · rw [clampTo_of_mem h0 h, min_eq_left h]
  · rw [clampTo, if_neg (not_le.mpr h), min_eq_right h.le]

/-- Between whole seconds `elapsed_seconds` is the exact difference, cut off at the largest
32-bit value. -/
theorem elapsedSeconds_eq {now n : Int} {current : Int} (h : current = now + seconds n)
    (hn : 0 ≤ n) : elapsedSeconds current now = min n int32Max := by
  subst h
  rw [elapsedSeconds, add_sub_cancel_left, durationCastSeconds_seconds, clampTo_of_nonneg hn]

end EverestCore.Ocpp
