import Mathlib.Algebra.Order.Ring.Rat

/-!
# Floating point values

The values of a binary floating point type as far as comparisons and rounded operations go: not a
number, the two infinities, and the finite ones as rationals. The two zeros are one value, which a
division takes as the positive one. What an exact result is rounded to is a parameter.

* `lt`, `ne`: `<` and `!=`; both are as the standard has them for `nan`.
* `minimum`, `maximum`: `std::min` and `std::max`, which return their first argument unless the
  comparison holds.
* `mul`, `div`: the rounded operations.

Result:
* `eq_of_ne_eq_false`: values that do not compare different are the same.
-/

namespace EverestCore.Lib

/-- A floating point value. -/
inductive FloatValue where
  | nan
  | infinite (negative : Bool)
  | finite (x : Rat)
deriving DecidableEq

namespace FloatValue

/-- `a < b`. -/
def lt : FloatValue → FloatValue → Bool
  | nan, _ => false
  | _, nan => false
  | infinite n, infinite m => n && !m
  | infinite n, finite _ => n
  | finite _, infinite m => !m
  | finite x, finite y => x < y

/-- `a != b`. -/
def ne : FloatValue → FloatValue → Bool
  | nan, _ => true
  | _, nan => true
  | a, b => a ≠ b

/-- `std::min`. -/
def minimum (a b : FloatValue) : FloatValue := if lt b a then b else a

/-- `std::max`. -/
def maximum (a b : FloatValue) : FloatValue := if lt a b then b else a

variable (round : Rat → FloatValue)

/-- The product of an infinity and a number. -/
def scaleInfinite (n : Bool) (x : Rat) : FloatValue :=
  if x = 0 then nan else infinite (n != decide (x < 0))

/-- `a * b`. -/
def mul : FloatValue → FloatValue → FloatValue
  | nan, _ => nan
  | _, nan => nan
  | infinite n, infinite m => infinite (n != m)
  | infinite n, finite y => scaleInfinite n y
  | finite x, infinite m => scaleInfinite m x
  | finite x, finite y => round (x * y)

/-- `a / b`. -/
def div : FloatValue → FloatValue → FloatValue
  | nan, _ => nan
  | _, nan => nan
  | infinite _, infinite _ => nan
  | infinite n, finite y => infinite (n != decide (y < 0))
  | finite _, infinite _ => finite 0
  | finite x, finite y =>
    if y = 0 then if x = 0 then nan else infinite (decide (x < 0)) else round (x / y)

theorem eq_of_ne_eq_false {a b : FloatValue} (h : ne a b = false) : a = b := by
  cases a <;> cases b <;> simp_all [ne]

end FloatValue

end EverestCore.Lib
