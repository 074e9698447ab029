import Mathlib.Data.Nat.Bitwise
import Mathlib.Data.UInt

/-!
# Words and bits on a byte wire

A 16-bit word goes over a wire as two bytes, and a row of bits as bytes that hold eight of them
each, the first one in the lowest bit.

Results:
* **`pack_bits`**: the bits of packed bytes.
-/

namespace EverestCore.Lib.WireWords

open List Nat

/-! ## Words -/

def hi (w : UInt16) : UInt8 := .ofNat (w.toNat / 256)

def lo (w : UInt16) : UInt8 := .ofNat w.toNat

def word (first second : UInt8) : UInt16 := .ofNat (first.toNat * 256 + second.toNat)

def bigEndian (w : UInt16) : List UInt8 := [hi w, lo w]

def littleEndian (w : UInt16) : List UInt8 := [lo w, hi w]

theorem toNat_hi (w : UInt16) : (hi w).toNat = w.toNat / 256 := by
  have hw : w.toNat < 65536 := w.toNat_lt
  have hdiv : w.toNat / 256 < 256 := by omega
  exact mod_eq_of_lt hdiv

theorem toNat_lo (w : UInt16) : (lo w).toNat = w.toNat % 256 := rfl

theorem toNat_word (first second : UInt8) :
    (word first second).toNat = first.toNat * 256 + second.toNat := by
  have h₁ : first.toNat < 256 := first.toNat_lt
  have h₂ : second.toNat < 256 := second.toNat_lt
  have hlt : first.toNat * 256 + second.toNat < 65536 := by omega
  exact mod_eq_of_lt hlt

@[simp]
theorem word_hi_lo (w : UInt16) : word (hi w) (lo w) = w := by
  rw [← UInt16.toNat_inj, toNat_word, toNat_hi, toNat_lo]
  omega

@[simp]
theorem hi_word (first second : UInt8) : hi (word first second) = first := by
  have h₂ : second.toNat < 256 := second.toNat_lt
  rw [← UInt8.toNat_inj, toNat_hi, toNat_word]
  omega

@[simp]
theorem lo_word (first second : UInt8) : lo (word first second) = second := by
  have h₂ : second.toNat < 256 := second.toNat_lt
  rw [← UInt8.toNat_inj, toNat_lo, toNat_word]
  omega

/-! ## Bits -/

/-- The bits of a byte, the lowest first. -/
def byteBits (byte : UInt8) : List Bool := (range 8).map byte.toNat.testBit

/-- `count` bytes with the bits `f 0`, `f 1`, ... -/
def pack (count : Nat) (f : Nat → Bool) : List UInt8 :=
  (range count).map fun j => .ofNat (ofBits fun b : Fin 8 => f (8 * j + b))

theorem length_pack (count : Nat) (f : Nat → Bool) : (pack count f).length = count := by
  rw [pack, length_map, length_range]

theorem byteBits_ofBits (f : Nat → Bool) :
    byteBits (.ofNat (ofBits fun b : Fin 8 => f b)) = (range 8).map f := by
  refine map_congr_left fun b hb => ?_
  have hb : b < 8 := mem_range.1 hb
  have hlt : (ofBits fun b : Fin 8 => f b) < 2 ^ 8 := ofBits_lt_two_pow _
  have hby : (UInt8.ofNat (ofBits fun b : Fin 8 => f b)).toNat =
      ofBits fun b : Fin 8 => f b := mod_eq_of_lt hlt
  rw [hby, testBit_ofBits_lt _ _ hb]

/-- **The bits of packed bytes** are those that were packed. -/
theorem pack_bits (count : Nat) (f : Nat → Bool) :
    (pack count f).flatMap byteBits = (range (8 * count)).map f := by
  induction count with
  | zero => rfl
  | succ count ih =>
    have hl : byteBits (.ofNat (ofBits fun b : Fin 8 => f (8 * count + b))) =
        ((range 8).map (8 * count + ·)).map f := by
      rw [byteBits_ofBits fun b => f (8 * count + b), map_map]
      rfl
    rw [pack, range_succ, map_append, flatMap_append, ← pack, ih, map_singleton,
      flatMap_singleton, hl, mul_succ, range_add, map_append]

end EverestCore.Lib.WireWords
