import EverestCore.PersistentSessionStorage.SessionStore
import Mathlib.Data.List.TakeWhile

/-!
# Continuation tokens of the session store

A page of sessions that more follow carries the token `<epoch>:<record id>`. Model of
`parse_continuation_token` and of the end of `get_sessions` in `storage/session_store.cpp`.

Results:
* `stoll_toDigits`: a number that was written is read again, up to its last character.
* `parse_continuationToken`: a token of the database stands for the record it was made of.
-/

namespace EverestCore.PersistentSessionStorage

open Nat List

/-- The eight random bytes that tell databases apart. -/
structure Epoch where
  bytes : List (Fin 256)
  length_eq : bytes.length = 8

/-- The two digits of `lower(hex(..))` for a byte. -/
def hexDigits (b : Fin 256) : List Char := [digitChar (b.1 / 16), digitChar (b.1 % 16)]

/-- The value of `EPOCH`. -/
def Epoch.text (epoch : Epoch) : String := String.ofList (epoch.bytes.flatMap hexDigits)

def isSpace (c : Char) : Bool := c.toNat = 0x20 ∨ 0x09 ≤ c.toNat ∧ c.toNat ≤ 0x0d

/-- The sign and the rest of the text after it. -/
def takeSign : List Char → Int × Nat × List Char
  | '-' :: cs => (-1, 1, cs)
  | '+' :: cs => (1, 1, cs)
  | cs => (1, 0, cs)

/-- `std::stoll`: the number at the start of the text and the characters read, nothing where it
throws because there is no digit or the number is out of range. -/
def stoll (text : List Char) : Option (Int × Nat) :=
  let spaces := text.takeWhile isSpace
  let (sign, signLength, rest) := takeSign (text.dropWhile isSpace)
  let digits := rest.takeWhile Char.isDigit
  let value := sign * ofDigitChars 10 digits 0
  if digits = [] ∨ value < -2 ^ 63 ∨ 2 ^ 63 ≤ value then none
  else some (value, spaces.length + signLength + digits.length)

/-- `epoch + ":" + std::to_string(last_seen_id)`. -/
def continuationToken (epoch : String) (lastSeenId : Nat) : String :=
  epoch ++ ":" ++ toString lastSeenId

/-- `parse_continuation_token`: 0 starts from the beginning. -/
def parseContinuationToken (epoch : String) (continuationToken : Option String) : Nat :=
  match continuationToken with
  | none => 0
  | some token =>
    match token.toList.findIdx? (· = ':') with
    | none => 0
    | some separator =>
      if token.toList.take separator ≠ epoch.toList then 0
      else
        let idText := token.toList.drop (separator + 1)
        match stoll idText with
        | none => 0
        | some (id, parsedCharacters) =>
          if parsedCharacters ≠ idText.length ∨ id ≤ 0 then 0 else id.toNat

/-! ## Reading a token back -/

theorem colon_notMem_hexDigits (b : Fin 256) : ':' ∉ hexDigits b := by
  have hd : ∀ n < 16, digitChar n ≠ ':' := by decide
  have h1 : ':' ≠ digitChar (b.1 / 16) := (hd _ (by omega)).symm
  have h2 : ':' ≠ digitChar (b.1 % 16) := (hd _ (by omega)).symm
  simp [hexDigits, h1, h2]

theorem Epoch.colon_notMem (epoch : Epoch) : ':' ∉ epoch.text.toList := by
  rw [Epoch.text, String.toList_ofList, mem_flatMap]
  rintro ⟨b, -, hb⟩
  exact colon_notMem_hexDigits b hb

theorem isSpace_of_isDigit {c : Char} (h : c.isDigit) : isSpace c = false := by
  have hr := Char.isDigit_iff_toNat.mp h
  have h0 : '0'.toNat = 48 := rfl
  simp only [isSpace, decide_eq_false_iff_not]
  omega

theorem takeSign_of_isDigit {c : Char} {cs : List Char} (h : c.isDigit) :
    takeSign (c :: cs) = (1, 0, c :: cs) := by
  unfold takeSign
  split
  · rename_i heq
    cases heq
    exact absurd h (by decide)
  · rename_i heq
    cases heq
    exact absurd h (by decide)
  · rfl

/-- The digits of a 64-bit number are read to the end and give the number. -/
theorem stoll_toDigits {n : Nat} (h : n ≤ maxRowId) :
    stoll (toDigits 10 n) = some ((n : Int), (toDigits 10 n).length) := by
  have hall : ∀ c ∈ toDigits 10 n, c.isDigit := fun c hc =>
    isDigit_of_mem_toDigits (by decide) (by decide) hc
  have hv : ofDigitChars 10 (toDigits 10 n) 0 = n := ofDigitChars_ten_toDigits
  obtain ⟨c, cs, hco⟩ := exists_cons_of_ne_nil (toDigits_ne_nil : toDigits 10 n ≠ [])
  rw [hco] at hall hv ⊢
  have hc : c.isDigit := hall c mem_cons_self
  have hs : isSpace c = false := isSpace_of_isDigit hc
  have hr : ¬ (c :: cs = [] ∨ (n : Int) < -2 ^ 63 ∨ 2 ^ 63 ≤ (n : Int)) := by
    have : n < 2 ^ 63 := by
      unfold maxRowId at h
      omega
    simp only [reduceCtorEq, false_or]
    omega
  simp only [stoll, takeWhile_cons_of_neg, dropWhile_cons_of_neg, hs, hc,
    takeSign_of_isDigit, takeWhile_eq_self_iff.mpr hall, hv, Bool.false_eq_true,
    not_false_eq_true, Int.one_mul, length_nil, zero_add]
  rw [if_neg hr]

/-- **A token of the database stands for the record it was made of.** -/
theorem parse_continuationToken (epoch : Epoch) {id : Nat} (hpos : 0 < id) (hmax : id ≤ maxRowId) :
    parseContinuationToken epoch.text (some (continuationToken epoch.text id)) = id := by
  have hl : (continuationToken epoch.text id).toList
      = epoch.text.toList ++ ':' :: toDigits 10 id := by
    simp [continuationToken]
  have hf : (epoch.text.toList ++ ':' :: toDigits 10 id).findIdx? (· = ':')
      = some epoch.text.toList.length := by
    have hno : epoch.text.toList.findIdx? (· = ':') = none := by
      rw [findIdx?_eq_none_iff]
      intro c hc
      exact decide_eq_false fun heq => epoch.colon_notMem (heq ▸ hc)
    rw [findIdx?_append, hno, findIdx?_cons, if_pos (by decide)]
    simp
  have hd : (epoch.text.toList ++ ':' :: toDigits 10 id).drop
      (epoch.text.toList.length + 1) = toDigits 10 id := by
    rw [← drop_drop, drop_left]
    rfl
  simp only [parseContinuationToken, hl, hf, take_left, hd, stoll_toDigits hmax,
    ne_eq, not_true_eq_false, if_false, false_or, Int.toNat_natCast]
  rw [if_neg (by omega)]

end EverestCore.PersistentSessionStorage
