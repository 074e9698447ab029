import EverestCore.Lib.OrderedMap
import Mathlib.Data.String.Basic

/-!
# JSON values and their text

The values of a JSON library, the objects with their members in the order of the keys, and the
compact text such a value is written as.

Results:
* `byteSize_string`: a string without anything to escape takes its own bytes and two quotes.
* `byteSize_array`, `byteSize_object`: brackets, separators and parts of a value that has parts.
-/

namespace EverestCore.Lib

open String List

/-- A JSON value. A number is kept as the text it is written as. -/
inductive Json where
  | null
  | bool (b : Bool)
  | number (text : String)
  | string (s : String)
  | array (elements : List Json)
  | object (members : List (String × Json))

namespace Json

/-- The number an integer is written as. -/
def int (n : Int) : Json := .number (toString n)

/-- `j[key] = value`. Only an object or `null` can be indexed by a key. -/
def setMember (j : Json) (key : String) (value : Json) : Json :=
  match j with
  | .object members => .object (OrderedMap.insertEntry key value members)
  | .null => .object [(key, value)]
  | j => j

/-- The object with the listed members. -/
def ofMembers (members : List (String × Json)) : Json :=
  members.foldl (fun j m => j.setMember m.1 m.2) (.object [])

/-- The member under a key. -/
def member? (j : Json) (key : String) : Option Json :=
  match j with
  | .object members => (members.find? (·.1 = key)).map (·.2)
  | _ => none

/-- The elements of an array; no others have any. -/
def elements : Json → List Json
  | .array js => js
  | _ => []

/-! ## The text -/

/-- What is not copied into the text of a string: the quote, the backslash, control characters. -/
def Escaped (c : Char) : Prop := c.toNat = 0x22 ∨ c.toNat = 0x5c ∨ c.toNat < 0x20

instance : DecidablePred Escaped := fun c => by unfold Escaped; infer_instance

def escapeChar (c : Char) : List Char :=
  if c.toNat = 0x22 then "\\\"".toList
  else if c.toNat = 0x5c then "\\\\".toList
  else if c.toNat = 0x08 then "\\b".toList
  else if c.toNat = 0x09 then "\\t".toList
  else if c.toNat = 0x0a then "\\n".toList
  else if c.toNat = 0x0c then "\\f".toList
  else if c.toNat = 0x0d then "\\r".toList
  else if c.toNat < 0x20 then
    "\\u00".toList ++ [Nat.digitChar (c.toNat / 16), Nat.digitChar (c.toNat % 16)]
  else [c]

def quote (s : String) : String := "\"" ++ ofList (s.toList.flatMap escapeChar) ++ "\""

/-- The texts one after the other with commas between them. -/
def commaSeparated : List String → String
  | [] => ""
  | [t] => t
  | t :: u :: ts => t ++ "," ++ commaSeparated (u :: ts)

mutual

/-- The text of a value. -/
def dump : Json → String
  | .null => "null"
  | .bool b => if b then "true" else "false"
  | .number text => text
  | .string s => quote s
  | .array js => "[" ++ commaSeparated (dumpElements js) ++ "]"
  | .object ms => "\x7b" ++ commaSeparated (dumpMembers ms) ++ "\x7d"

def dumpElements : List Json → List String
  | [] => []
  | j :: js => dump j :: dumpElements js

def dumpMembers : List (String × Json) → List String
  | [] => []
  | (k, j) :: ms => (quote k ++ ":" ++ dump j) :: dumpMembers ms

end

/-- The number of bytes of the text. -/
def byteSize (j : Json) : Nat := j.dump.utf8ByteSize

/-! ## Sizes -/

theorem escapeChar_of_not_escaped {c : Char} (h : ¬ Escaped c) : escapeChar c = [c] := by
  obtain ⟨h1, h2, h3⟩ : c.toNat ≠ 0x22 ∧ c.toNat ≠ 0x5c ∧ ¬ c.toNat < 0x20 := by
    simpa only [Escaped, not_or] using h
  rw [escapeChar, if_neg h1, if_neg h2, if_neg (by omega), if_neg (by omega), if_neg (by omega),
    if_neg (by omega), if_neg (by omega), if_neg h3]

/-- A string with nothing to escape is copied between the quotes. -/
theorem quote_of_plain {s : String} (h : ∀ c ∈ s.toList, ¬ Escaped c) :
    quote s = "\"" ++ s ++ "\"" := by
  have hco : s.toList.flatMap escapeChar = s.toList := by
    rw [flatMap_congr fun c hc => escapeChar_of_not_escaped (h c hc)]
    exact flatMap_singleton' _
  rw [quote, hco, ofList_toList]

theorem byteSize_string {s : String} (h : ∀ c ∈ s.toList, ¬ Escaped c) :
    byteSize (.string s) = s.utf8ByteSize + 2 := by
  rw [byteSize, dump, quote_of_plain h, utf8ByteSize_append, utf8ByteSize_append]
  have hq : "\"".utf8ByteSize = 1 := rfl
  omega

theorem size_commaSeparated {ts : List String} (h : ts ≠ []) :
    (commaSeparated ts).utf8ByteSize + 1 = (ts.map (·.utf8ByteSize + 1)).sum := by
  induction ts with
  | nil => exact absurd rfl h
  | cons t ts ih =>
    cases ts with
    | nil => simp [commaSeparated]
    | cons u ts =>
      have hc : ",".utf8ByteSize = 1 := rfl
      rw [commaSeparated, utf8ByteSize_append, utf8ByteSize_append, map_cons,
        sum_cons, ← ih (by simp)]
      omega

theorem dumpElements_eq (js : List Json) : dumpElements js = js.map dump := by
  induction js with
  | nil => rfl
  | cons j js ih => rw [dumpElements, ih, map_cons]

/-- The bytes of a member, with the colon. -/
def memberSize (m : String × Json) : Nat := (quote m.1).utf8ByteSize + 1 + byteSize m.2

theorem dumpMembers_sizes (ms : List (String × Json)) :
    (dumpMembers ms).map (·.utf8ByteSize + 1) = ms.map (memberSize · + 1) := by
  induction ms with
  | nil => rfl
  | cons m ms ih =>
    have hc : ":".utf8ByteSize = 1 := rfl
    rw [dumpMembers, map_cons, ih, map_cons, utf8ByteSize_append,
      utf8ByteSize_append, hc, memberSize, byteSize]

theorem byteSize_array {js : List Json} (h : js ≠ []) :
    byteSize (.array js) = 1 + (js.map (byteSize · + 1)).sum := by
  have hne : js.map dump ≠ [] := by simpa using h
  have hs := size_commaSeparated hne
  rw [List.map_map] at hs
  have hop : "[".utf8ByteSize = 1 := rfl
  have hcl : "]".utf8ByteSize = 1 := rfl
  rw [byteSize, dump, dumpElements_eq, utf8ByteSize_append, utf8ByteSize_append]
  have hsum : (js.map (byteSize · + 1)).sum
      = (js.map ((fun t : String => t.utf8ByteSize + 1) ∘ dump)).sum := rfl
  omega

theorem byteSize_object {ms : List (String × Json)} (h : ms ≠ []) :
    byteSize (.object ms) = 1 + (ms.map (memberSize · + 1)).sum := by
  have hne : dumpMembers ms ≠ [] := by
    obtain ⟨m, ms, rfl⟩ := exists_cons_of_ne_nil h
    simp [dumpMembers]
  have hs := size_commaSeparated hne
  rw [dumpMembers_sizes] at hs
  have hop : "\x7b".utf8ByteSize = 1 := rfl
  have hcl : "\x7d".utf8ByteSize = 1 := rfl
  rw [byteSize, dump, utf8ByteSize_append, utf8ByteSize_append]
  omega

end Json

end EverestCore.Lib
