import Mathlib.Data.List.Basic

/-!
# Topics and topic filters

The handlers of errors and of external messages are registered under a topic filter.
`check_topic_matches` scans the topic and the filter with one cursor each; here a cursor is the text
that is left.

* `nextLevel`: the two searches for a separator. `matchLevels`: the loop.
* `LevelsMatch`: what a filter means, on the levels between the separators.

Result: **`checkTopicMatches_iff`**, for the filters that are valid.
-/

namespace EverestCore.Framework

open List

/-- The level at the cursor, and the text behind the separator that ends it, if one does. -/
def nextLevel : List Char → List Char × Option (List Char)
  | [] => ([], none)
  | c :: text =>
    if c = '/' then ([], some text) else (c :: (nextLevel text).1, (nextLevel text).2)

theorem length_of_nextLevel {text rest : List Char} (h : (nextLevel text).2 = some rest) :
    rest.length < text.length := by
  induction text with
  | nil => cases h
  | cons c text ih =>
    rw [nextLevel] at h
    split_ifs at h
    · cases h
      exact Nat.lt_succ_self _
    · exact Nat.lt_succ_of_lt (ih h)

/-- The loop of `check_topic_matches`. -/
def matchLevels (full wildcard : List Char) : Bool :=
  if wildcard = [] then full.isEmpty
  else if wildcard.head? = some '#' then true
  else if (nextLevel wildcard).1 ≠ ['+'] ∧ (nextLevel wildcard).1 ≠ (nextLevel full).1 then false
  else
    match _h : (nextLevel wildcard).2, (nextLevel full).2 with
    | none, next => next.isNone
    | some rest, none => rest == ['#']
    | some rest, some next => matchLevels next rest
termination_by wildcard.length
decreasing_by exact length_of_nextLevel ‹_›

def checkTopicMatches (fullTopic wildcardTopic : List Char) : Bool :=
  fullTopic == wildcardTopic || matchLevels fullTopic wildcardTopic

/-! ## What a filter means -/

def levels (text : List Char) : List (List Char) := text.splitOn '/'

/-- `#` stands only as the whole last level, `+` only as a whole level. -/
structure ValidFilter (fs : List (List Char)) : Prop where
  plus : ∀ f ∈ fs, '+' ∈ f → f = ['+']
  hash : ∀ f ∈ fs, '#' ∈ f → f = ['#']
  last : ['#'] ∉ fs.dropLast

/-- The levels of a topic match those of a filter. -/
inductive LevelsMatch : List (List Char) → List (List Char) → Prop
  | nil : LevelsMatch [] []
  | multi (ts : List (List Char)) : LevelsMatch ts [['#']]
  | single {ts fs} (t : List Char) : LevelsMatch ts fs → LevelsMatch (t :: ts) (['+'] :: fs)
  | self {ts fs} (t : List Char) : LevelsMatch ts fs → LevelsMatch (t :: ts) (t :: fs)

variable {full wildcard t f : List Char} {ts fs : List (List Char)}

theorem LevelsMatch.refl : ∀ ts, LevelsMatch ts ts
  | [] => nil
  | t :: ts => self t (refl ts)

theorem levelsMatch_cons (hf : f ≠ ['#']) :
    LevelsMatch (t :: ts) (f :: fs) ↔ ¬ (f ≠ ['+'] ∧ f ≠ t) ∧ LevelsMatch ts fs := by
  constructor
  · intro h
    cases h with
    | multi => exact absurd rfl hf
    | single _ h => exact ⟨fun hn => hn.1 rfl, h⟩
    | self _ h => exact ⟨fun hn => hn.2 rfl, h⟩
  · rintro ⟨hn, h⟩
    by_cases hp : f = ['+']
    · exact hp ▸ .single t h
    · obtain rfl : f = t := by_contra fun ht => hn ⟨hp, ht⟩
      exact .self f h

theorem LevelsMatch.eq_nil (h : LevelsMatch ts []) : ts = [] := by
  cases h
  rfl

theorem LevelsMatch.eq_hash (h : LevelsMatch [] fs) : fs = [] ∨ fs = [['#']] := by
  cases h with
  | nil => exact .inl rfl
  | multi => exact .inr rfl

/-- The separators cut the text where the searches of the loop do. -/
theorem levels_eq (text : List Char) :
    levels text = (nextLevel text).1 :: ((nextLevel text).2.map levels).getD [] := by
  induction text with
  | nil => rfl
  | cons c text ih =>
    rw [levels, splitOn, splitOnP_cons_eq_if_modifyHead, nextLevel]
    by_cases hc : c = '/'
    · simp [hc, levels, splitOn]
    · rw [levels, splitOn] at ih
      simp [hc, ih]

theorem levels_ne_nil (text : List Char) : levels text ≠ [] := by
  rw [levels_eq]
  exact cons_ne_nil _ _

/-- A text of one level is that level. -/
theorem levels_eq_singleton {text : List Char} (h : levels text = [t]) : text = t := by
  have hj : ['/'].intercalate (levels text) = text := intercalate_splitOn '/'
  rw [h] at hj
  simpa using hj.symm

theorem head_of_nextLevel {text : List Char} {c : Char} (h : (nextLevel text).1 = c :: t) :
    text.head? = some c := by
  cases text with
  | nil => cases h
  | cons d text =>
    rw [nextLevel] at h
    split_ifs at h
    cases h
    rfl

theorem ValidFilter.tail (hv : ValidFilter (f :: fs)) (hne : fs ≠ []) : ValidFilter fs where
  plus f' hf := hv.plus f' (mem_cons_of_mem f hf)
  hash f' hf := hv.hash f' (mem_cons_of_mem f hf)
  last hm := hv.last (dropLast_cons_of_ne_nil hne ▸ mem_cons_of_mem f hm)

/-- One round of the loop, where the filter has a level that is not `#`. -/
theorem levelsMatch_step (hh : ¬ wildcard.head? = some '#') :
    LevelsMatch (levels full) (levels wildcard) ↔
      ¬ ((nextLevel wildcard).1 ≠ ['+'] ∧ (nextLevel wildcard).1 ≠ (nextLevel full).1) ∧
        LevelsMatch (((nextLevel full).2.map levels).getD [])
          (((nextLevel wildcard).2.map levels).getD []) := by
  rw [levels_eq full, levels_eq wildcard]
  exact levelsMatch_cons fun he => hh (head_of_nextLevel he)

/-- The loop compares the levels one by one. -/
theorem matchLevels_iff (hv : ValidFilter (levels wildcard)) :
    matchLevels full wildcard = true ↔ LevelsMatch (levels full) (levels wildcard) := by
  fun_induction matchLevels full wildcard with
  | case1 full =>
    rw [List.isEmpty_iff]
    constructor
    · rintro rfl
      exact .refl _
    · intro h
      refine levels_eq_singleton (t := []) ?_
      change LevelsMatch (levels full) [[]] at h
      generalize levels full = ts at h ⊢
      obtain _ | _ | _ | ⟨_, ⟨⟩⟩ := h
      rfl
  | case2 full wildcard hw hh =>
    obtain ⟨text, rfl⟩ := head?_eq_some_iff.1 hh
    rw [levels_eq ('#' :: text)] at hv ⊢
    have hl := hv.hash _ (mem_cons_self ..) (by simp [nextLevel])
    rw [hl] at hv ⊢
    -- a `#` level that another one follows is not the last
    have hlast := hv.last
    generalize ((nextLevel ('#' :: text)).2.map levels).getD [] = fs at hlast ⊢
    cases fs with
    | nil => exact iff_of_true rfl (.multi _)
    | cons f fs => exact absurd (mem_cons_self ..) hlast
  | case3 full wildcard hw hh hn =>
    rw [levelsMatch_step hh]
    simp [hn]
  | case4 full wildcard hw hh hn hr =>
    rw [levelsMatch_step hh, hr]
    cases (nextLevel full).2 with
    | none => simp [hn, LevelsMatch.nil]
    | some next =>
      exact iff_of_false Bool.false_ne_true fun h => levels_ne_nil next h.2.eq_nil
  | case5 full wildcard hw hh hn rest hr hf =>
    rw [levelsMatch_step hh, hr, hf, beq_iff_eq]
    constructor
    · rintro rfl
      exact ⟨hn, .multi []⟩
    · intro h
      exact levels_eq_singleton (h.2.eq_hash.resolve_left (levels_ne_nil rest))
  | case6 full wildcard hw hh hn rest next hr hf ih =>
    rw [levels_eq wildcard, hr] at hv
    rw [ih (hv.tail (levels_ne_nil rest)), levelsMatch_step hh, hr, hf]
    exact (and_iff_right hn).symm

/-- **The scan decides whether the topic matches the filter**, level by level. -/
theorem checkTopicMatches_iff (fullTopic wildcardTopic : List Char)
    (hv : ValidFilter (levels wildcardTopic)) :
    checkTopicMatches fullTopic wildcardTopic = true ↔
      LevelsMatch (levels fullTopic) (levels wildcardTopic) := by
  rw [checkTopicMatches, Bool.or_eq_true, beq_iff_eq, matchLevels_iff hv]
  refine or_iff_right_of_imp ?_
  rintro rfl
  exact .refl _

/-- `+/a/#` matches `/a`, which has an empty level and nothing for the `#`. -/
theorem checkTopicMatches_empty_level :
    checkTopicMatches ['/', 'a'] ['+', '/', 'a', '/', '#'] = true :=
  (checkTopicMatches_iff _ _ ⟨by decide, by decide, by decide⟩).2
    (.single [] (.self ['a'] (.multi [])))

end EverestCore.Framework
