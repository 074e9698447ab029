import Mathlib.Algebra.BigOperators.Group.List.Basic
import Mathlib.Tactic.Ring

/-!
# Greedy batches

A list is cut into batches, each with a budget of its own. A batch takes its first element
whatever that costs, and then elements for as long as they fit.

Results:
* `next_append`, `length_next_lt`: one batch cuts the list and takes something of it.
* `next_within`: a batch of more than one element is within its budget.
* `flatten_batches`: nothing is lost and nothing changes its place.
* `batches_within`: a batch of a list is within the budget of its number.
* `batches_replicate`: equal elements of which a fixed number fits.
-/

namespace EverestCore.Lib.Batching

open List

variable {α : Type*} (cost : α → Nat)

/-- What still fits into a batch that has used up `used`, and what is left. -/
def fill (budget : Nat) : Nat → List α → List α × List α
  | _, [] => ([], [])
  | used, a :: rest =>
    if used + cost a ≤ budget then
      (a :: (fill budget (used + cost a) rest).1, (fill budget (used + cost a) rest).2)
    else ([], a :: rest)

/-- One batch: the first element, and whatever fits beside it. `opening` is what a batch costs
besides its elements. -/
def next (opening budget : Nat) : List α → List α × List α
  | [] => ([], [])
  | a :: rest =>
    (a :: (fill cost budget (opening + cost a) rest).1,
      (fill cost budget (opening + cost a) rest).2)

/-- The cost of a batch. -/
def batchCost (opening : Nat) (batch : List α) : Nat := opening + (batch.map cost).sum

variable {cost} {opening budget used : Nat} {l : List α}

theorem fill_append : (fill cost budget used l).1 ++ (fill cost budget used l).2 = l := by
  induction l generalizing used with
  | nil => rfl
  | cons a rest ih =>
    rw [fill]
    by_cases h : used + cost a ≤ budget
    · rw [if_pos h]
      exact congrArg (a :: ·) ih
    · rw [if_neg h]
      rfl

theorem fill_within (h : (fill cost budget used l).1 ≠ []) :
    used + ((fill cost budget used l).1.map cost).sum ≤ budget := by
  induction l generalizing used with
  | nil => exact absurd rfl h
  | cons a rest ih =>
    rw [fill] at h ⊢
    by_cases hf : used + cost a ≤ budget
    · rw [if_pos hf, map_cons, sum_cons]
      by_cases hm : (fill cost budget (used + cost a) rest).1 = []
      · rw [hm, map_nil, sum_nil]
        exact hf
      · have := ih hm
        omega
    · rw [if_neg hf] at h
      exact absurd rfl h

theorem next_append : (next cost opening budget l).1 ++ (next cost opening budget l).2 = l := by
  cases l with
  | nil => rfl
  | cons a rest => exact congrArg (a :: ·) fill_append

theorem next_ne_nil (h : l ≠ []) : (next cost opening budget l).1 ≠ [] := by
  obtain ⟨a, rest, rfl⟩ := exists_cons_of_ne_nil h
  exact cons_ne_nil _ _

theorem length_next_lt (h : l ≠ []) : (next cost opening budget l).2.length < l.length := by
  have hlen : ((next cost opening budget l).1 ++ (next cost opening budget l).2).length
      = l.length := congrArg List.length next_append
  have hpos : 0 < (next cost opening budget l).1.length :=
    length_pos_of_ne_nil (next_ne_nil h)
  rw [length_append] at hlen
  omega

/-- A batch that took more than its first element is within its budget. -/
theorem next_within (h : 1 < (next cost opening budget l).1.length) :
    batchCost cost opening (next cost opening budget l).1 ≤ budget := by
  cases l with
  | nil => exact absurd h (by simp [next])
  | cons a rest =>
    have hm : (fill cost budget (opening + cost a) rest).1 ≠ [] := by
      intro hnil
      rw [next, hnil] at h
      exact absurd h (by simp)
    have := fill_within hm
    rw [next, batchCost, map_cons, sum_cons]
    omega

/-! ## All batches of a list -/

section Batches

variable (cost) (opening) (budgetOf : Nat → Nat)

/-- The batches of a list, the first of them the `k`-th. -/
def batches (k : Nat) (l : List α) : List (List α) :=
  if h : l = [] then []
  else (next cost opening (budgetOf k) l).1 ::
    batches (k + 1) (next cost opening (budgetOf k) l).2
termination_by l.length
decreasing_by exact length_next_lt h

@[simp] theorem batches_nil (k : Nat) : batches cost opening budgetOf k ([] : List α) = [] := by
  rw [batches, dif_pos rfl]

theorem batches_of_ne_nil {l : List α} (k : Nat) (h : l ≠ []) :
    batches cost opening budgetOf k l = (next cost opening (budgetOf k) l).1 ::
      batches cost opening budgetOf (k + 1) (next cost opening (budgetOf k) l).2 := by
  rw [batches, dif_neg h]

end Batches

variable {budgetOf : Nat → Nat} {k : Nat}

theorem batches_eq_nil : batches cost opening budgetOf k l = [] ↔ l = [] := by
  constructor
  · intro h
    by_contra hne
    rw [batches_of_ne_nil cost opening budgetOf k hne] at h
    exact cons_ne_nil _ _ h
  · rintro rfl
    exact batches_nil cost opening budgetOf k

theorem flatten_batches : (batches cost opening budgetOf k l).flatten = l := by
  induction k, l using batches.induct cost opening budgetOf with
  | case1 k => simp
  | case2 k l h ih =>
    rw [batches_of_ne_nil cost opening budgetOf k h, flatten_cons, ih]
    exact next_append

/-- A batch of more than one element is within the budget of its number. -/
theorem batches_within {i : Nat} {batch : List α}
    (h : (batches cost opening budgetOf k l)[i]? = some batch) (hlen : 1 < batch.length) :
    batchCost cost opening batch ≤ budgetOf (k + i) := by
  induction k, l using batches.induct cost opening budgetOf generalizing i with
  | case1 k => simp at h
  | case2 k l hne ih =>
    rw [batches_of_ne_nil cost opening budgetOf k hne] at h
    cases i with
    | zero =>
      obtain rfl : _ = batch := Option.some.inj h
      exact next_within hlen
    | succ i =>
      have := ih h
      rwa [Nat.add_right_comm, Nat.add_assoc] at this

/-! ## Equal elements -/

section Replicate

variable {a : α} {n : Nat}

theorem fill_replicate {rest : Nat} (hf : used + n * cost a ≤ budget)
    (hfu : budget < used + (n + 1) * cost a) :
    fill cost budget used (List.replicate (n + rest) a)
      = (List.replicate n a, List.replicate rest a) := by
  induction n generalizing used with
  | zero =>
    cases rest with
    | zero => rfl
    | succ rest =>
      rw [Nat.zero_add, replicate_succ, fill, if_neg (by omega)]
      rfl
  | succ n ih =>
    have hmul : (n + 1) * cost a = cost a + n * cost a := by ring
    have hm : (n + 1 + 1) * cost a = cost a + (n + 1) * cost a := by ring
    have hone : used + cost a ≤ budget := by
      omega
    rw [Nat.add_right_comm, replicate_succ, fill, if_pos hone, ih (by omega) (by omega)]
    rfl

/-- Where each budget holds `n + 1` of the equal elements and no more, that is what each batch
has. -/
theorem batches_replicate {m : Nat} (hf : ∀ k, opening + (n + 1) * cost a ≤ budgetOf k)
    (hfu : ∀ k, budgetOf k < opening + (n + 2) * cost a) :
    batches cost opening budgetOf k (List.replicate (m * (n + 1)) a)
      = List.replicate m (List.replicate (n + 1) a) := by
  induction m generalizing k with
  | zero => simp
  | succ m ih =>
    have hlen : (m + 1) * (n + 1) = n + m * (n + 1) + 1 := by ring
    have hmul : (n + 1) * cost a = cost a + n * cost a := by ring
    have hm : (n + 2) * cost a = cost a + (n + 1) * cost a := by ring
    have hk := hf k
    have hk2 := hfu k
    rw [hlen, replicate_succ, batches_of_ne_nil cost opening budgetOf k (by simp), next,
      fill_replicate (by omega) (by omega), ih]
    rfl

end Replicate

end EverestCore.Lib.Batching
