import Mathlib.Data.List.Sort

/-!
# `std::sort`

`std::sort` with a comparator promises a permutation of its input in which no element is less
than an element before it. It is not stable: elements that the comparator does not separate may
come out in any order. `StdSort less` is therefore any function with these two properties, and a
result about code that sorts is stated for all of them.

* `StdSort.insertion`: one such function, for a comparator that is a strict weak order;
  `StdSort.byKey` and `StdSort.byFallingKey` for one that compares a key.
* `StdSort.le_of_find?`: in a list sorted by a falling key the first element with a property has
  the largest key among the elements with that property.
-/

namespace EverestCore.Lib

/-- A sorting function for the comparator `less`. -/
structure StdSort {α : Type} (less : α → α → Bool) where
  sort : List α → List α
  perm : ∀ l, (sort l).Perm l
  ordered : ∀ l, (sort l).Pairwise fun a b => less b a = false

namespace StdSort

variable {α : Type}

/-- Insertion sort by the negation of a comparator that is a strict weak order. -/
def insertion (less : α → α → Bool) (total : ∀ a b, less b a = false ∨ less a b = false)
    (trans : ∀ a b c, less b a = false → less c b = false → less c a = false) :
    StdSort less where
  sort l := l.insertionSort fun a b => less b a = false
  perm l := List.perm_insertionSort _ l
  ordered l := by
    have : Std.Total fun a b : α => less b a = false := ⟨total⟩
    have : IsTrans α fun a b : α => less b a = false := ⟨trans⟩
    exact List.pairwise_insertionSort (fun a b : α => less b a = false) l

/-- Insertion sort by a rising key. -/
def byKey {κ : Type} [LinearOrder κ] (key : α → κ) : StdSort fun a b => decide (key a < key b) :=
  insertion _ (fun a b => by simpa using le_total (key a) (key b))
    fun a b c hab hbc => by
      simp only [decide_eq_false_iff_not, not_lt] at hab hbc ⊢
      exact hab.trans hbc

/-- Insertion sort by a falling key. -/
def byFallingKey {κ : Type} [LinearOrder κ] (key : α → κ) :
    StdSort fun a b => decide (key a > key b) :=
  insertion _ (fun a b => by simpa using le_total (key b) (key a))
    fun a b c hab hbc => by
      simp only [decide_eq_false_iff_not, not_lt] at hab hbc ⊢
      exact hbc.trans hab

theorem mem_sort {less : α → α → Bool} (s : StdSort less) {l : List α} {a : α} :
    a ∈ s.sort l ↔ a ∈ l := (s.perm l).mem_iff

/-- The first element with the property `p` has the largest key among those with it. -/
theorem le_of_find? {κ : Type} [LinearOrder κ] {key : α → κ}
    (s : StdSort fun a b => decide (key a > key b)) {l : List α} {p : α → Bool} {e x : α}
    (he : (s.sort l).find? p = some e) (hx : x ∈ l) (hpx : p x) : key x ≤ key e := by
  obtain ⟨-, pre, post, hs, hpre⟩ := List.find?_eq_some_iff_append.mp he
  have hord := s.ordered l
  rw [hs] at hord
  have hx' : x ∈ pre ++ e :: post := hs ▸ s.mem_sort.mpr hx
  rcases List.mem_append.mp hx' with hx' | hx'
  · exact absurd hpx (by simpa using hpre x hx')
  · rcases List.mem_cons.mp hx' with rfl | hx'
    · exact le_rfl
    · have := (List.pairwise_cons.mp (List.pairwise_append.mp hord).2.1).1 x hx'
      simpa using this

end StdSort

end EverestCore.Lib
