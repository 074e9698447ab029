import Mathlib.Data.List.Infix
import Mathlib.Tactic.Linarith

/-!
# A ledger over a tree with limits in two directions

The nodes of a tree are addressed by their paths, leaf first: `k :: p` is the `k`-th child of `p`
and `[]` is the root. An entry is posted to a node and to all nodes above it.

A node may have a limit on its net position in either direction. What is left upwards is the
limit less the net position when that is positive, and the same downwards, so that a position in
one direction never enlarges what is left in the other.
-/

namespace EverestCore.Lib.PathLedger

section Post

variable {ι α β : Type} [DecidableEq ι]

/-- Post `x` to the account of a node, then to its parent's. -/
def post (add : α → β → α) : List ι → β → (List ι → α) → List ι → α
  | [], x, acc => Function.update acc [] (add (acc []) x)
  | k :: p, x, acc => post add p x (Function.update acc (k :: p) (add (acc (k :: p)) x))

/-- **A posting reaches the suffixes of its path**, each of them once. -/
theorem post_eq (add : α → β → α) (x : β) : ∀ (p : List ι) (acc : List ι → α) (q : List ι),
    post add p x acc q = if q <:+ p then add (acc q) x else acc q
  | [], acc, q => by
    rw [post, Function.update_apply]
    by_cases h : q = []
    · subst h
      rw [if_pos rfl, if_pos List.nil_suffix]
    · rw [if_neg h, if_neg (by rwa [List.suffix_nil])]
  | k :: p, acc, q => by
    rw [post, post_eq add x p]
    by_cases hp : q <:+ p
    · have hne : q ≠ k :: p := fun h => by
        have := hp.length_le
        rw [h] at this
        simp at this
      rw [if_pos hp, if_pos (hp.trans (List.suffix_cons k p)), Function.update_of_ne hne]
    · rw [if_neg hp, Function.update_apply]
      by_cases h : q = k :: p
      · subst h
        rw [if_pos rfl, if_pos (List.suffix_refl _)]
      · rw [if_neg h, if_neg fun hs => (List.suffix_cons_iff.mp hs).elim h hp]

end Post

section Limits

variable {α : Type}

/-- The tighter limits are stated wherever the wider ones are. -/
def Tighter [LinearOrder α] (l l' : Option α) : Prop := ∀ w ∈ l', ∃ t ∈ l, t ≤ w

theorem Tighter.trans [LinearOrder α] {a b c : Option α} (h1 : Tighter a b) (h2 : Tighter b c) :
    Tighter a c :=
  fun w hw => by
    obtain ⟨u, hu, huw⟩ := h2 w hw
    obtain ⟨t, ht, htu⟩ := h1 u hu
    exact ⟨t, ht, htu.trans huw⟩

variable [AddCommGroup α] [LinearOrder α]

/-- The net position `s` keeps the limits `down` and `up`, where they are stated. A limit below
zero counts as zero. -/
def Within (down up : Option α) (s : α) : Prop :=
  (∀ u ∈ up, s ≤ max u 0) ∧ (∀ d ∈ down, -max d 0 ≤ s)

/-- The amount `x` is nothing, or goes up by no more than `up`, or goes down by no more than
`down`. -/
def Admissible (down up : Option α) (x : α) : Prop :=
  x = 0 ∨ (0 ≤ x ∧ ∀ u ∈ up, x ≤ u) ∨ (x ≤ 0 ∧ ∀ d ∈ down, -x ≤ d)

/-- What is left of the limit `l` in a direction in which the net position is `s`. -/
def remaining (l s : α) : α := l - max s 0

theorem Admissible.mono {down up down' up' : Option α} {x : α} (h : Admissible down up x)
    (hd : Tighter down down') (hu : Tighter up up') : Admissible down' up' x := by
  rcases h with h | ⟨h0, h⟩ | ⟨h0, h⟩
  · exact Or.inl h
  · refine Or.inr (Or.inl ⟨h0, fun u hu' => ?_⟩)
    obtain ⟨t, ht, hle⟩ := hu u hu'
    exact (h t ht).trans hle
  · refine Or.inr (Or.inr ⟨h0, fun d hd' => ?_⟩)
    obtain ⟨t, ht, hle⟩ := hd d hd'
    exact (h t ht).trans hle

variable [IsOrderedAddMonoid α]

theorem within_zero (down up : Option α) : Within down up (0 : α) :=
  ⟨fun _ _ => le_max_right _ _, fun _ _ => neg_nonpos.mpr (le_max_right _ _)⟩

theorem add_le_of_le_remaining {u s x : α} (h : x ≤ remaining u s) : s + x ≤ u := by
  have h1 : x + max s 0 ≤ u := le_sub_iff_add_le.mp h
  calc s + x ≤ max s 0 + x := by gcongr; exact le_max_left s 0
    _ = x + max s 0 := add_comm _ _
    _ ≤ u := h1

/-- **An admissible amount keeps the limits.** -/
theorem within_add {down up : Option α} {s x : α} (h : Within down up s)
    (hx : Admissible (down.map fun d => remaining d (-s)) (up.map fun u => remaining u s) x) :
    Within down up (s + x) := by
  rcases hx with rfl | ⟨h0, hle⟩ | ⟨h0, hle⟩
  · rwa [add_zero]
  · refine ⟨fun u hu => ?_, fun d hd => (h.2 d hd).trans (le_add_of_nonneg_right h0)⟩
    have hrem := hle _ (Option.mem_map_of_mem _ hu)
    exact (add_le_of_le_remaining hrem).trans (le_max_left _ _)
  · refine ⟨fun u hu => (add_le_of_nonpos_right h0).trans (h.1 u hu), fun d hd => ?_⟩
    have hrem := hle _ (Option.mem_map_of_mem _ hd)
    have hd' : -s + -x ≤ d := add_le_of_le_remaining hrem
    rw [← neg_add] at hd'
    exact neg_le.mp (hd'.trans (le_max_left d 0))

end Limits

end EverestCore.Lib.PathLedger
