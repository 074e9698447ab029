import Mathlib.Data.List.Basic

/-!
# A cursor into a list

A list with an index that names one of its elements. When elements are removed from the list, the
index keeps its value and is only brought back into the range (`cap`), so it may name another
element afterwards.

* `position`: the first index of an element.
* `cap`: the index, or the last one of the list where the list is shorter.
* `Settles`: removing the elements outside `keep` does not change what the index names, because
  none of them stands before it, or because no element after it stays.

Results:
* **`getElem?_filter_cap`**: under `Settles` the capped index names the same element of the
  shorter list.
-/

namespace EverestCore.Lib.Cursor

variable {α : Type}

/-- The first index at which `a` stands. -/
def position [DecidableEq α] (l : List α) (a : α) : Option Nat := l.findIdx? (· == a)

variable {l : List α} {a : α}

theorem getElem?_position [DecidableEq α] {i : Nat}
    (h : position l a = some i) : l[i]? = some a := by
  obtain ⟨hlt, heq, -⟩ := List.findIdx?_eq_some_iff_getElem.mp h
  rw [List.getElem?_eq_getElem hlt, beq_iff_eq.mp heq]

theorem position_of_mem [DecidableEq α] (h : a ∈ l) : ∃ i, position l a = some i := by
  cases hi : position l a with
  | some i => exact ⟨i, rfl⟩
  | none => exact absurd (List.findIdx?_eq_none_iff.mp hi a h) (by simp)

theorem mem_of_position [DecidableEq α] {i : Nat} (h : position l a = some i) : a ∈ l :=
  List.mem_of_getElem? (getElem?_position h)

/-- The index `i`, brought back into the range of `l`. -/
def cap (l : List α) (i : Nat) : Nat := if l.length ≤ i then l.length - 1 else i

/-- Removing what is not in `keep` leaves the element at `i` at its index, or as the last one. -/
def Settles (keep : α → Bool) (l : List α) (i : Nat) : Prop :=
  (∀ a ∈ l.take i, keep a) ∨ ∀ a ∈ l.drop (i + 1), ¬ keep a

instance (keep : α → Bool) (l : List α) (i : Nat) : Decidable (Settles keep l i) := by
  unfold Settles
  infer_instance

/-- **Where the removal settles, the capped index names the element that it named before.** -/
theorem getElem?_filter_cap {keep : α → Bool} {i : Nat}
    (hi : l[i]? = some a) (ha : keep a) (h : Settles keep l i) :
    (l.filter keep)[cap (l.filter keep) i]? = some a := by
  obtain ⟨hlt, rfl⟩ := List.getElem?_eq_some_iff.mp hi
  have hs : l.filter keep = (l.take i).filter keep ++ l[i] :: (l.drop (i + 1)).filter keep := by
    conv_lhs => rw [← List.take_append_drop i l, List.drop_eq_getElem_cons hlt]
    rw [List.filter_append, List.filter_cons_of_pos ha]
  rcases h with hb | haf
  · -- nothing is removed before the element, which keeps its index
    have ht : (l.take i).filter keep = l.take i := List.filter_eq_self.mpr hb
    have hlen : (l.take i).length = i := by
      rw [List.length_take]
      omega
    rw [hs, ht]
    have hcap : cap (l.take i ++ l[i] :: (l.drop (i + 1)).filter keep) i = i := by
      refine if_neg ?_
      rw [List.length_append, List.length_cons, hlen]
      omega
    rw [hcap, List.getElem?_append_right (Nat.le_of_eq hlen), hlen, Nat.sub_self]
    rfl
  · -- nothing after the element stays, so it is the last one and the cap finds it
    have hd : (l.drop (i + 1)).filter keep = [] := List.filter_eq_nil_iff.mpr haf
    have hle : ((l.take i).filter keep).length ≤ i :=
      Nat.le_trans (List.length_filter_le _ _) (List.length_take_le _ _)
    rw [hs, hd]
    have hcap : cap ((l.take i).filter keep ++ [l[i]]) i = ((l.take i).filter keep).length := by
      unfold cap
      rw [List.length_append, List.length_singleton]
      split_ifs <;> omega
    rw [hcap, List.getElem?_concat_length]

end EverestCore.Lib.Cursor
