import Mathlib.Data.Finset.Card
import Mathlib.Data.Nat.Find
import Mathlib.Order.WellFounded

/-!
# Listing a changing table page by page

A client lists a table whose rows are in the order of their keys. A request names a cursor; the
page is a first part of the matching rows with a key beyond the cursor, and as long as it is not
all of them it names the key of its last row as the cursor of the next request. Between two
requests the table may change.

Results:
* `Listing.pairwise_seen`: the pages one after the other are in the order of the keys.
* `Listing.mem_seen`: a row that is there and matches at every request is on one of the pages.
* `Listing.exists_ends`: while no keys are added the client comes to the end.
-/

namespace EverestCore.Lib.KeysetPaging

open List

variable {α κ : Type*} [LinearOrder κ] (key : α → κ)

/-- The matching rows beyond the cursor. -/
def remaining (p : α → Bool) (cursor : κ) (rows : List α) : List α :=
  rows.filter fun a => p a && decide (cursor < key a)

/-- `seen` is a page of `rows`, and `next` the cursor it gives. -/
structure IsPage (rows seen : List α) (next : Option κ) : Prop where
  first : seen <+: rows
  all : next = none → seen = rows
  last : ∀ c, next = some c → ∃ a, seen.getLast? = some a ∧ key a = c

/-- The requests of a client: the `k`-th reads `table k` beyond `cursor k`. -/
structure Listing (p : α → Bool) (table : Nat → List α) (cursor : Nat → κ)
    (seen : Nat → List α) (next : Nat → Option κ) : Prop where
  sorted : ∀ k, (table k).Pairwise (key · < key ·)
  page : ∀ k, IsPage key (remaining key p (cursor k) (table k)) (seen k) (next k)
  follows : ∀ k c, next k = some c → cursor (k + 1) = c

/-- The `n`-th page is the first that names no cursor. -/
def Ends (next : Nat → Option κ) (n : Nat) : Prop := next n = none ∧ ∀ k < n, next k ≠ none

variable {key} {p : α → Bool} {cursor : κ} {rows seen : List α} {next : Option κ} {a : α}

theorem mem_remaining : a ∈ remaining key p cursor rows ↔ a ∈ rows ∧ p a ∧ cursor < key a := by
  simp [remaining]

/-- A page ends with its greatest key, and what is left of the rows is beyond it. -/
theorem IsPage.le_last {c : κ} (h : IsPage key rows seen next)
    (hs : rows.Pairwise (key · < key ·)) (hc : next = some c) :
    (∀ a ∈ seen, key a ≤ c) ∧ ∀ a ∈ rows, key a ≤ c → a ∈ seen := by
  obtain ⟨b, hb, rfl⟩ := h.last c hc
  obtain ⟨init, rfl⟩ := getLast?_eq_some_iff.mp hb
  obtain ⟨rest, rfl⟩ := h.first
  obtain ⟨hse, -, hr⟩ := pairwise_append.mp hs
  refine ⟨fun a ha => ?_, fun a ha hle => ?_⟩
  · rcases mem_append.mp ha with ha | ha
    · exact ((pairwise_append.mp hse).2.2 a ha b (mem_singleton_self b)).le
    · rw [mem_singleton.mp ha]
  · rcases mem_append.mp ha with ha | ha
    · exact ha
    · exact absurd (hr b (by simp) a ha) hle.not_gt

namespace Listing

variable {table : Nat → List α} {cursor : Nat → κ} {seen : Nat → List α} {next : Nat → Option κ}

theorem sorted_remaining (h : Listing key p table cursor seen next) (k : Nat) :
    (remaining key p (cursor k) (table k)).Pairwise (key · < key ·) :=
  (h.sorted k).filter _

variable {k : Nat}

section

variable (h : Listing key p table cursor seen next)

include h

theorem cursor_lt (ha : a ∈ seen k) : cursor k < key a :=
  (mem_remaining.mp ((h.page k).first.subset ha)).2.2

theorem le_cursor (hk : next k ≠ none) (ha : a ∈ seen k) : key a ≤ cursor (k + 1) := by
  obtain ⟨c, hc⟩ := Option.ne_none_iff_exists'.mp hk
  rw [h.follows k c hc]
  exact ((h.page k).le_last (h.sorted_remaining k) hc).1 a ha

theorem exists_cursor_row (hk : next k ≠ none) : ∃ a ∈ seen k, key a = cursor (k + 1) := by
  obtain ⟨c, hc⟩ := Option.ne_none_iff_exists'.mp hk
  obtain ⟨a, ha, hkey⟩ := (h.page k).last c hc
  exact ⟨a, mem_of_getLast? ha, hkey.trans (h.follows k c hc).symm⟩

theorem cursor_lt_succ (hk : next k ≠ none) : cursor k < cursor (k + 1) := by
  obtain ⟨a, ha, hkey⟩ := h.exists_cursor_row hk
  exact hkey ▸ h.cursor_lt ha

theorem cursor_mono {i j : Nat} (hij : i ≤ j)
    (hne : ∀ k < j, next k ≠ none) : cursor i ≤ cursor j := by
  induction j, hij using Nat.le_induction with
  | base => exact le_rfl
  | succ j hij ih =>
    have hb : ∀ k < j, next k ≠ none := fun k hk => hne k (hk.trans (Nat.lt_succ_self j))
    exact (ih hb).trans (h.cursor_lt_succ (hne j (Nat.lt_succ_self j))).le

/-- **The pages one after the other are in the order of the keys.** -/
theorem pairwise_seen {n : Nat} (hn : Ends next n) :
    ((range (n + 1)).flatMap seen).Pairwise (key · < key ·) := by
  refine pairwise_flatMap.mpr ⟨fun k _ => ?_, ?_⟩
  · exact (h.sorted_remaining k).sublist (h.page k).first.sublist
  · refine pairwise_lt_range.imp_of_mem fun {i j} _ hj hij a ha b hb => ?_
    have hjn : j ≤ n := Nat.lt_succ_iff.mp (mem_range.mp hj)
    calc key a ≤ cursor (i + 1) := h.le_cursor (hn.2 i (hij.trans_le hjn)) ha
      _ ≤ cursor j := h.cursor_mono hij fun k hk => hn.2 k (hk.trans_le hjn)
      _ < key b := h.cursor_lt hb

/-- Until the client has come to a row, its cursor is below the row. -/
theorem seen_or_cursor_lt {n : Nat} {x : κ} (hn : Ends next n) (row : Nat → α) (hx : cursor 0 < x)
    (hrow : ∀ k ≤ n, row k ∈ table k ∧ p (row k) ∧ key (row k) = x) :
    ∀ m ≤ n, (∃ k ≤ n, row k ∈ seen k) ∨ cursor m < x := by
  intro m
  induction m with
  | zero => exact fun _ => .inr hx
  | succ m ih =>
    intro hm
    rcases ih (by omega) with hs | hlt
    · exact .inl hs
    obtain ⟨ht, hp, hkey⟩ := hrow m (by omega)
    obtain ⟨c, hc⟩ := Option.ne_none_iff_exists'.mp (hn.2 m (by omega))
    by_cases hle : x ≤ c
    · refine .inl ⟨m, by omega, ?_⟩
      have hmem := mem_remaining.mpr ⟨ht, hp, hkey.symm ▸ hlt⟩
      exact ((h.page m).le_last (h.sorted_remaining m) hc).2 _ hmem (hkey.le.trans hle)
    · exact .inr (h.follows m c hc ▸ not_le.mp hle)

/-- **A row that is there and matches at every request is on one of the pages.** -/
theorem mem_seen {n : Nat} {x : κ} (hn : Ends next n) (row : Nat → α) (hx : cursor 0 < x)
    (hrow : ∀ k ≤ n, row k ∈ table k ∧ p (row k) ∧ key (row k) = x) : ∃ k ≤ n, row k ∈ seen k := by
  rcases h.seen_or_cursor_lt hn row hx hrow n le_rfl with hs | hlt
  · exact hs
  · obtain ⟨ht, hp, hkey⟩ := hrow n le_rfl
    refine ⟨n, le_rfl, ?_⟩
    rw [(h.page n).all hn.1]
    exact mem_remaining.mpr ⟨ht, hp, hkey.symm ▸ hlt⟩

/-- The keys that a request can still come to. -/
def ahead (key : α → κ) (table : Nat → List α) (cursor : Nat → κ) (k : Nat) : Finset κ :=
  ((table k).map key).toFinset.filter (cursor k < ·)

/-- While no keys are added, each page that names a cursor leaves fewer keys ahead. -/
theorem ahead_ssubset (hk : next k ≠ none) (hke : (table (k + 1)).map key ⊆ (table k).map key) :
    ahead key table cursor (k + 1) ⊂ ahead key table cursor k := by
  have hlt := h.cursor_lt_succ hk
  obtain ⟨a, ha, hkey⟩ := h.exists_cursor_row hk
  have ht : a ∈ table k := (mem_remaining.mp ((h.page k).first.subset ha)).1
  refine Finset.ssubset_iff_of_subset (fun x hx => ?_) |>.mpr ⟨cursor (k + 1), ?_, ?_⟩
  · simp only [ahead, Finset.mem_filter, mem_toFinset] at hx ⊢
    exact ⟨hke hx.1, hlt.trans hx.2⟩
  · simp only [ahead, Finset.mem_filter, mem_toFinset]
    exact ⟨hkey ▸ mem_map_of_mem ht, hlt⟩
  · simp only [ahead, Finset.mem_filter, lt_self_iff_false, and_false, not_false_eq_true]

/-- **While no keys are added the client comes to the end.** -/
theorem exists_ends
    (hke : ∀ k, (table (k + 1)).map key ⊆ (table k).map key) : ∃ n, Ends next n := by
  -- the keys ahead cannot become fewer for ever
  obtain ⟨k, hk⟩ := WellFounded.not_rel_apply_succ (r := (· ⊂ ·)) (ahead key table cursor)
  have hex : ∃ n, next n = none := ⟨k, not_not.mp fun hne => hk (h.ahead_ssubset hne (hke k))⟩
  exact ⟨Nat.find hex, Nat.find_spec hex, fun k hk => Nat.find_min hex hk⟩

end

end Listing

end EverestCore.Lib.KeysetPaging
