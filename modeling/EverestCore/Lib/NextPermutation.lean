import Mathlib.Data.Finset.Card
import Mathlib.Data.List.Lex
import Mathlib.Data.List.Permutation

/-!
# The permutations of a list, one after the other

`std::next_permutation` goes from a list to the next one in lexicographic order that has the same
elements, `std::prev_permutation` to the one before.

Results:
* **`mem_orders`, `nodup_orders`**: `orders` lists each permutation once.
-/

namespace EverestCore.Lib

variable {α β : Type*}

/-! ## Loops over successors -/

/-- `x`, the element after it, the one after that and so on, at most `fuel` of them. -/
def iterate (next : β → Option β) : Nat → β → List β
  | 0, x => [x]
  | n + 1, x => x :: match next x with
    | none => []
    | some y => iterate next n y

/-- `next` goes from `x` to the next greater element of `s`. -/
def IsSuccessor [LT β] [LE β] (s : Finset β) (next : β → Option β) (x : β) : Prop :=
  match next x with
  | none => ∀ z ∈ s, z ≤ x
  | some y => y ∈ s ∧ x < y ∧ ∀ z ∈ s, x < z → y ≤ z

section Successor

variable [LinearOrder β] {s : Finset β} {next : β → Option β}

/-- The loop passes everything from `x` on, if there are at most `n` elements above `x`. -/
theorem mem_iterate (hne : ∀ x ∈ s, IsSuccessor s next x) {n : Nat} {x : β} (hx : x ∈ s)
    {t : Finset β} (ht : ∀ z ∈ s, x < z → z ∈ t) (hn : t.card ≤ n) (z : β) :
    z ∈ iterate next n x ↔ z ∈ s ∧ x ≤ z := by
  induction n generalizing x t with
  | zero =>
    rw [iterate, List.mem_singleton]
    refine ⟨?_, fun ⟨hz, hle⟩ => (eq_or_lt_of_le hle).elim Eq.symm fun hlt => ?_⟩
    · rintro rfl
      exact ⟨hx, le_rfl⟩
    · exact absurd (ht z hz hlt)
        (Finset.card_eq_zero.mp (Nat.le_zero.mp hn) ▸ Finset.notMem_empty z)
  | succ n ih =>
    have hs := hne x hx
    unfold IsSuccessor at hs
    rw [iterate]
    cases hy : next x with
    | none =>
      rw [hy] at hs
      rw [List.mem_singleton]
      refine ⟨?_, fun ⟨hz, hle⟩ => le_antisymm (hs z hz) hle⟩
      rintro rfl
      exact ⟨hx, le_rfl⟩
    | some y =>
      rw [hy] at hs
      obtain ⟨hys, hlt, hl⟩ := hs
      -- `y` is above `x` and not above itself
      have hca : (t.erase y).card ≤ n := by
        rw [Finset.card_erase_of_mem (ht y hys hlt)]
        omega
      have ht' : ∀ z ∈ s, y < z → z ∈ t.erase y := fun z hz hyz =>
        Finset.mem_erase.mpr ⟨hyz.ne', ht z hz (hlt.trans hyz)⟩
      rw [List.mem_cons, ih hys ht' hca]
      constructor
      · rintro (rfl | ⟨hz, hle⟩)
        · exact ⟨hx, le_rfl⟩
        · exact ⟨hz, hlt.le.trans hle⟩
      · rintro ⟨hz, hle⟩
        exact (eq_or_lt_of_le hle).imp Eq.symm fun hlt => ⟨hz, hl z hz hlt⟩

theorem sorted_iterate (hne : ∀ x ∈ s, IsSuccessor s next x) {n : Nat} {x : β} (hx : x ∈ s) :
    (iterate next n x).Pairwise (· < ·) ∧ ∀ z ∈ iterate next n x, x ≤ z := by
  induction n generalizing x with
  | zero => simp [iterate]
  | succ n ih =>
    have hs := hne x hx
    unfold IsSuccessor at hs
    rw [iterate]
    cases hy : next x with
    | none => simp
    | some y =>
      rw [hy] at hs
      obtain ⟨hsor, hle⟩ := ih hs.1
      refine ⟨List.pairwise_cons.mpr ⟨fun z hz => hs.2.1.trans_le (hle z hz), hsor⟩, ?_⟩
      exact List.forall_mem_cons.mpr ⟨le_rfl, fun z hz => hs.2.1.le.trans (hle z hz)⟩

end Successor

/-! ## The next permutation -/

section Permutation

variable [LinearOrder α]

/-- The last element of the list that is greater than `a`, and the list with `a` in its place. -/
def exchange (a : α) : List α → Option (α × List α)
  | [] => none
  | b :: l =>
    match exchange a l with
    | some (c, l') => some (c, b :: l')
    | none => if a < b then some (b, a :: l) else none

/-- `std::next_permutation`. The elements after the first one that is followed by a greater one are
in descending order; they are reversed after the exchange. -/
def nextPermutation : List α → Option (List α)
  | [] => none
  | a :: l =>
    match nextPermutation l with
    | some l' => some (a :: l')
    | none => (exchange a l).map fun (b, l') => b :: l'.reverse

variable {l : List α}

theorem exchange_eq_none {a : α} : exchange a l = none ↔ ∀ b ∈ l, b ≤ a := by
  induction l with
  | nil => simp [exchange]
  | cons b l ih =>
    rw [exchange]
    cases h : exchange a l with
    | none =>
      rw [List.forall_mem_cons, ← ih]
      simp [h]
    | some e =>
      rw [h] at ih
      refine iff_of_false (by simp) fun hall => ?_
      exact absurd (ih.mpr fun c hc => hall c (List.mem_cons_of_mem _ hc)) (by simp)

/-- In a descending list the element that is exchanged is the least one greater than `a`, and the
list stays in descending order. -/
theorem exchange_eq_some {a b : α} {l' : List α} (hl : l.Pairwise (· ≥ ·))
    (h : exchange a l = some (b, l')) :
    a < b ∧ (b :: l').Perm (a :: l) ∧ l'.Pairwise (· ≥ ·) ∧ ∀ c ∈ l, a < c → b ≤ c := by
  induction l generalizing l' with
  | nil => cases h
  | cons d l ih =>
    obtain ⟨hd, hl⟩ := List.pairwise_cons.mp hl
    rw [exchange] at h
    cases he : exchange a l with
    | none =>
      rw [he] at h
      have hle := exchange_eq_none.mp he
      simp only [ite_eq_iff, reduceCtorEq, and_false, or_false, Option.some.injEq,
        Prod.mk.injEq] at h
      obtain ⟨hlt, rfl, rfl⟩ := h
      refine ⟨hlt, List.Perm.swap _ _ _, List.pairwise_cons.mpr ⟨hle, hl⟩, ?_⟩
      exact List.forall_mem_cons.mpr ⟨fun _ => le_rfl, fun c hc hac => absurd hac (hle c hc).not_gt⟩
    | some e =>
      obtain ⟨c, k⟩ := e
      rw [he] at h
      simp only [Option.some.injEq, Prod.mk.injEq] at h
      obtain ⟨rfl, rfl⟩ := h
      obtain ⟨hlt, hp, hk, hls⟩ := ih hl he
      have hc : c ∈ l := by
        rcases List.mem_cons.mp (hp.subset List.mem_cons_self) with heq | hmem
        · exact absurd heq hlt.ne'
        · exact hmem
      refine ⟨hlt, ?_, List.pairwise_cons.mpr ⟨fun x hx => ?_, hk⟩, ?_⟩
      · exact (List.Perm.swap _ _ _).trans ((hp.cons d).trans (List.Perm.swap _ _ _))
      · rcases List.mem_cons.mp (hp.subset (List.mem_cons_of_mem _ hx)) with rfl | hx
        · exact hlt.le.trans (hd c hc)
        · exact hd x hx
      · exact List.forall_mem_cons.mpr ⟨fun _ => hd c hc, hls⟩

variable {m : List α}

theorem cons_le_cons_iff {a b : α} : a :: l ≤ b :: m ↔ a < b ∨ a = b ∧ l ≤ m := by
  rw [le_iff_lt_or_eq, List.cons_lt_cons_iff, le_iff_lt_or_eq, List.cons.injEq]
  tauto

theorem le_of_descending (hl : l.Pairwise (· ≥ ·)) (hm : m.Perm l) : m ≤ l := by
  induction l generalizing m with
  | nil => rw [hm.eq_nil]
  | cons a l ih =>
    obtain ⟨ha, hd⟩ := List.pairwise_cons.mp hl
    cases m with
    | nil => exact absurd hm.symm.eq_nil (by simp)
    | cons b m =>
      have hba : b ≤ a := (List.mem_cons.mp (hm.subset List.mem_cons_self)).elim le_of_eq (ha b)
      rw [cons_le_cons_iff]
      rcases hba.lt_or_eq with hlt | rfl
      · exact .inl hlt
      · exact .inr ⟨rfl, ih hd hm.cons_inv⟩

/-- Among lists of one length the lexicographic order of the opposite order is the opposite of the
lexicographic order. -/
theorem map_toDual_le_iff {l m : List α} (h : l.length = m.length) :
    l.map OrderDual.toDual ≤ m.map OrderDual.toDual ↔ m ≤ l := by
  induction l generalizing m with
  | nil =>
    obtain rfl := List.length_eq_zero_iff.mp h.symm
    exact ⟨fun _ => le_rfl, fun _ => le_rfl⟩
  | cons a l ih =>
    cases m with
    | nil => cases h
    | cons b m =>
      rw [List.map_cons, List.map_cons, cons_le_cons_iff, cons_le_cons_iff, ih (Nat.succ.inj h),
        OrderDual.toDual_lt_toDual, OrderDual.toDual_inj, eq_comm]

theorem le_of_ascending (hl : l.Pairwise (· ≤ ·)) (hm : m.Perm l) : l ≤ m :=
  (map_toDual_le_iff hm.length_eq).mp
    (le_of_descending (List.pairwise_map.mpr hl) (hm.map OrderDual.toDual))

theorem nextPermutation_eq_none (h : nextPermutation l = none) : l.Pairwise (· ≥ ·) := by
  induction l with
  | nil => exact .nil
  | cons a l ih =>
    rw [nextPermutation] at h
    cases hn : nextPermutation l with
    | some l' => simp [hn] at h
    | none =>
      rw [hn, Option.map_eq_none_iff, exchange_eq_none] at h
      exact List.pairwise_cons.mpr ⟨h, ih hn⟩

theorem nextPermutation_eq_some {l' : List α} (h : nextPermutation l = some l') :
    l'.Perm l ∧ l < l' ∧ ∀ m : List α, m.Perm l → l < m → l' ≤ m := by
  induction l generalizing l' with
  | nil => cases h
  | cons a l ih =>
    rw [nextPermutation] at h
    cases hn : nextPermutation l with
    | some k =>
      rw [hn] at h
      obtain rfl := Option.some.inj h
      obtain ⟨hp, hlt, hle⟩ := ih hn
      refine ⟨hp.cons a, List.cons_lt_cons_iff.mpr (.inr ⟨rfl, hlt⟩), fun m hm hml => ?_⟩
      cases m with
      | nil => exact absurd hm.symm.eq_nil (by simp)
      | cons b m =>
        rw [cons_le_cons_iff]
        refine (List.cons_lt_cons_iff.mp hml).imp_right ?_
        rintro ⟨rfl, hlm⟩
        exact ⟨rfl, hle m hm.cons_inv hlm⟩
    | none =>
      have hd := nextPermutation_eq_none hn
      rw [hn, Option.map_eq_some_iff] at h
      obtain ⟨⟨b, k⟩, hex, rfl⟩ := h
      obtain ⟨hlt, hp, hk, hle⟩ := exchange_eq_some hd hex
      have hrev : (b :: k.reverse).Perm (a :: l) := ((List.reverse_perm k).cons b).trans hp
      refine ⟨hrev, List.cons_lt_cons_iff.mpr (.inl hlt), fun m hm hml => ?_⟩
      cases m with
      | nil => exact absurd hm.symm.eq_nil (by simp)
      | cons c m =>
        rw [cons_le_cons_iff]
        rcases List.cons_lt_cons_iff.mp hml with hac | ⟨rfl, hlm⟩
        · have hcl : c ∈ l :=
            (List.mem_cons.mp (hm.subset List.mem_cons_self)).resolve_left hac.ne'
          rcases (hle c hcl hac).lt_or_eq with hbc | rfl
          · exact .inl hbc
          · -- the rest of `m` has the elements of `k`, which are in ascending order
            refine .inr ⟨rfl, le_of_ascending (List.pairwise_reverse.mpr hk) ?_⟩
            exact (hm.trans hrev.symm).cons_inv
        · exact absurd hlm (le_of_descending hd hm.cons_inv).not_gt

/-- `nextPermutation` is the successor among the permutations of a list. -/
theorem nextPermutation_spec {s : Finset (List α)}
    (hs : ∀ k : List α, k ∈ s ↔ k.Perm l) (hm : m ∈ s) : IsSuccessor s nextPermutation m := by
  have hpe := (hs m).mp hm
  unfold IsSuccessor
  cases h : nextPermutation m with
  | none =>
    exact fun k hk => le_of_descending (nextPermutation_eq_none h) (((hs k).mp hk).trans hpe.symm)
  | some m' =>
    obtain ⟨hp, hlt, hle⟩ := nextPermutation_eq_some h
    refine ⟨(hs m').mpr (hp.trans hpe), hlt, fun k hk hmk => ?_⟩
    exact hle k (((hs k).mp hk).trans hpe.symm) hmk

/-- The permutations of `l` from `l` on, as the loop over `nextPermutation` passes them. -/
def nextPermutations (l : List α) : List (List α) := iterate nextPermutation l.length.factorial l

theorem nextPermutations_spec (l : List α) :
    (nextPermutations l).Pairwise (· < ·) ∧
      ∀ m : List α, m ∈ nextPermutations l ↔ m.Perm l ∧ l ≤ m := by
  have hs : ∀ k : List α, k ∈ l.permutations.toFinset ↔ k.Perm l := by simp
  have hl : l ∈ l.permutations.toFinset := (hs l).mpr (.refl l)
  have hne : ∀ m ∈ l.permutations.toFinset, IsSuccessor l.permutations.toFinset nextPermutation m :=
    fun m hm => nextPermutation_spec hs hm
  refine ⟨(sorted_iterate hne hl).1, fun m => ?_⟩
  refine (mem_iterate hne hl (fun z hz _ => hz) ?_ m).trans (and_congr_left' (hs m))
  rw [← List.length_permutations]
  exact List.toFinset_card_le _

end Permutation

/-! ## Both directions -/

section Orders

open OrderDual List

variable [LinearOrder α]

/-- `std::prev_permutation`, which is `std::next_permutation` for the opposite order. -/
def prevPermutation (l : List α) : Option (List α) :=
  (nextPermutation (l.map toDual)).map (·.map ofDual)

/-- The permutations of `l` from `l` on downwards, as the loop over `prevPermutation` passes
them. -/
def prevPermutations (l : List α) : List (List α) := iterate prevPermutation l.length.factorial l

/-- The permutations of `l` as two loops pass them: from `l` on upwards, and from `l` downwards
without `l` itself. -/
def orders (l : List α) : List (List α) := nextPermutations l ++ (prevPermutations l).tail

omit [LinearOrder α] in
theorem map_ofDual_toDual (l : List α) : (l.map toDual).map ofDual = l := by simp

variable (l : List α)

theorem prevPermutations_eq :
    prevPermutations l = (nextPermutations (l.map toDual)).map (·.map ofDual) := by
  unfold prevPermutations nextPermutations
  rw [length_map]
  generalize l.length.factorial = n
  induction n generalizing l with
  | zero => simp [iterate]
  | succ n ih =>
    rw [iterate, iterate, map_cons, map_ofDual_toDual, prevPermutation]
    cases h : nextPermutation (l.map toDual) with
    | none => rfl
    | some m =>
      have hm : (m.map ofDual).map toDual = m := by simp
      simp only [Option.map_some]
      rw [ih, hm]

theorem prevPermutations_spec :
    (prevPermutations l).Nodup ∧ ∀ m : List α, m ∈ prevPermutations l ↔ m.Perm l ∧ m ≤ l := by
  obtain ⟨hs, hmem⟩ := nextPermutations_spec (l.map toDual)
  have hinj : Function.Injective (List.map (ofDual (α := α))) :=
    map_injective_iff.mpr ofDual.injective
  rw [prevPermutations_eq]
  refine ⟨List.Nodup.map hinj (hs.imp fun h => ne_of_lt h), fun m => ?_⟩
  have him : m ∈ (nextPermutations (l.map toDual)).map (List.map ofDual) ↔
      m.map toDual ∈ nextPermutations (l.map toDual) := by
    conv_lhs => rw [← map_ofDual_toDual m]
    exact mem_map_of_injective hinj
  rw [him, hmem, map_perm_map_iff toDual.injective]
  exact and_congr_right fun hp => map_toDual_le_iff hp.length_eq.symm

theorem prevPermutations_eq_cons : prevPermutations l = l :: (prevPermutations l).tail := by
  unfold prevPermutations
  generalize l.length.factorial = n
  cases n <;> rfl

/-- **Each permutation is listed.** -/
theorem mem_orders {l m : List α} : m ∈ orders l ↔ m.Perm l := by
  obtain ⟨-, hne⟩ := nextPermutations_spec l
  obtain ⟨-, hpr⟩ := prevPermutations_spec l
  rw [orders, mem_append, hne]
  constructor
  · rintro (h | h)
    · exact h.1
    · exact ((hpr m).mp (mem_of_mem_tail h)).1
  · intro hp
    rcases le_total l m with hle | hle
    · exact .inl ⟨hp, hle⟩
    · have hmem := (hpr m).mpr ⟨hp, hle⟩
      rw [prevPermutations_eq_cons, List.mem_cons] at hmem
      exact hmem.imp_left fun heq => ⟨hp, heq.ge⟩

/-- **Each permutation is listed once.** -/
theorem nodup_orders : (orders l).Nodup := by
  obtain ⟨hs, hne⟩ := nextPermutations_spec l
  obtain ⟨hno, hp⟩ := prevPermutations_spec l
  rw [prevPermutations_eq_cons, nodup_cons] at hno
  refine nodup_append.mpr ⟨hs.imp fun h => ne_of_lt h, hno.2, ?_⟩
  rintro m hm k hk rfl
  have hle := ((hp m).mp (mem_of_mem_tail hk)).2
  exact hno.1 (le_antisymm ((hne m).mp hm).2 hle ▸ hk)

end Orders

end EverestCore.Lib
