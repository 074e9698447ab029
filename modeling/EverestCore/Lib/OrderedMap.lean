import Mathlib.Algebra.GroupWithZero.Nat
import Mathlib.Data.List.Nodup
import Mathlib.Data.List.Perm.Subperm
import Mathlib.Order.Lattice

/-!
# Ordered maps

`std::map`: entries in the order of their keys, one for each key.

Results:
* `mem_entries`: an entry is what is found under its key.
* `total_insert`, `total_of_find?`: sums over all entries.
* `find?_insert`, `find?_erase`, `entries_insert_perm`, `entries_erase_perm`: what the operations
  change.
-/

namespace EverestCore.Lib

open List

/-- A map whose entries are in the order of their keys. -/
structure OrderedMap (κ α : Type*) [LinearOrder κ] where
  entries : List (κ × α)
  sorted : entries.Pairwise (·.1 < ·.1)

namespace OrderedMap

variable {κ α : Type*} [LinearOrder κ] {m : OrderedMap κ α} {k k' : κ} {a : α}

instance : EmptyCollection (OrderedMap κ α) := ⟨⟨[], .nil⟩⟩

theorem ext_entries {m' : OrderedMap κ α} (h : m.entries = m'.entries) : m = m' := by
  cases m
  cases h
  rfl

@[simp] theorem entries_empty : (∅ : OrderedMap κ α).entries = [] := rfl

/-- The entries with `a` under the key `k`. -/
def insertEntry (k : κ) (a : α) : List (κ × α) → List (κ × α)
  | [] => [(k, a)]
  | e :: es =>
    if k < e.1 then (k, a) :: e :: es
    else if k = e.1 then (k, a) :: es
    else e :: insertEntry k a es

theorem insertEntry_nil : insertEntry k a [] = [(k, a)] := rfl

variable {b : α} {es : List (κ × α)} {e : κ × α} {f : α → Nat}

theorem insertEntry_cons_of_lt (h : k < k') :
    insertEntry k a ((k', b) :: es) = (k, a) :: (k', b) :: es := by
  rw [insertEntry, if_pos h]

theorem insertEntry_cons_of_gt (h : k' < k) :
    insertEntry k a ((k', b) :: es) = (k', b) :: insertEntry k a es := by
  rw [insertEntry, if_neg h.not_gt, if_neg h.ne']

theorem insertEntry_cons_self : insertEntry k a ((k, b) :: es) = (k, a) :: es := by
  rw [insertEntry, if_neg (lt_irrefl k), if_pos rfl]

theorem mem_insertEntry (hs : es.Pairwise (·.1 < ·.1)) :
    e ∈ insertEntry k a es ↔ e = (k, a) ∨ e ∈ es ∧ e.1 ≠ k := by
  induction es with
  | nil => simp [insertEntry]
  | cons d es ih =>
    obtain ⟨hd, hs⟩ := pairwise_cons.mp hs
    rw [insertEntry]
    split_ifs with hlt heq
    · have hne : ∀ e ∈ d :: es, e.1 ≠ k :=
        forall_mem_cons.mpr ⟨hlt.ne', fun e he => (hlt.trans (hd e he)).ne'⟩
      rw [mem_cons]
      exact or_congr_right ⟨fun he => ⟨he, hne e he⟩, And.left⟩
    · have hne : ∀ e ∈ es, e.1 ≠ k := fun e he => (heq ▸ hd e he).ne'
      rw [mem_cons]
      refine or_congr_right ⟨fun he => ⟨mem_cons_of_mem _ he, hne e he⟩, fun ⟨he, hk⟩ => ?_⟩
      exact (mem_cons.mp he).resolve_left fun h => hk (h ▸ heq.symm)
    · have hdk : d.1 ≠ k := fun h => heq h.symm
      rw [mem_cons, ih hs, mem_cons]
      constructor
      · rintro (rfl | he)
        · exact .inr ⟨.inl rfl, hdk⟩
        · exact he.imp_right fun ⟨he, hk⟩ => ⟨.inr he, hk⟩
      · rintro (rfl | ⟨rfl | he, hk⟩)
        · exact .inr (.inl rfl)
        · exact .inl rfl
        · exact .inr (.inr ⟨he, hk⟩)

theorem sorted_insertEntry (hs : es.Pairwise (·.1 < ·.1)) :
    (insertEntry k a es).Pairwise (·.1 < ·.1) := by
  induction es with
  | nil => simp [insertEntry]
  | cons d es ih =>
    have hc := pairwise_cons.mp hs
    rw [insertEntry]
    split_ifs with hlt heq
    · refine pairwise_cons.mpr ⟨?_, hs⟩
      exact forall_mem_cons.mpr ⟨hlt, fun e he => hlt.trans (hc.1 e he)⟩
    · exact pairwise_cons.mpr ⟨fun e he => heq ▸ hc.1 e he, hc.2⟩
    · refine pairwise_cons.mpr ⟨fun e he => ?_, ih hc.2⟩
      rcases (mem_insertEntry hc.2).mp he with rfl | ⟨he, -⟩
      · exact lt_of_le_of_ne (not_lt.mp hlt) fun h => heq h.symm
      · exact hc.1 e he

/-- What is stored under the key `k`. -/
def find? (m : OrderedMap κ α) (k : κ) : Option α := (m.entries.find? (·.1 = k)).map (·.2)

def contains (m : OrderedMap κ α) (k : κ) : Bool := (m.find? k).isSome

def keys (m : OrderedMap κ α) : List κ := m.entries.map (·.1)

def size (m : OrderedMap κ α) : Nat := m.entries.length

/-- `m[k] = a`. -/
def insert (m : OrderedMap κ α) (k : κ) (a : α) : OrderedMap κ α :=
  ⟨insertEntry k a m.entries, sorted_insertEntry m.sorted⟩

def erase (m : OrderedMap κ α) (k : κ) : OrderedMap κ α :=
  ⟨m.entries.filter (·.1 ≠ k), m.sorted.filter _⟩

theorem nodup_keys (m : OrderedMap κ α) : m.keys.Nodup :=
  pairwise_map.mpr (m.sorted.imp fun h => h.ne)

theorem eq_of_mem_entries (ha : (k, a) ∈ m.entries) (hb : (k, b) ∈ m.entries) : a = b := by
  have h := inj_on_of_nodup_map m.nodup_keys ha hb rfl
  exact (Prod.mk.inj h).2

theorem mem_entries : (k, a) ∈ m.entries ↔ m.find? k = some a := by
  unfold find?
  constructor
  · intro h
    cases hf : m.entries.find? (·.1 = k) with
    | none => exact absurd (List.find?_eq_none.mp hf _ h) (by simp)
    | some e =>
      obtain ⟨k', b⟩ := e
      have hk : k' = k := by simpa using List.find?_some hf
      rw [Option.map_some, eq_of_mem_entries h (hk ▸ mem_of_find?_eq_some hf)]
  · intro h
    obtain ⟨⟨k', b⟩, hf, rfl⟩ := Option.map_eq_some_iff.mp h
    have hk : k' = k := by simpa using List.find?_some hf
    exact hk ▸ mem_of_find?_eq_some hf

theorem mem_keys : k ∈ m.keys ↔ m.contains k := by
  unfold keys contains
  rw [mem_map, Option.isSome_iff_exists]
  constructor
  · rintro ⟨⟨k', b⟩, he, rfl⟩
    exact ⟨b, mem_entries.mp he⟩
  · rintro ⟨b, hb⟩
    exact ⟨(k, b), mem_entries.mpr hb, rfl⟩

theorem find?_eq_none : m.find? k = none ↔ k ∉ m.keys := by
  rw [mem_keys, contains, Option.not_isSome_iff_eq_none]

theorem mem_entries_insert : e ∈ (m.insert k a).entries ↔ e = (k, a) ∨ e ∈ m.entries ∧ e.1 ≠ k :=
  mem_insertEntry m.sorted

theorem mem_entries_erase : e ∈ (m.erase k).entries ↔ e ∈ m.entries ∧ e.1 ≠ k := by
  simp [erase]

theorem find?_insert : (m.insert k a).find? k' = if k' = k then some a else m.find? k' := by
  refine Option.ext fun b => ?_
  rw [← mem_entries, mem_entries_insert, Prod.mk.injEq]
  split_ifs with h
  · simp [h, eq_comm]
  · simp [h, mem_entries]

theorem find?_erase : (m.erase k).find? k' = if k' = k then none else m.find? k' := by
  refine Option.ext fun b => ?_
  rw [← mem_entries, mem_entries_erase]
  split_ifs with h
  · simp [h]
  · simp [h, mem_entries]

theorem mem_keys_insert : k' ∈ (m.insert k a).keys ↔ k' = k ∨ k' ∈ m.keys := by
  rw [mem_keys, mem_keys, contains, contains, find?_insert]
  by_cases h : k' = k <;> simp [h]

theorem mem_keys_erase : k' ∈ (m.erase k).keys ↔ k' ≠ k ∧ k' ∈ m.keys := by
  rw [mem_keys, mem_keys, contains, contains, find?_erase]
  by_cases h : k' = k <;> simp [h]

theorem nodup_entries (m : OrderedMap κ α) : m.entries.Nodup := m.nodup_keys.of_map _

theorem insertEntry_of_lt (h : ∀ e ∈ es, e.1 < k) : insertEntry k a es = es ++ [(k, a)] := by
  induction es with
  | nil => rfl
  | cons e es ih =>
    obtain ⟨hlt, h⟩ := forall_mem_cons.mp h
    rw [insertEntry, if_neg hlt.not_gt, if_neg hlt.ne', ih h]
    rfl

theorem entries_insert_perm (h : k ∉ m.keys) :
    (m.insert k a).entries.Perm ((k, a) :: m.entries) := by
  have hne : ∀ e ∈ m.entries, e.1 ≠ k := fun e he hk => h (hk ▸ mem_map_of_mem he)
  have hno : (k, a) ∉ m.entries := fun he => hne _ he rfl
  refine (perm_ext_iff_of_nodup (nodup_entries _) (nodup_cons.mpr
    ⟨hno, m.nodup_entries⟩)).mpr fun e => ?_
  rw [mem_entries_insert, mem_cons]
  exact or_congr_right ⟨And.left, fun he => ⟨he, hne e he⟩⟩

theorem entries_erase_perm (h : m.find? k = some a) :
    m.entries.Perm ((k, a) :: (m.erase k).entries) := by
  have hno : (k, a) ∉ (m.erase k).entries := fun he => (mem_entries_erase.mp he).2 rfl
  refine (perm_ext_iff_of_nodup m.nodup_entries (nodup_cons.mpr
    ⟨hno, nodup_entries _⟩)).mpr fun e => ?_
  rw [mem_cons, mem_entries_erase]
  constructor
  · intro he
    rcases eq_or_ne e.1 k with hk | hk
    · have : (k, e.2) ∈ m.entries := hk ▸ he
      exact .inl (Prod.ext hk (eq_of_mem_entries this (mem_entries.mpr h)))
    · exact .inr ⟨he, hk⟩
  · rintro (rfl | ⟨he, -⟩)
    · exact mem_entries.mpr h
    · exact he

/-! ### Sums -/

/-- The sum over all entries. -/
def total (f : α → Nat) (m : OrderedMap κ α) : Nat := (m.entries.map fun e => f e.2).sum

theorem total_of_find? (h : m.find? k = some a) : m.total f = f a + (m.erase k).total f :=
  ((entries_erase_perm h).map fun e : κ × α => f e.2).sum_nat

theorem total_erase_of_none (h : m.find? k = none) : (m.erase k).total f = m.total f := by
  have hent : (m.erase k).entries = m.entries := by
    refine filter_eq_self.mpr fun e he => ?_
    have hne : e.1 ≠ k := fun hk => find?_eq_none.mp h (hk ▸ mem_map_of_mem he)
    simpa using hne
  rw [total, hent, total]

theorem erase_insert : (m.insert k a).erase k = m.erase k := by
  refine ext_entries ?_
  have hp : ((m.insert k a).erase k).entries.Perm (m.erase k).entries := by
    refine (perm_ext_iff_of_nodup (nodup_entries _) (nodup_entries _)).mpr fun e => ?_
    rw [mem_entries_erase, mem_entries_insert, mem_entries_erase]
    constructor
    · rintro ⟨rfl | ⟨he, -⟩, hk⟩
      · exact absurd rfl hk
      · exact ⟨he, hk⟩
    · rintro ⟨he, hk⟩
      exact ⟨.inr ⟨he, hk⟩, hk⟩
  exact hp.eq_of_pairwise (fun _ _ _ _ hlt hgt => absurd hlt hgt.asymm) (sorted _) (sorted _)

theorem total_insert : (m.insert k a).total f = f a + (m.erase k).total f := by
  rw [total_of_find? (m := m.insert k a) (k := k) (a := a) (by rw [find?_insert, if_pos rfl]),
    erase_insert]

end OrderedMap

end EverestCore.Lib
