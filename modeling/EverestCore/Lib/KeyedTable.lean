import Mathlib.Data.List.Induction
import Mathlib.Data.List.Nodup

/-!
# Tables with one entry for each key

A table is a list in which an entry replaces the entry with its key, or is added at the end.

Results:
* **`mem_build`**: a table holds the latest entry of each key, and nothing else.
-/

namespace EverestCore.Lib.KeyedTable

open List

variable {α κ : Type*} [DecidableEq κ] (key : α → κ)

/-- The entry `a` takes the place of the entry with its key. -/
def put (a : α) : List α → List α
  | [] => [a]
  | b :: table => if key b = key a then a :: table else b :: put a table

/-- The table after the updates of `history`, the oldest first. -/
def build (history : List α) : List α := history.foldl (fun table a => put key a table) []

/-- The last update with the key `k`. -/
def latest (k : κ) (history : List α) : Option α := history.reverse.find? fun a => key a = k

variable {key} {a : α} {table : List α}

theorem mem_keys_put {k : κ} : k ∈ (put key a table).map key ↔ k = key a ∨ k ∈ table.map key := by
  induction table with
  | nil => simp [put]
  | cons b table ih =>
    unfold put
    split_ifs with hb
    · simp [hb]
    · rw [map_cons, mem_cons, ih, map_cons, mem_cons]
      tauto

theorem nodup_put (h : (table.map key).Nodup) : ((put key a table).map key).Nodup := by
  induction table with
  | nil => simp [put]
  | cons b table ih =>
    obtain ⟨hb, hn⟩ := nodup_cons.mp (map_cons ▸ h)
    unfold put
    split_ifs with hk
    · rw [map_cons, ← hk]
      exact nodup_cons.mpr ⟨hb, hn⟩
    · refine nodup_cons.mpr ⟨?_, ih hn⟩
      rw [mem_keys_put]
      exact fun h => h.elim hk hb

theorem find_put (k : κ) : (put key a table).find? (fun b => key b = k) =
    if key a = k then some a else table.find? fun b => key b = k := by
  induction table with
  | nil => by_cases hk : key a = k <;> simp [put, hk]
  | cons b table ih =>
    unfold put
    split_ifs with hb hk hk
    · simp [hk]
    · have hbk : key b ≠ k := fun h => hk (hb ▸ h)
      simp [hk, hbk]
    · have hbk : key b ≠ k := fun h => hb (h.trans hk.symm)
      simp [hbk, ih, hk]
    · rw [List.find?_cons, List.find?_cons, ih, if_neg hk]

/-- With one entry for each key, an entry is what is found under its key. -/
theorem mem_iff_find (h : (table.map key).Nodup) :
    a ∈ table ↔ table.find? (fun b => key b = key a) = some a := by
  refine ⟨fun ha => ?_, fun ha => mem_of_find?_eq_some ha⟩
  induction table with
  | nil => cases ha
  | cons b table ih =>
    obtain ⟨hb, hn⟩ := nodup_cons.mp (map_cons ▸ h)
    rcases mem_cons.mp ha with rfl | ha
    · simp
    · have hk : key b ≠ key a := fun hk => hb (hk ▸ mem_map_of_mem ha)
      simp [hk, ih hn ha]

theorem build_concat (history : List α) (a : α) :
    build key (history ++ [a]) = put key a (build key history) := by
  simp [build]

theorem nodup_build (history : List α) : ((build key history).map key).Nodup := by
  induction history using List.reverseRecOn with
  | nil => exact nodup_nil
  | append_singleton history a ih =>
    rw [build_concat]
    exact nodup_put ih

theorem find_build (history : List α) (k : κ) :
    (build key history).find? (fun b => key b = k) = latest key k history := by
  induction history using List.reverseRecOn with
  | nil => rfl
  | append_singleton history a ih =>
    rw [build_concat, find_put, ih]
    unfold latest
    by_cases hk : key a = k <;> simp [hk]

/-- **A table holds the latest entry of each key**, and nothing else. -/
theorem mem_build {history : List α} :
    a ∈ build key history ↔ latest key (key a) history = some a := by
  rw [mem_iff_find (nodup_build history), find_build]

end EverestCore.Lib.KeyedTable
