import Mathlib.Combinatorics.Enumerative.DoubleCounting
import Mathlib.Combinatorics.Hall.Basic

/-!
# Guests that arrive one after the other

Each guest takes any free place that fits. The places suffice in every case if no guest finds all
the places that fit taken, in whatever order the guests arrive and whatever they choose.

Results:
* **`forall_arrives_iff`**: the guests of a list arrive in every order iff they are serviceable.
* **`Serviceable.without_place_iff`**: which guests may lose a place.
-/

namespace EverestCore.Lib

open List

variable {ι κ β : Type*} {fits : ι → β → Prop}

/-! ## Arrivals -/

/-- Each guest of the list finds a place, whatever the guests before it have chosen. -/
def Arrives (fits : ι → β → Prop) : List β → List ι → Prop
  | _, [] => True
  | used, i :: rest =>
    (∃ b, fits i b ∧ b ∉ used) ∧ ∀ b, fits i b → b ∉ used → Arrives fits (b :: used) rest

variable {used : List β} {o : List ι} {fits' : ι → β → Prop} {i : ι} {l : List ι}

theorem Arrives.left {o₁ o₂ : List ι} (h : Arrives fits used (o₁ ++ o₂)) :
    Arrives fits used o₁ := by
  induction o₁ generalizing used with
  | nil => trivial
  | cons i o₁ ih => exact ⟨h.1, fun b hb hf => ih (h.2 b hb hf)⟩

theorem Arrives.exists_places (h : Arrives fits used o) :
    ∃ places : List β, places.length = o.length ∧ places.Nodup ∧
      ∀ b ∈ places, b ∉ used ∧ ∃ i ∈ o, fits i b := by
  induction o generalizing used with
  | nil => exact ⟨[], rfl, .nil, by simp⟩
  | cons i o ih =>
    obtain ⟨b, hb, hf⟩ := h.1
    obtain ⟨places, hlen, hno, hfi⟩ := ih (h.2 b hb hf)
    refine ⟨b :: places, by simp [hlen], nodup_cons.mpr ⟨fun hmem => ?_, hno⟩, ?_⟩
    · exact (hfi b hmem).1 mem_cons_self
    · refine forall_mem_cons.mpr ⟨⟨hf, i, mem_cons_self, hb⟩, fun c hc => ?_⟩
      obtain ⟨hus, j, hj, hc⟩ := hfi c hc
      exact ⟨fun hmem => hus (mem_cons_of_mem _ hmem), j, mem_cons_of_mem _ hj, hc⟩

theorem arrives_congr {used' : List β}
    (h : ∀ i ∈ o, ∀ b, fits i b ∧ b ∉ used ↔ fits' i b ∧ b ∉ used') :
    Arrives fits used o ↔ Arrives fits' used' o := by
  induction o generalizing used used' with
  | nil => exact Iff.rfl
  | cons i o ih =>
    rw [forall_mem_cons] at h
    have hr : ∀ b, Arrives fits (b :: used) o ↔ Arrives fits' (b :: used') o := by
      intro b
      refine ih fun j hj c => ?_
      have := h.2 j hj c
      simp only [mem_cons, not_or]
      tauto
    simp only [Arrives, h.1, hr, ← and_imp]

theorem arrives_map {f : κ → ι} {o : List κ} :
    Arrives fits used (o.map f) ↔ Arrives (fun k b => fits (f k) b) used o := by
  induction o generalizing used with
  | nil => exact Iff.rfl
  | cons k o ih => simp only [map_cons, Arrives, ih]

/-! ## Assignments -/

theorem update_eq_some [DecidableEq ι] {f : ι → Option β} {j : ι} {b c : β} :
    Function.update f i (some b) j = some c ↔ j = i ∧ b = c ∨ j ≠ i ∧ f j = some c := by
  by_cases h : j = i <;> simp [h]

/-- Some of the guests have a place that fits, and no two guests have the same. -/
structure Assignment (fits : ι → β → Prop) where
  place : ι → Option β
  fits_place : ∀ {i b}, place i = some b → fits i b
  injective : ∀ {i j b}, place i = some b → place j = some b → i = j

namespace Assignment

/-- One more guest can be given a place. -/
def Extendable (a : Assignment fits) : Prop :=
  ∃ i b, a.place i = none ∧ fits i b ∧ ∀ j, a.place j ≠ some b

/-- Every guest has a place. -/
def Total (a : Assignment fits) : Prop := ∀ i, a.place i ≠ none

/-- The guest `i` has no place, and all that fit are taken. -/
def Blocked (i : ι) (a : Assignment fits) : Prop :=
  a.place i = none ∧ ∀ b, fits i b → ∃ j, a.place j = some b

/-- Nobody has a place. -/
def empty (fits : ι → β → Prop) : Assignment fits := ⟨fun _ => none, nofun, nofun⟩

/-- The guest `i` takes the place `b`. -/
def insert [DecidableEq ι] (a : Assignment fits) (i : ι) (b : β) (hfits : fits i b)
    (hfree : ∀ j, a.place j ≠ some b) : Assignment fits where
  place := Function.update a.place i (some b)
  fits_place := by
    intro j c hj
    rcases update_eq_some.mp hj with ⟨rfl, rfl⟩ | ⟨-, hj⟩
    · exact hfits
    · exact a.fits_place hj
  injective := by
    intro j k c hj hk
    rcases update_eq_some.mp hj with ⟨hji, hbc⟩ | ⟨-, hj⟩ <;>
      rcases update_eq_some.mp hk with ⟨hki, hbc'⟩ | ⟨-, hk⟩
    · exact hji.trans hki.symm
    · exact absurd (hbc ▸ hk) (hfree k)
    · exact absurd (hbc' ▸ hj) (hfree j)
    · exact a.injective hj hk

theorem insert_eq_some [DecidableEq ι] {a : Assignment fits} {i j : ι} {b c : β}
    (hf : fits i b) (hfr : ∀ j, a.place j ≠ some b) :
    (a.insert i b hf hfr).place j = some c ↔ j = i ∧ b = c ∨ j ≠ i ∧ a.place j = some c :=
  update_eq_some

theorem insert_eq_none [DecidableEq ι] {a : Assignment fits} {i j : ι} {b : β}
    (hf : fits i b) (hfr : ∀ j, a.place j ≠ some b) :
    (a.insert i b hf hfr).place j = none ↔ j ≠ i ∧ a.place j = none := by
  by_cases h : j = i <;> simp [insert, h]

/-- The guests whose places satisfy `p`. -/
def restrict (a : Assignment fits) (p : β → Prop) [DecidablePred p] {fits' : ι → β → Prop}
    (h : ∀ i b, fits i b → p b → fits' i b) : Assignment fits' where
  place i := (a.place i).filter fun b => decide (p b)
  fits_place := by
    intro i b hi
    obtain ⟨hb, hp⟩ := Option.filter_eq_some_iff.mp hi
    exact h i b (a.fits_place hb) (of_decide_eq_true hp)
  injective := fun hi hj =>
    a.injective (Option.filter_eq_some_iff.mp hi).1 (Option.filter_eq_some_iff.mp hj).1

end Assignment

/-- An assignment that no further guest can join has a place for every guest. -/
def Serviceable (fits : ι → β → Prop) : Prop := ∀ a : Assignment fits, ¬ a.Extendable → a.Total

/-- A guest that is blocked stays blocked while others are given places, so that it is left over in
an assignment that no further guest can join. -/
theorem Assignment.exists_stuck [Fintype ι] {a : Assignment fits} (h : a.Blocked i) :
    ∃ a' : Assignment fits, ¬ a'.Extendable ∧ a'.place i = none := by
  classical
  induction hn : (Finset.univ.filter fun j => a.place j = none).card using Nat.strong_induction_on
    generalizing a with
  | _ n ih =>
    by_cases hext : a.Extendable
    · obtain ⟨j, b, hj, hf, hfr⟩ := hext
      have hij : i ≠ j := by
        rintro rfl
        obtain ⟨k, hk⟩ := h.2 b hf
        exact hfr k hk
      refine ih _ ?_ (a := a.insert j b hf hfr) ⟨?_, fun c hc => ?_⟩ rfl
      · rw [← hn]
        refine Finset.card_lt_card
          (Finset.ssubset_iff_subset_ne.mpr ⟨fun k hk => ?_, fun heq => ?_⟩)
        · simp only [Finset.mem_filter, Finset.mem_univ, true_and, insert_eq_none] at hk ⊢
          exact hk.2
        · have hmem : j ∈ Finset.univ.filter fun k => a.place k = none := by simp [hj]
          rw [← heq] at hmem
          simp [insert_eq_none] at hmem
      · exact (insert_eq_none hf hfr).mpr ⟨hij, h.1⟩
      · obtain ⟨k, hk⟩ := h.2 c hc
        refine ⟨k, (insert_eq_some hf hfr).mpr (.inr ⟨?_, hk⟩)⟩
        rintro rfl
        rw [hj] at hk
        cases hk
    · exact ⟨a, hext, h.1⟩

theorem serviceable_iff_not_blocked [Fintype ι] :
    Serviceable fits ↔ ∀ (a : Assignment fits) (i : ι), ¬ a.Blocked i := by
  constructor
  · intro h a i hblo
    obtain ⟨a', hext, hi⟩ := Assignment.exists_stuck hblo
    exact h a' hext i hi
  · intro h a hext i hi
    refine h a i ⟨hi, fun b hb => ?_⟩
    by_contra hf
    exact hext ⟨i, b, hi, hb, fun j hj => hf ⟨j, hj⟩⟩

theorem Serviceable.of_fewer_places [Fintype ι] (p : β → Prop)
    (hf : ∀ i b, fits i b ↔ fits' i b ∧ p b) (h : Serviceable fits) : Serviceable fits' := by
  classical
  rw [serviceable_iff_not_blocked] at h ⊢
  intro a i hblo
  -- the guests at the new places leave, and the guest `i` is blocked without them
  refine h (a.restrict p fun j b hj hp => (hf j b).mpr ⟨hj, hp⟩) i ⟨?_, fun b hb => ?_⟩
  · change (a.place i).filter _ = none
    rw [hblo.1]
    rfl
  · obtain ⟨hb, hp⟩ := (hf i b).mp hb
    obtain ⟨j, hj⟩ := hblo.2 b hb
    exact ⟨j, Option.filter_eq_some_iff.mpr ⟨hj, decide_eq_true hp⟩⟩

/-! ## Room -/

open Classical in
/-- Some places fit the guest `i`, and fewer others compete for them than there are. -/
def HasRoom [Fintype ι] (fits : ι → β → Prop) (i : ι) : Prop :=
  ∃ places : Finset β, (∀ b ∈ places, fits i b) ∧
    (Finset.univ.filter fun j => j ≠ i ∧ ∃ b ∈ places, fits j b).card < places.card

/-- The places of a guest without room can all be given to others, by Hall's theorem. -/
theorem hasRoom_iff_not_blocked [Fintype ι] :
    HasRoom fits i ↔ ∀ a : Assignment fits, ¬ a.Blocked i := by
  classical
  constructor
  · rintro ⟨places, hfits, hlt⟩ a ⟨hi, hblo⟩
    refine hlt.not_ge (Finset.card_le_card_of_forall_subsingleton
      (fun b j => a.place j = some b) (fun b hb => ?_) fun j _ b hb c hc => ?_)
    · obtain ⟨j, hj⟩ := hblo b (hfits b hb)
      refine ⟨j, Finset.mem_filter.mpr ⟨Finset.mem_univ j, ?_, b, hb, a.fits_place hj⟩, hj⟩
      rintro rfl
      rw [hi] at hj
      cases hj
    · exact Option.some.inj (hb.2.symm.trans hc.2)
  · intro h
    by_contra hroom
    let others (b : {b // fits i b}) := Finset.univ.filter fun j => j ≠ i ∧ fits j b
    obtain ⟨f, hf, hmem⟩ :=
        (Finset.all_card_le_biUnion_card_iff_exists_injective others).mp fun places => by
      by_contra hlt
      refine hroom ⟨places.map (.subtype _), by simp +contextual, ?_⟩
      rw [Finset.card_map]
      refine (Finset.card_le_card fun j hj => ?_).trans_lt (not_le.mp hlt)
      obtain ⟨hne, c, hc, hfits⟩ := (Finset.mem_filter.mp hj).2
      obtain ⟨b, hmem, rfl⟩ := Finset.mem_map.mp hc
      exact Finset.mem_biUnion.mpr ⟨b, hmem, by simpa [others, hne] using hfits⟩
    have hinv := Function.Injective.isPartialInv hf
    have hplace : ∀ {j b}, (Function.partialInv f j).map Subtype.val = some b →
        ∃ hb : fits i b, f ⟨b, hb⟩ = j := by
      intro j b hj
      obtain ⟨c, hc, rfl⟩ := Option.map_eq_some_iff.mp hj
      exact ⟨c.2, (hinv _ _).mp hc⟩
    refine h ⟨fun j => (Function.partialInv f j).map Subtype.val, ?_, ?_⟩ ⟨?_, fun b hb => ?_⟩
    · intro j b hj
      obtain ⟨hb, rfl⟩ := hplace hj
      exact (Finset.mem_filter.mp (hmem _)).2.2
    · intro j k b hj hk
      obtain ⟨hb, rfl⟩ := hplace hj
      obtain ⟨-, rfl⟩ := hplace hk
      rfl
    · refine Option.eq_none_iff_forall_ne_some.mpr fun b hb => ?_
      obtain ⟨hb, hi⟩ := hplace hb
      exact (Finset.mem_filter.mp (hmem _)).2.1 hi
    · exact ⟨f ⟨b, hb⟩, by simp [(hinv ⟨b, hb⟩ _).mpr rfl]⟩

/-- **Serviceable guests may lose a place iff each guest whom it fits has room elsewhere.** -/
theorem Serviceable.without_place_iff [Fintype ι] (h : Serviceable fits) (place : β) :
    Serviceable (fun i b => fits i b ∧ b ≠ place) ↔
      ∀ i, fits i place → HasRoom (fun i b => fits i b ∧ b ≠ place) i := by
  rw [serviceable_iff_not_blocked] at h ⊢
  refine ⟨fun h' i _ => hasRoom_iff_not_blocked.mpr fun a => h' a i, fun h' a i hblo => ?_⟩
  by_cases hi : fits i place
  · exact hasRoom_iff_not_blocked.mp (h' i hi) a hblo
  · -- a guest whom the place does not fit was blocked before
    refine h ⟨a.place, fun hj => (a.fits_place hj).1, a.injective⟩ i ⟨hblo.1, fun b hb => ?_⟩
    refine hblo.2 b ⟨hb, ?_⟩
    rintro rfl
    exact hi hb

/-! ## Arrivals and assignments -/

/-- The guests of an assignment arrive first and take their places: the next one finds another. -/
theorem Arrives.free {a : Assignment fits} {o₁ o₂ : List ι} (h : Arrives fits used (o₁ ++ i :: o₂))
    (hno : o₁.Nodup) (hp : ∀ j ∈ o₁, ∃ b, a.place j = some b ∧ b ∉ used) :
    ∃ b, fits i b ∧ b ∉ used ∧ ∀ j ∈ o₁, a.place j ≠ some b := by
  induction o₁ generalizing used with
  | nil =>
    obtain ⟨b, hb, hf⟩ := h.1
    exact ⟨b, hb, hf, by simp⟩
  | cons j o₁ ih =>
    obtain ⟨hj, hno⟩ := nodup_cons.mp hno
    obtain ⟨⟨c, hc, hcf⟩, hp⟩ := forall_mem_cons.mp hp
    have hp' : ∀ k ∈ o₁, ∃ b, a.place k = some b ∧ b ∉ c :: used := by
      intro k hk
      obtain ⟨b, hb, hf⟩ := hp k hk
      refine ⟨b, hb, fun hmem => (mem_cons.mp hmem).elim (fun heq => ?_) hf⟩
      exact hj (a.injective hc (heq ▸ hb) ▸ hk)
    obtain ⟨b, hb, hf, hne⟩ := ih (h.2 c (a.fits_place hc) hcf) hno hp'
    rw [mem_cons, not_or] at hf
    refine ⟨b, hb, hf.2, forall_mem_cons.mpr ⟨fun hjb => hf.1 ?_, hne⟩⟩
    exact Option.some.inj (hjb.symm.trans hc)

/-- While no guest is blocked, the guests without a place arrive. -/
theorem arrives_of_not_blocked (h : ∀ (a : Assignment fits) (i : ι), ¬ a.Blocked i)
    (a : Assignment fits) (hnd : o.Nodup) (hn : ∀ i ∈ o, a.place i = none)
    (hus : ∀ b, b ∈ used ↔ ∃ j, a.place j = some b) : Arrives fits used o := by
  classical
  induction o generalizing a used with
  | nil => trivial
  | cons i o ih =>
    obtain ⟨hi, hnd⟩ := nodup_cons.mp hnd
    rw [forall_mem_cons] at hn
    refine ⟨?_, fun b hb hf => ?_⟩
    · by_contra hno
      refine h a i ⟨hn.1, fun b hb => ?_⟩
      by_contra hf
      exact hno ⟨b, hb, fun hmem => hf ((hus b).mp hmem)⟩
    · have hf' : ∀ j, a.place j ≠ some b := fun j hj => hf ((hus b).mpr ⟨j, hj⟩)
      refine ih (a.insert i b hb hf') hnd (fun j hj => ?_) fun c => ?_
      · exact (Assignment.insert_eq_none hb hf').mpr ⟨fun heq => hi (heq ▸ hj), hn.2 j hj⟩
      · simp only [mem_cons, hus, Assignment.insert_eq_some]
        constructor
        · rintro (rfl | ⟨j, hj⟩)
          · exact ⟨i, .inl ⟨rfl, rfl⟩⟩
          · refine ⟨j, .inr ⟨?_, hj⟩⟩
            rintro rfl
            rw [hn.1] at hj
            cases hj
        · rintro ⟨j, ⟨-, rfl⟩ | ⟨-, hj⟩⟩
          · exact .inl rfl
          · exact .inr ⟨j, hj⟩

/-! ## Lists of guests -/

theorem exists_map_eq_of_perm {f : κ → ι} {l : List κ} (h : o.Perm (l.map f)) :
    ∃ p : List κ, p.Perm l ∧ p.map f = o := by
  induction o generalizing l with
  | nil => exact ⟨[], by simpa using h.symm.eq_nil, rfl⟩
  | cons x o ih =>
    obtain ⟨k, hk, rfl⟩ := mem_map.mp (h.subset mem_cons_self)
    obtain ⟨s, t, rfl⟩ := append_of_mem hk
    have hr : o.Perm ((s ++ t).map f) := by
      refine List.Perm.cons_inv (a := f k) (h.trans ?_)
      rw [map_append, map_cons, map_append]
      exact perm_middle
    obtain ⟨p, hp, rfl⟩ := ih hr
    exact ⟨k :: p, (hp.cons k).trans perm_middle.symm, rfl⟩

/-- **Guests arrive in every order iff they are serviceable**: the guests of a list find places in
whatever order they come and whatever they choose iff no assignment of some of them to fitting
places leaves a guest over that could not have a place as well. -/
theorem forall_arrives_iff :
    (∀ o : List ι, o.Perm l → Arrives fits [] o) ↔
      Serviceable fun (i : Fin l.length) b => fits l[i] b := by
  rw [serviceable_iff_not_blocked]
  constructor
  · rintro h a i ⟨hi, hblo⟩
    -- first the guests that have a place, then `i`, then the others
    let served := (List.finRange l.length).filter fun j => (a.place j).isSome
    let rest := (List.finRange l.length).filter fun j => !(a.place j).isSome
    have hall : (served ++ rest).Perm (List.finRange l.length) := filter_append_perm _ _
    have hir : i ∈ rest := by simp [rest, hi]
    obtain ⟨s, t, hst⟩ := append_of_mem hir
    have hf : (i :: (s ++ t)).Perm rest := hst ▸ perm_middle.symm
    have hpe : ((served ++ i :: (s ++ t)).map (l[·])).Perm l := by
      have hmap := ((hf.append_left served).trans hall).map (l[·])
      rwa [show (List.finRange l.length).map (l[·]) = l from map_getElem_finRange l] at hmap
    have hpla : ∀ j ∈ served, ∃ b, a.place j = some b ∧ b ∉ [] := fun j hj =>
      (Option.isSome_iff_exists.mp (mem_filter.mp hj).2).imp fun b hb => ⟨hb, not_mem_nil⟩
    obtain ⟨b, hb, -, hfr⟩ := (arrives_map.mp (h _ hpe)).free ((nodup_finRange _).filter _) hpla
    obtain ⟨j, hj⟩ := hblo b hb
    exact hfr j (by simp [served, hj]) hj
  · intro h o ho
    rw [← map_getElem_finRange l] at ho
    obtain ⟨p, hp, rfl⟩ := exists_map_eq_of_perm ho
    rw [arrives_map]
    refine arrives_of_not_blocked h (Assignment.empty _) (hp.nodup_iff.mpr (nodup_finRange _))
      (fun _ _ => rfl) fun b => ?_
    simp [Assignment.empty]

theorem forall_arrives_of_fewer_places (p : β → Prop) (hf : ∀ i b, fits i b ↔ fits' i b ∧ p b)
    (h : ∀ o : List ι, o.Perm l → Arrives fits [] o) :
    ∀ o : List ι, o.Perm l → Arrives fits' [] o :=
  forall_arrives_iff.mpr ((forall_arrives_iff.mp h).of_fewer_places p fun i b => hf l[i] b)

end EverestCore.Lib
