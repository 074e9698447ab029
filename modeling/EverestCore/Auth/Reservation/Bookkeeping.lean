import EverestCore.Auth.Reservation.Handler

/-!
# The bookkeeping of reservations

Each reservation is in one place, has a timer, and is in the store. A reservation is found by the
timer of its id, so that one without a timer could not be cancelled.

Results:
* **`bookkeeping_consistent`**: it is consistent in every run.
-/

namespace EverestCore.Auth

open EverestCore.Lib List OrderedMap

namespace ReservationHandler

open Reservation (Op)

/-- The ids of all reservations. -/
def reservationIds (h : ReservationHandler) : List Int :=
  h.evseReservations.entries.map (·.2.reservationId) ++ h.globalReservations.map (·.reservationId)

structure Consistent (h : ReservationHandler) : Prop where
  unique : h.reservationIds.Nodup
  timers : ∀ id, id ∈ h.timers.keys ↔ id ∈ h.reservationIds
  evses : ∀ e ∈ h.evseReservations.keys, e ∈ h.evses.keys
  stored : h.hasStore = true → h.stored.getD [] = h.reservationArray

/-- `h'` is `h` without the reservations whose ids satisfy `gone`. -/
structure Without (gone : Int → Bool) (h h' : ReservationHandler) : Prop where
  evses : h'.evses = h.evses
  evse : h'.evseReservations.entries =
    h.evseReservations.entries.filter fun e => !gone e.2.reservationId
  global : h'.globalReservations = h.globalReservations.filter fun r => !gone r.reservationId

variable {h h' : ReservationHandler}

/-! ## Cancelling -/

/-- With different keys, the first element with a key is the only one. -/
theorem eraseP_eq_filter {α : Type} {key : α → Int} {l : List α} (hno : (l.map key).Nodup)
    (id : Int) : l.eraseP (key · == id) = l.filter fun a => !(key a == id) := by
  induction l with
  | nil => rfl
  | cons a l ih =>
    obtain ⟨ha, hno⟩ := nodup_cons.mp (map_cons ▸ hno)
    by_cases hkey : key a = id
    · have hne : ∀ b ∈ l, (!(key b == id)) := by
        intro b hb
        have : key b ≠ id := fun heq => ha (hkey ▸ heq ▸ mem_map_of_mem hb)
        simpa using this
      simp [hkey, filter_eq_self.mpr hne]
    · have hne : (key a == id) = false := beq_eq_false_iff_ne.mpr hkey
      simp [hne, ih hno]

theorem evseOfReservation_eq_none {id : Int} (hno : h.evseOfReservation id = none) :
    ∀ e ∈ h.evseReservations.entries, e.2.reservationId ≠ id := by
  rw [evseOfReservation, List.getLast?_eq_none_iff, filter_eq_nil_iff] at hno
  simpa using hno

variable {r : Reservation}

theorem evseOfReservation_eq_some {id : Int} {evseId : EvseId}
    (hs : h.evseOfReservation id = some (evseId, r)) :
    (evseId, r) ∈ h.evseReservations.entries ∧ r.reservationId = id := by
  have hmem := mem_filter.mp (mem_of_getLast? hs)
  exact ⟨hmem.1, by simpa using hmem.2⟩

/-- The EVSE of an entry and the id of its reservation determine each other. -/
theorem Consistent.evse_eq_iff (hc : h.Consistent) {e e' : EvseId × Reservation}
    (he : e ∈ h.evseReservations.entries) (he' : e' ∈ h.evseReservations.entries) :
    e.1 = e'.1 ↔ e.2.reservationId = e'.2.reservationId := by
  constructor
  · intro hev
    obtain ⟨evseId, r⟩ := e
    obtain rfl : evseId = e'.1 := hev
    rw [eq_of_mem_entries (m := h.evseReservations) he he']
  · intro hid
    rw [inj_on_of_nodup_map (nodup_append.mp hc.unique).1 he he' hid]

/-- The ids of the global reservations are not those of the EVSE-specific ones. -/
theorem Consistent.disjoint (hc : h.Consistent) {e : EvseId × Reservation} {g : Reservation}
    (he : e ∈ h.evseReservations.entries) (hg : g ∈ h.globalReservations) :
    e.2.reservationId ≠ g.reservationId :=
  (nodup_append.mp hc.unique).2.2 _ (mem_map_of_mem he) _ (mem_map_of_mem hg)

theorem without_removeReservation (hc : h.Consistent) (id : Int) :
    Without (· == id) h (h.removeReservation id) := by
  have hglo := (nodup_append.mp hc.unique).2.1
  unfold removeReservation
  cases hf : h.evseOfReservation id with
  | none =>
    refine ⟨rfl, ?_, eraseP_eq_filter hglo id⟩
    refine (filter_eq_self.mpr fun e he => ?_).symm
    simpa using evseOfReservation_eq_none hf e he
  | some e =>
    obtain ⟨evseId, r⟩ := e
    obtain ⟨hmem, rfl⟩ := evseOfReservation_eq_some hf
    refine ⟨rfl, ?_, (filter_eq_self.mpr fun g hg => ?_).symm⟩
    · refine filter_congr fun e he => ?_
      have hiff : e.1 = evseId ↔ e.2.reservationId = r.reservationId := hc.evse_eq_iff he hmem
      by_cases heq : e.1 = evseId <;> simp [heq, ← hiff]
    · simpa using (hc.disjoint hmem hg).symm

theorem Without.reservationIds {gone : Int → Bool} (hw : Without gone h h') :
    h'.reservationIds = h.reservationIds.filter fun id => !gone id := by
  unfold ReservationHandler.reservationIds
  rw [hw.evse, hw.global, filter_append, filter_map, filter_map]
  rfl

theorem Without.keys {gone : Int → Bool} (hw : Without gone h h') :
    ∀ e ∈ h'.evseReservations.keys, e ∈ h.evseReservations.keys := by
  intro e he
  rw [OrderedMap.keys, hw.evse] at he
  obtain ⟨x, hx, rfl⟩ := mem_map.mp he
  exact mem_map_of_mem (mem_of_mem_filter hx)

theorem storeReservations_eq (h : ReservationHandler) :
    h.storeReservations =
      { h with stored := if h.hasStore then some h.reservationArray else h.stored } := by
  unfold storeReservations
  split_ifs <;> rfl

/-- `cancel_reservation` removes the reservation with the id, and keeps the rest. -/
theorem cancelReservation_spec (hc : h.Consistent) (id : Int) (executeCallback : Bool)
    (reason : ReservationEndReason) :
    Without (· == id) h (h.cancelReservation id executeCallback reason).1 ∧
      (h.cancelReservation id executeCallback reason).1.Consistent := by
  unfold cancelReservation
  split_ifs with ht
  · have hw := without_removeReservation hc id
    have hids := hw.reservationIds
    have hrem : ∀ h' : ReservationHandler, h' = h.removeReservation id →
        h'.hasStore = h.hasStore := by
      rintro _ rfl
      unfold removeReservation
      split <;> rfl
    have hst := hrem _ rfl
    rw [storeReservations_eq]
    generalize h.removeReservation id = h' at hw hids hst
    refine ⟨⟨hw.evses, hw.evse, hw.global⟩, ⟨?_, fun id' => ?_, ?_, fun hhas => ?_⟩⟩
    · exact hids ▸ hc.unique.filter _
    · change id' ∈ (h.timers.erase id).keys ↔ id' ∈ h'.reservationIds
      rw [mem_keys_erase, hc.timers, hids, mem_filter, and_comm]
      simp
    · exact fun e he => hw.evses ▸ hc.evses e (hw.keys e he)
    · rw [if_pos hhas]
      rfl
  · have hne : ∀ id' ∈ h.reservationIds, id' ≠ id := by
      rintro id' hid' rfl
      exact ht (OrderedMap.mem_keys.mp ((hc.timers id').mpr hid'))
    refine ⟨⟨rfl, (filter_eq_self.mpr fun e he => ?_).symm,
      (filter_eq_self.mpr fun r hr => ?_).symm⟩, hc⟩
    · simpa using hne _ (mem_append_left _ (mem_map_of_mem he))
    · simpa using hne _ (mem_append_right _ (mem_map_of_mem hr))

/-- When the reservation of an EVSE is cancelled, the others stay. -/
theorem cancel_evseReservation (hc : h.Consistent) {evseId : EvseId}
    (hr : h.evseReservations.find? evseId = some r) (executeCallback : Bool)
    (reason : ReservationEndReason) :
    let h' := (h.cancelReservation r.reservationId executeCallback reason).1
    h'.evses = h.evses ∧ h'.evseReservations = h.evseReservations.erase evseId ∧
      h'.globalReservations = h.globalReservations := by
  obtain ⟨hw, -⟩ := cancelReservation_spec hc r.reservationId executeCallback reason
  have hmem := mem_entries.mpr hr
  refine ⟨hw.evses, ext_entries (hw.evse.trans ?_), ?_⟩
  · refine filter_congr fun e he => ?_
    have hiff : e.1 = evseId ↔ e.2.reservationId = r.reservationId := hc.evse_eq_iff he hmem
    by_cases heq : e.1 = evseId <;> simp [heq, ← hiff]
  · refine hw.global.trans (filter_eq_self.mpr fun g hg => ?_)
    simpa using (hc.disjoint hmem hg).symm

theorem foldl_cancelReservation_spec (hc : h.Consistent) (ids : List Int) (executeCallback : Bool)
    (reason : ReservationEndReason) :
    Without (ids.contains ·) h
        (ids.foldl (fun h id => (h.cancelReservation id executeCallback reason).1) h) ∧
      (ids.foldl (fun h id => (h.cancelReservation id executeCallback reason).1) h).Consistent := by
  induction ids generalizing h with
  | nil => exact ⟨⟨rfl, by simp, by simp⟩, hc⟩
  | cons id ids ih =>
    obtain ⟨hw, hc⟩ := cancelReservation_spec hc id executeCallback reason
    obtain ⟨hw', hc'⟩ := ih hc
    rw [foldl_cons]
    refine ⟨⟨hw'.evses.trans hw.evses, ?_, ?_⟩, hc'⟩
    · rw [hw'.evse, hw.evse, filter_filter]
      exact filter_congr fun e _ => by rw [contains_cons, Bool.not_or, Bool.and_comm]
    · rw [hw'.global, hw.global, filter_filter]
      exact filter_congr fun r _ => by rw [contains_cons, Bool.not_or, Bool.and_comm]

/-! ## Making a reservation -/

/-- The reservation `r` is added, with its timer. -/
structure Adds (r : Reservation) (h h' : ReservationHandler) : Prop where
  ids : h'.reservationIds.Perm (r.reservationId :: h.reservationIds)
  timers : h'.timers.keys = (h.timers.insert r.reservationId { expiryTime := r.expiryTime }).keys
  evses : ∀ e ∈ h'.evseReservations.keys, e ∈ h'.evses.keys
  stored : h'.hasStore = true → h'.stored = some h'.reservationArray

theorem Adds.consistent (hc : h.Consistent) (hnew : r.reservationId ∉ h.reservationIds)
    (had : Adds r h h') : h'.Consistent where
  unique := had.ids.nodup_iff.mpr (nodup_cons.mpr ⟨hnew, hc.unique⟩)
  timers id := by
    rw [had.timers, OrderedMap.mem_keys_insert, hc.timers, had.ids.mem_iff, mem_cons]
  evses := had.evses
  stored hhas := by rw [had.stored hhas, Option.getD_some]

theorem makeEvseReservation_cases (evseId : EvseId) (r : Reservation) (hc : h.Consistent) :
    (h.makeEvseReservation evseId r).1 = h ∨ Adds r h (h.makeEvseReservation evseId r).1 := by
  unfold makeEvseReservation
  by_cases hres : h.evseReservations.contains evseId
  · rw [if_pos hres]
    exact .inl rfl
  rw [if_neg hres]
  have hno : evseId ∉ h.evseReservations.keys := fun hmem =>
    hres (OrderedMap.mem_keys.mp hmem)
  cases hev : h.evses.find? evseId with
  | none => exact .inl rfl
  | some evse =>
    have hp := entries_insert_perm (a := r) hno
    have hids : ((h.evseReservations.insert evseId r).entries.map (·.2.reservationId) ++
        h.globalReservations.map (·.reservationId)).Perm (r.reservationId :: h.reservationIds) :=
      (hp.map (·.2.reservationId)).append_right _
    have hk : ∀ e ∈ (h.evseReservations.insert evseId r).keys, e ∈ h.evses.keys := by
      intro e he
      rcases OrderedMap.mem_keys_insert.mp he with rfl | he
      · rw [OrderedMap.mem_keys, OrderedMap.contains, hev]
        rfl
      · exact hc.evses e he
    dsimp only
    split_ifs
    all_goals first | exact .inl rfl | skip
    all_goals
      right
      simp only [storeReservations_eq, setReservationTimer]
      exact ⟨hids, rfl, hk, fun hhas => by simp only at hhas; simp only [hhas]; rfl⟩

theorem makeGlobalReservation_cases (r : Reservation) (hc : h.Consistent) :
    (h.makeGlobalReservation r).1 = h ∨ Adds r h (h.makeGlobalReservation r).1 := by
  unfold makeGlobalReservation
  split_ifs
  · exact .inl rfl
  · right
    simp only [storeReservations_eq, setReservationTimer]
    refine ⟨?_, rfl, hc.evses, fun hhas => by simp only at hhas; simp only [hhas]; rfl⟩
    unfold reservationIds
    simp only [map_append, map_cons, map_nil, ← append_assoc]
    exact perm_append_singleton _ _
  · exact .inl rfl

theorem consistent_makeReservation (evseId : Option EvseId) (r : Reservation) (hc : h.Consistent) :
    (h.makeReservation evseId r).1.Consistent := by
  unfold makeReservation
  split_ifs
  · exact hc
  obtain ⟨hw, hc'⟩ := cancelReservation_spec hc r.reservationId false .cancelled
  have hnew : r.reservationId ∉
      (h.cancelReservation r.reservationId false .cancelled).1.reservationIds := by
    rw [hw.reservationIds]
    simp
  cases evseId with
  | some evseId =>
    rcases makeEvseReservation_cases evseId r hc' with heq | had
    · rwa [heq]
    · exact had.consistent hc' hnew
  | none =>
    rcases makeGlobalReservation_cases r hc' with heq | had
    · rwa [heq]
    · exact had.consistent hc' hnew

/-! ## Runs -/

theorem consistent_cancel (id : Int) (executeCallback : Bool) (reason : ReservationEndReason)
    (hc : h.Consistent) : (h.cancelReservation id executeCallback reason).1.Consistent :=
  (cancelReservation_spec hc id executeCallback reason).2

theorem consistent_onConnectorStateChanged (state : ConnectorState) (evseId : EvseId)
    (connectorId : Int) (hc : h.Consistent) :
    (h.onConnectorStateChanged state evseId connectorId).Consistent := by
  unfold onConnectorStateChanged
  split_ifs
  · exact hc
  split
  · exact hc
  split
  · exact hc
  split
  · exact consistent_cancel _ _ _ hc
  · exact (foldl_cancelReservation_spec hc _ _ _).2

theorem consistent_step (h : ReservationHandler) (op : Op) (hc : h.Consistent) :
    (h.step op).Consistent := by
  cases op with
  | makeReservation evseId r => exact consistent_makeReservation evseId r hc
  | cancelReservation | onReservationUsed => exact consistent_cancel _ _ _ hc
  | cancelEvseReservation =>
    simp only [step, cancelEvseReservation]
    split
    · exact consistent_cancel _ _ _ hc
    · exact hc
  | onConnectorStateChanged state evseId connectorId =>
    exact consistent_onConnectorStateChanged state evseId connectorId hc
  | checkReserved | advance => exact ⟨hc.unique, hc.timers, hc.evses, hc.stored⟩
  | updateEvse =>
    simp only [step, updateEvse]
    split_ifs
    · refine ⟨hc.unique, hc.timers, fun e he => ?_, hc.stored⟩
      exact OrderedMap.mem_keys_insert.mpr (.inr (hc.evses e he))
    · exact hc
  | timerExpires id =>
    simp only [step, timerExpires]
    cases ht : h.timers.find? id with
    | none => exact hc
    | some t =>
      dsimp only
      split_ifs
      · refine ⟨hc.unique, fun id' => ?_, hc.evses, hc.stored⟩
        have hid : id ∈ h.timers.keys := by
          rw [OrderedMap.mem_keys, OrderedMap.contains, ht]
          rfl
        rw [OrderedMap.mem_keys_insert, hc.timers, or_iff_right_of_imp]
        · exact Iff.rfl
        · rintro rfl
          exact (hc.timers id').mp hid
      · exact hc
  | expiryCallback =>
    simp only [step, expiryCallback]
    split
    · exact consistent_cancel _ _ _ ⟨hc.unique, hc.timers, hc.evses, hc.stored⟩
    · exact hc

theorem consistent_run (ops : List Op) (hc : h.Consistent) : (h.run ops).Consistent :=
  Machine.run_invariant consistent_step ops hc

/-- A handler without reservations. -/
def empty (evses : Evses) (hasStore : Bool) (now : Int) : ReservationHandler :=
  { evses := evses, hasStore := hasStore, now := now }

theorem consistent_empty (evses : Evses) (hasStore : Bool) (now : Int) :
    (empty evses hasStore now).Consistent where
  unique := nodup_nil
  timers id := by simp [empty, reservationIds, OrderedMap.keys]
  evses := by simp [empty, OrderedMap.keys]
  stored _ := rfl

end ReservationHandler

end EverestCore.Auth
