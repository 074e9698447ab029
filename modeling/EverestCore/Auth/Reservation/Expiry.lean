import EverestCore.Auth.Reservation.Bookkeeping

/-!
# Reservations that expire

The callback of a timer knows the id of its reservation only. When the reservation is replaced by
one with the same id while the callback is dispatched, the callback ends the new one.

Results:
* **`expiry_not_early`**: in a run of such steps no reservation expires before its time.
* `replaced_reservation_expires_early`: a reservation that is replaced after its callback was
  dispatched.
-/

namespace EverestCore.Auth

open EverestCore.Lib List ReservationHandler

namespace ReservationHandler

open Reservation (Op)

/-- No callback is dispatched for the id of a reservation that is accepted and is not yet due. -/
def noStaleCallback (h : ReservationHandler) : Op → Bool
  | .makeReservation evseId r =>
    (h.makeReservation evseId r).2 != .accepted || !h.pending.contains r.reservationId ||
      decide (r.expiryTime ≤ h.now)
  | _ => true

/-- The handler has the reservation. -/
def Holds (r : Reservation) (h : ReservationHandler) : Prop :=
  r ∈ h.evseReservations.entries.map (·.2) ∨ r ∈ h.globalReservations

structure Punctual (h : ReservationHandler) : Prop extends h.Consistent where
  times : ∀ r, h.Holds r → (h.timers.find? r.reservationId).map (·.expiryTime) = some r.expiryTime
  due : ∀ r, h.Holds r → r.reservationId ∈ h.pending → r.expiryTime ≤ h.now
  ended : ∀ x ∈ h.ended, x.reason = .expired → ∀ r, x.reservation = some r → r.expiryTime ≤ x.time

variable {h h' : ReservationHandler}

/-! ## Cancelling -/

variable {r : Reservation}

theorem Without.holds {gone : Int → Bool} (hw : Without gone h h')
    (hr : h'.Holds r) : h.Holds r ∧ gone r.reservationId = false := by
  unfold Holds at hr ⊢
  rw [hw.evse, hw.global] at hr
  rcases hr with hr | hr
  · obtain ⟨e, he, rfl⟩ := mem_map.mp hr
    obtain ⟨he, hg⟩ := mem_filter.mp he
    exact ⟨.inl (mem_map_of_mem he), by simpa using hg⟩
  · obtain ⟨hr, hg⟩ := mem_filter.mp hr
    exact ⟨.inr hr, by simpa using hg⟩

/-- The reservation that is ended is one of the handler, with the id. -/
theorem holds_endedReservation {id : Int} {executeCallback : Bool} {reason : ReservationEndReason}
    (hr : (h.endedReservation id executeCallback reason).reservation = some r) :
    h.Holds r ∧ r.reservationId = id := by
  unfold endedReservation at hr
  cases hf : h.evseOfReservation id with
  | some e =>
    rw [hf] at hr
    obtain rfl := Option.some.inj hr
    obtain ⟨hmem, hid⟩ := evseOfReservation_eq_some hf
    exact ⟨.inl (mem_map_of_mem hmem), hid⟩
  | none =>
    rw [hf] at hr
    exact ⟨.inr (mem_of_find?_eq_some hr), by simpa using List.find?_some hr⟩

/-- What `cancel_reservation` does not change, and what it records. -/
theorem cancelReservation_frame (id : Int) (executeCallback : Bool) (reason : ReservationEndReason)
    (h : ReservationHandler) :
    let h' := (h.cancelReservation id executeCallback reason).1
    h'.pending = h.pending ∧ h'.now = h.now ∧
      (∀ id', id' ≠ id → h'.timers.find? id' = h.timers.find? id') ∧
      ∀ x ∈ h'.ended, x ∈ h.ended ∨ x = h.endedReservation id executeCallback reason := by
  intro h'
  have hrem : (h.removeReservation id).pending = h.pending ∧
      (h.removeReservation id).now = h.now := by
    unfold removeReservation
    split <;> exact ⟨rfl, rfl⟩
  unfold h' cancelReservation
  split_ifs
  · rw [storeReservations_eq]
    refine ⟨hrem.1, hrem.2, fun id' hne => ?_, fun x hx => (mem_cons.mp hx).symm⟩
    rw [OrderedMap.find?_erase, if_neg hne]
  · exact ⟨rfl, rfl, fun _ _ => rfl, fun x hx => .inl hx⟩

theorem punctual_cancel (id : Int) (executeCallback : Bool) (reason : ReservationEndReason)
    (hp : h.Punctual)
    (hdue : reason = .expired → ∀ r, h.Holds r → r.reservationId = id → r.expiryTime ≤ h.now) :
    (h.cancelReservation id executeCallback reason).1.Punctual := by
  obtain ⟨hw, hc⟩ := cancelReservation_spec hp.toConsistent id executeCallback reason
  obtain ⟨hpen, hnow, ht, he⟩ := cancelReservation_frame id executeCallback reason h
  refine ⟨hc, fun r hr => ?_, fun r hr hpe => ?_, fun x hx hrea r hr => ?_⟩
  · obtain ⟨hr, hid⟩ := hw.holds hr
    rw [ht _ (by simpa using hid)]
    exact hp.times r hr
  · rw [hnow]
    exact hp.due r (hw.holds hr).1 (hpen ▸ hpe)
  · rcases he x hx with hx | rfl
    · exact hp.ended x hx hrea r hr
    · obtain ⟨hr, hid⟩ := holds_endedReservation hr
      exact hdue hrea r hr hid

/-! ## Making a reservation -/

/-- What a reservation that is made adds. -/
structure AddsTimer (r : Reservation) (h h' : ReservationHandler) : Prop where
  holds : ∀ x, h'.Holds x → x = r ∨ h.Holds x
  timers : h'.timers = h.timers.insert r.reservationId { expiryTime := r.expiryTime }
  frame : h'.pending = h.pending ∧ h'.now = h.now ∧ h'.ended = h.ended

theorem holds_insert {evseId : EvseId} {x : Reservation} {specific : EvseReservations}
    (hx : x ∈ (specific.insert evseId r).entries.map (·.2)) :
    x = r ∨ x ∈ specific.entries.map (·.2) := by
  obtain ⟨e, he, rfl⟩ := mem_map.mp hx
  rcases OrderedMap.mem_entries_insert.mp he with rfl | ⟨he, -⟩
  · exact .inl rfl
  · exact .inr (mem_map_of_mem he)

theorem makeEvseReservation_timer (evseId : EvseId) (r : Reservation) :
    (h.makeEvseReservation evseId r).1 = h ∨
      AddsTimer r h (h.makeEvseReservation evseId r).1 ∧
        (h.makeEvseReservation evseId r).2 = .accepted := by
  unfold makeEvseReservation
  by_cases hres : h.evseReservations.contains evseId
  · rw [if_pos hres]
    exact .inl rfl
  rw [if_neg hres]
  cases h.evses.find? evseId with
  | none => exact .inl rfl
  | some evse =>
    dsimp only
    split_ifs
    all_goals first | exact .inl rfl | skip
    all_goals
      refine .inr ⟨?_, rfl⟩
      simp only [storeReservations_eq, setReservationTimer]
      refine ⟨fun x hx => ?_, rfl, rfl, rfl, rfl⟩
      exact hx.elim (fun hx => (holds_insert hx).imp_right .inl) fun hx => .inr (.inr hx)

theorem makeGlobalReservation_timer (r : Reservation) :
    (h.makeGlobalReservation r).1 = h ∨
      AddsTimer r h (h.makeGlobalReservation r).1 ∧ (h.makeGlobalReservation r).2 = .accepted := by
  unfold makeGlobalReservation
  split_ifs
  · exact .inl rfl
  · refine .inr ⟨?_, rfl⟩
    simp only [storeReservations_eq, setReservationTimer]
    refine ⟨fun x hx => ?_, rfl, rfl, rfl, rfl⟩
    rcases hx with hx | hx
    · exact .inr (.inl hx)
    · exact (mem_append.mp hx).elim (fun hx => .inr (.inr hx)) fun hx => .inl (mem_singleton.mp hx)
  · exact .inl rfl

theorem AddsTimer.punctual (had : AddsTimer r h h') (hp : h.Punctual)
    (hnew : ∀ x, h.Holds x → x.reservationId ≠ r.reservationId)
    (hdue : r.reservationId ∈ h.pending → r.expiryTime ≤ h.now) (hc : h'.Consistent) :
    h'.Punctual := by
  obtain ⟨hpe, hnow, he⟩ := had.frame
  refine ⟨hc, fun x hx => ?_, fun x hx hmem => ?_, by rw [he]; exact hp.ended⟩
  · rw [had.timers, OrderedMap.find?_insert]
    rcases had.holds x hx with rfl | hx
    · simp
    · rw [if_neg (hnew x hx)]
      exact hp.times x hx
  · rw [hnow]
    rcases had.holds x hx with rfl | hx
    · exact hdue (hpe ▸ hmem)
    · exact hp.due x hx (hpe ▸ hmem)

theorem punctual_makeReservation (evseId : Option EvseId) (r : Reservation) (hp : h.Punctual)
    (hdue : (h.makeReservation evseId r).2 = .accepted → r.reservationId ∈ h.pending →
      r.expiryTime ≤ h.now) : (h.makeReservation evseId r).1.Punctual := by
  have hc := consistent_makeReservation evseId r hp.toConsistent
  unfold makeReservation at hc hdue ⊢
  split_ifs at hc hdue ⊢
  · exact hp
  have hcan := punctual_cancel r.reservationId false .cancelled hp nofun
  obtain ⟨hw, -⟩ := cancelReservation_spec hp.toConsistent r.reservationId false .cancelled
  obtain ⟨hpe, hnow, -⟩ := cancelReservation_frame r.reservationId false .cancelled h
  have hnew : ∀ x, (h.cancelReservation r.reservationId false .cancelled).1.Holds x →
      x.reservationId ≠ r.reservationId := fun x hx => by simpa using (hw.holds hx).2
  rw [← hpe, ← hnow] at hdue
  cases evseId with
  | some evseId =>
    rcases makeEvseReservation_timer evseId r with heq | ⟨had, hacc⟩
    · rwa [heq]
    · exact had.punctual hcan hnew (hdue hacc) hc
  | none =>
    rcases makeGlobalReservation_timer r with heq | ⟨had, hacc⟩
    · rwa [heq]
    · exact had.punctual hcan hnew (hdue hacc) hc

/-! ## Steps -/

theorem punctual_foldl_cancel (ids : List Int) (executeCallback : Bool) (hp : h.Punctual) :
    (ids.foldl (fun h id => (h.cancelReservation id executeCallback .cancelled).1) h).Punctual := by
  induction ids generalizing h with
  | nil => exact hp
  | cons id ids ih => exact ih (punctual_cancel id executeCallback .cancelled hp nofun)

theorem punctual_onConnectorStateChanged (state : ConnectorState) (evseId : EvseId)
    (connectorId : Int) (hp : h.Punctual) :
    (h.onConnectorStateChanged state evseId connectorId).Punctual := by
  unfold onConnectorStateChanged
  split_ifs
  · exact hp
  split
  · exact hp
  split
  · exact hp
  split
  · exact punctual_cancel _ _ _ hp nofun
  · exact punctual_foldl_cancel _ _ hp

theorem punctual_timerExpires (id : Int) (hp : h.Punctual) : (h.timerExpires id).Punctual := by
  have hc := consistent_step h (.timerExpires id) hp.toConsistent
  simp only [step] at hc
  unfold timerExpires at hc ⊢
  cases ht : h.timers.find? id with
  | none => exact hp
  | some t =>
    rw [ht] at hc
    dsimp only at hc ⊢
    by_cases hexp : (!t.dispatched && decide (t.expiryTime ≤ h.now))
    · rw [if_pos hexp] at hc ⊢
      have hle : t.expiryTime ≤ h.now := by simpa using (Bool.and_eq_true_iff.mp hexp).2
      refine ⟨hc, fun r hr => ?_, fun r hr hmem => ?_, hp.ended⟩
      · have hti := hp.times r hr
        rw [OrderedMap.find?_insert]
        split_ifs with hid
        · rwa [hid, ht] at hti
        · exact hti
      · rcases mem_append.mp hmem with hmem | hmem
        · exact hp.due r hr hmem
        · have hti := hp.times r hr
          rw [mem_singleton.mp hmem, ht] at hti
          exact Option.some.inj hti ▸ hle
    · rwa [if_neg hexp]

theorem punctual_expiryCallback (n : Nat) (hp : h.Punctual) : (h.expiryCallback n).Punctual := by
  unfold expiryCallback
  cases hid : h.pending[n]? with
  | none => exact hp
  | some id =>
    have hp' : Punctual { h with pending := h.pending.eraseIdx n } :=
      ⟨⟨hp.unique, hp.timers, hp.evses, hp.stored⟩, hp.times,
        fun r hr hmem => hp.due r hr (mem_of_mem_eraseIdx hmem), hp.ended⟩
    refine punctual_cancel id true .expired hp' fun _ r hr heq => ?_
    exact hp.due r hr (heq ▸ mem_of_getElem? hid)

/-- A step that leaves no stale callback keeps the handler punctual. -/
theorem punctual_step (h : ReservationHandler) (op : Op) (hst : h.noStaleCallback op)
    (hp : h.Punctual) : (h.step op).Punctual := by
  cases op with
  | makeReservation evseId r =>
    refine punctual_makeReservation evseId r hp fun hacc hmem => ?_
    simpa [noStaleCallback, hacc, hmem] using hst
  | cancelReservation | onReservationUsed => exact punctual_cancel _ _ _ hp (by simp)
  | cancelEvseReservation =>
    simp only [step, cancelEvseReservation]
    split
    · exact punctual_cancel _ _ _ hp (by simp)
    · exact hp
  | onConnectorStateChanged state evseId connectorId =>
    exact punctual_onConnectorStateChanged state evseId connectorId hp
  | checkReserved =>
    exact ⟨consistent_step h .checkReserved hp.toConsistent, hp.times, hp.due, hp.ended⟩
  | updateEvse evseId evse =>
    have hc := consistent_step h (.updateEvse evseId evse) hp.toConsistent
    simp only [step, updateEvse] at hc ⊢
    split_ifs at hc ⊢
    · exact ⟨hc, hp.times, hp.due, hp.ended⟩
    · exact hp
  | advance d =>
    refine ⟨consistent_step h (.advance d) hp.toConsistent, hp.times, fun r hr hmem => ?_, hp.ended⟩
    have hdue := hp.due r hr hmem
    simp only [step]
    omega
  | timerExpires id => exact punctual_timerExpires id hp
  | expiryCallback n => exact punctual_expiryCallback n hp

theorem punctual_empty (evses : Evses) (hasStore : Bool) (now : Int) :
    (empty evses hasStore now).Punctual where
  toConsistent := consistent_empty evses hasStore now
  times r hr := by simp [Holds, empty] at hr
  due r hr := by simp [Holds, empty] at hr
  ended := by simp [empty]

end ReservationHandler

open ReservationHandler in
/-- **No reservation expires early**: in a run from a handler without reservations, in which no
reservation that is not yet due is accepted while a callback for its id is dispatched, a reservation
that is ended with the reason `Expired` is ended at its expiry time or later. -/
theorem expiry_not_early (evses : Evses) (hasStore : Bool) (now : Int) (ops : List Reservation.Op)
    (hops : Machine.Along step (fun h op => h.noStaleCallback op = true)
      (empty evses hasStore now) ops) :
    let h := (empty evses hasStore now).run ops
    ∀ x ∈ h.ended, x.reason = .expired → ∀ r, x.reservation = some r → r.expiryTime ≤ x.time :=
  (Machine.run_invariant_along punctual_step ops hops (punctual_empty evses hasStore now)).ended

/-- A reservation that is replaced when its callback has run. -/
def replacedAfterCallback : List Reservation.Op :=
  [.makeReservation (some 1) { reservationId := 5, expiryTime := 10 },
    .advance 10, .timerExpires 5, .expiryCallback 0,
    .makeReservation (some 1) { reservationId := 5, expiryTime := 100 },
    .advance 90, .timerExpires 5, .expiryCallback 0]

theorem replaced_reservation_expires :
    (((empty oneEvse true 0).run replacedAfterCallback).ended.map fun x =>
      (x.reservation.map (·.expiryTime), x.reason, x.time)) =
        [(some 100, .expired, 100), (some 10, .expired, 10)] ∧
    ∀ x ∈ ((empty oneEvse true 0).run replacedAfterCallback).ended,
      x.reason = .expired → ∀ r, x.reservation = some r → r.expiryTime ≤ x.time :=
  ⟨by decide, expiry_not_early oneEvse true 0 replacedAfterCallback (by decide)⟩

/-- The reservation with id 5 is due at time 10. Its callback is dispatched, but before it runs the
reservation is replaced by one that expires at time 100. The callback ends the new one, at time
10. -/
theorem replaced_reservation_expires_early :
    ((empty oneEvse true 0).run [.makeReservation (some 1) { reservationId := 5, expiryTime := 10 },
        .advance 10, .timerExpires 5,
        .makeReservation (some 1) { reservationId := 5, expiryTime := 100 },
        .expiryCallback 0]).ended.map (fun x =>
          (x.reservation.map (·.expiryTime), x.reason, x.time)) =
      [(some 100, .expired, 10), (some 10, .cancelled, 10)] := by
  decide

end EverestCore.Auth
