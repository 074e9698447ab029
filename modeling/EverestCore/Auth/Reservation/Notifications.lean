import EverestCore.Auth.Reservation.Bookkeeping

/-!
# The notifications of reserved EVSEs

`check_number_global_reservations_match_number_available_evses` reports what has changed since the
last call. An EVSE that was marked as reserved and is not available at the next call is forgotten
without a report. When it is available again and is not needed for the reservations, nothing is
reported either.

Results:
* **`notifications_never_drift`**: in a run of such steps the updates are the status of the last
  call.
* `forgotten_evse_stays_reserved`: a car that used a reserved EVSE leaves it.
-/

namespace EverestCore.Auth

open EverestCore.Lib Finset

open Reservation (Op)

/-- A handler whose updates of the reserved EVSEs are followed. -/
structure Notified where
  handler : ReservationHandler
  /-- All that was reported as reserved, without what was later reported as available. -/
  notified : Finset EvseId := ∅
  /-- The EVSEs that were not available at the call after they were marked as reserved, nor
  since. -/
  absent : Finset EvseId := ∅

namespace ReservationHandler

variable {h : ReservationHandler}

/-! ## The status between the calls -/

theorem cancelReservation_lastReservedStatus (id : Int) (executeCallback : Bool)
    (reason : ReservationEndReason) (h : ReservationHandler) :
    (h.cancelReservation id executeCallback reason).1.lastReservedStatus =
      h.lastReservedStatus := by
  unfold cancelReservation
  split_ifs
  · rw [storeReservations_eq]
    unfold removeReservation
    split <;> rfl
  · rfl

theorem foldl_cancelReservation_lastReservedStatus (ids : List Int) (executeCallback : Bool)
    (reason : ReservationEndReason) (h : ReservationHandler) :
    (ids.foldl (fun h id => (h.cancelReservation id executeCallback reason).1)
      h).lastReservedStatus = h.lastReservedStatus := by
  induction ids generalizing h with
  | nil => rfl
  | cons id ids ih =>
    exact (ih _).trans (cancelReservation_lastReservedStatus id executeCallback reason h)

theorem makeReservation_lastReservedStatus (evseId : Option EvseId) (r : Reservation)
    (h : ReservationHandler) :
    (h.makeReservation evseId r).1.lastReservedStatus = h.lastReservedStatus := by
  have hev : ∀ (h : ReservationHandler) (evseId : EvseId),
      (h.makeEvseReservation evseId r).1.lastReservedStatus = h.lastReservedStatus := by
    intro h evseId
    unfold makeEvseReservation
    by_cases hres : h.evseReservations.contains evseId
    · rw [if_pos hres]
    rw [if_neg hres]
    cases h.evses.find? evseId with
    | none => rfl
    | some evse =>
      dsimp only
      split_ifs <;> simp only [storeReservations_eq, setReservationTimer]
  have hg : ∀ h : ReservationHandler,
      (h.makeGlobalReservation r).1.lastReservedStatus = h.lastReservedStatus := by
    intro h
    unfold makeGlobalReservation
    split_ifs <;> simp only [storeReservations_eq, setReservationTimer]
  unfold makeReservation
  split_ifs
  · rfl
  cases evseId with
  | some evseId => exact (hev _ evseId).trans (cancelReservation_lastReservedStatus _ _ _ h)
  | none => exact (hg _).trans (cancelReservation_lastReservedStatus _ _ _ h)

theorem step_lastReservedStatus (op : Op) (hop : op ≠ .checkReserved) :
    (h.step op).lastReservedStatus = h.lastReservedStatus := by
  cases op with
  | checkReserved => exact absurd rfl hop
  | makeReservation evseId r => exact makeReservation_lastReservedStatus evseId r h
  | cancelReservation | onReservationUsed => exact cancelReservation_lastReservedStatus _ _ _ h
  | cancelEvseReservation =>
    simp only [step, cancelEvseReservation]
    split
    · exact cancelReservation_lastReservedStatus _ _ _ h
    · rfl
  | onConnectorStateChanged =>
    simp only [step, onConnectorStateChanged]
    split_ifs
    · rfl
    split
    · rfl
    split
    · rfl
    split
    · exact cancelReservation_lastReservedStatus _ _ _ h
    · exact foldl_cancelReservation_lastReservedStatus _ _ _ h
  | updateEvse =>
    simp only [step, updateEvse]
    split_ifs <;> rfl
  | advance => rfl
  | timerExpires =>
    simp only [step, timerExpires]
    split
    · split_ifs <;> rfl
    · rfl
  | expiryCallback =>
    simp only [step, expiryCallback]
    split
    · exact cancelReservation_lastReservedStatus _ _ _ _
    · rfl

theorem globallyReservedEvses_subset (h : ReservationHandler) :
    h.globallyReservedEvses ⊆ h.availableEvses := by
  unfold globallyReservedEvses
  split_ifs
  · exact Finset.Subset.refl _
  · intro e he
    obtain ⟨x, hx, rfl⟩ := List.mem_map.mp (List.mem_toFinset.mp he)
    have hx := (List.mem_filter.mp hx).2
    exact of_decide_eq_true (Bool.and_eq_true_iff.mp hx).1

end ReservationHandler

namespace Notified

/-- The updates before the first call. -/
def start (h : ReservationHandler) : Notified := { handler := { h with lastReservedStatus := ∅ } }

/-- A call of `check_number_global_reservations_match_number_available_evses`. -/
def check (s : Notified) : Notified :=
  let (h, status) := s.handler.checkNumberGlobalReservationsMatchNumberAvailableEvses
  { handler := h
    notified := (s.notified ∪ status.reserved) \ status.available
    absent := (s.absent ∪ s.handler.lastReservedStatus) \ s.handler.availableEvses }

def step (s : Notified) : Op → Notified
  | .checkReserved => s.check
  | op => { s with handler := s.handler.step op }

def run (s : Notified) (ops : List Op) : Notified := Machine.run step s ops

/-- An EVSE that was forgotten is only available again when it is reserved again. -/
def returnsReserved (s : Notified) : Op → Bool
  | .checkReserved =>
    decide (s.absent ∩ s.handler.availableEvses ⊆ s.handler.globallyReservedEvses)
  | _ => true

structure Tracks (s : Notified) : Prop where
  notified : s.notified = s.handler.lastReservedStatus ∪ s.absent
  disjoint : Disjoint s.handler.lastReservedStatus s.absent

variable {s : Notified}

/-- After a call the updates are the EVSEs that are reserved, and those that were forgotten. -/
theorem mem_notified_check (hs : s.Tracks) {e : EvseId} :
    e ∈ s.check.notified ↔ e ∈ s.handler.globallyReservedEvses ∨ e ∈ s.absent ∨
      e ∈ s.handler.lastReservedStatus ∧ e ∉ s.handler.availableEvses := by
  have hdis : e ∈ s.handler.lastReservedStatus → e ∉ s.absent := fun hl ha =>
    disjoint_left.mp hs.disjoint hl ha
  simp only [check, ReservationHandler.checkNumberGlobalReservationsMatchNumberAvailableEvses,
    ReservationHandler.getEvseGlobalReservedStatusAndSetNewStatus, hs.notified, mem_sdiff,
    mem_union, mem_filter]
  by_cases hl : e ∈ s.handler.lastReservedStatus
  · tauto
  · tauto

theorem tracks_check (hs : s.Tracks) (hret : s.returnsReserved .checkReserved) :
    s.check.Tracks := by
  have hret := of_decide_eq_true hret
  refine ⟨Finset.ext fun e => ?_, disjoint_left.mpr fun e hres ha => ?_⟩
  · rw [mem_notified_check hs, mem_union]
    change _ ↔ e ∈ s.handler.globallyReservedEvses ∨
      e ∈ (s.absent ∪ s.handler.lastReservedStatus) \ s.handler.availableEvses
    rw [mem_sdiff, mem_union]
    by_cases hava : e ∈ s.handler.availableEvses
    · have ha : e ∈ s.absent → e ∈ s.handler.globallyReservedEvses := fun ha =>
        hret (mem_inter.mpr ⟨ha, hava⟩)
      tauto
    · tauto
  · exact (mem_sdiff.mp ha).2 (s.handler.globallyReservedEvses_subset hres)

/-- A step at which forgotten EVSEs only return as reserved ones keeps the updates in line. -/
theorem tracks_step (s : Notified) (op : Op) (hret : s.returnsReserved op)
    (hs : s.Tracks) : (s.step op).Tracks := by
  by_cases hop : op = .checkReserved
  · subst hop
    exact tracks_check hs hret
  · have hst : s.step op = { s with handler := s.handler.step op } := by
      cases op <;> first | rfl | exact absurd rfl hop
    rw [hst]
    refine ⟨?_, ?_⟩
    · rw [ReservationHandler.step_lastReservedStatus op hop]
      exact hs.notified
    · rw [ReservationHandler.step_lastReservedStatus op hop]
      exact hs.disjoint

theorem tracks_start (h : ReservationHandler) : (start h).Tracks :=
  ⟨rfl, disjoint_empty_left _⟩

theorem tracks_run {h : ReservationHandler} {ops : List Op}
    (hops : Machine.Along step (fun s op => s.returnsReserved op) (start h) ops) :
    ((start h).run ops).Tracks :=
  Machine.run_invariant_along tracks_step ops hops (tracks_start h)

end Notified

open Notified in
/-- **The notifications never drift**: take a run from any handler before its first call, in which
the EVSEs that were forgotten are only available again when they are reserved again. After each call
the updates so far, taken over the EVSEs that are available, are the EVSEs that the call determined
to be reserved, and an EVSE that was reported as reserved, is available and is not reserved is
reported as available. -/
theorem notifications_never_drift (h : ReservationHandler) (ops : List Op)
    (hops : Machine.Along step (fun s op => s.returnsReserved op = true) (start h) ops)
    (hcheck : ((start h).run ops).returnsReserved .checkReserved = true) :
    let before := (start h).run ops
    let after := before.step .checkReserved
    after.notified ∩ after.handler.availableEvses = before.handler.globallyReservedEvses ∧
      ∀ e ∈ before.notified, e ∈ before.handler.availableEvses →
        e ∉ before.handler.globallyReservedEvses →
          e ∈
            before.handler.checkNumberGlobalReservationsMatchNumberAvailableEvses.2.available := by
  intro before after
  have hb : before.Tracks := tracks_run hops
  have hr := of_decide_eq_true hcheck
  refine ⟨Finset.ext fun e => ?_, fun e he ha hres => ?_⟩
  · change e ∈ before.check.notified ∩ before.handler.availableEvses ↔ _
    rw [mem_inter, mem_notified_check hb]
    constructor
    · rintro ⟨hres | habs | ⟨-, hnot⟩, ha⟩
      · exact hres
      · exact hr (mem_inter.mpr ⟨habs, ha⟩)
      · exact absurd ha hnot
    · exact fun hres => ⟨.inl hres, before.handler.globallyReservedEvses_subset hres⟩
  · rw [hb.notified, mem_union] at he
    refine mem_filter.mpr ⟨ha, hres, he.resolve_right fun habs => ?_⟩
    exact hres (hr (mem_inter.mpr ⟨habs, ha⟩))

/-- A handler of one EVSE, and the EVSE while a car is plugged in. -/
def oneEvseHandler : ReservationHandler := ReservationHandler.empty oneEvse true 0

def pluggedIn : EvseContext := { freeEvse .cType2 with pluggedIn := true }

/-- The only EVSE is reserved for the only reservation. A car is plugged in and leaves again, and
the reservation is cancelled after that. -/
def reservedAgain : List Op :=
  [.makeReservation none { reservationId := 5, expiryTime := 100 }, .checkReserved,
    .updateEvse 1 pluggedIn, .checkReserved, .updateEvse 1 (freeEvse .cType2), .checkReserved,
    .cancelReservation 5 false]

theorem reserved_again_reported_available :
    ((Notified.start oneEvseHandler).run reservedAgain).notified = {1} ∧
    let before := (Notified.start oneEvseHandler).run reservedAgain
    let after := before.step .checkReserved
    after.notified ∩ after.handler.availableEvses = before.handler.globallyReservedEvses ∧
      ∀ e ∈ before.notified, e ∈ before.handler.availableEvses →
        e ∉ before.handler.globallyReservedEvses →
          e ∈ before.handler.checkNumberGlobalReservationsMatchNumberAvailableEvses.2.available :=
  ⟨by decide, notifications_never_drift oneEvseHandler reservedAgain (by decide) (by decide)⟩

/-- The reservation is cancelled while the car is plugged in. After the car has left, the EVSE is
available and is not reserved, but the updates say that it is reserved. -/
theorem forgotten_evse_stays_reserved :
    let s := (Notified.start oneEvseHandler).run
      [.makeReservation none { reservationId := 5, expiryTime := 100 }, .checkReserved,
        .updateEvse 1 pluggedIn, .checkReserved, .cancelReservation 5 false,
        .updateEvse 1 (freeEvse .cType2), .checkReserved]
    s.notified ∩ s.handler.availableEvses = {1} ∧ s.handler.globallyReservedEvses = ∅ := by
  decide

end EverestCore.Auth
