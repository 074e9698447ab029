import EverestCore.Auth.Reservation.Feasibility

/-!
# The reservation handler

`ReservationHandler.cpp`. A reservation is for one EVSE, or for any EVSE with a connector of its
type. Each has a timer for its expiry time.

* `ReservationHandler`: the state. The EVSEs are shared with the AuthHandler, which changes them.
* `makeReservation`, `cancelReservation`, `cancelEvseReservation`, `onReservationUsed`,
  `onConnectorStateChanged`, `checkReservationsAndCancelIfNotPossible`, `isChargingPossible`,
  `matchesReservedIdentifier`, `checkNumberGlobalReservationsMatchNumberAvailableEvses`: the
  functions of the source.
* `Op`, `step`, `run`: the calls under `event_mutex` and what happens between them, in any order.

A timer that has expired has its callback dispatched (`Op.timerExpires`), and the callback runs
later (`Op.expiryCallback`), also if the timer is stopped or replaced in between. `Op.updateEvse` is
a change of an EVSE by the AuthHandler. Logging and the texts of the log are left out, as is the
restore of reservations from the store.

`ReservationHandler.ended` is not part of the program: it records the reservations that were ended,
and why, with the calls of `reservation_cancelled_callback`.
-/

namespace EverestCore.Auth

open EverestCore.Lib

inductive ReservationEndReason
  | expired | cancelled | usedToStartCharging | globalReservationRequirementDropped
deriving DecidableEq

/-- An `Everest::SteadyTimer` that was set with `at`. -/
structure ReservationTimer where
  expiryTime : Int
  dispatched : Bool := false

/-- An element of the array in the key-value store. -/
structure StoredReservation where
  evseId : Option EvseId := none
  reservation : Reservation

/-- A reservation that was ended: what was removed, and with which call of the callback. -/
structure EndedReservation where
  reservation : Option Reservation
  reservationId : Int
  evseId : Option EvseId
  reason : ReservationEndReason
  executeCallback : Bool
  time : Int

structure ReservationHandler where
  evses : Evses
  evseReservations : EvseReservations := ∅
  globalReservations : List Reservation := []
  /-- `reservation_id_to_reservation_timeout_timer_map`. -/
  timers : OrderedMap Int ReservationTimer := ∅
  lastReservedStatus : Finset EvseId := ∅
  /-- `store` is not null. -/
  hasStore : Bool := true
  /-- The array that was last written to the store. -/
  stored : Option (List StoredReservation) := none
  now : Int := 0
  /-- The reservation ids of the callbacks that are dispatched. -/
  pending : List Int := []
  ended : List EndedReservation := []

namespace ReservationHandler

/-! ## Storing and cancelling -/

variable (h : ReservationHandler)

/-- The array that `store_reservations` writes. -/
def reservationArray : List StoredReservation :=
  h.evseReservations.entries.map (fun e => ⟨some e.1, e.2⟩) ++
    h.globalReservations.map (fun r => ⟨none, r⟩)

def storeReservations : ReservationHandler :=
  if h.hasStore then { h with stored := some h.reservationArray } else h

/-- The EVSE that the loop of `cancel_reservation` finds, which is the last one. -/
def evseOfReservation (id : Int) (h : ReservationHandler) : Option (EvseId × Reservation) :=
  (h.evseReservations.entries.filter (·.2.reservationId == id)).getLast?

/-- The reservations without the one that is found with the id. -/
def removeReservation (id : Int) (h : ReservationHandler) : ReservationHandler :=
  match h.evseOfReservation id with
  | some (evseId, _) => { h with evseReservations := h.evseReservations.erase evseId }
  | none =>
    { h with globalReservations := h.globalReservations.eraseP (·.reservationId == id) }

/-- The record of a reservation that is ended. -/
def endedReservation (id : Int) (executeCallback : Bool) (reason : ReservationEndReason)
    (h : ReservationHandler) : EndedReservation where
  reservation :=
    match h.evseOfReservation id with
    | some (_, r) => some r
    | none => h.globalReservations.find? (·.reservationId == id)
  reservationId := id
  evseId := (h.evseOfReservation id).map (·.1)
  reason := reason
  executeCallback := executeCallback
  time := h.now

/-- `cancel_reservation`, by the reservation id. A reservation without a timer is not found. -/
def cancelReservation (id : Int) (executeCallback : Bool) (reason : ReservationEndReason)
    (h : ReservationHandler) : ReservationHandler × Bool × Option EvseId :=
  if h.timers.contains id then
    ({ (h.removeReservation id).storeReservations with
        timers := h.timers.erase id
        ended := h.endedReservation id executeCallback reason :: h.ended },
      true, (h.evseOfReservation id).map (·.1))
  else (h, false, none)

variable (evseId : EvseId)

/-- `cancel_reservation`, by the EVSE. -/
def cancelEvseReservation (executeCallback : Bool) (h : ReservationHandler) :
    ReservationHandler × Bool :=
  match h.evseReservations.find? evseId with
  | some r =>
    let result := h.cancelReservation r.reservationId executeCallback .cancelled
    (result.1, result.2.1)
  | none => (h, false)

def onReservationUsed (id : Int) (h : ReservationHandler) : ReservationHandler :=
  (h.cancelReservation id false .usedToStartCharging).1

/-! ## Making a reservation -/

def setReservationTimer (r : Reservation) (h : ReservationHandler) : ReservationHandler :=
  { h with timers := h.timers.insert r.reservationId { expiryTime := r.expiryTime } }

def doesEvseConnectorTypeExist (type : ConnectorTypeEnum) (h : ReservationHandler) : Bool :=
  h.evses.entries.any fun e => hasEvseConnectorType e.2.connectors type

def getReservationEvseConnectorState (type : ConnectorTypeEnum) (h : ReservationHandler) :
    ReservationResult :=
  if !h.globalReservations.isEmpty || h.evseReservations.size != 0 then .occupied
  else
    let evses := h.evses.entries.map (·.2)
    if evses.any (·.pluggedIn) then connectorStateToReservationResult .occupied
    else
      let withType := evses.filter fun evse => hasEvseConnectorType evse.connectors type
      if withType.isEmpty then .rejected
      else
        let connectors := (withType.flatMap (·.connectors)).filter fun c =>
          c.hasType type && c.state != .available
        connectorStateToReservationResult
          (connectors.foldl (fun state c => getNewConnectorState state c.state) .unavailable)

/-- The part of `make_reservation` for one EVSE. -/
def makeEvseReservation (r : Reservation) (h : ReservationHandler) :
    ReservationHandler × ReservationResult :=
  if h.evseReservations.contains evseId then (h, .occupied)
  else match h.evses.find? evseId with
  | none => (h, .rejected)
  | some evse =>
    let evseState := getEvseConnectorStateReservationResult h.evses h.evseReservations evseId
    let connectorState := getConnectorAvailabilityReservationResult h.evses evseId r.type
    let specific := h.evseReservations.insert evseId r
    if !hasEvseConnectorType evse.connectors r.type then (h, .rejected)
    else if evseState != .accepted then (h, evseState)
    else if connectorState != .accepted then (h, connectorState)
    else if h.globalReservations.isEmpty then
      ({ h.setReservationTimer r with evseReservations := specific }.storeReservations, .accepted)
    else if isReservationPossible h.evses none h.globalReservations specific then
      ({ h with evseReservations := specific }.storeReservations.setReservationTimer r, .accepted)
    else (h, h.getReservationEvseConnectorState r.type)

/-- The part of `make_reservation` for no EVSE. -/
def makeGlobalReservation (r : Reservation) (h : ReservationHandler) :
    ReservationHandler × ReservationResult :=
  if r.connectorType.isSome && !h.doesEvseConnectorTypeExist r.type then (h, .rejected)
  else if isReservationPossible h.evses (some r.type) h.globalReservations h.evseReservations then
    ({ h with
        globalReservations := h.globalReservations ++ [r] }.storeReservations.setReservationTimer r,
      .accepted)
  else (h, h.getReservationEvseConnectorState r.type)

/-- `make_reservation`. A reservation with the same id is cancelled first, also if the new one is
not made. -/
def makeReservation (evseId : Option EvseId) (r : Reservation) (h : ReservationHandler) :
    ReservationHandler × ReservationResult :=
  if h.now > r.expiryTime then (h, .rejected)
  else
    let h := (h.cancelReservation r.reservationId false .cancelled).1
    match evseId with
    | some evseId => h.makeEvseReservation evseId r
    | none => h.makeGlobalReservation r

/-! ## Connectors that are lost -/

/-- The first loop of `check_reservations_and_cancel_if_not_possible`: the EVSE-specific
reservations that stay, and the ids of the others. -/
def readmitEvseReservations (evses : Evses) (entries : List (EvseId × Reservation)) :
    EvseReservations × List Int :=
  entries.foldl (fun (specific, toCancel) (evseId, r) =>
    let added := specific.insert evseId r
    if isReservationPossible evses none [] added then (added, toCancel)
    else (added.erase evseId, toCancel ++ [r.reservationId])) (∅, [])

/-- The second loop: the global reservations that stay, and the ids of the others. -/
def readmitGlobalReservations (evses : Evses) (specific : EvseReservations)
    (reservations : List Reservation) (toCancel : List Int) : List Reservation × List Int :=
  reservations.foldl (fun (noEvse, toCancel) r =>
    if isReservationPossible evses r.connectorType noEvse specific then (noEvse ++ [r], toCancel)
    else (noEvse, toCancel ++ [r.reservationId])) ([], toCancel)

/-- The reservations that `check_reservations_and_cancel_if_not_possible` cancels. -/
def reservationsToCancel : List Int :=
  let (specific, toCancel) := readmitEvseReservations h.evses h.evseReservations.entries
  (readmitGlobalReservations h.evses specific h.globalReservations toCancel).2

def checkReservationsAndCancelIfNotPossible : ReservationHandler :=
  h.reservationsToCancel.foldl (fun h id => (h.cancelReservation id true .cancelled).1) h

/-- The reservation of the EVSE names a connector type, and the connector is of that type. -/
def namesConnector (c : Connector) (h : ReservationHandler) : Option Reservation :=
  (h.evseReservations.find? evseId).filter fun r => r.connectorType.any c.hasType

def onConnectorStateChanged (state : ConnectorState) (evseId : EvseId) (connectorId : Int)
    (h : ReservationHandler) : ReservationHandler :=
  if state == .available then h
  else match h.evses.find? evseId with
  | none => h
  | some evse =>
    match evse.connectors.find? (·.id == connectorId) with
    | none => h
    | some c =>
      match h.namesConnector evseId c with
      | some r => (h.cancelReservation r.reservationId true .cancelled).1
      | none => h.checkReservationsAndCancelIfNotPossible

/-! ## Questions of the AuthHandler -/

def isEvseReserved (h : ReservationHandler) : Bool :=
  h.evseReservations.contains evseId

/-- `is_charging_possible`, with a reservation in which only the EVSE matters. -/
def isChargingPossible (h : ReservationHandler) : Bool :=
  if h.evseReservations.contains evseId then false
  else if !h.evses.contains evseId then false
  else isReservationPossible h.evses none h.globalReservations
    (h.evseReservations.insert evseId { reservationId := 0 })

/-- The token or the parent token is that of the reservation. -/
def matchesToken (idToken : List Char) (parentIdToken : Option (List Char)) (r : Reservation) :
    Bool :=
  isEqualCaseInsensitive r.idToken idToken ||
    match parentIdToken, r.parentIdToken with
    | some parent, some reserved => isEqualCaseInsensitive parent reserved
    | _, _ => false

def matchesReservedIdentifier (idToken : List Char) (evseId : Option EvseId)
    (parentIdToken : Option (List Char)) (h : ReservationHandler) : Option Int :=
  match evseId.bind h.evseReservations.find? with
  | some r => if matchesToken idToken parentIdToken r then some r.reservationId else none
  | none =>
    (h.globalReservations.find? (matchesToken idToken parentIdToken)).map (·.reservationId)

def hasReservationParentId (evseId : Option EvseId) (h : ReservationHandler) : Bool :=
  if evseId.any fun e => !h.evses.contains e then false
  else match evseId.bind h.evseReservations.find? with
    | some r => r.parentIdToken.isSome
    | none => h.globalReservations.any (·.parentIdToken.isSome)

end ReservationHandler

/-! ## EVSEs that are reserved for global reservations -/

structure ReservationEvseStatus where
  reserved : Finset EvseId
  available : Finset EvseId

namespace ReservationHandler

variable (h : ReservationHandler)

/-- The EVSEs that are not reserved or used. -/
def availableEvses : Finset EvseId :=
  (h.evses.keys.filter fun evseId =>
    getEvseConnectorStateReservationResult h.evses h.evseReservations evseId == .accepted &&
      getConnectorAvailabilityReservationResult h.evses evseId .unknown == .accepted).toFinset

/-- The EVSEs with the connector type of a global reservation, where another car of this type would
not find a place. -/
def evsesOfReservedTypes : Finset EvseId :=
  ((h.evses.entries.filter fun e => decide (e.1 ∈ h.availableEvses) &&
    h.globalReservations.any fun r =>
      !isReservationPossible h.evses r.connectorType h.globalReservations h.evseReservations &&
        hasEvseConnectorType e.2.connectors r.type).map (·.1)).toFinset

/-- The EVSEs that `check_number_global_reservations_match_number_available_evses` determines to be
reserved. -/
def globallyReservedEvses : Finset EvseId :=
  if h.availableEvses.card == h.globalReservations.length then h.availableEvses
  else h.evsesOfReservedTypes

def getEvseGlobalReservedStatusAndSetNewStatus (available reserved : Finset EvseId)
    (h : ReservationHandler) : ReservationHandler × ReservationEvseStatus :=
  ({ h with lastReservedStatus := reserved },
    { reserved := reserved.filter (· ∉ h.lastReservedStatus)
      available := available.filter fun e => e ∉ reserved ∧ e ∈ h.lastReservedStatus })

def checkNumberGlobalReservationsMatchNumberAvailableEvses :
    ReservationHandler × ReservationEvseStatus :=
  h.getEvseGlobalReservedStatusAndSetNewStatus h.availableEvses h.globallyReservedEvses

/-! ## Timers -/

/-- The timer of the reservation expires, and its callback is dispatched. -/
def timerExpires (id : Int) (h : ReservationHandler) : ReservationHandler :=
  match h.timers.find? id with
  | some t =>
    if !t.dispatched && t.expiryTime ≤ h.now then
      { h with
        timers := h.timers.insert id { t with dispatched := true }
        pending := h.pending ++ [id] }
    else h
  | none => h

/-- A dispatched callback of `set_reservation_timer` runs. -/
def expiryCallback (n : Nat) (h : ReservationHandler) : ReservationHandler :=
  match h.pending[n]? with
  | some id => ({ h with pending := h.pending.eraseIdx n }.cancelReservation id true .expired).1
  | none => h

/-- The AuthHandler changes an EVSE. -/
def updateEvse (evseId : EvseId) (evse : EvseContext) (h : ReservationHandler) :
    ReservationHandler :=
  if h.evses.contains evseId then { h with evses := h.evses.insert evseId evse } else h

end ReservationHandler

namespace Reservation

inductive Op
  | makeReservation (evseId : Option EvseId) (r : Reservation)
  | cancelReservation (id : Int) (executeCallback : Bool)
  | cancelEvseReservation (evseId : EvseId) (executeCallback : Bool)
  | onReservationUsed (id : Int)
  | onConnectorStateChanged (state : ConnectorState) (evseId : EvseId) (connectorId : Int)
  | checkReserved
  | updateEvse (evseId : EvseId) (evse : EvseContext)
  | advance (d : Nat)
  | timerExpires (id : Int)
  | expiryCallback (n : Nat)

end Reservation

namespace ReservationHandler

open Reservation (Op)

def step (h : ReservationHandler) : Op → ReservationHandler
  | .makeReservation evseId r => (h.makeReservation evseId r).1
  | .cancelReservation id executeCallback => (h.cancelReservation id executeCallback .cancelled).1
  | .cancelEvseReservation evseId executeCallback =>
    (h.cancelEvseReservation evseId executeCallback).1
  | .onReservationUsed id => h.onReservationUsed id
  | .onConnectorStateChanged state evseId connectorId =>
    h.onConnectorStateChanged state evseId connectorId
  | .checkReserved => h.checkNumberGlobalReservationsMatchNumberAvailableEvses.1
  | .updateEvse evseId evse => h.updateEvse evseId evse
  | .advance d => { h with now := h.now + d }
  | .timerExpires id => h.timerExpires id
  | .expiryCallback n => h.expiryCallback n

def run (h : ReservationHandler) (ops : List Op) : ReservationHandler := Machine.run step h ops

end ReservationHandler

end EverestCore.Auth
