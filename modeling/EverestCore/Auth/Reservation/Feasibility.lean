import EverestCore.Auth.Connector
import EverestCore.Lib.Arrivals
import EverestCore.Lib.NextPermutation
import EverestCore.Lib.OrderedMap

/-!
# Which reservations can be served

The part of `ReservationHandler.cpp` that decides whether all reservations can be served. A
reservation without an EVSE is a car of some connector type that may come to any EVSE. All cars must
find an EVSE in whatever order they come and wherever those before them have gone.

Results:
* **`reservation_possible_iff_serviceable`**: with the reserved EVSEs among the EVSEs,
  `isReservationPossible` decides whether the cars are serviceable.
* `unknown_reserved_evse`: a reservation of an EVSE that does not exist takes the place of another.
-/

namespace EverestCore.Auth

open EverestCore.Lib OrderedMap

/-! ## Reservations -/

inductive ReservationResult
  | accepted | faulted | occupied | rejected | unavailable
deriving DecidableEq

/-- `types::reservation::Reservation`, with the expiry time in nanoseconds. -/
structure Reservation where
  reservationId : Int
  idToken : List Char := []
  expiryTime : Int := 0
  parentIdToken : Option (List Char) := none
  connectorType : Option ConnectorTypeEnum := none

/-- The connector type, which is `Unknown` if none is given. -/
def Reservation.type (r : Reservation) : ConnectorTypeEnum := r.connectorType.getD .unknown

abbrev Evses := OrderedMap EvseId EvseContext

abbrev EvseReservations := OrderedMap EvseId Reservation

/-! ## The tests on one EVSE -/

def hasEvseConnectorType (connectors : List Connector) (type : ConnectorTypeEnum) : Bool :=
  type == .unknown || connectors.any fun c => c.type == .unknown || c.type == type

def connectorStateToReservationResult : ConnectorState → ReservationResult
  | .available => .accepted
  | .unavailable => .unavailable
  | .faulted | .unavailableFaulted | .faultedOccupied => .faulted
  | .occupied => .occupied

def getEvseConnectorStateReservationResult (evses : Evses) (specific : EvseReservations)
    (evseId : EvseId) : ReservationResult :=
  match evses.find? evseId with
  | none => .rejected
  | some evse =>
    if evse.pluggedIn then connectorStateToReservationResult .occupied
    else match evse.connectors.find? fun c =>
      c.state == .occupied || c.state == .faultedOccupied with
      | some c => connectorStateToReservationResult c.state
      | none => if specific.contains evseId then .occupied else .accepted

def getNewConnectorState (current new : ConnectorState) : ConnectorState :=
  if new == .occupied then .occupied
  else if current.lt new then
    if ConnectorState.lt .occupied new then
      if new == .faultedOccupied then .occupied
      else if new == .unavailableFaulted then if current != .occupied then .faulted else current
      else current
    else new
  else current

/-- The connector is of the type, where `Unknown` stands for any. -/
def Connector.hasType (type : ConnectorTypeEnum) (c : Connector) : Bool :=
  c.type == type || c.type == .unknown || type == .unknown

/-- The loop of `get_connector_availability_reservation_result`. -/
def availabilityResult (type : ConnectorTypeEnum) :
    ConnectorState → List Connector → ReservationResult
  | state, [] => connectorStateToReservationResult state
  | state, c :: cs =>
    if c.hasType type then
      if c.state == .available then .accepted
      else availabilityResult type (getNewConnectorState state c.state) cs
    else availabilityResult type state cs

def getConnectorAvailabilityReservationResult (evses : Evses) (evseId : EvseId)
    (type : ConnectorTypeEnum) : ReservationResult :=
  match evses.find? evseId with
  | none => .rejected
  | some evse => availabilityResult type .unavailable evse.connectors

/-! ## All orders -/

/-- The test of `can_virtual_car_arrive` on one EVSE. -/
def fitsCar (evses : Evses) (specific : EvseReservations) (type : ConnectorTypeEnum)
    (e : EvseId × EvseContext) : Bool :=
  getEvseConnectorStateReservationResult evses specific e.1 == .accepted &&
    hasEvseConnectorType e.2.connectors type &&
    getConnectorAvailabilityReservationResult evses e.1 type == .accepted

/-- The loop of `can_virtual_car_arrive`. `last` is set for the last car, and `next` is the call for
the cars after this one. -/
def arrivalLoop (fits : EvseId × EvseContext → Bool) (last : Bool) (next : EvseId → Bool) :
    Bool → List (EvseId × EvseContext) → Bool
  | isPossible, [] => isPossible
  | isPossible, e :: es =>
    if fits e then
      if last then true
      else if next e.1 then arrivalLoop fits last next true es
      else false
    else arrivalLoop fits last next isPossible es

/-- `can_virtual_car_arrive`, which is not called without a car. -/
def canVirtualCarArrive (evses : Evses) (specific : EvseReservations) :
    List EvseId → List ConnectorTypeEnum → Bool
  | _, [] => false
  | used, type :: rest =>
    arrivalLoop (fun e => !used.contains e.1 && fitsCar evses specific type e) rest.isEmpty
      (fun evseId => canVirtualCarArrive evses specific (evseId :: used) rest) false evses.entries

def getAllPossibleOrders (types : List ConnectorTypeEnum) : List (List ConnectorTypeEnum) :=
  if types.isEmpty then [] else orders types

/-- The connector types of the cars. -/
def carTypes (globalType : Option ConnectorTypeEnum) (noEvse : List Reservation) :
    List ConnectorTypeEnum :=
  noEvse.map (·.type) ++ globalType.toList

def isReservationPossible (evses : Evses) (globalType : Option ConnectorTypeEnum)
    (noEvse : List Reservation) (specific : EvseReservations) : Bool :=
  let types := carTypes globalType noEvse
  if types.length + specific.size > evses.size then false
  else (getAllPossibleOrders types).all (canVirtualCarArrive evses specific [])

/-! ## What the tests decide -/

/-- The EVSE is not occupied and not reserved, and has an available connector for a car of the
type. -/
def CanTake (evses : Evses) (specific : EvseReservations) (type : ConnectorTypeEnum)
    (evseId : EvseId) : Prop :=
  ∃ evse, evses.find? evseId = some evse ∧ evse.pluggedIn = false ∧
    (∀ c ∈ evse.connectors, c.state ≠ .occupied ∧ c.state ≠ .faultedOccupied) ∧
    evseId ∉ specific.keys ∧ ∃ c ∈ evse.connectors, c.hasType type = true ∧ c.state = .available

theorem connectorStateToReservationResult_eq_accepted {state : ConnectorState} :
    connectorStateToReservationResult state = .accepted ↔ state = .available := by
  cases state <;> simp [connectorStateToReservationResult]

theorem availabilityResult_eq_accepted {type : ConnectorTypeEnum} {state : ConnectorState}
    {cs : List Connector} (hst : state ≠ .available) :
    availabilityResult type state cs = .accepted ↔
      ∃ c ∈ cs, c.hasType type ∧ c.state = .available := by
  induction cs generalizing state with
  | nil => simpa [availabilityResult, connectorStateToReservationResult_eq_accepted] using hst
  | cons c cs ih =>
    rw [availabilityResult]
    split_ifs with ht ha
    · refine iff_of_true rfl ⟨c, List.mem_cons_self, ht, by simpa using ha⟩
    · have hne : c.state ≠ .available := by simpa using ha
      have hnew : getNewConnectorState state c.state ≠ .available := by
        unfold getNewConnectorState
        split_ifs <;> first | exact hst | exact hne | simp
      rw [ih hnew]
      simp [hne]
    · rw [ih hst]
      simp [ht]

variable {evses : Evses} {specific : EvseReservations}

theorem getEvseConnectorState_eq_accepted {evseId : EvseId} {evse : EvseContext}
    (h : evses.find? evseId = some evse) :
    getEvseConnectorStateReservationResult evses specific evseId = .accepted ↔
      evse.pluggedIn = false ∧
        (∀ c ∈ evse.connectors, c.state ≠ .occupied ∧ c.state ≠ .faultedOccupied) ∧
        evseId ∉ specific.keys := by
  unfold getEvseConnectorStateReservationResult
  rw [h, mem_keys]
  dsimp only
  by_cases hp : evse.pluggedIn
  · simp [hp, connectorStateToReservationResult]
  · rw [if_neg hp]
    cases hf : evse.connectors.find? fun c =>
      c.state == .occupied || c.state == .faultedOccupied with
    | some c =>
      have hc := List.find?_some hf
      refine iff_of_false (fun hacc => ?_) fun hall => ?_
      · rw [connectorStateToReservationResult_eq_accepted.mp hacc] at hc
        simp at hc
      · have hne := hall.2.1 c (List.mem_of_find?_eq_some hf)
        simp [hne.1, hne.2] at hc
    | none =>
      have hall : ∀ c ∈ evse.connectors, c.state ≠ .occupied ∧ c.state ≠ .faultedOccupied := by
        simpa using List.find?_eq_none.mp hf
      rw [and_iff_right (by simpa using hp), and_iff_right hall]
      simp

theorem fitsCar_iff {type : ConnectorTypeEnum} {e : EvseId × EvseContext} (he : e ∈ evses.entries) :
    fitsCar evses specific type e ↔ CanTake evses specific type e.1 := by
  have hf : evses.find? e.1 = some e.2 := mem_entries.mp he
  have ha : getConnectorAvailabilityReservationResult evses e.1 type = .accepted ↔
      ∃ c ∈ e.2.connectors, c.hasType type ∧ c.state = .available := by
    unfold getConnectorAvailabilityReservationResult
    rw [hf]
    exact availabilityResult_eq_accepted (by simp)
  unfold fitsCar CanTake
  rw [Bool.and_eq_true, Bool.and_eq_true, beq_iff_eq, beq_iff_eq, ha,
    getEvseConnectorState_eq_accepted hf]
  constructor
  · rintro ⟨⟨hst, -⟩, hc⟩
    exact ⟨e.2, hf, hst.1, hst.2.1, hst.2.2, hc⟩
  · rintro ⟨evse, hf', hp, hocc, hres, c, hc, ht, hst⟩
    obtain rfl := Option.some.inj (hf.symm.trans hf')
    refine ⟨⟨⟨hp, hocc, hres⟩, ?_⟩, c, hc, ht, hst⟩
    -- an available connector for the type is one of the type
    simp only [hasEvseConnectorType, Bool.or_eq_true, beq_iff_eq, List.any_eq_true]
    simp only [Connector.hasType, Bool.or_eq_true, beq_iff_eq] at ht
    rcases ht with (ht | ht) | ht
    · exact .inr ⟨c, hc, .inr ht⟩
    · exact .inr ⟨c, hc, .inl ht⟩
    · exact .inl ht

/-! ## The recursion -/

theorem arrivalLoop_eq_true {fits : EvseId × EvseContext → Bool} {last isPossible : Bool}
    {next : EvseId → Bool} {es : List (EvseId × EvseContext)} :
    arrivalLoop fits last next isPossible es ↔
      (isPossible ∨ ∃ e ∈ es, fits e) ∧ (last = false → ∀ e ∈ es, fits e → next e.1) := by
  induction es generalizing isPossible with
  | nil => simp [arrivalLoop]
  | cons e es ih =>
    rw [arrivalLoop]
    split_ifs with hf hl hne
    · simp [hf, hl]
    · rw [ih]
      simp [hf, hne]
    · simp [hf, hl, hne]
    · rw [ih]
      simp [hf]

theorem canVirtualCarArrive_iff {used : List EvseId} {order : List ConnectorTypeEnum} :
    canVirtualCarArrive evses specific used order ↔
      order ≠ [] ∧ Arrives (CanTake evses specific) used order := by
  induction order generalizing used with
  | nil => simp [canVirtualCarArrive]
  | cons type rest ih =>
    -- the EVSEs of the loop are those that the car can take
    have hfi : ∀ e ∈ evses.entries, (!used.contains e.1 && fitsCar evses specific type e) ↔
          CanTake evses specific type e.1 ∧ e.1 ∉ used := by
      intro e he
      rw [Bool.and_eq_true, fitsCar_iff he, and_comm]
      simp
    have hen : ∀ {evseId}, CanTake evses specific type evseId →
        ∃ evse, (evseId, evse) ∈ evses.entries :=
      fun ⟨evse, hfn, _⟩ => ⟨evse, mem_entries.mpr hfn⟩
    rw [canVirtualCarArrive, arrivalLoop_eq_true]
    simp only [Bool.false_eq_true, false_or, ne_eq, reduceCtorEq, not_false_eq_true, true_and,
      Arrives]
    refine and_congr ⟨?_, ?_⟩ ⟨fun h evseId ht hf => ?_, fun h hl e he hfit => ?_⟩
    · rintro ⟨e, he, hfit⟩
      exact ⟨e.1, (hfi e he).mp hfit⟩
    · rintro ⟨evseId, ht, hf⟩
      obtain ⟨evse, he⟩ := hen ht
      exact ⟨_, he, (hfi _ he).mpr ⟨ht, hf⟩⟩
    · obtain ⟨evse, he⟩ := hen ht
      cases rest with
      | nil => trivial
      | cons t rest => exact (ih.mp (h rfl _ he ((hfi _ he).mpr ⟨ht, hf⟩))).2
    · obtain ⟨ht, hf⟩ := (hfi e he).mp hfit
      refine ih.mpr ⟨?_, h e.1 ht hf⟩
      rintro rfl
      cases hl

theorem mem_getAllPossibleOrders {types o : List ConnectorTypeEnum} (h : types ≠ []) :
    o ∈ getAllPossibleOrders types ↔ o.Perm types := by
  rw [getAllPossibleOrders, if_neg (by simpa using h), mem_orders]

theorem isReservationPossible_iff_arrives {globalType : Option ConnectorTypeEnum}
    {noEvse : List Reservation} :
    isReservationPossible evses globalType noEvse specific ↔
      (carTypes globalType noEvse).length + specific.size ≤ evses.size ∧
        ∀ o : List ConnectorTypeEnum, o.Perm (carTypes globalType noEvse) →
          Arrives (CanTake evses specific) [] o := by
  unfold isReservationPossible
  generalize carTypes globalType noEvse = types
  dsimp only
  split_ifs with hs
  · exact iff_of_false (by simp) fun h => absurd h.1 (by omega)
  · rw [and_iff_right (by omega), List.all_eq_true]
    rcases eq_or_ne types [] with rfl | hne
    · refine iff_of_true (by simp [getAllPossibleOrders]) fun o ho => ?_
      rw [ho.eq_nil]
      trivial
    · refine forall_congr' fun o => ?_
      rw [mem_getAllPossibleOrders hne, canVirtualCarArrive_iff]
      refine imp_congr_right fun ho => and_iff_right ?_
      rintro rfl
      exact hne ho.symm.eq_nil

theorem length_add_size_le_of_arrives {types : List ConnectorTypeEnum}
    (hk : ∀ e ∈ specific.keys, e ∈ evses.keys) (h : Arrives (CanTake evses specific) [] types) :
    types.length + specific.size ≤ evses.size := by
  obtain ⟨places, hlen, hno, hf⟩ := h.exists_places
  have hp : ∀ e ∈ places, e ∈ evses.keys ∧ e ∉ specific.keys := by
    intro e he
    obtain ⟨-, type, -, evse, hfn, -, -, hres, -⟩ := hf e he
    exact ⟨by rw [mem_keys, contains, hfn]; rfl, hres⟩
  have hall : (places ++ specific.keys).Nodup :=
    List.nodup_append.mpr ⟨hno, specific.nodup_keys, fun e he e' he' heq =>
      (hp e he).2 (heq ▸ he')⟩
  have hsub : places ++ specific.keys ⊆ evses.keys := fun e he =>
    (List.mem_append.mp he).elim (fun he => (hp e he).1) (hk e)
  have hle := (hall.subperm hsub).length_le
  simp only [List.length_append, keys, List.length_map] at hle
  rw [← hlen]
  exact hle

/-- When the reserved EVSEs exist, what is tested is that the cars arrive in every order. -/
theorem isReservationPossible_iff {globalType : Option ConnectorTypeEnum}
    {noEvse : List Reservation} (hk : ∀ e ∈ specific.keys, e ∈ evses.keys) :
    isReservationPossible evses globalType noEvse specific ↔
      ∀ o : List ConnectorTypeEnum, o.Perm (carTypes globalType noEvse) →
        Arrives (CanTake evses specific) [] o := by
  rw [isReservationPossible_iff_arrives]
  exact ⟨And.right, fun h => ⟨length_add_size_le_of_arrives hk (h _ (List.Perm.refl _)), h⟩⟩

/-- **The test decides whether the cars can be served**: with EVSE-specific reservations for EVSEs
that exist, `is_reservation_possible` returns true iff every assignment of some of the cars to EVSEs
that can take them, which no further car can join, serves all cars. The orders that it tries are the
permutations of the connector types, each of them once; without a car it tries none. -/
theorem reservation_possible_iff_serviceable (evses : Evses)
    (globalType : Option ConnectorTypeEnum) (noEvse : List Reservation)
    (specific : EvseReservations) (hkeys : ∀ e ∈ specific.keys, e ∈ evses.keys) :
    let types := carTypes globalType noEvse
    (isReservationPossible evses globalType noEvse specific = true ↔
        Serviceable fun (i : Fin types.length) evseId => CanTake evses specific types[i] evseId) ∧
      (getAllPossibleOrders types).Nodup ∧
      (types ≠ [] → ∀ o : List ConnectorTypeEnum, o ∈ getAllPossibleOrders types ↔
        o.Perm types) := by
  intro types
  refine ⟨?_, ?_, fun hne o => mem_getAllPossibleOrders hne⟩
  · rw [isReservationPossible_iff hkeys, ← forall_arrives_iff]
  · unfold getAllPossibleOrders
    split_ifs
    · exact List.nodup_nil
    · exact nodup_orders types

/-- An EVSE with one free connector. -/
def freeEvse (type : ConnectorTypeEnum) : EvseContext := { connectors := [⟨1, type, .available⟩] }

/-- One EVSE, with one connector. -/
def oneEvse : Evses := (∅ : Evses).insert 1 (freeEvse .cType2)

/-- Two cars and two EVSEs that both can take. -/
theorem two_cars_two_evses :
    let evses : Evses := (∅ : Evses).insert 1 (freeEvse .cType2) |>.insert 2 (freeEvse .unknown)
    let cars : List Reservation := [{ reservationId := 1 }, { reservationId := 2 }]
    Serviceable fun (i : Fin (carTypes none cars).length) evseId =>
      CanTake evses ∅ (carTypes none cars)[i] evseId := by
  intro evses cars
  exact (reservation_possible_iff_serviceable evses none cars ∅ (by decide)).1.mp (by decide)

/-- The only car can be served by the only EVSE. But a reservation for an EVSE that does not exist
is counted, so that no EVSE seems to be left. -/
theorem unknown_reserved_evse :
    let evses : Evses := (∅ : Evses).insert 1 (freeEvse .cType2)
    let cars : List Reservation := [{ reservationId := 1 }]
    let specific : EvseReservations := (∅ : EvseReservations).insert 2 { reservationId := 2 }
    isReservationPossible evses none cars specific = false ∧
      Serviceable fun (i : Fin (carTypes none cars).length) evseId =>
        CanTake evses specific (carTypes none cars)[i] evseId := by
  refine ⟨by decide, forall_arrives_iff.mp fun o ho => ?_⟩
  obtain rfl : o = [.unknown] := List.perm_singleton.mp ho
  exact (canVirtualCarArrive_iff.mp (by decide)).2

end EverestCore.Auth
