import EverestCore.Lib.Machine
import Mathlib.Data.Nat.Basic
import Mathlib.Order.Basic

/-!
# Connectors and EVSEs of the Auth module

`Connector.cpp`, `ConnectorStateMachine.cpp` and the types they use.

* `ConnectorTypeEnum`, `ConnectorState`, `ConnectorEvent`: the enumerations. The values of the first
  two are compared by their position.
* `ConnectorState.handleEvent`: `ConnectorStateMachine::handle_event`.
  **`available_only_if_usable`**: what it takes for AVAILABLE to mean usable.
* `EvseContext`: an EVSE as the AuthHandler and the ReservationHandler share it. `isAvailable`,
  `isUnavailable`.
-/

namespace EverestCore.Auth

open EverestCore.Lib.Machine

inductive ConnectorTypeEnum
  | cCCS1 | cCCS2 | cG105 | cMCS | cTesla | cType1 | cType2 | s309_1P_16A | s309_1P_32A
  | s309_3P_16A | s309_3P_32A | sBS1361 | sCEE_7_7 | sType2 | sType3 | other1PhMax16A
  | other1PhOver16A | other3Ph | pan | wInductive | wResonant | undetermined | unknown
deriving DecidableEq

theorem ConnectorTypeEnum.ctorIdx_injective : Function.Injective ConnectorTypeEnum.ctorIdx :=
  Function.LeftInverse.injective (g := ConnectorTypeEnum.ofNat) fun t => by cases t <;> rfl

instance : LinearOrder ConnectorTypeEnum :=
  LinearOrder.lift' ConnectorTypeEnum.ctorIdx ConnectorTypeEnum.ctorIdx_injective

inductive ConnectorState
  | available | unavailable | faulted | occupied | unavailableFaulted | faultedOccupied
deriving DecidableEq

inductive ConnectorEvent
  | enable | disable | errorCleared | faulted | transactionStarted | sessionFinished

namespace ConnectorState

/-- `ConnectorStateMachine::handle_event`. Events that a state does not know are ignored. -/
def handleEvent : ConnectorState → ConnectorEvent → ConnectorState
  | .available, .transactionStarted => .occupied
  | .available, .disable => .unavailable
  | .available, .faulted => .faulted
  | .unavailable, .enable => .available
  | .unavailable, .faulted => .unavailableFaulted
  | .faulted, .errorCleared => .available
  | .faulted, .disable => .unavailableFaulted
  | .occupied, .sessionFinished => .available
  | .occupied, .faulted => .faultedOccupied
  | .faultedOccupied, .errorCleared => .occupied
  | .faultedOccupied, .sessionFinished => .faulted
  | .unavailableFaulted, .enable => .faulted
  | .unavailableFaulted, .errorCleared => .unavailable
  | s, _ => s

/-- What keeps a connector from being used, by the last of the events that tell. -/
structure Obstacles where
  disabled : Bool := false
  faulted : Bool := false
  inTransaction : Bool := false
deriving DecidableEq

def Obstacles.after (o : Obstacles) : ConnectorEvent → Obstacles
  | .enable => { o with disabled := false }
  | .disable => { o with disabled := true }
  | .errorCleared => { o with faulted := false }
  | .faulted => { o with faulted := true }
  | .transactionStarted => { o with inTransaction := true }
  | .sessionFinished => { o with inTransaction := false }

/-- The obstacles that a state stands for. -/
def obstacles : ConnectorState → Obstacles
  | .available => {}
  | .unavailable => { disabled := true }
  | .faulted => { faulted := true }
  | .occupied => { inTransaction := true }
  | .unavailableFaulted => { disabled := true, faulted := true }
  | .faultedOccupied => { faulted := true, inTransaction := true }

/-- No connector is disabled during a transaction, and none of another state begins one. -/
def noticed (s : ConnectorState) : ConnectorEvent → Bool
  | .disable => !s.obstacles.inTransaction
  | .transactionStarted => s == .available || s.obstacles.inTransaction
  | _ => true

theorem obstacles_handleEvent {s : ConnectorState} {e : ConnectorEvent} (h : s.noticed e) :
    (s.handleEvent e).obstacles = s.obstacles.after e := by
  cases s <;> cases e <;> first | rfl | cases h

theorem obstacles_run (es : List ConnectorEvent) (s : ConnectorState)
    (h : Along handleEvent (fun s e => s.noticed e = true) s es) :
    (run handleEvent s es).obstacles = es.foldl Obstacles.after s.obstacles := by
  induction es generalizing s with
  | nil => rfl
  | cons e es ih => rw [List.foldl_cons, ← obstacles_handleEvent h.1, ← ih _ h.2, run_cons]

/-- **A connector is available only when it is usable**, as long as its state machine takes note of
what happens. -/
theorem available_only_if_usable (es : List ConnectorEvent)
    (h : Along handleEvent (fun s e => s.noticed e = true) .available es)
    (ha : run handleEvent .available es = .available) : es.foldl Obstacles.after {} = {} := by
  rw [← obstacles, ← obstacles_run es _ h, ha]

theorem available_after_session :
    [.transactionStarted, .faulted, .sessionFinished, .errorCleared].foldl Obstacles.after {} =
      {} :=
  available_only_if_usable _ (by decide) rfl

/-- **A connector that is disabled during a transaction is available after it.** -/
theorem available_although_disabled :
    let es := [.transactionStarted, .disable, .sessionFinished]
    run handleEvent .available es = .available ∧ (es.foldl Obstacles.after {}).disabled = true := by
  decide

/-- The order of the enumeration. -/
def lt (s t : ConnectorState) : Bool := s.ctorIdx < t.ctorIdx

end ConnectorState

structure Connector where
  id : Int
  type : ConnectorTypeEnum := .unknown
  state : ConnectorState := .available

def Connector.isUnavailable (c : Connector) : Bool :=
  c.state == .unavailable || c.state == .unavailableFaulted

/-! ## Tokens -/

inductive IdTokenType
  | central | eMAID | macAddress | iso14443 | iso15693 | keyCode | «local» | noAuthorization
deriving DecidableEq

structure IdToken where
  value : List Char
  type : IdTokenType := .central

/-- `is_equal_case_insensitive`, for strings. -/
def isEqualCaseInsensitive (s t : List Char) : Bool := s.map Char.toLower == t.map Char.toLower

inductive AuthorizationType
  | ocpp | rfid | autocharge | plugAndCharge | bankCard
deriving DecidableEq

/-- What is kept of the token that an EVSE is authorized with. -/
structure Identifier where
  idToken : IdToken
  type : AuthorizationType := .rfid
  parentIdToken : Option IdToken := none

/-! ## EVSEs -/

abbrev EvseId := Nat

structure EvseContext where
  evseIndex : Int := 0
  transactionActive : Bool := false
  identifier : Option Identifier := none
  connectors : List Connector
  pluggedIn : Bool := false
  plugInTimeout : Bool := false

namespace EvseContext

def isAvailable (evse : EvseContext) : Bool :=
  !evse.plugInTimeout && evse.identifier.isNone &&
    !evse.connectors.any (fun c => c.state == .occupied || c.state == .faultedOccupied) &&
    evse.connectors.any fun c => c.state != .unavailable && c.state != .faulted

def isUnavailable (evse : EvseContext) : Bool := evse.connectors.all (·.isUnavailable)

end EvseContext

end EverestCore.Auth
