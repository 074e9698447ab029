import EverestCore.Auth.Reservation.Handler

/-!
# The AuthHandler: what a token is used for

`AuthHandler::handle_token` and what it calls, in `AuthHandler.cpp`. A token stops a transaction, or
it is validated and authorizes an EVSE, which the selection algorithm chooses.

* `AuthHandler`: the state, with the EVSEs in the reservation handler.
* `getReferencedEvses`, `usedForTransaction`, `anyEvseAvailable`, `anyParentIdPresent`,
  `equalsMasterPassGroupId`, `getOldestPlugin`, `getLastPlugin`, `selectEvse`, `notifyEvse`.
* `handleToken`, with its parts `stopOnReswipe`, `mayBeUsed`, `stopWithParentIdToken` and
  `authorizeLoop`. `authorizeEvse` is the loop's decision on the EVSE that was selected.
* `TokenEnv`: what happens while `event_mutex` is released. It is released while the token is
  validated, while `select_evse` waits for a plug in and while `notify_evse` waits for a timeout
  task.

EVSEs are never removed, so that `evses.at` finds those that are referenced. Timers are left out, as
are the texts of the log and the fields of tokens and validation results that are only passed on.
`Authorization` is not part of the program: it records what the reservations were when an EVSE was
authorized.
-/

namespace EverestCore.Auth

open EverestCore.Lib

/-! ## Types -/

inductive AuthorizationStatus
  | accepted | blocked | concurrentTx | expired | invalid | noCredit | notAllowedTypeEVSE
  | notAtThisLocation | notAtThisTime | unknown | pinRequired | timeout
deriving DecidableEq

structure ProvidedIdToken where
  idToken : IdToken
  authorizationType : AuthorizationType := .rfid
  parentIdToken : Option IdToken := none
  connectors : Option (List EvseId) := none
  prevalidated : Option Bool := none

structure ValidationResult where
  authorizationStatus : AuthorizationStatus
  parentIdToken : Option IdToken := none
  evseIds : Option (List EvseId) := none
  reservationId : Option Int := none

structure WithdrawAuthorizationRequest where
  evseId : Option EvseId := none
  idToken : Option IdToken := none

inductive SelectionAlgorithm
  | userInput | plugEvents | plugEventsLIFO | findFirst
deriving DecidableEq

inductive TokenHandlingResult
  | alreadyInProcess | rejected | usedToStartTransaction | usedToStopTransaction | timeout
  | noConnectorAvailable | withdrawn | usedToReauthorize
deriving DecidableEq

/-- The reasons of `types::evse_manager::StopTransactionReason` that `handle_token` gives. -/
inductive StopTransactionReason
  | «local» | masterPass

/-- The callbacks that `handle_token` calls. -/
inductive AuthCallback
  | publishAccepted (token : ProvidedIdToken)
  | stopTransaction (evseIndex : Int) (reason : StopTransactionReason) (token : ProvidedIdToken)
  | notifyEvse (evseIndex : Int) (token : ProvidedIdToken) (result : ValidationResult)

/-- `is_equal_case_insensitive`, for id tokens. -/
def IdToken.isEqual (t u : IdToken) : Bool :=
  isEqualCaseInsensitive t.value u.value && t.type == u.type

structure AuthHandler where
  reservationHandler : ReservationHandler
  selectionAlgorithm : SelectionAlgorithm := .plugEvents
  masterPassGroupId : Option (List Char) := none
  prioritizeAuthorizationOverStoppingTransaction : Bool := true
  stopTransactionOnReswipe : Bool := true
  plugInQueue : List EvseId := []
  withdrawRequest : Option WithdrawAuthorizationRequest := none
  callbacks : List AuthCallback := []

/-- An EVSE is authorized: for which token, and the reservations when it was selected and after the
reservation of the token was used. -/
structure Authorization where
  evseId : EvseId
  idToken : List Char
  parentIdToken : Option (List Char)
  before : ReservationHandler
  after : ReservationHandler

structure TokenOutcome where
  result : TokenHandlingResult
  token : ProvidedIdToken
  state : AuthHandler
  authorization : Option Authorization := none

/-- What happens while the mutex is released. The waits for the `i`-th validation result have the
index `i`. -/
structure TokenEnv where
  /-- What the validators return. -/
  validationResults : List ValidationResult := []
  validating : AuthHandler → AuthHandler := id
  selecting : Nat → AuthHandler → AuthHandler := fun _ => id
  notifying : Nat → AuthHandler → AuthHandler := fun _ => id

namespace AuthHandler

def evse (s : AuthHandler) (evseId : EvseId) : Option EvseContext :=
  s.reservationHandler.evses.find? evseId

def call (c : AuthCallback) (s : AuthHandler) : AuthHandler :=
  { s with callbacks := s.callbacks ++ [c] }

/-! ## Questions -/

def getReferencedEvses (token : ProvidedIdToken) (s : AuthHandler) : List EvseId :=
  (token.connectors.getD s.reservationHandler.evses.keys).filter fun e =>
    (s.evse e).any fun evse => !evse.isUnavailable

variable (evseIds : List EvseId)

def usedForTransaction (token : List Char) (s : AuthHandler) : Option EvseId :=
  evseIds.find? fun e => ((s.evse e).bind (·.identifier)).any fun identifier =>
    isEqualCaseInsensitive identifier.idToken.value token ||
      identifier.parentIdToken.any fun parent => isEqualCaseInsensitive parent.value token

def anyEvseAvailable (s : AuthHandler) : Bool :=
  evseIds.any fun e => (s.evse e).any (·.isAvailable)

def anyParentIdPresent (s : AuthHandler) : Bool :=
  evseIds.any fun e => ((s.evse e).bind (·.identifier)).any (·.parentIdToken.isSome)

def equalsMasterPassGroupId (parentIdToken : Option IdToken) (s : AuthHandler) : Bool :=
  match s.masterPassGroupId, parentIdToken with
  | some group, some parent => isEqualCaseInsensitive parent.value group
  | _, _ => false

def getOldestPlugin (s : AuthHandler) : Option EvseId :=
  s.plugInQueue.find? evseIds.contains

def getLastPlugin (s : AuthHandler) : Option EvseId :=
  s.plugInQueue.reverse.find? evseIds.contains

def isAuthorizationWithdrawn (idToken : IdToken) (s : AuthHandler) : Bool :=
  s.withdrawRequest.any fun request =>
    request.idToken.all (·.isEqual idToken) && request.evseId.all evseIds.contains

/-! ## Selecting an EVSE -/

inductive SelectEvseResult
  | evseSelected (evseId : EvseId)
  | interrupted
  | timeOut

def selectPluggedInEvse (s : AuthHandler) : Option EvseId :=
  if s.selectionAlgorithm == .plugEventsLIFO then s.getLastPlugin evseIds
  else s.getOldestPlugin evseIds

/-- The selection by plug in events, once there is one or the authorization is withdrawn. -/
def selectByPlugIn (idToken : IdToken) (s : AuthHandler) : SelectEvseResult :=
  if s.isAuthorizationWithdrawn evseIds idToken then .interrupted
  else match s.selectPluggedInEvse evseIds with
    | some e => .evseSelected e
    | none => .timeOut

variable (wait : AuthHandler → AuthHandler)

/-- `select_evse`. The result is none if it throws, since the algorithm is not implemented. -/
def selectEvse (evseIds : List EvseId) (idToken : IdToken)
    (s : AuthHandler) : Option (AuthHandler × SelectEvseResult) :=
  match evseIds with
  | [e] => some (s, .evseSelected e)
  | _ =>
    match s.selectionAlgorithm with
    | .plugEvents | .plugEventsLIFO =>
      let s := if (s.selectPluggedInEvse evseIds).isNone then wait s else s
      some (s, s.selectByPlugIn evseIds idToken)
    | .findFirst =>
      match (s.getOldestPlugin evseIds).filter fun e =>
          !(s.evse e).any (·.transactionActive) with
      | some e => some (s, .evseSelected e)
      | none =>
        match evseIds.find? fun e => (s.evse e).any (·.isAvailable) with
        | some e => some (s, .evseSelected e)
        | none => some (s, .timeOut)
    | .userInput => none

/-! ## Authorizing an EVSE -/

variable (evseId : EvseId)

/-- The identifier of an EVSE is set. -/
def setIdentifier (identifier : Identifier) (s : AuthHandler) : AuthHandler :=
  match s.evse evseId with
  | some evse =>
    { s with reservationHandler :=
        s.reservationHandler.updateEvse evseId { evse with identifier := some identifier } }
  | none => s

/-- `evse_index` of an EVSE. -/
def evseIndex (s : AuthHandler) : Int :=
  ((s.evse evseId).map (·.evseIndex)).getD 0

def notifyEvse (token : ProvidedIdToken)
    (result : ValidationResult) (s : AuthHandler) : AuthHandler :=
  let callback := AuthCallback.notifyEvse (s.evseIndex evseId) token result
  if result.authorizationStatus == .accepted then
    let s := wait (s.setIdentifier evseId
      ⟨token.idToken, token.authorizationType, result.parentIdToken⟩)
    call callback { s with plugInQueue := s.plugInQueue.filter (· != evseId) }
  else s.call callback

/-- What is decided on an EVSE that was selected for an accepted token. -/
inductive Decision
  | authorized (reservationId : Option Int)
  | refused (status : AuthorizationStatus)

/-- The branches of the loop of `handle_token` after `select_evse`. -/
def authorizeEvse (idToken : List Char) (result : ValidationResult)
    (h : ReservationHandler) : Decision :=
  let reservationId := h.matchesReservedIdentifier idToken (some evseId)
    (result.parentIdToken.map (·.value))
  if result.evseIds.any fun evseIds => !evseIds.contains evseId then .refused .notAtThisLocation
  else if reservationId.isNone && !h.isChargingPossible evseId then .refused .notAtThisTime
  else if !h.isEvseReserved evseId && reservationId.isNone then .authorized none
  else if reservationId.isSome then .authorized reservationId
  else .refused .notAtThisTime

/-- `on_reservation_used`, if there is a reservation. -/
def useReservation (reservationId : Option Int) (h : ReservationHandler) : ReservationHandler :=
  match reservationId with
  | some id => h.onReservationUsed id
  | none => h

/-- The end of `handle_token` when no result has authorized an EVSE: those that the token names are
notified. -/
def rejectToken (token : ProvidedIdToken)
    (result : ValidationResult) (s : AuthHandler) : TokenOutcome where
  result := .rejected
  token := token
  state := ((token.connectors.getD []).filter fun e => (s.evse e).isSome).foldl
    (fun s e => s.notifyEvse wait e token result) s

/-- The loop of `handle_token` over the validation results from the `i`-th on. `last` is the result
before them. -/
def authorizeLoop (env : TokenEnv) (evseIds : List EvseId) :
    Nat → List ValidationResult → ValidationResult → ProvidedIdToken → AuthHandler →
      Option TokenOutcome
  | i, [], last, token, s => some (s.rejectToken (env.notifying i) token last)
  | i, result :: results, last, token, s =>
    if evseIds.isEmpty then some (s.rejectToken (env.notifying i) token last)
    else if result.authorizationStatus != .accepted then
      authorizeLoop env evseIds (i + 1) results result token s
    else if s.equalsMasterPassGroupId result.parentIdToken then
      some { result := .rejected, token := token, state := s }
    else
      let token := { token with parentIdToken := result.parentIdToken <|> token.parentIdToken }
      match (s.call (.publishAccepted token)).selectEvse
        (env.selecting i) evseIds token.idToken with
      | none => none
      | some (s, .timeOut) => some { result := .timeout, token := token, state := s }
      | some (s, .interrupted) => some { result := .withdrawn, token := token, state := s }
      | some (s, .evseSelected e) =>
        match authorizeEvse e token.idToken.value result s.reservationHandler with
        | .refused status =>
          let result := { result with authorizationStatus := status }
          authorizeLoop env evseIds (i + 1) results result token
            (s.notifyEvse (env.notifying i) e token result)
        | .authorized reservationId =>
          let h := useReservation reservationId s.reservationHandler
          let token := { token with connectors := some [e] }
          let result := { result with reservationId := reservationId <|> result.reservationId }
          some
            { result := .usedToStartTransaction
              token := token
              state := notifyEvse (env.notifying i) e token result
                { s with reservationHandler := h }
              authorization := some
                { evseId := e
                  idToken := token.idToken.value
                  parentIdToken := result.parentIdToken.map (·.value)
                  before := s.reservationHandler
                  after := h } }

/-! ## Stopping a transaction -/

/-- `stop_transaction_callback`. -/
def stopTransaction (reason : StopTransactionReason) (token : ProvidedIdToken)
    (s : AuthHandler) : AuthHandler :=
  s.call (.stopTransaction (s.evseIndex evseId) reason token)

/-- The token is that of an EVSE already. -/
def stopOnReswipe (token : ProvidedIdToken) (s : AuthHandler) : Option TokenOutcome :=
  if token.authorizationType != .rfid && token.authorizationType != .bankCard then none
  else (s.usedForTransaction evseIds token.idToken.value).map fun e =>
    let parent := ((s.evse e).bind (·.identifier)).bind (·.parentIdToken)
    let token' := { token with
      parentIdToken := parent <|> token.parentIdToken, connectors := some [e] }
    if !s.stopTransactionOnReswipe then
      { result := .usedToReauthorize, token := token', state := s }
    else
      { result := .usedToStopTransaction, token := token'
        state := s.stopTransaction e .local token }

/-- The parent token of one validation result stops transactions. -/
def stopWithParent (token : ProvidedIdToken) (s : AuthHandler)
    (result : ValidationResult) : Option TokenOutcome :=
  if result.authorizationStatus != .accepted then none
  else result.parentIdToken.bind fun parent =>
    if s.equalsMasterPassGroupId (some parent) then
      let active := evseIds.filter fun e => (s.evse e).any (·.transactionActive)
      some
        { result := .usedToStopTransaction
          token := { token with parentIdToken := some parent, connectors := some active }
          state := active.foldl (fun s e => s.stopTransaction e .masterPass token) s }
    else (s.usedForTransaction evseIds parent.value).map fun e =>
      let token := { token with connectors := some [e] }
      if !(s.evse e).any (·.transactionActive) then
        { result := .alreadyInProcess, token := token, state := s }
      else if !s.stopTransactionOnReswipe then
        { result := .usedToReauthorize, token := { token with parentIdToken := some parent },
          state := s }
      else
        { result := .usedToStopTransaction, token := { token with parentIdToken := some parent }
          state := s.stopTransaction e .local token }

/-- The parent token of a validation result stops transactions, unless authorization has priority
and an EVSE is available. -/
def stopWithParentIdToken (token : ProvidedIdToken)
    (results : List ValidationResult) (s : AuthHandler) : Option TokenOutcome :=
  if s.prioritizeAuthorizationOverStoppingTransaction && s.anyEvseAvailable evseIds then none
  else results.findSome? (s.stopWithParent evseIds token)

/-! ## Handling a token -/

/-- The checks before the validation: some EVSE is available or a parent token may stop a
transaction, and not all EVSEs are reserved for others. -/
def mayBeUsed (token : ProvidedIdToken) (s : AuthHandler) : Bool :=
  let h := s.reservationHandler
  (s.anyEvseAvailable evseIds || s.anyParentIdPresent evseIds || s.masterPassGroupId.isSome) &&
    evseIds.any fun e => !h.isEvseReserved e && h.isChargingPossible e ||
      (h.matchesReservedIdentifier token.idToken.value (some e) none).isSome ||
      h.hasReservationParentId (some e)

/-- The validation results, and the state after the validation. -/
def validateToken (env : TokenEnv) (token : ProvidedIdToken) (s : AuthHandler) :
    List ValidationResult × AuthHandler :=
  if token.prevalidated == some true then ([⟨.accepted, token.parentIdToken, none, none⟩], s)
  else (env.validationResults, env.validating s)

/-- `handle_token`. The result is none if it throws. -/
def handleToken (env : TokenEnv) (token : ProvidedIdToken) (s : AuthHandler) :
    Option TokenOutcome :=
  let evseIds := s.getReferencedEvses token
  match s.stopOnReswipe evseIds token with
  | some outcome => some outcome
  | none =>
    if !s.mayBeUsed evseIds token then
      some { result := .noConnectorAvailable, token := token, state := s }
    else
      let (results, s) := s.validateToken env token
      match s.stopWithParentIdToken evseIds token results with
      | some outcome => some outcome
      | none =>
        if !s.anyEvseAvailable evseIds then
          some { result := .noConnectorAvailable, token := token, state := s }
        else if results.isEmpty then some { result := .rejected, token := token, state := s }
        else
          let evseIds := evseIds.filter fun e => ((s.evse e).bind (·.identifier)).isNone
          s.authorizeLoop env evseIds 0 results ⟨.unknown, none, none, none⟩ token

end AuthHandler

end EverestCore.Auth
