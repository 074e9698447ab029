import EverestCore.Iso15118.D2.History

/-!
# What an ISO 15118-2 session knows about its contract

Which contract a session charges for, and whether it returned to a paused one, is decided before the
state `Authorization`. The states after it charge, and only `process_session_stop` among them
touches the pause context.

Results:
* **`moves_step`**: what one input of the engine does to the contract and the state.
-/

namespace EverestCore.Iso15118.D2

open Context State

/-! ## The view -/

/-- The EMAID that the module is asked to authorize. -/
def Trace.asks : Trace → Option String
  | .requireAuthPnc emaid _ => some emaid
  | _ => none

/-- `AuthorizationRes(OK, Finished)`. -/
def Response.finishes (res : Response) : Bool :=
  res.type = .AuthorizationRes && res.responseCode = .OK && res.evseProcessing = some .Finished

/-- `AuthorizationRes(OK, Finished)` is staged. -/
def Trace.finishes : Trace → Bool
  | .staged _ _ res => res.finishes
  | _ => false

/-- An entry about an authorization. -/
def Trace.marked (t : Trace) : Bool := t.asks.isSome || t.finishes

/-- What decides whose authorization a session needs. -/
structure ContractView where
  selected : Bool
  emaid : String
  resumed : Bool
  pauseCtx : Option PauseContext
  sessionPaused : Bool
  marks : List Trace

def Context.view (c : Context) : ContractView where
  selected := c.session.contractSelected
  emaid := c.session.contractEmaid
  resumed := c.session.sessionResumed
  pauseCtx := c.pauseCtx
  sessionPaused := c.sessionPaused
  marks := c.log.filter Trace.marked

@[simp] theorem view_signal (s : Signal) (c : Context) : (c.signal s).view = c.view := rfl

@[simp] theorem view_stopSession (c : Context) : c.stopSession.view = c.view := rfl

@[simp] theorem view_startTimeout (now : Int) (type : TimeoutType) (ms : Int) (c : Context) :
    (c.startTimeout now type ms).view = c.view := rfl

@[simp] theorem view_stopTimeout (type : TimeoutType) (c : Context) :
    (c.stopTimeout type).view = c.view := rfl

@[simp] theorem view_invalidateCableCheck (c : Context) :
    c.invalidateCableCheck.view = c.view := rfl

@[simp] theorem view_respondRaw (raw : Bytes) (c : Context) : (c.respondRaw raw).view = c.view := by
  unfold respondRaw
  split <;> rfl

variable (state : StateID) (request : RequestBody)

/-- The response that is staged is the only new entry, and may be an authorization. -/
theorem view_respond (res : Response) (c : Context) :
    (c.respond state request res).view = { c.view with
        marks := [Trace.staged state request (c.downgraded res)].filter Trace.marked ++
          c.view.marks } := by
  have hlog : (c.respond state request res).log =
      [.staged state request (c.downgraded res)] ++ c.log :=
    rfl
  unfold Context.view
  rw [hlog, List.filter_append]
  rfl

variable {res : Response}

theorem finishes_downgraded (h : res.finishes = false) (c : Context) :
    (c.downgraded res).finishes = false := by
  unfold downgraded
  split
  · simp [Response.finishes]
  · exact h

theorem view_respond_of_not_finishes (h : res.finishes = false) (state : StateID)
    (request : RequestBody) (c : Context) : (c.respond state request res).view = c.view := by
  have hm : (Trace.staged state request (c.downgraded res)).marked = false := by
    simp [Trace.marked, Trace.asks, Trace.finishes, finishes_downgraded h]
  rw [view_respond, List.filter_cons_of_neg (by simp [hm])]
  rfl

@[simp] theorem view_respond_of_type {r : Response} (h : r.type ≠ .AuthorizationRes)
    (state : StateID) (request : RequestBody) (c : Context) :
    (c.respond state request r).view = c.view :=
  view_respond_of_not_finishes (by simp [Response.finishes, h]) state request c

theorem view_respond_of_code (h : res.responseCode ≠ .OK) (state : StateID)
    (request : RequestBody) (c : Context) : (c.respond state request res).view = c.view :=
  view_respond_of_not_finishes (by simp [Response.finishes, h]) state request c

@[simp] theorem view_respondAndTerminate {code : ResponseCode} (h : code ≠ .OK) (c : Context) :
    (respondAndTerminate state request code c).view = c.view := by
  cases request with
  | other => rfl
  | authorization challenge exi => exact view_respond_of_code h state _ c
  | _ => exact view_respond_of_type (by simp) state _ c

theorem view_respondSequenceError (c : Context) :
    (respondSequenceError state request c).view = c.view :=
  view_respondAndTerminate state request (by decide) c

/-! ## Charging -/

/-- The states on the way to the authorization. -/
def State.early : State → Bool
  | .sessionSetup | .serviceDiscovery | .serviceSelection
  | .identification _ | .paymentDetails => true
  | _ => false

/-- The states after the authorization. -/
def State.charging : State → Bool
  | .authorization _ => false
  | s => !s.early

/-- The payment option that a paused session remembers. -/
def ContractView.option (v : ContractView) : PaymentOption :=
  if v.selected then .Contract else .ExternalPayment

/-- What a session that charges may do to its view: nothing, or pause, or terminate. -/
inductive Charged (v : ContractView) : ContractView → Prop
  | kept : Charged v v
  | paused (id : SessionId) :
      Charged v { v with pauseCtx := some ⟨id, v.option⟩, sessionPaused := true }
  | terminated : Charged v { v with pauseCtx := none }

/-- The outcome of a handler while charging. -/
structure Charges (c : Context) (o : Outcome) : Prop where
  view : Charged c.view o.1.view
  state : o.2.state.charging = true

theorem Charges.of_eq {c : Context} {o : Outcome} (hv : o.1.view = c.view)
    (hst : o.2.state.charging) : Charges c o :=
  ⟨hv ▸ .kept, hst⟩

theorem Charges.of_view {c d : Context} {o : Outcome} (h : Charges d o) (hv : d.view = c.view) :
    Charges c o :=
  ⟨hv ▸ h.view, h.state⟩

section Handlers

variable (crypto : Crypto) (env : Env) (c : Context) {s : State}

theorem charges_processChargeParameterDiscovery (hs : s.charging)
    (req : ChargeParameterDiscoveryRequest) :
    Charges c (processChargeParameterDiscovery s req c) := by
  unfold processChargeParameterDiscovery
  split
  · exact .of_eq (by simp) hs
  · refine .of_eq ?_ ?_
    · dsimp only [setSaSchedules]
      split <;> exact view_respond_of_type (by simp) _ _ c
    · dsimp only [Next.state, afterChargeParameters]
      split_ifs <;> rfl

theorem view_respondPowerDelivery (s : State) (req : PowerDeliveryRequest) (isDc : Bool)
    (code : ResponseCode) : (respondPowerDelivery s req isDc code c).view = c.view :=
  view_respond_of_type (by simp) _ _ c

theorem charges_renegotiate (hs : s.charging) (req : PowerDeliveryRequest) (isDc : Bool) :
    Charges c (renegotiate s req isDc c) := by
  have hv := view_respondPowerDelivery c s req isDc
  unfold renegotiate
  split
  · exact .of_eq (hv _) hs
  dsimp only
  split
  · exact .of_eq (hv _) hs
  · refine .of_eq ?_ rfl
    split
    · rw [view_invalidateCableCheck, view_signal, view_signal]
      exact hv _
    · exact hv _

theorem charges_processAcPowerDelivery (hs : s.charging) (req : PowerDeliveryRequest) :
    Charges c (processAcPowerDelivery s req c) := by
  have hv := view_respondPowerDelivery c s req false
  have hv' := view_respondPowerDelivery (markPowerDeliveryStarted c) s req false
  unfold processAcPowerDelivery
  split <;> first | exact charges_renegotiate c hs req false | dsimp only; split
  · exact .of_eq (hv' _) hs
  · exact .of_eq (hv' _) rfl
  · exact .of_eq (hv _) hs
  · exact .of_eq (hv _) rfl

theorem charges_processDcPowerDelivery (hs : s.charging) (req : PowerDeliveryRequest) :
    Charges c (processDcPowerDelivery s req c) := by
  have hv' := view_respondPowerDelivery (markPowerDeliveryStarted c) s req true
  have hv := view_respondPowerDelivery (c.signal .CHARGE_LOOP_FINISHED) s req true
  unfold processDcPowerDelivery
  split
  · split
    · exact .of_eq (view_respondPowerDelivery c s req true _) hs
    · dsimp only
      split
      · exact .of_eq (hv' _) hs
      · exact .of_eq (hv' _) rfl
  · exact charges_renegotiate c hs req true
  · dsimp only
    split
    · exact .of_eq (hv _) hs
    · refine .of_eq ?_ rfl
      rw [view_signal, view_invalidateCableCheck]
      exact hv _

theorem charges_processCableCheck (initiated pending : Bool) :
    Charges c (processCableCheck env initiated pending c) := by
  have hv : (initiateCableCheck env initiated c).view = c.view := by
    unfold initiateCableCheck
    split <;> rfl
  have ht : (cableCheckResponse (initiateCableCheck env initiated c)).type ≠ .AuthorizationRes := by
    unfold cableCheckResponse
    split <;> simp
  unfold processCableCheck
  dsimp only
  split_ifs <;> exact .of_eq (by simp [ht, hv]) rfl

theorem charges_processCurrentDemand : Charges c (processCurrentDemand c) := by
  have hst : (startChargeLoop c).view = c.view := by
    unfold startChargeLoop
    split <;> rfl
  unfold processCurrentDemand
  dsimp only
  split_ifs <;> exact .of_eq (by simp [hst]) rfl

theorem charges_processSessionStop (hs : s.charging) (charging : ChargingSession) :
    Charges c (processSessionStop s charging c) := by
  have hv := view_respond_of_type (r := ⟨.SessionStopRes, .OK, none, false⟩) (by decide) s.id
    (.sessionStop charging) c
  refine ⟨?_, ?_⟩
  · rw [← hv]
    cases charging with
    | Terminate => exact .terminated
    | Pause => exact .paused _
  · cases charging <;> exact hs

/-- **A session that charges keeps its contract.** -/
theorem charges_onRequest (hs : s.charging) (request : Request) :
    Charges c (onRequest crypto env s request c) := by
  unfold onRequest
  split
  case h_8 | h_19 => exact charges_processChargeParameterDiscovery c hs _
  case h_9 =>
    unfold acPowerDeliveryOnRequest
    split
    · exact .of_eq rfl rfl
    · exact charges_processAcPowerDelivery c rfl _
  case h_10 =>
    unfold meteringReceiptOnRequest
    dsimp only
    split
    · exact .of_eq (by simp) rfl
    · split
      · exact .of_eq (by simp) rfl
      · refine .of_eq (view_respond_of_type (by simp) _ _ _) ?_
        split_ifs <;> rfl
  case h_11 | h_22 => exact charges_processSessionStop c hs _
  case h_12 =>
    unfold cableCheckOnRequest
    split
    · exact charges_processCableCheck env c _ _
    · exact .of_eq rfl rfl
  case h_15 | h_17 => exact charges_processDcPowerDelivery c hs _
  case h_16 => exact charges_processCurrentDemand c
  case h_18 =>
    unfold acceptWeldingDetection
    split
    · exact .of_eq rfl rfl
    · exact .of_eq (by simp [answerWeldingDetection]) rfl
  case h_20 =>
    unfold acceptSessionStop
    split
    · exact .of_eq rfl rfl
    · exact charges_processSessionStop c rfl _
  case h_13 | h_14 => exact .of_eq (by simp [answerPreCharge]) rfl
  case h_21 => exact .of_eq (by simp [answerWeldingDetection]) rfl
  case h_23 | h_24 =>
    unfold answerChargingStatus
    split <;> exact .of_eq (by simp) rfl
  case h_25 => exact charges_processAcPowerDelivery c hs _
  case h_26 => exact .of_eq (view_respondSequenceError _ _ c) hs
  -- the states up to the authorization
  all_goals simp [charging, early] at hs

theorem charges_onControlMessage (hs : s.charging) (event : ControlEvent) :
    Charges c (onControlMessage crypto env s event c) := by
  cases s with
  | acPowerDelivery saved =>
    simp only [onControlMessage, acPowerDeliveryOnControl]
    repeat' split
    · exact .of_eq (view_respondPowerDelivery _ _ _ false _) rfl
    · exact .of_eq (view_respondPowerDelivery _ _ _ false _) rfl
    all_goals exact .of_eq rfl rfl
  | cableCheck initiated pending =>
    have hv : (setCableCheckResult event c).view = c.view := by
      unfold setCableCheckResult
      split <;> rfl
    refine Charges.of_view ?_ hv
    simp only [onControlMessage, cableCheckOnControl]
    split
    · exact (charges_processCableCheck env _ initiated false).of_view rfl
    · exact .of_eq rfl rfl
  | postCharge weld stop =>
    simp only [onControlMessage, postChargeOnControl]
    repeat' split
    · exact .of_eq (by simp [answerWeldingDetection]) rfl
    · exact (charges_processSessionStop (c.stopTimeout .CPSTATE) rfl _).of_view rfl
    all_goals exact .of_eq rfl rfl
  | identification | authorization => simp [charging, early] at hs
  | _ => exact .of_eq rfl hs

theorem charges_onTimeoutEvent (hs : s.charging) (timeout : TimeoutType) :
    Charges c (onTimeoutEvent s timeout c) := by
  cases s with
  | acPowerDelivery | cableCheck | postCharge =>
    simp only [onTimeoutEvent, acPowerDeliveryOnTimeout, cableCheckOnTimeout, postChargeOnTimeout]
    repeat' split
    all_goals exact .of_eq (by simp) rfl
  | authorization a => simp [charging] at hs
  | _ => exact .of_eq rfl hs

/-! ## The way to the authorization -/

/-- What an event before the state `Authorization` may do to the view and the state. -/
inductive Early (v : ContractView) (s : State) : ContractView → State → Prop
  | kept {s' : State} (h : s'.early = true) (hs : s' = .sessionSetup → s = .sessionSetup) :
      Early v s v s'
  | rejoined (hs : s = .sessionSetup) (h : v.pauseCtx.isSome = true) :
      Early v s { v with resumed := true } .serviceDiscovery
  | contract (h : ∀ p, v.pauseCtx = some p → v.resumed = true →
        p.selectedPaymentOption = .Contract) :
      Early v s { v with selected := true } (.identification false)
  | external : Early v s v (.authorization {})
  | identified (emaid : String) (challenge : GenChallenge) :
      Early v s { v with emaid := emaid } (.authorization { genChallenge := some challenge })

/-- The outcome of a handler on the way to the authorization. -/
def Approaches (c : Context) (s : State) (o : Outcome) : Prop :=
  Early c.view s o.1.view o.2.state

theorem Approaches.of_eq {c : Context} {o : Outcome} (hv : o.1.view = c.view)
    (hst : o.2.state.early) (hs : o.2.state = .sessionSetup → s = .sessionSetup) :
    Approaches c s o := by
  unfold Approaches
  rw [hv]
  exact .kept hst hs

theorem approaches_outOfSequence (hs : s.early) (request : RequestBody) :
    Approaches c s (outOfSequence s request c) :=
  .of_eq (view_respondSequenceError _ _ c) hs id

/-- A resumed session is bound to its payment option, and no contract is possible without TLS. -/
theorem contract_of_selectionAllowed (h : selectionAllowed .Contract c) {p : PauseContext}
    (hp : c.pauseCtx = some p) (hres : c.session.sessionResumed) :
    p.selectedPaymentOption = .Contract := by
  unfold selectionAllowed at h
  split at h
  · next stored option hs =>
    simp only [resumedPaymentOption, hp] at hs
    split at hs
    · cases hs
      exact (of_decide_eq_true h).symm
    · cases hs
  · next h' => cases h'
  · next hno _ =>
    by_contra hne
    simp [resumedPaymentOption, hp, hres, hne] at hno

theorem approaches_processPaymentSelection (option : PaymentOption)
    (services : List SelectedService) :
    Approaches c .serviceSelection (processPaymentSelection option services c) := by
  have hv := view_respond_of_type
    (r := ⟨.PaymentServiceSelectionRes, paymentSelectionCode option services c, none, false⟩)
    (by simp) .ServiceSelection (.paymentServiceSelection option services) c
  unfold processPaymentSelection
  dsimp only
  split
  case isTrue => exact .of_eq hv rfl nofun
  case isFalse hok =>
    cases option with
    | ExternalPayment =>
      unfold Approaches
      rw [hv]
      exact .external
    | Contract =>
      have hall : selectionAllowed .Contract c := by
        by_contra hnot
        simp [paymentSelectionCode, hnot, ResponseCode.failed] at hok
      rw [Approaches, ← hv]
      refine .contract fun p hp hres => ?_
      exact contract_of_selectionAllowed c hall hp hres

theorem approaches_processPaymentDetails (hs : s.early) (emaid : String)
    (certificate : Bytes) (subs : List Bytes) :
    Approaches c s (processPaymentDetails crypto env s emaid certificate subs c) := by
  unfold processPaymentDetails
  dsimp only
  split
  · exact .of_eq (view_respond_of_type (by simp) _ _ c) hs id
  · unfold Approaches
    rw [view_respond_of_type (by simp)]
    exact .identified _ _

theorem approaches_identificationOnRequest (forwarded : Bool) (request : RequestBody) :
    Approaches c (.identification forwarded)
      (identificationOnRequest crypto env forwarded request c) := by
  have hout := approaches_outOfSequence c (s := .identification forwarded) rfl
  have hf : ∀ exi s, Approaches c (.identification s) (forwardToBackend exi c) := by
    intro exi s
    unfold forwardToBackend
    split <;> exact .of_eq rfl rfl nofun
  unfold identificationOnRequest
  split
  · exact hout _
  · split
    · exact approaches_processPaymentDetails crypto env c rfl _ _ _
    · split
      · exact hf _ _
      · exact hout _
    · split
      · exact hf _ _
      · exact hout _
    · exact hout _

/-- **The way to the authorization.** -/
theorem approaches_onRequest (hs : s.early) (request : Request) :
    Approaches c s (onRequest crypto env s request c) := by
  unfold onRequest
  split
  case h_1 =>
    unfold sessionSetupOnRequest
    split
    case isTrue h =>
      have hp : c.view.pauseCtx.isSome := Option.isSome_of_any h
      unfold Approaches
      rw [view_respond_of_type (by simp)]
      exact .rejoined rfl hp
    case isFalse => exact .of_eq (view_respond_of_type (by simp) _ _ _) rfl nofun
  case h_2 => exact .of_eq (view_respond_of_type (by simp) _ _ c) rfl nofun
  case h_3 =>
    refine .of_eq ?_ rfl nofun
    simp only [processServiceDetail, apply_ite Context.view, view_stopSession, ite_self]
    exact view_respond_of_type (by simp) _ _ c
  case h_4 => exact approaches_processPaymentSelection c _ _
  case h_5 => exact approaches_identificationOnRequest crypto env c _ _
  case h_6 => exact approaches_processPaymentDetails crypto env c hs _ _ _
  case h_26 => exact approaches_outOfSequence c hs _
  all_goals simp [early] at hs

theorem approaches_onControlMessage (hs : s.early) (event : ControlEvent) :
    Approaches c s (onControlMessage crypto env s event c) := by
  cases s with
  | identification forwarded =>
    simp only [onControlMessage, identificationOnControl]
    repeat' split
    · exact .of_eq rfl rfl (by rintro ⟨⟩)
    · exact .of_eq (view_respondRaw _ c) rfl (by rintro ⟨⟩)
    · exact .of_eq (view_respondRaw _ c) rfl (by rintro ⟨⟩)
    · exact .of_eq rfl rfl (by rintro ⟨⟩)
  | sessionSetup | serviceDiscovery | serviceSelection | paymentDetails => exact .of_eq rfl rfl id
  | _ => simp [early] at hs

/-! ## The authorization -/

/-- The contract that the module was last asked to authorize. -/
def ContractView.asked (v : ContractView) : Option String := v.marks.findSome? Trace.asks

/-- The answer to an `AuthorizationReq` in the state `Authorization` with the members `a`. -/
inductive Answers (v : ContractView) (a : AuthorizationState) : ContractView → State → Prop
  | waits : Answers v a v (.authorization a)
  | finished (h : a.authorized = true) (new : List Trace) (hnew : ∀ t ∈ new, t.asks = none) :
      Answers v a { v with marks := new ++ v.marks } .chargeParameterDiscovery

theorem authorized_of_finished {a : AuthorizationState} {selected : Bool}
    (hok : ¬ (authorizationResponse a selected).responseCode.failed)
    (h : (authorizationResponse a selected).evseProcessing = some .Finished) : a.authorized := by
  unfold authorizationResponse at hok h
  dsimp only at hok h
  split at h
  · rename_i hbad
    rw [if_pos hbad] at hok
    exact absurd (by dsimp only; split <;> rfl) hok
  · by_contra hnot
    rw [if_neg hnot] at h
    cases selected <;> simp at h

variable (a : AuthorizationState)

theorem answers_answerAuthorization (request : RequestBody) :
    Answers c.view a (answerAuthorization a request c).1.view
      (answerAuthorization a request c).2.state := by
  unfold answerAuthorization
  dsimp only
  split
  case isTrue hf =>
    have hc : (authorizationResponse a c.session.contractSelected).responseCode ≠ .OK := by
      intro h
      simp [h, ResponseCode.failed] at hf
    rw [view_stopSession, view_respond_of_code hc]
    exact .waits
  case isFalse hok =>
    split
    case isFalse hw =>
      rw [view_respond_of_not_finishes (by simp [Response.finishes, hw])]
      exact .waits
    case isTrue hfin =>
      rw [view_stopTimeout, view_respond]
      refine .finished (authorized_of_finished hok hfin) _ fun t ht => ?_
      obtain rfl := List.mem_singleton.1 (List.mem_of_mem_filter ht)
      rfl

/-- The first request of a contract, which has to answer the challenge. -/
def acceptsFirst (a : AuthorizationState) (challenge : Option GenChallenge) (exi : Bytes)
    (leafDer : Bytes) : Prop :=
  a.firstReqMsg ∧ (challenge.isSome ∧ challenge = a.genChallenge) ∧
    crypto.verifyAuthorizationSignature exi leafDer

instance (a : AuthorizationState) (challenge : Option GenChallenge) (exi leafDer : Bytes) :
    Decidable (acceptsFirst crypto a challenge exi leafDer) := by
  unfold acceptsFirst
  infer_instance

/-- The view once the module was asked. -/
def ContractView.ask (v : ContractView) (chainPem : String) : ContractView :=
  if v.selected ∧ ¬ v.resumed then
    { v with marks := .requireAuthPnc v.emaid chainPem :: v.marks }
  else v

/-- The members once the first request was accepted. -/
def ContractView.start (v : ContractView) (a : AuthorizationState) : AuthorizationState :=
  { a with firstReqMsg := false, authorized := a.authorized || (v.selected && v.resumed) }

theorem view_startAuthorization :
    (startAuthorization env a c).2.view = c.view.ask c.session.contractChainPem := by
  unfold startAuthorization ContractView.ask
  rw [apply_ite Context.view, view_startTimeout, ite_self]
  by_cases hsel : c.session.contractSelected
  · by_cases hres : c.session.sessionResumed
    · simp [Context.view, hsel, hres]
    · simp [Context.view, hsel, hres, record, Trace.marked, Trace.asks]
  · simp [Context.view, hsel, signal, Trace.marked, Trace.asks, Trace.finishes, record]

/-- **An `AuthorizationReq` is refused, or starts the authorization, or is answered.** -/
inductive Authorizes (c : Context) (a : AuthorizationState) (challenge : Option GenChallenge)
    (exi : Bytes) : ContractView → State → Prop
  | refused : Authorizes c a challenge exi c.view (.authorization a)
  | started {v' : ContractView} {s' : State}
      (haccept : c.session.contractSelected = true →
        acceptsFirst crypto a challenge exi c.session.contractLeafDer)
      (h : Answers (c.view.ask c.session.contractChainPem) (c.view.start a) v' s') :
      Authorizes c a challenge exi v' s'
  | repeated {v' : ContractView} {s' : State} (hfirst : a.firstReqMsg = false)
      (h : Answers c.view a v' s') : Authorizes c a challenge exi v' s'

theorem authorizes_authorizationOnRequest (challenge : Option GenChallenge) (exi : Bytes) :
    Authorizes crypto c a challenge exi (authorizationOnRequest crypto env a challenge exi c).1.view
      (authorizationOnRequest crypto env a challenge exi c).2.state := by
  unfold authorizationOnRequest
  split
  case isFalse hf =>
    exact .repeated (by simpa using hf) (answers_answerAuthorization c a _)
  case isTrue hf =>
    split
    case isTrue =>
      rw [view_stopSession, view_respond_of_code (by simp)]
      exact .refused
    case isFalse hc =>
      split
      case isTrue =>
        rw [view_stopSession, view_respond_of_code (by simp)]
        exact .refused
      case isFalse hsig =>
        refine .started (fun hsel => ⟨hf, ?_, ?_⟩) ?_
        · by_contra h
          exact hc ⟨hsel, h⟩
        · by_contra h
          exact hsig ⟨hsel, h⟩
        · rw [← view_startAuthorization env c a]
          exact answers_answerAuthorization _ _ _

end Handlers

/-! ## The engine -/

theorem Steady.view {c c' : Context} (h : Steady c c') : c'.view = c.view := by
  unfold Context.view
  rw [h.log, h.session, h.pauseCtx, h.sessionPaused]

/-- One input, as the view and the state see it. -/
inductive Moves (crypto : Crypto) (e : Engine) (i : Input) : ContractView → State → Prop
  | idle : Moves crypto e i e.ctx.view e.state
  | early {v : ContractView} {s : State} (hs : e.state.early = true)
      (h : Early e.ctx.view e.state v s) : Moves crypto e i v s
  | charging {v : ContractView} {s : State} (hs : e.state.charging = true)
      (h : Charged e.ctx.view v) (hs' : s.charging = true) : Moves crypto e i v s
  | requested {v : ContractView} {s : State} {a : AuthorizationState} {request : Request}
      {challenge : Option GenChallenge} {exi : Bytes} (hs : e.state = .authorization a)
      (hi : i = .packet request) (hknown : unknownSession request e.ctx = false)
      (hbody : request.body = .authorization challenge exi)
      (h : Authorizes crypto e.ctx a challenge exi v s) : Moves crypto e i v s
  | answered {a : AuthorizationState} {authorized revoked : Bool} (hs : e.state = .authorization a)
      (hi : i = .control (.authorizationResponse authorized revoked)) :
      Moves crypto e i e.ctx.view
        (authorizationOnControl a (.authorizationResponse authorized revoked))
  | timedOut {a : AuthorizationState} (hs : e.state = .authorization a) (reached : Bool) :
      Moves crypto e i e.ctx.view (.authorization { a with timeoutOngoingReached := reached })

theorem State.phases (s : State) : s.early ∨ s.charging ∨ ∃ a, s = .authorization a := by
  cases s with
  | authorization a => exact .inr (.inr ⟨a, rfl⟩)
  | _ => simp [early, charging]

variable (crypto : Crypto) (env : Env)

theorem moves_authorization (e : Engine) {a : AuthorizationState}
    (hs : e.state = .authorization a) (request : Request)
    (hk : unknownSession request e.ctx = false) :
    Moves crypto e (.packet request) (onRequest crypto env e.state request e.ctx).1.view
      (onRequest crypto env e.state request e.ctx).2.state := by
  cases hb : request.body with
  | authorization challenge exi =>
    refine .requested hs rfl hk hb ?_
    rw [hs]
    simp only [onRequest, hb]
    exact authorizes_authorizationOnRequest crypto env e.ctx a challenge exi
  | _ =>
    have hout : onRequest crypto env e.state request e.ctx =
        outOfSequence e.state request.body e.ctx := by
      rw [hs]
      simp only [onRequest, hb]
    rw [hout, show (outOfSequence e.state request.body e.ctx).1.view = e.ctx.view from
      view_respondSequenceError _ _ _]
    exact .idle

theorem moves_onPacket (request : Request) (e : Engine) :
    Moves crypto e (.packet request) (e.onPacket crypto env request).ctx.view
      (e.onPacket crypto env request).state := by
  unfold Engine.onPacket
  split
  case isTrue =>
    rw [view_respondAndTerminate _ _ (by decide)]
    exact .idle
  case isFalse hk =>
    rw [(steady_feed e _).view, Engine.feed_state]
    rcases e.state.phases with hs | hs | ⟨a, hs⟩
    · exact .early hs (approaches_onRequest crypto env e.ctx hs request)
    · have h := charges_onRequest crypto env e.ctx hs request
      exact .charging hs h.view h.state
    · exact moves_authorization crypto env e hs request (by simpa using hk)

theorem moves_onControlEvent (event : ControlEvent) (e : Engine) :
    Moves crypto e (.control event) (e.onControlEvent crypto env event).ctx.view
      (e.onControlEvent crypto env event).state := by
  obtain ⟨e', h | h, hst, hste, -⟩ := onControlEvent_cases crypto env event e
  all_goals have hv : e'.ctx.view = e.ctx.view := hste.view
  · rw [h, hv, hst]
    exact .idle
  · rw [h, Engine.feedControl, (steady_feed e' _).view, Engine.feed_state, hst]
    rcases e.state.phases with hs | hs | ⟨a, hs⟩
    · have h' := approaches_onControlMessage crypto env e'.ctx hs event
      rw [Approaches, hv] at h'
      exact .early hs h'
    · have h' := charges_onControlMessage crypto env e'.ctx hs event
      exact .charging hs (hv ▸ h'.view) h'.state
    · rw [hs]
      simp only [onControlMessage, Next.state]
      rw [hv]
      cases event with
      | authorizationResponse authorized revoked => exact .answered hs rfl
      | _ =>
        simp only [authorizationOnControl]
        rw [← hs]
        exact .idle

theorem moves_onTimeout (timeout : TimeoutType) (e : Engine) :
    Moves crypto e (.timeout timeout) (e.onTimeout timeout).ctx.view
      (e.onTimeout timeout).state := by
  rcases onTimeout_cases timeout e with ⟨hste, hst, -⟩ | h
  · rw [hste.view, hst]
    exact .idle
  · rw [h, (steady_feed e _).view, Engine.feed_state]
    rcases e.state.phases with hs | hs | ⟨a, hs⟩
    · have hid : onTimeoutEvent e.state timeout e.ctx = (e.ctx, .stay e.state) := by
        revert hs
        cases e.state <;> simp [onTimeoutEvent, early]
      rw [hid]
      exact .idle
    · have h' := charges_onTimeoutEvent e.ctx hs timeout
      exact .charging hs h'.view h'.state
    · rw [hs]
      exact .timedOut hs _

/-- **What one input of the engine does to the contract and the state.** -/
theorem moves_step (e : Engine) (i : Env × Input) :
    Moves crypto e i.2 (e.step crypto i).ctx.view (e.step crypto i).state := by
  obtain ⟨env, i⟩ := i
  cases i with
  | packet request => exact moves_onPacket crypto env request e
  | control event => exact moves_onControlEvent crypto env event e
  | timeout type => exact moves_onTimeout crypto type e
  | takeOutgoing => exact .idle

end EverestCore.Iso15118.D2
