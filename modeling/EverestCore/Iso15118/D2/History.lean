import EverestCore.Iso15118.D2.Engine

/-!
# What the SECC states add to the history of a session

Every function of the engine extends the history, and the power path follows the signals in it
(`Extends`). Most of them are `Quiet`: they neither start the DC energy transfer nor touch the
result of the cable check. The exceptions are `process_dc_power_delivery` and the events of the
state `CableCheck`.

Results:
* `quiet_onRequest`, `quiet_onControlMessage`, `quiet_onTimeoutEvent`: the handlers, by their state.
* `extends_onRequest`, `extends_step`: every step of the engine extends the history.
-/

namespace EverestCore.Iso15118.D2

open Engine Trace

/-! ## Extending the history -/

/-- The power path after the given entries, newest first. -/
def PowerPath.after (p : PowerPath) : List Trace → PowerPath
  | [] => p
  | .signal s :: log => (p.after log).observe s
  | _ :: log => p.after log

theorem PowerPath.after_append (p : PowerPath) (new log : List Trace) :
    p.after (new ++ log) = (p.after log).after new := by
  induction new with
  | nil => rfl
  | cons t new ih => cases t <;> simp [PowerPath.after, ih]

/-- `c'` has the history of `c` and the entries `new`. -/
structure Extends (c c' : Context) (new : List Trace) : Prop where
  log : c'.log = new ++ c.log
  path : c'.powerPath = c.powerPath.after new

theorem Extends.trans {a b c : Context} {new new' : List Trace} (h : Extends a b new)
    (h' : Extends b c new') : Extends a c (new' ++ new) := by
  refine ⟨?_, ?_⟩
  · rw [h'.log, h.log, List.append_assoc]
  · rw [h'.path, h.path, PowerPath.after_append]

/-- A positive answer to `PowerDeliveryReq(Start)` of DC in `PreCharge`. -/
def Trace.grantsStart : Trace → Bool
  | .staged .PreCharge (.powerDelivery req) res =>
    req.chargeProgress = .Start && res.type = .PowerDeliveryRes && res.responseCode = .OK
  | _ => false

/-- An entry that neither starts the energy transfer nor invalidates the cable check. -/
def Trace.neutral (t : Trace) : Bool :=
  !t.grantsStart && t ≠ .cableCheckInvalidated

/-- What refuses a start and fails responses: the pause, an ignored stop and an emergency. -/
structure Regime where
  noEnergyPause : NoEnergyPauseMode
  stopIgnored : Bool
  emergency : Bool

namespace Regime

/-- Every response is failed. -/
def downgrades (r : Regime) : Bool := r.stopIgnored || r.emergency

/-- The control events that change the regime. -/
def onControl (r : Regime) : ControlEvent → Regime
  | .stopCharging false => { r with stopIgnored := false }
  | .noEnergyPause mode => { r with noEnergyPause := mode }
  | .evseError .EmergencyShutdown => { r with emergency := true }
  | _ => r

end Regime

def Context.regime (c : Context) : Regime :=
  ⟨c.config.noEnergyPause, c.chargerStopIgnored, c.evse.emergencyShutdown⟩

/-- From `c` to `c'` the history got neutral entries only, and neither the result of the cable check
nor the regime has changed. -/
structure Quiet (c c' : Context) : Prop where
  added : ∃ new, Extends c c' new ∧ ∀ t ∈ new, t.neutral = true
  done : c'.evse.cableCheckDone = c.evse.cableCheckDone
  regime : c'.regime = c.regime

namespace Quiet

variable {a b c : Context}

theorem refl (c : Context) : Quiet c c :=
  ⟨⟨[], ⟨rfl, rfl⟩, by simp⟩, rfl, rfl⟩

theorem trans (h : Quiet a b) (h' : Quiet b c) : Quiet a c := by
  obtain ⟨new, hnew, hn⟩ := h.added
  obtain ⟨new', hnew', hn'⟩ := h'.added
  refine ⟨⟨new' ++ new, hnew.trans hnew', ?_⟩, h'.done.trans h.done,
    h'.regime.trans h.regime⟩
  intro t ht
  rcases List.mem_append.mp ht with ht | ht
  · exact hn' t ht
  · exact hn t ht

/-- A change that leaves the history, the power path, the cable check and the regime alone. -/
theorem update (h : Quiet a b) (hlog : c.log = b.log) (hp : c.powerPath = b.powerPath)
    (hd : c.evse.cableCheckDone = b.evse.cableCheckDone)
    (hr : c.regime = b.regime) : Quiet a c :=
  h.trans ⟨⟨[], ⟨hlog, hp⟩, by simp⟩, hd, hr⟩

theorem ite {p : Prop} [Decidable p] (h : Quiet a b) (h' : Quiet a c) :
    Quiet a (if p then b else c) := by
  split
  · exact h
  · exact h'

theorem record {t : Trace} (h : Quiet a b) (ht : t.neutral) (hs : ∀ s, t ≠ .signal s) :
    Quiet a (b.record t) := by
  refine h.trans ⟨⟨[t], ⟨rfl, ?_⟩, by simpa using ht⟩, rfl, rfl⟩
  cases t with
  | signal s => exact absurd rfl (hs s)
  | _ => rfl

theorem signal (h : Quiet a b) (s : Signal) : Quiet a (b.signal s) :=
  h.trans ⟨⟨[.signal s], ⟨rfl, rfl⟩, by simp [neutral, grantsStart]⟩, rfl, rfl⟩

theorem stopSession (h : Quiet a b) : Quiet a b.stopSession := h.update rfl rfl rfl rfl

theorem startTimeout (h : Quiet a b) (now : Int) (type : TimeoutType) (ms : Int) :
    Quiet a (b.startTimeout now type ms) := h.update rfl rfl rfl rfl

theorem stopTimeout (h : Quiet a b) (type : TimeoutType) : Quiet a (b.stopTimeout type) :=
  h.update rfl rfl rfl rfl

/-- A response that is not the start of the energy transfer; downgrading cannot make it one. -/
theorem respond {st : StateID} {request : RequestBody} {res : Response} (h : Quiet a b)
    (hr : (staged st request res).grantsStart = false) :
    Quiet a (b.respond st request res) := by
  have hd : (staged st request (b.downgraded res)).grantsStart = false := by
    unfold Context.downgraded
    split
    · unfold grantsStart
      split
      · next heq =>
        cases heq
        simp
      · rfl
    · exact hr
  refine h.trans ⟨⟨[.staged st request (b.downgraded res)], ⟨rfl, rfl⟩, ?_⟩, rfl, rfl⟩
  simp [neutral, hd]

end Quiet

/-! ## Handlers -/

section Handlers

variable (crypto : Crypto) (env : Env) {a c : Context} {code : ResponseCode} {s : State}
  {req : PowerDeliveryRequest}

/-- Only `PreCharge` answers a request that starts the energy transfer. -/
theorem grantsStart_of_ne {st : StateID} (h : st ≠ .PreCharge) (request : RequestBody)
    (res : Response) : (staged st request res).grantsStart = false := by
  cases st <;> first | rfl | exact absurd rfl h

theorem grantsStart_of_code {r : Response} (h : r.responseCode ≠ .OK) (st : StateID)
    (request : RequestBody) : (staged st request r).grantsStart = false := by
  unfold grantsStart
  split
  · next heq =>
    cases heq
    simp [h]
  · rfl

theorem grantsStart_of_not_start (h : req.chargeProgress ≠ .Start) (st : StateID) (res : Response) :
    (staged st (.powerDelivery req) res).grantsStart = false := by
  cases st <;> simp [grantsStart, h]

theorem ne_ok_of_failed (h : code.failed) : code ≠ .OK := by
  rintro rfl
  simp [ResponseCode.failed] at h

theorem downgraded_ne_ok (h : c.regime.downgrades) (res : Response) :
    (c.downgraded res).responseCode ≠ .OK := by
  unfold Context.downgraded
  by_cases hf : res.responseCode.failed
  · simpa [hf] using ne_ok_of_failed hf
  · have hd : (c.chargerStopIgnored || c.evse.emergencyShutdown) = true := h
    simp [hf, hd]

section Quiet

variable (h : Quiet a c)

include h

theorem quiet_respondAndTerminate (hc : code ≠ .OK) (st : StateID) (request : RequestBody) :
    Quiet a (respondAndTerminate st request code c) := by
  have hr : ∀ res : Response, res.responseCode = code → Quiet a (c.respond st request res) :=
    fun res hres => h.respond (grantsStart_of_code (hres ▸ hc) st request)
  cases request with
  | other => exact h.update rfl rfl rfl rfl
  | _ => exact (hr _ rfl).update rfl rfl rfl rfl

theorem quiet_outOfSequence (s : State) (request : RequestBody) :
    Quiet a (outOfSequence s request c).1 :=
  quiet_respondAndTerminate h (by decide) s.id request

theorem quiet_processPaymentSelection (option : PaymentOption) (services : List SelectedService) :
    Quiet a (processPaymentSelection option services c).1 := by
  have hr : ∀ code, Quiet a (c.respond .ServiceSelection (.paymentServiceSelection option services)
      ⟨.PaymentServiceSelectionRes, code, none, false⟩) := fun _ => h.respond rfl
  unfold processPaymentSelection
  dsimp only
  split
  · exact (hr _).stopSession
  · cases option with
    | Contract => exact (hr _).update rfl rfl rfl rfl
    | ExternalPayment => exact hr _

theorem quiet_processPaymentDetails (hs : s.id ≠ .PreCharge) (emaid : String) (certificate : Bytes)
    (subs : List Bytes) :
    Quiet a (processPaymentDetails crypto env s emaid certificate subs c).1 := by
  unfold processPaymentDetails
  dsimp only
  split
  · exact (h.respond (grantsStart_of_ne hs _ _)).stopSession
  · exact Quiet.respond (h.update rfl rfl rfl rfl) (grantsStart_of_ne hs _ _)

theorem quiet_identificationOnRequest (forwarded : Bool) (request : RequestBody) :
    Quiet a (identificationOnRequest crypto env forwarded request c).1 := by
  have hout := quiet_outOfSequence h (.identification forwarded)
  have hf : ∀ exi, Quiet a (forwardToBackend exi c).1 := by
    intro exi
    unfold forwardToBackend
    split
    · exact h.stopSession
    · exact h.record rfl (by simp)
  unfold identificationOnRequest
  split
  · exact hout _
  · split
    · exact quiet_processPaymentDetails crypto env h (by simp [State.id]) _ _ _
    · split
      · exact hf _
      · exact hout _
    · split
      · exact hf _
      · exact hout _
    · exact hout _

theorem quiet_respondRaw (raw : Bytes) : Quiet a (c.respondRaw raw) := by
  unfold Context.respondRaw
  split
  · exact h
  · exact (h.record (t := .stagedRaw raw) rfl (by simp)).update rfl rfl rfl rfl

theorem quiet_answerAuthorization (s : AuthorizationState) (request : RequestBody) :
    Quiet a (answerAuthorization s request c).1 := by
  have hr := h.respond (grantsStart_of_ne (show StateID.Authorization ≠ .PreCharge by decide)
    request (authorizationResponse s c.session.contractSelected))
  unfold answerAuthorization
  dsimp only
  split
  · exact hr.stopSession
  · split
    · exact hr.stopTimeout _
    · exact hr

theorem quiet_startAuthorization (s : AuthorizationState) :
    Quiet a (startAuthorization env s c).2 := by
  have hc : Quiet a (if c.session.contractSelected then
      if c.session.sessionResumed then c
      else c.record (.requireAuthPnc c.session.contractEmaid c.session.contractChainPem)
    else c.signal .REQUIRE_AUTH_EIM) := (h.ite (h.record rfl (by simp))).ite (h.signal _)
  exact (hc.startTimeout _ _ _).ite hc

theorem quiet_authorizationOnRequest (s : AuthorizationState) (challenge : Option GenChallenge)
    (exi : Bytes) : Quiet a (authorizationOnRequest crypto env s challenge exi c).1 := by
  unfold authorizationOnRequest
  split
  · split
    · exact (h.respond rfl).stopSession
    · split
      · exact (h.respond rfl).stopSession
      · exact quiet_answerAuthorization (quiet_startAuthorization env h s) _ _
  · exact quiet_answerAuthorization h _ _

theorem quiet_processChargeParameterDiscovery (hs : s.id ≠ .PreCharge)
    (req : ChargeParameterDiscoveryRequest) :
    Quiet a (processChargeParameterDiscovery s req c).1 := by
  unfold processChargeParameterDiscovery
  split
  · exact (h.respond (grantsStart_of_ne hs _ _)).stopSession
  · dsimp only [setSaSchedules]
    split
    · exact h.respond (grantsStart_of_ne hs _ _)
    · exact (h.respond (grantsStart_of_ne hs _ _)).update rfl rfl rfl rfl

theorem quiet_failPowerDelivery (s : State) (req : PowerDeliveryRequest) (isDc : Bool)
    (hc : code.failed) : Quiet a (failPowerDelivery s req isDc code c).1 :=
  (h.respond (grantsStart_of_code (ne_ok_of_failed hc) _ _)).stopSession

theorem quiet_markPowerDeliveryStarted : Quiet a (markPowerDeliveryStarted c) :=
  (h.signal .SETUP_FINISHED).update rfl rfl rfl rfl

theorem quiet_respondPowerDelivery (hs : s.id ≠ .PreCharge) (req : PowerDeliveryRequest)
    (isDc : Bool) (code : ResponseCode) : Quiet a (respondPowerDelivery s req isDc code c) :=
  h.respond (grantsStart_of_ne hs _ _)

theorem quiet_processAcPowerDelivery (hs : s.id ≠ .PreCharge) (req : PowerDeliveryRequest) :
    Quiet a (processAcPowerDelivery s req c).1 := by
  unfold processAcPowerDelivery
  split
  · have hc := quiet_markPowerDeliveryStarted h
    dsimp only
    split
    · next hco => exact quiet_failPowerDelivery hc s req false hco
    · exact quiet_respondPowerDelivery hc hs req false _
  · unfold renegotiate
    dsimp only
    split
    · exact quiet_failPowerDelivery h s req false rfl
    · split
      · next hco => exact quiet_failPowerDelivery h s req false hco
      · exact quiet_respondPowerDelivery h hs req false _
  · dsimp only
    split
    · next hco => exact quiet_failPowerDelivery h s req false hco
    · refine Quiet.signal ?_ .AC_OPEN_CONTACTOR
      exact (quiet_respondPowerDelivery h hs req false _).update rfl rfl rfl rfl

theorem quiet_acPowerDeliveryOnRequest (saved : Option PowerDeliveryRequest)
    (req : PowerDeliveryRequest) : Quiet a (acPowerDeliveryOnRequest env saved req c).1 := by
  unfold acPowerDeliveryOnRequest
  split
  · exact ((quiet_markPowerDeliveryStarted h).signal _).startTimeout _ _ _
  · exact quiet_processAcPowerDelivery h (by simp [State.id]) req

theorem quiet_acPowerDeliveryOnControl (saved : Option PowerDeliveryRequest)
    (event : ControlEvent) : Quiet a (acPowerDeliveryOnControl saved event c).1 := by
  unfold acPowerDeliveryOnControl
  split
  · next closed =>
    have hc : Quiet a { c with evse := { c.evse with acContactorClosed := closed } } :=
      h.update rfl rfl rfl rfl
    dsimp only
    split
    · next req =>
      have ht := hc.stopTimeout .CONTACTOR
      split
      · next hco => exact quiet_failPowerDelivery ht _ req false hco
      · exact quiet_respondPowerDelivery ht (by simp [State.id]) req false _
    · exact hc
  · exact h

theorem quiet_processCableCheck (initiated pending : Bool) :
    Quiet a (processCableCheck env initiated pending c).1 := by
  have hc : Quiet a (initiateCableCheck env initiated c) :=
    h.ite ((h.signal _).startTimeout _ _ _)
  have hr := hc.respond (grantsStart_of_ne (show StateID.CableCheck ≠ .PreCharge by decide)
    .cableCheck (cableCheckResponse (initiateCableCheck env initiated c)))
  unfold processCableCheck
  dsimp only
  split
  · exact (hr.stopTimeout _).stopSession
  · split
    · exact hr.stopTimeout _
    · exact hr

theorem quiet_processCurrentDemand : Quiet a (processCurrentDemand c).1 := by
  have hc : Quiet a (startChargeLoop c) :=
    h.ite ((h.signal .CHARGE_LOOP_STARTED).update rfl rfl rfl rfl)
  exact hc.respond rfl

theorem quiet_meteringReceiptOnRequest (dc : Bool) (received : SessionId) (exi : Bytes) :
    Quiet a (meteringReceiptOnRequest crypto dc received exi c).1 := by
  unfold meteringReceiptOnRequest
  split
  · exact (h.respond rfl).stopSession
  · split <;> dsimp only
    · exact (h.respond rfl).stopSession
    · exact Quiet.respond (h.update rfl rfl rfl rfl) rfl

theorem quiet_processSessionStop (hs : s.id ≠ .PreCharge) (charging : ChargingSession) :
    Quiet a (processSessionStop s charging c).1 := by
  have hr := h.respond (grantsStart_of_ne hs (.sessionStop charging)
    ⟨.SessionStopRes, .OK, none, false⟩)
  cases charging with
  | Terminate => exact hr.update rfl rfl rfl rfl
  | Pause => exact hr.update rfl rfl rfl rfl

end Quiet

/-! ## DC power delivery -/

/-- The states between the cable check and the energy transfer. -/
def State.beforeStart : State → Bool
  | .preChargeStart | .preCharge => true
  | _ => false

/-- The state after an event. -/
def Next.state : Next → State
  | .stay s | .goto s => s

/-- The three outcomes of `process_dc_power_delivery`. -/
inductive DcPowerDelivery (s : State) (req : PowerDeliveryRequest) (c : Context) : Outcome → Prop
  /-- The request is refused. -/
  | refused {o : Outcome} (h : Quiet c o.1) (hs : o.2 = .stay s) : DcPowerDelivery s req c o
  /-- The energy transfer starts, unless the response is failed. -/
  | started {c' : Context} {res : Response} (hreq : req.chargeProgress = .Start)
      (hpause : c.config.noEnergyPause.refusesStart = false)
      (h : Extends c c' [.staged s.id (.powerDelivery req) res, .signal .SETUP_FINISHED])
      (hcode : c.regime.downgrades = true → res.responseCode ≠ .OK)
      (hdone : c'.evse.cableCheckDone = c.evse.cableCheckDone) (hregime : c'.regime = c.regime) :
      DcPowerDelivery s req c (c', .goto .dcChargeLoop)
  /-- The energy transfer ends, or is negotiated again. -/
  | ended {o : Outcome} {b : Context} (h : Quiet c b) (h' : Quiet b.invalidateCableCheck o.1)
      (hs : o.2.state.beforeStart = false) : DcPowerDelivery s req c o

theorem dcPowerDelivery_renegotiate (s : State) (hreq : req.chargeProgress = .Renegotiate) :
    DcPowerDelivery s req c (renegotiate s req true c) := by
  have h := Quiet.refl c
  have hn := grantsStart_of_not_start (show req.chargeProgress ≠ .Start by simp [hreq]) s.id
  unfold renegotiate
  dsimp only
  split
  · exact .refused (quiet_failPowerDelivery h s req true rfl) rfl
  · split
    · next hc => exact .refused (quiet_failPowerDelivery h s req true hc) rfl
    · exact .ended (((h.respond (hn _)).signal .CHARGE_LOOP_FINISHED).signal
        .DC_RENEGOTIATION_STARTED) (Quiet.refl _) rfl

theorem dcPowerDelivery (s : State) (req : PowerDeliveryRequest) (c : Context) :
    DcPowerDelivery s req c (processDcPowerDelivery s req c) := by
  have h := Quiet.refl c
  unfold processDcPowerDelivery
  split
  · next hreq =>
    split
    · have hr := grantsStart_of_code (r := ⟨.PowerDeliveryRes, .FAILED, none, true⟩) (by simp)
        s.id (.powerDelivery req)
      exact .refused ((h.respond hr).signal _).stopSession rfl
    · next hp =>
      dsimp only
      split
      · next hco =>
        exact .refused (quiet_failPowerDelivery (quiet_markPowerDeliveryStarted h) s req true hco)
          rfl
      · exact .started hreq (by simpa using hp) ⟨rfl, rfl⟩ (downgraded_ne_ok · _) rfl rfl
  · next hreq => exact dcPowerDelivery_renegotiate s hreq
  · next hreq =>
    have hn := grantsStart_of_not_start (show req.chargeProgress ≠ .Start by simp [hreq]) s.id
    have hc := h.signal .CHARGE_LOOP_FINISHED
    dsimp only
    split
    · next hco => exact .refused (quiet_failPowerDelivery hc s req true hco) rfl
    · refine .ended ?_ ((Quiet.refl (Context.invalidateCableCheck _)).signal .DC_OPEN_CONTACTOR) rfl
      exact Quiet.update (hc.respond (hn _)) rfl rfl rfl rfl

/-! ## Dispatch -/

/-- `PowerDeliveryReq` of DC. -/
def dcPowerDeliveryReq (s : State) (request : RequestBody) : Option PowerDeliveryRequest :=
  match s, request with
  | .preCharge, .powerDelivery req | .dcChargeLoop, .powerDelivery req => some req
  | _, _ => none

theorem onRequest_of_dcPowerDeliveryReq {request : Request}
    (h : dcPowerDeliveryReq s request.body = some req) :
    onRequest crypto env s request c = processDcPowerDelivery s req c := by
  unfold dcPowerDeliveryReq at h
  split at h
  · next hb =>
    cases h
    simp only [onRequest, hb]
  · next hb =>
    cases h
    simp only [onRequest, hb]
  · cases h

/-- **Every request but `PowerDeliveryReq` of DC is quiet.** -/
theorem quiet_onRequest (s : State) (request : Request)
    (hreq : dcPowerDeliveryReq s request.body = none) :
    Quiet c (onRequest crypto env s request c).1 := by
  have h := Quiet.refl c
  unfold onRequest
  split
  case h_1 =>
    unfold sessionSetupOnRequest
    split
    · exact Quiet.respond (h.update rfl rfl rfl rfl) rfl
    · exact Quiet.respond (h.update rfl rfl rfl rfl) rfl
  case h_3 => exact (h.respond rfl).stopSession.ite (h.respond rfl)
  case h_4 => exact quiet_processPaymentSelection h _ _
  case h_5 => exact quiet_identificationOnRequest crypto env h _ _
  case h_6 => exact quiet_processPaymentDetails crypto env h (by simp [State.id]) _ _ _
  case h_7 => exact quiet_authorizationOnRequest crypto env h _ _ _
  case h_8 | h_19 => exact quiet_processChargeParameterDiscovery h (by simp [State.id]) _
  case h_9 => exact quiet_acPowerDeliveryOnRequest env h _ _
  case h_10 => exact quiet_meteringReceiptOnRequest crypto h _ _ _
  case h_11 | h_22 => exact quiet_processSessionStop h (by simp [State.id]) _
  case h_12 =>
    unfold cableCheckOnRequest
    split
    · exact quiet_processCableCheck env h _ _
    · exact (h.stopTimeout _).startTimeout _ _ _
  case h_13 => exact (h.signal _).respond rfl
  case h_15 _ _ hb | h_17 _ _ hb => simp [dcPowerDeliveryReq, hb] at hreq
  case h_16 => exact quiet_processCurrentDemand h
  case h_18 =>
    unfold acceptWeldingDetection
    split
    · exact (h.stopTimeout _).startTimeout _ _ _
    · exact h.respond rfl
  case h_20 =>
    unfold acceptSessionStop
    split
    · exact (h.stopTimeout _).startTimeout _ _ _
    · exact quiet_processSessionStop h (by simp [State.id]) _
  case h_25 => exact quiet_processAcPowerDelivery h (by simp [State.id]) _
  case h_26 => exact quiet_outOfSequence h _ _
  -- a response and nothing else
  all_goals exact h.respond rfl

theorem quiet_cableCheckOnControl (initiated pending : Bool) (event : ControlEvent) :
    Quiet (setCableCheckResult event c) (cableCheckOnControl env initiated pending event c).1 := by
  unfold cableCheckOnControl
  dsimp only
  split
  · exact quiet_processCableCheck env ((Quiet.refl _).stopTimeout _) initiated false
  · exact Quiet.refl _

/-- **Every control event but the result of a cable check is quiet.** -/
theorem quiet_onControlMessage (s : State) (event : ControlEvent)
    (hev : s.id = .CableCheck → event ≠ .cableCheckFinished true) :
    Quiet c (onControlMessage crypto env s event c).1 := by
  have h := Quiet.refl c
  cases s with
  | identification forwarded =>
    simp only [onControlMessage, identificationOnControl]
    repeat' split
    · exact h.stopSession
    · exact (quiet_respondRaw h _).update rfl rfl rfl rfl
    · exact quiet_respondRaw h _
    · exact h
  | acPowerDelivery saved => exact quiet_acPowerDeliveryOnControl h saved event
  | cableCheck initiated pending =>
    have hset : Quiet c (setCableCheckResult event c) := by
      unfold setCableCheckResult
      split
      · exact absurd rfl (hev rfl)
      · exact h.update rfl rfl rfl rfl
      · exact h
    exact hset.trans (quiet_cableCheckOnControl env initiated pending event)
  | postCharge weld stop =>
    have ht := h.stopTimeout .CPSTATE
    simp only [onControlMessage, postChargeOnControl]
    repeat' split
    · exact ht.respond rfl
    · exact quiet_processSessionStop ht (by simp [State.id]) _
    all_goals exact h
  | _ => exact h

/-- **Every timeout is quiet.** -/
theorem quiet_onTimeoutEvent (s : State) (timeout : TimeoutType) :
    Quiet c (onTimeoutEvent s timeout c).1 := by
  have h := Quiet.refl c
  simp only [onTimeoutEvent, acPowerDeliveryOnTimeout, cableCheckOnTimeout, postChargeOnTimeout]
  repeat' split
  all_goals first | exact h | exact h.stopSession | exact (h.respond rfl).stopSession

end Handlers

/-! ## Steps of the engine -/

@[simp] theorem Engine.feed_state (e : Engine) (o : Outcome) : (e.feed o).state = o.2.state := by
  unfold feed
  split <;> simp [Next.state, *]

/-- From `c` to `c'` nothing is recorded, and neither the session parameters nor the pause context
nor the result of the cable check changes. -/
structure Steady (c c' : Context) : Prop where
  log : c'.log = c.log
  path : c'.powerPath = c.powerPath
  session : c'.session = c.session
  pauseCtx : c'.pauseCtx = c.pauseCtx
  sessionPaused : c'.sessionPaused = c.sessionPaused
  done : c'.evse.cableCheckDone = c.evse.cableCheckDone

theorem Steady.extends {c c' : Context} (h : Steady c c') : ∃ new, Extends c c' new :=
  ⟨[], h.log, h.path⟩

theorem steady_feed (e : Engine) (o : Outcome) : Steady o.1 (e.feed o).ctx := by
  unfold feed
  split
  · exact ⟨rfl, rfl, rfl, rfl, rfl, rfl⟩
  · unfold leave
    split <;> exact ⟨rfl, rfl, rfl, rfl, rfl, rfl⟩

theorem regime_feed (e : Engine) (o : Outcome) : (e.feed o).ctx.regime = o.1.regime := by
  unfold feed
  split
  · rfl
  · unfold leave
    split <;> rfl

theorem quiet_feed (e : Engine) (o : Outcome) : Quiet o.1 (e.feed o).ctx :=
  have h := steady_feed e o
  (Quiet.refl o.1).update h.log h.path h.done (regime_feed e o)

variable (crypto : Crypto)

/-- A control event is recorded, steadily changes the context and may reach the state machine. -/
theorem onControlEvent_cases (env : Env) (event : ControlEvent) (e : Engine) :
    ∃ e' : Engine, (e.onControlEvent crypto env event = e' ∨
        e.onControlEvent crypto env event = e'.feedControl crypto env event) ∧
      e'.state = e.state ∧ Steady (e.ctx.record (.received event)) e'.ctx ∧
      e'.ctx.regime = e.ctx.regime.onControl event := by
  cases event with
  | stopCharging stop =>
    refine ⟨_, .inl rfl, rfl, ?_⟩
    cases stop <;> simp only [onControlEvent, onStopCharging, Bool.false_eq_true, if_true, if_false]
    all_goals split_ifs <;> exact ⟨⟨rfl, rfl, rfl, rfl, rfl, rfl⟩, rfl⟩
  | acTransferLimits power =>
    refine ⟨_, .inl rfl, rfl, ?_⟩
    dsimp only [onControlEvent, onAcTransferLimits]
    split_ifs <;> exact ⟨⟨rfl, rfl, rfl, rfl, rfl, rfl⟩, rfl⟩
  | physicalValues voltage =>
    refine ⟨_, .inl rfl, rfl, ?_⟩
    dsimp only [onControlEvent, applyPhysicalValues]
    repeat' split
    all_goals exact ⟨⟨rfl, rfl, rfl, rfl, rfl, rfl⟩, rfl⟩
  | evseError code =>
    refine ⟨_, .inl rfl, rfl, ?_⟩
    dsimp only [onControlEvent, onEvseError]
    split_ifs with hemergency
    · obtain ⟨rfl, -⟩ := hemergency
      exact ⟨⟨rfl, rfl, rfl, rfl, rfl, rfl⟩, rfl⟩
    · refine ⟨⟨rfl, rfl, rfl, rfl, rfl, rfl⟩, ?_⟩
      cases code with
      | EmergencyShutdown =>
        have hset : e.ctx.evse.emergencyShutdown = true := by
          simpa [Context.record] using hemergency
        exact congrArg (Regime.mk _ _) hset
      | _ => rfl
  | cpStateChanged cp =>
    refine ⟨_, .inr rfl, rfl, ?_⟩
    dsimp only [onCpStateChanged]
    split_ifs <;> exact ⟨⟨rfl, rfl, rfl, rfl, rfl, rfl⟩, rfl⟩
  | pauseCharging pause =>
    cases pause with
    | true => exact ⟨_, .inl rfl, rfl, ⟨rfl, rfl, rfl, rfl, rfl, rfl⟩, rfl⟩
    | false => exact ⟨_, .inr rfl, rfl, ⟨rfl, rfl, rfl, rfl, rfl, rfl⟩, rfl⟩
  | updatePowersupplyLimits | noEnergyPause | meterInfo | updateAcMaxCurrent | dcTransferLimits
  | updateIsolationStatus => exact ⟨_, .inl rfl, rfl, ⟨rfl, rfl, rfl, rfl, rfl, rfl⟩, rfl⟩
  | _ => exact ⟨_, .inr rfl, rfl, ⟨rfl, rfl, rfl, rfl, rfl, rfl⟩, rfl⟩

theorem onTimeout_cases (timeout : TimeoutType) (e : Engine) :
    (Steady e.ctx (e.onTimeout timeout).ctx ∧ (e.onTimeout timeout).state = e.state ∧
        ((e.onTimeout timeout).ctx.regime = e.ctx.regime ∨ timeout = .STOP_CHARGING ∧
          (e.onTimeout timeout).ctx.regime = { e.ctx.regime with stopIgnored := true })) ∨
      e.onTimeout timeout = e.feed (onTimeoutEvent e.state timeout e.ctx) := by
  cases timeout with
  | SEQUENCE => exact .inl ⟨⟨rfl, rfl, rfl, rfl, rfl, rfl⟩, rfl, .inl rfl⟩
  | EMERGENCY_SHUTDOWN =>
    left
    dsimp only [onTimeout]
    split_ifs <;> exact ⟨⟨rfl, rfl, rfl, rfl, rfl, rfl⟩, rfl, .inl rfl⟩
  | STOP_CHARGING =>
    left
    dsimp only [onTimeout]
    split_ifs
    · exact ⟨⟨rfl, rfl, rfl, rfl, rfl, rfl⟩, rfl, .inl rfl⟩
    · exact ⟨⟨rfl, rfl, rfl, rfl, rfl, rfl⟩, rfl, .inr ⟨rfl, rfl⟩⟩
  | _ => exact .inr rfl

/-! ### The power path follows the history -/

theorem Quiet.extends {c c' : Context} (h : Quiet c c') : ∃ new, Extends c c' new :=
  h.added.imp fun _ hn => hn.1

theorem extends_trans {a b c : Context} (h : ∃ new, Extends a b new) (h' : ∃ new, Extends b c new) :
    ∃ new, Extends a c new := by
  obtain ⟨new, h⟩ := h
  obtain ⟨new', h'⟩ := h'
  exact ⟨new' ++ new, h.trans h'⟩

theorem extends_onRequest (env : Env) (s : State) (request : Request)
    (c : Context) : ∃ new, Extends c (onRequest crypto env s request c).1 new := by
  cases hreq : dcPowerDeliveryReq s request.body with
  | none => exact (quiet_onRequest crypto env s request hreq).extends
  | some req =>
    rw [onRequest_of_dcPowerDeliveryReq crypto env hreq]
    have hca := dcPowerDelivery s req c
    generalize processDcPowerDelivery s req c = o at hca
    cases hca with
    | refused h => exact h.extends
    | started _ _ h => exact ⟨_, h⟩
    | @ended o b h h' =>
      have hinv : Extends b b.invalidateCableCheck [.cableCheckInvalidated] := ⟨rfl, rfl⟩
      exact extends_trans h.extends (extends_trans ⟨_, hinv⟩ h'.extends)

theorem extends_onControlMessage (env : Env) (s : State) (event : ControlEvent)
    (c : Context) : ∃ new, Extends c (onControlMessage crypto env s event c).1 new := by
  cases s with
  | cableCheck initiated pending =>
    have hset : ∃ new, Extends c (setCableCheckResult event c) new := by
      refine ⟨[], ?_⟩
      unfold setCableCheckResult
      split <;> exact ⟨rfl, rfl⟩
    exact extends_trans hset (quiet_cableCheckOnControl env initiated pending event).extends
  | _ => exact (quiet_onControlMessage crypto env _ event (by simp [State.id])).extends

/-- **Every step of the engine extends the history, and the power path follows it.** -/
theorem extends_step (e : Engine) (i : Env × Input) :
    ∃ new, Extends e.ctx (e.step crypto i).ctx new := by
  obtain ⟨env, i⟩ := i
  have hf : ∀ (e : Engine) (o : Outcome), ∃ new, Extends o.1 (e.feed o).ctx new := fun e o =>
    (steady_feed e o).extends
  cases i with
  | packet request =>
    simp only [step, onPacket]
    split
    · exact (quiet_respondAndTerminate (.refl e.ctx) (by decide) _ _).extends
    · exact extends_trans (extends_onRequest crypto env e.state request e.ctx) (hf e _)
  | control event =>
    have hrec : ∃ new, Extends e.ctx (e.ctx.record (.received event)) new :=
      ⟨[.received event], rfl, rfl⟩
    simp only [step]
    obtain ⟨e', h, -, hq, -⟩ := onControlEvent_cases crypto env event e
    have hc := extends_trans hrec hq.extends
    rcases h with h | h
    · rwa [h]
    · rw [h]
      exact extends_trans hc (extends_trans
        (extends_onControlMessage crypto env e'.state event e'.ctx) (hf e' _))
  | timeout type =>
    simp only [step]
    rcases onTimeout_cases type e with h | h
    · exact h.1.extends
    · rw [h]
      exact extends_trans (quiet_onTimeoutEvent e.state type).extends (hf e _)
  | takeOutgoing => exact ⟨[], rfl, rfl⟩

end EverestCore.Iso15118.D2
