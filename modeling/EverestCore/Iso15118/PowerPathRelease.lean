import EverestCore.Iso15118.D2.IsolationTest
import EverestCore.Iso15118.Session

/-!
# The end of a session releases the power path

When a session ends, `take_teardown_signals` infers what is still closed from two flags that follow
the signals of the engine. For the AC contactor and for the charge loop this is exact. The DC
contactor has no close signal: it closes with `PowerDelivery(Start)`, and the teardown opens it only
when the charge loop runs and no AC contactor is known to be closed. So it stays closed when the
session ends

* between the response to `PowerDeliveryReq(Start)` and the first `CurrentDemandReq`,
* by a `PowerDeliveryReq(Stop)` that is refused after `CHARGE_LOOP_FINISHED` was signalled,
* after a renegotiation, or with an AC contactor still latched from before.

Results:
* **`session_end_releases_power_path`**: the AC contactor and the charge loop are released by every
  end of a session, and the DC contactor exactly when the charge loop ran, or it was opened before.
* `end_before_charge_loop_keeps_dc_closed`: a session that does not open the DC contactor.
-/

namespace EverestCore.Iso15118

open D2 EverestCore.Lib.Machine EverestCore.Lib.Log Session PowerPath

/-! ## The property -/

/-- The given signal. -/
def isSignal (s : Signal) (t : Trace) : Bool := t = .signal s

/-- A positive answer to `PowerDeliveryReq(Start)` of DC. -/
def startsDc : Trace → Bool
  | .staged _ (.powerDelivery req) res =>
    req.chargeProgress = .Start && res.type = .PowerDeliveryRes && res.responseCode = .OK &&
      res.dcEvseStatus
  | _ => false

variable (log : List Trace)

/-- Every closed AC contactor was opened again. -/
def AcReleased : Prop :=
  FollowedBy (isSignal .AC_CLOSE_CONTACTOR) (isSignal .AC_OPEN_CONTACTOR) log

/-- Every charge loop was finished. -/
def LoopFinished : Prop :=
  FollowedBy (isSignal .CHARGE_LOOP_STARTED) (isSignal .CHARGE_LOOP_FINISHED) log

/-- Every DC energy transfer was followed by an opening of the DC contactor. -/
def DcReleased : Prop :=
  FollowedBy startsDc (isSignal .DC_OPEN_CONTACTOR) log

instance : Decidable (AcReleased log) := by
  unfold AcReleased
  infer_instance

instance : Decidable (LoopFinished log) := by
  unfold LoopFinished
  infer_instance

instance : Decidable (DcReleased log) := by
  unfold DcReleased
  infer_instance

/-- The power path that a history leaves behind. -/
def pathAfter : PowerPath := after {} log

/-- The entries of the end of a session, newest first. -/
def teardown (dlink : Signal) (before : List Trace) : List Trace :=
  .signal dlink :: ((pathAfter before).teardownSignals.map Trace.signal).reverse

/-! ## The power path and the history -/

/-- A flag that `on` sets and `off` clears says whether the last `on` was followed by an `off`. -/
theorem followedBy_iff_flag {on off : Signal} {flag : PowerPath → Bool} (hne : on ≠ off)
    (h0 : flag {} = false) (h : ∀ p s, flag (p.observe s) =
      if s = on then true else if s = off then false else flag p) (log : List Trace) :
    FollowedBy (isSignal on) (isSignal off) log ↔ flag (pathAfter log) = false := by
  induction log with
  | nil => simpa [pathAfter, after] using h0
  | cons t log ih =>
    rw [followedBy_cons, ih]
    cases t with
    | signal s =>
      have hobs : pathAfter (.signal s :: log) = (pathAfter log).observe s := rfl
      rw [hobs, h]
      by_cases hon : s = on
      · simp [isSignal, hon, hne]
      · by_cases hoff : s = off
        · simp [isSignal, hoff, hne.symm]
        · simp [isSignal, hon, hoff]
    | _ => simp [isSignal, pathAfter, after]

theorem acReleased_iff (log : List Trace) :
    AcReleased log ↔ (pathAfter log).acContactorClosed = false :=
  followedBy_iff_flag (by decide) rfl (fun p s => by cases s <;> rfl) log

theorem loopFinished_iff (log : List Trace) :
    LoopFinished log ↔ (pathAfter log).chargeLoopRunning = false :=
  followedBy_iff_flag (by decide) rfl (fun p s => by cases s <;> rfl) log

/-! ## The teardown -/

/-- The signals of the link layer. -/
def IsDlink (s : Signal) : Prop := s = .DLINK_TERMINATE ∨ s = .DLINK_ERROR ∨ s = .DLINK_PAUSE

variable (s : Session)

theorem isDlink_teardownSignal : IsDlink s.teardownSignal := by
  unfold teardownSignal
  split_ifs <;> simp [IsDlink]

section Teardown

variable {dlink : Signal}

/-- The teardown leaves nothing running and nothing closed that the power path knows of. -/
theorem pathAfter_teardown (h : IsDlink dlink) (before : List Trace) :
    pathAfter (teardown dlink before ++ before) = {} := by
  have hp : pathAfter (teardown dlink before ++ before) =
      (pathAfter before).after (teardown dlink before) := after_append _ _ _
  rw [hp]
  unfold teardown
  generalize pathAfter before = p
  obtain ⟨loop, ac⟩ := p
  rcases h with rfl | rfl | rfl <;> cases loop <;> cases ac <;> rfl

/-- The teardown opens the DC contactor for a running charge loop without a closed AC contactor. -/
theorem dcReleased_teardown (h : IsDlink dlink) (before : List Trace) :
    DcReleased (teardown dlink before ++ before) ↔
      DcReleased before ∨ (¬ LoopFinished before ∧ AcReleased before) := by
  rw [loopFinished_iff, acReleased_iff]
  unfold DcReleased teardown
  generalize pathAfter before = p
  obtain ⟨loop, ac⟩ := p
  rcases h with rfl | rfl | rfl <;> cases loop <;> cases ac <;>
    simp [teardownSignals, followedBy_cons, isSignal, startsDc]

end Teardown

/-! ## The invariant -/

/-- The power path follows the history until the session ends. Then the history is the one just
before the end with its teardown, and nothing is added to it. -/
structure PathInv (s : Session) : Prop where
  running : s.finishedReported = false → s.engine.ctx.powerPath = pathAfter s.log
  ended : s.finishedReported = true → s.connected = false ∧
    ∃ dlink before, IsDlink dlink ∧ s.endedWith = some before ∧
      s.log = teardown dlink before ++ before

/-- From `s` to `s'` the history of the engine was extended, and the session did not end. -/
structure Progress (s s' : Session) : Prop where
  extended : ∃ new, Extends s.engine.ctx s'.engine.ctx new
  finished : s'.finishedReported = s.finishedReported

namespace Progress

variable {s s' s'' : Session}

theorem refl (s : Session) : Progress s s := ⟨⟨[], rfl, rfl⟩, rfl⟩

theorem trans (h : Progress s s') (h' : Progress s' s'') : Progress s s'' :=
  ⟨extends_trans h.extended h'.extended, h'.finished.trans h.finished⟩

theorem of_engine_eq (h : s'.engine = s.engine) (hf : s'.finishedReported = s.finishedReported) :
    Progress s s' := by
  refine ⟨⟨[], ?_⟩, hf⟩
  rw [h]
  exact ⟨rfl, rfl⟩

theorem closeConnection (s : Session) : Progress s s.closeConnection := by
  unfold Session.closeConnection
  split
  · exact of_engine_eq rfl rfl
  · exact refl s

theorem readPacket (r : ReadResult) (s : Session) : Progress s (s.readPacket r) := by
  unfold Session.readPacket
  split
  · cases r with
    | connectionClosed => exact closeConnection s
    | _ => exact of_engine_eq rfl rfl
  · exact refl s

theorem foldl {α : Type} {f : Session → α → Session} (h : ∀ s a, Progress s (f s a)) (l : List α)
    (s : Session) : Progress s (l.foldl f s) := by
  induction l generalizing s with
  | nil => exact refl s
  | cons a l ih => exact (h s a).trans (ih (f s a))

theorem drainControlEvents (crypto : Crypto) (env : Env) (s : Session) :
    Progress s (s.drainControlEvents crypto env) := by
  have hst : ∀ s event, Progress s (handleControlEvent crypto env s event) := by
    intro s event
    have h := extends_step crypto s.engine (env, .control event)
    cases event <;> exact ⟨h, rfl⟩
  have hcl : Progress s { s with controlEventQueue := [] } := of_engine_eq rfl rfl
  exact hcl.trans (foldl hst s.controlEventQueue _)

theorem checkTimeouts (crypto : Crypto) (env : Env) (s : Session) :
    Progress s (s.checkTimeouts env) := by
  have hst : ∀ s timeout, Progress s (handleTimeout s timeout) := by
    intro s timeout
    obtain ⟨new, h⟩ := extends_step crypto s.engine (env, .timeout timeout)
    exact ⟨⟨new, h.log, h.path⟩, rfl⟩
  exact foldl hst _ s

theorem dispatchPacket (crypto : Crypto) (env : Env) (s : Session) :
    Progress s (s.dispatchPacket crypto env) := by
  unfold Session.dispatchPacket
  split
  · exact refl s
  · next packet _ =>
    split
    · exact of_engine_eq rfl rfl
    · split
      · exact of_engine_eq rfl rfl
      · exact of_engine_eq rfl rfl
      · obtain ⟨new, h⟩ := extends_step crypto s.engine (env, .packet packet.request)
        exact ⟨⟨new, h.log, h.path⟩, rfl⟩

theorem responseSent (now : Int) (type : Option ResponseType) (s : Session) :
    Progress s (s.responseSent now type) := by
  unfold Session.responseSent
  dsimp only
  split <;> exact ⟨⟨[.sent], rfl, rfl⟩, rfl⟩

theorem sendDueResponse (now : Int) (writeOk : Bool) (s : Session) :
    Progress s (s.sendDueResponse now writeOk).1 := by
  unfold Session.sendDueResponse
  split
  · split
    · exact of_engine_eq rfl rfl
    · have ht : Progress s (({ s with responseSendAfter := none }).updateCtx fun c =>
          { c with responseAvailable := false }) := ⟨⟨[], rfl, rfl⟩, rfl⟩
      split
      · exact ht.trans (responseSent now _ _)
      · exact ht
  · exact of_engine_eq rfl rfl

end Progress

/-! ### Steps -/

theorem foldl_signal (signals : List Signal) (s : Session) :
    signals.foldl (fun s sig => s.signal sig) s =
      s.updateCtx fun c => { c with log := (signals.map Trace.signal).reverse ++ c.log } := by
  induction signals generalizing s with
  | nil => rfl
  | cons sig signals ih =>
    rw [List.foldl_cons, ih, List.map_cons, List.reverse_cons]
    simp [signal, updateCtx, Context.record]

theorem openPowerPath_log : s.openPowerPath.log =
    (s.engine.ctx.powerPath.teardownSignals.map Trace.signal).reverse ++ s.log := by
  unfold openPowerPath
  rw [foldl_signal]
  rfl

@[simp] theorem openPowerPath_connected : s.openPowerPath.connected = s.connected := by
  unfold openPowerPath
  rw [foldl_signal]
  rfl

@[simp] theorem openPowerPath_finishedReported :
    s.openPowerPath.finishedReported = s.finishedReported := by
  unfold openPowerPath
  rw [foldl_signal]
  rfl

@[simp] theorem openPowerPath_endedWith : s.openPowerPath.endedWith = s.endedWith := by
  unfold openPowerPath
  rw [foldl_signal]
  rfl

@[simp] theorem closeConnection_connected : s.closeConnection.connected = false := by
  unfold Session.closeConnection
  split
  · rfl
  · next h => simpa using h

@[simp] theorem closeConnection_engine : s.closeConnection.engine = s.engine := by
  unfold Session.closeConnection
  split <;> rfl

@[simp] theorem closeConnection_endedWith : s.closeConnection.endedWith = s.endedWith := by
  unfold Session.closeConnection
  split <;> rfl

@[simp] theorem closeConnection_finishedReported :
    s.closeConnection.finishedReported = s.finishedReported :=
  (Progress.closeConnection s).finished

namespace PathInv

variable {s s' : Session}

section

variable (h : PathInv s)

include h

theorem progress (hf : s.finishedReported = false) (hp : Progress s s') : PathInv s' := by
  refine ⟨fun _ => ?_, ?_⟩
  · obtain ⟨new, hnew⟩ := hp.extended
    have hlog : s'.log = new ++ s.log := hnew.log
    rw [hnew.path, h.running hf, hlog]
    exact (after_append _ _ _).symm
  · intro hf'
    rw [hp.finished, hf] at hf'
    cases hf'

/-- A session ends once, and by its end the power path is released. -/
theorem release {dlink : Session → Signal} (hd : ∀ s, IsDlink (dlink s)) :
    PathInv (s.release dlink) := by
  unfold Session.release
  split
  · exact h
  · next hf =>
    have hf : s.finishedReported = false := by simpa using hf
    let s₀ := { s with finishedReported := true, endedWith := some s.log }
    let s₁ := s₀.closeConnection.openPowerPath
    have hlog : s₁.log = ((pathAfter s.log).teardownSignals.map Trace.signal).reverse ++ s.log := by
      rw [openPowerPath_log, log, closeConnection_engine, h.running hf]
      rfl
    have hfin : s₁.finishedReported := by simp [s₁, s₀]
    have hcon : s₁.connected = false := by simp [s₁]
    have hend : s₁.endedWith = some s.log := by simp [s₁, s₀]
    refine ⟨fun hf' => ?_, fun _ => ⟨hcon, dlink s₁, s.log, hd s₁, hend, ?_⟩⟩
    · exact absurd (hfin.symm.trans hf') (by simp)
    · have hsig : (s₁.signal (dlink s₁)).log = .signal (dlink s₁) :: s₁.log := rfl
      exact hsig.trans (by rw [hlog]; rfl)

theorem finishSession : PathInv s.finishSession := h.release isDlink_teardownSignal

theorem close : PathInv s.close := by
  have h' : PathInv { s with driverStopped := true } :=
    ⟨fun hf => h.running hf, fun hf => h.ended hf⟩
  exact h'.release fun _ => .inl rfl

theorem endSession (hf : s.finishedReported = false) (now : Int) : PathInv (s.endSession now) := by
  have hset : ∀ s' : Session, s'.engine = s.engine → s'.finishedReported = s.finishedReported →
      PathInv s' := fun _ he hf' => h.progress hf (.of_engine_eq he hf')
  unfold Session.endSession
  dsimp only
  split
  · split
    · -- an error: the connection is closed now, the end is signalled after a grace period
      split
      · exact (hset _ (by simp) (by simp)).finishSession
      · exact hset _ (by simp) (by simp)
    · split
      · exact h.finishSession
      · -- a normal end: the EV may close first
        split
        · exact hset _ rfl rfl
        · split
          · exact hset _ rfl rfl
          · split
            · exact hset _ rfl rfl
            · refine finishSession (hset _ ?_ ?_) <;> rfl
  · exact h

theorem poll (crypto : Crypto) (p : PollEnv) : PathInv (s.poll crypto p) := by
  cases hf : s.finishedReported with
  | true =>
    -- an ended session is not connected, and its poll does nothing
    have hcon := (h.ended hf).1
    have hr : s.readPacket p.read = s := by simp [Session.readPacket, hcon]
    have hfin : s.finishSession = s := by simp [Session.finishSession, Session.release, hf]
    simp only [Session.poll, hr, hcon, hfin]
    simpa using h
  | false =>
    have hr := Progress.readPacket p.read s
    unfold Session.poll
    dsimp only
    split
    · split
      · exact (h.progress hf hr).finishSession
      · exact h.progress hf hr
    · have hall := (((hr.trans (.drainControlEvents crypto p.env _)).trans
        (.checkTimeouts crypto p.env _)).trans (.dispatchPacket crypto p.env _)).trans
        (.sendDueResponse p.env.now p.writeOk _)
      split
      · exact (h.progress hf hall).endSession (hall.finished.trans hf) _
      · exact h.progress hf hall

/-- **Every call and every event keeps the power path and the history together.** -/
theorem step (crypto : Crypto) (op : Session.Op) : PathInv (s.step crypto op) := by
  have hset : ∀ s' : Session, s'.engine = s.engine → s'.finishedReported = s.finishedReported →
      s'.endedWith = s.endedWith → (s.connected = false → s'.connected = false) → PathInv s' := by
    intro s' he hf hb hc
    refine ⟨fun hr => ?_, fun hr => ?_⟩
    · rw [hf] at hr
      rw [log, he]
      exact h.running hr
    · rw [hf] at hr
      obtain ⟨hcon, hend⟩ := h.ended hr
      rw [log, he, hb]
      exact ⟨hc hcon, hend⟩
  cases op with
  | poll p => exact h.poll crypto p
  | pushControlEvent | newDataEvent => exact hset _ rfl rfl rfl id
  | close => exact h.close
  | requestShutdown =>
    simp only [Session.step, Session.requestShutdown]
    split
    · exact hset _ rfl rfl rfl id
    · exact h.close
  | closedEvent => exact hset _ rfl rfl rfl fun _ => rfl

end

end PathInv

/-! ## Runs -/

/-- The session `s₀` after its handover to ISO 15118-2 and the given calls and events. -/
def sessionAfter (crypto : Crypto) (env : Env) (config : SessionConfig)
    (pauseCtx : Option PauseContext) (s₀ : Session) (ops : List Session.Op) : Session :=
  run (Session.step crypto) (s₀.createEngine crypto env config pauseCtx) ops

theorem PathInv.createEngine (crypto : Crypto) (env : Env) (config : SessionConfig)
    (pauseCtx : Option PauseContext) {s₀ : Session} (h₀ : s₀.finishedReported = false) :
    PathInv (s₀.createEngine crypto env config pauseCtx) := by
  refine ⟨fun _ => ?_, fun hf => ?_⟩
  · unfold Session.createEngine
    split
    · obtain ⟨new, h⟩ := extends_step crypto { Engine.init config pauseCtx with
        ctx := { (Engine.init config pauseCtx).ctx with timeouts := s₀.engine.ctx.timeouts } }
        (env, .control (.stopCharging true))
      refine h.path.trans ?_
      refine Eq.trans ?_ (congrArg pathAfter h.log.symm)
      exact (after_append {} new []).symm
    · rfl
  · exact absurd (h₀.symm.trans hf) (by simp)

/-- **Every end of a session opens the AC contactor and finishes the charge loop. It opens the DC
contactor after a positive answer to `PowerDeliveryReq(Start)` exactly when, in the history just
before `finish_session` or `close`, that was done already, or the charge loop was running and no AC
contactor was latched.** -/
theorem session_end_releases_power_path (crypto : Crypto) (env : Env) (config : SessionConfig)
    (pauseCtx : Option PauseContext) (s₀ : Session) (h₀ : s₀.finishedReported = false)
    (ops : List Session.Op) :
    let s := sessionAfter crypto env config pauseCtx s₀ ops
    s.finishedReported = true → ∃ dlink before, IsDlink dlink ∧ s.endedWith = some before ∧
      s.log = teardown dlink before ++ before ∧ AcReleased s.log ∧ LoopFinished s.log ∧
      (DcReleased s.log ↔ DcReleased before ∨ (¬ LoopFinished before ∧ AcReleased before)) := by
  intro s hfin
  have hinv : PathInv s :=
    run_invariant (fun _ op h => h.step crypto op) ops (.createEngine crypto env config pauseCtx h₀)
  obtain ⟨-, dlink, before, hd, hbefore, hlog⟩ := hinv.ended hfin
  refine ⟨dlink, before, hd, hbefore, hlog, ?_, ?_, ?_⟩
  · rw [acReleased_iff, hlog, pathAfter_teardown hd]
  · rw [loopFinished_iff, hlog, pathAfter_teardown hd]
  · rw [hlog]
    exact dcReleased_teardown hd before

/-! ### Two ends of a session -/

/-- A session after the handshake. -/
def handshakeDone : Session where
  engine := Engine.init (dcConfig .None) none
  connected := true
  newData := false
  packet := none
  controlEventQueue := []
  pendingStopCharging := false
  v2gSessionEstablished := false
  driverStopped := false
  finishedReported := false
  connectionCloseDeadline := none
  peerCloseDeadline := none
  errorTermination := false
  cleanSessionEnd := false
  dlinkSignalDeadline := none
  throttleSameTypeOnly := false
  lastResponseType := none
  lastResponseTxTime := none
  lastRequestRxTime := none
  responseSendAfter := none

/-- Each request is read by one poll and answered by the next. -/
def exchanges (now : Int) : List Input → List Session.Op
  | [] => []
  | .packet request :: inputs =>
    .newDataEvent :: .poll ⟨⟨now, 7, 0⟩, .complete ⟨.SAP, request⟩, true⟩ ::
      .poll ⟨⟨now + 100, 7, 0⟩, .wouldBlock, true⟩ :: exchanges (now + 200) inputs
  | .control event :: inputs => .pushControlEvent event :: exchanges now inputs
  | _ :: inputs => exchanges now inputs

/-- The EV closes the connection. -/
def peerClose : List Session.Op :=
  [.newDataEvent, .poll ⟨⟨10000, 7, 0⟩, .connectionClosed, true⟩]

/-- A DC session with these requests, which the EV ends. -/
def dcSession (inputs : List Input) : Session :=
  sessionAfter noCrypto ⟨0, 7, 0⟩ (dcConfig .None) none handshakeDone
    (exchanges 0 inputs ++ peerClose)

/-- The EV closes the connection after the answer to `PowerDeliveryReq(Start)` and before its first
`CurrentDemandReq`: the session ends without a signal to open the DC contactor. -/
theorem end_before_charge_loop_keeps_dc_closed :
    let s := dcSession (checkedSession.map Prod.snd)
    s.finishedReported = true ∧ ¬ DcReleased s.log := by
  decide +kernel

/-- With one `CurrentDemandReq` the charge loop runs just before the end, and all is released. -/
theorem end_in_charge_loop_releases :
    let s := dcSession (checkedSession.map Prod.snd ++ [.packet ⟨7, .currentDemand⟩])
    s.finishedReported = true ∧ AcReleased s.log ∧ LoopFinished s.log ∧ DcReleased s.log := by
  intro s
  have hfin : s.finishedReported = true := by decide +kernel
  have hrunning : s.endedWith.all fun before => ¬ LoopFinished before ∧ AcReleased before := by
    decide +kernel
  obtain ⟨dlink, before, -, hbefore, -, hac, hloop, hdc⟩ := session_end_releases_power_path noCrypto
    ⟨0, 7, 0⟩ (dcConfig .None) none handshakeDone rfl _ hfin
  refine ⟨hfin, hac, hloop, hdc.2 (.inr ?_)⟩
  change s.endedWith = some before at hbefore
  simpa [hbefore] using hrunning

end EverestCore.Iso15118
