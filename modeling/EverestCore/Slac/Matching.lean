import EverestCore.Slac.Session

/-!
# The sub-machine `Matching` of SLAC (`matching.hpp`, `validate_handler.cpp`)

`Matching` listens for `CM_SLAC_PARM.REQ`, runs one session per EV and run id, and pipes every event
to all of them. It is left by an `update` that finds a session in `MatchComplete`, or no session
that may still complete.

* `ValidateHandler`: the BCB-toggle validation of `CM_VALIDATE`.
* `Matching.addSession`: a new session, or one that starts over.
* `pipe`: an event for all sessions, in their order.
* `Matching.onMessage`, `Matching.onUpdate`: the three regions one after another.
-/

namespace EverestCore.Slac

open Session

/-! ## `CM_VALIDATE` -/

structure ValidateHandler where
  armed : Bool := false
  step2Pending : Bool := false
  step1Retries : Nat := 0
  baselineBc : Int := 0
  ownerMac : MacAddress := 0
  timer : Timer := {}

namespace ValidateHandler

def reset (v : ValidateHandler) : ValidateHandler :=
  { v with armed := false, step2Pending := false, step1Retries := 0, ownerMac := 0 }

/-- `handle_req`: step 1 has no pilot timer, step 2 has one. -/
def handleReq (req : ValidateReq) (srcMac : MacAddress) (v : ValidateHandler) (c : Context) :
    ValidateHandler × Context :=
  if req.signalType ≠ 0 then (v, c)
  else if req.timer = 0 then
    if v.armed ∧ srcMac ≠ v.ownerMac then (v, c.send srcMac (.validateCnf 0 0))
    else
      ({ v with
        ownerMac := srcMac, armed := true, step2Pending := false, step1Retries := 0
        baselineBc := c.env.bcTransitionCount, timer := Timer.arm c.now ttMatchSequenceMs },
        c.send srcMac (.validateCnf 0 1))
  else if ¬ v.armed ∨ srcMac ≠ v.ownerMac then (v, c)
  else if req.result ≠ 1 then ({ v with armed := false, step2Pending := false }, c)
  else
    ({ v with step2Pending := true, timer := Timer.arm c.now ((req.timer.toNat + 1) * 100) }, c)

def needsService (v : ValidateHandler) (now : Int) : Bool :=
  (v.armed || v.step2Pending) && v.timer.expired now

/-- `tick`: the EV whose validation is complete, with at least one toggle seen. -/
def tick (v : ValidateHandler) (c : Context) : ValidateHandler × Context × Option MacAddress :=
  if v.step2Pending then
    let toggles := max 0 (min (c.env.bcTransitionCount - v.baselineBc) 255)
    ({ v with armed := false, step2Pending := false },
      c.send v.ownerMac (.validateCnf (BitVec.ofInt 8 toggles) 2),
      if toggles = 0 then none else some v.ownerMac)
  else if v.armed then
    if v.step1Retries < cEvMatchRetry then
      ({ v with step1Retries := v.step1Retries + 1, timer := v.timer.reset c.now },
        c.send v.ownerMac (.validateCnf 0 1), none)
    else ({ v with armed := false }, c, none)
  else (v, c, none)

end ValidateHandler

/-! ## The sub-machine -/

/-- The region that decides when `Matching` is left. -/
inductive MatchingRegion
  | init | matched | failed
  deriving DecidableEq

/-- `Matching_def`. -/
structure Matching where
  region : MatchingRegion := .init
  sessions : List Session := []
  timer : Timer
  failedMatchingResetOnce : Bool := false
  validate : ValidateHandler := {}

/-- An event for all sessions, in their order. -/
def pipe (f : Session → Context → Session × Context) :
    List Session → Context → List Session × Context
  | [], c => ([], c)
  | s :: ss, c =>
    let (s', c) := f s c
    let (ss', c) := pipe f ss c
    (s' :: ss', c)

namespace Matching

/-- `on_entry`. -/
def enter (c : Context) : Matching where
  timer := Timer.arm c.now c.config.slacInitTimeout

variable (m : Matching)

def anySessionMatched : Bool := m.sessions.any matched

/-- `all_sessions_failed`: at least one, and all of them. -/
def allSessionsFailed : Bool :=
  !m.sessions.isEmpty && m.sessions.all hasFailed

def maxMatchingSessions (c : Context) : Int := max 1 c.config.maxMatchingSessions

/-- `add_session` once there is room for the session: it starts, or starts over. -/
def startSession (sessions : List Session) (data : MatchingSessionData) (m : Matching)
    (c : Context) : Matching × Context :=
  ({ m with
    sessions := sessions
    -- a validation from a previous run of this EV does not carry over
    validate := if m.validate.ownerMac = data.evMac then m.validate.reset else m.validate },
    c.send data.evMac (.slacParmCnf data.createSlacParmCnf))

def addSession (req : SlacParmReq) (srcMac : MacAddress) (m : Matching) (c : Context) :
    Matching × Context :=
  if ¬ validateSlacParmReq req then (m, c)
  else
    let data : MatchingSessionData := { evseMac := c.evseMac, evMac := srcMac, runId := req.runId }
    match m.sessions.findIdx? (·.data.matchesIdentity srcMac req.runId) with
    | some i => m.startSession (m.sessions.set i (start data c.now)) data c
    | none =>
      if maxMatchingSessions c ≤ m.sessions.length then (m, c)
      else m.startSession (m.sessions ++ [start data c.now]) data c

def awaitsSlacMatch (evMac : MacAddress) (s : Session) : Bool :=
  s.data.evMac = evMac && s.awaitingSlacMatch

/-- `handle_validate_req`, for an EV that may send a `CM_SLAC_MATCH.REQ`. -/
def handleValidateReq (req : ValidateReq) (srcMac : MacAddress) (m : Matching) (c : Context) :
    Matching × Context :=
  if m.sessions.any (awaitsSlacMatch srcMac) then
    let (validate, c) := m.validate.handleReq req srcMac c
    ({ m with validate := validate }, c)
  else (m, c)

def armValidationWindow (now : Int) (s : Session) : Session :=
  match s.state with
  | .waitSlacMatch timer _ =>
    { s with state := .waitSlacMatch timer (some (Timer.arm now ttMatchSequenceMs)) }
  | _ => s

def validateTick (c : Context) : Matching × Context :=
  let (validate, c, validatedEv) := m.validate.tick c
  let sessions := match validatedEv with
    | none => m.sessions
    | some evMac => m.sessions.map fun s =>
        if awaitsSlacMatch evMac s then armValidationWindow c.now s else s
  ({ m with validate := validate, sessions := sessions }, c)

/-- What both guards of `Matching`'s end ask for. -/
def exhausted (now : Int) : Bool :=
  m.allSessionsFailed || (m.sessions.isEmpty && m.timer.expired now)

/-- `should_reset_instead_of_fail`. -/
def shouldReset (c : Context) : Bool :=
  !m.failedMatchingResetOnce && c.config.resetInsteadOfFail && m.exhausted c.now

/-- `should_transition_to_failed_matching`. -/
def shouldFail (c : Context) : Bool :=
  m.exhausted c.now && (!c.config.resetInsteadOfFail || m.failedMatchingResetOnce)

def resetMatchingSubfsm (c : Context) : Matching :=
  { m with
    sessions := []
    timer := Timer.arm c.now c.config.slacInitTimeout
    failedMatchingResetOnce := true
    validate := m.validate.reset }

/-- The region `Init`, on `update`. -/
def conclude (c : Context) : Matching :=
  if m.region ≠ .init then m
  else if m.anySessionMatched then { m with region := .matched }
  else if m.shouldFail c then { m with region := .failed }
  else if m.shouldReset c then m.resetMatchingSubfsm c
  else m

/-- The region `Listen`, on `update`. -/
def serveValidate (c : Context) : Matching × Context :=
  if m.validate.needsService c.now then m.validateTick c else (m, c)

/-- The region `Pipe`, on `update`. -/
def pipeUpdate (c : Context) : Matching × Context :=
  let (sessions, c) := pipe onUpdate m.sessions c
  ({ m with sessions := sessions }, c)

/-- The three regions, on `update`. -/
def onUpdate (c : Context) : Matching × Context :=
  let (m, c) := (m.conclude c).serveValidate c
  m.pipeUpdate c

/-- The region `Listen`, on `message`. -/
def listen (msg : Message) (m : Matching) (c : Context) : Matching × Context :=
  match msg.payload with
  | .slacParmReq req => m.addSession req msg.srcMac c
  | .validateReq req => m.handleValidateReq req msg.srcMac c
  | _ => (m, c)

def isValidateReq : Payload → Bool
  | .validateReq _ => true
  | _ => false

/-- The region `Pipe`, on `message`. -/
def pipeMessage (msg : Message) (m : Matching) (c : Context) : Matching × Context :=
  if isValidateReq msg.payload then (m, c)
  else
    let (sessions, c) := pipe (onMessage msg) m.sessions c
    ({ m with sessions := sessions }, c)

/-- The three regions, on `message`. -/
def onMessage (msg : Message) (m : Matching) (c : Context) : Matching × Context :=
  let (m, c) := m.listen msg c
  m.pipeMessage msg c

end Matching

end EverestCore.Slac
