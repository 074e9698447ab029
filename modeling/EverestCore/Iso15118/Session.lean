import EverestCore.Iso15118.D2.Engine

/-!
# The session driver (`session/iso.cpp`) of an ISO 15118-2 session

`Session` owns the connection, the timers and the pacing of the responses, and delegates the
protocol to its engine. The model starts with `createEngine`, at the end of the handshake, in a
session in any state; from there on the engine is `D2SeccEngine`.

* `poll`, with its stages `readPacket`, `drainControlEvents`, `checkTimeouts`, `dispatchPacket`,
  `sendDueResponse` and `endSession`.
* `finishSession`, `close`, `openPowerPath`: the end of a session. Its signals go out through the
  plain feedback, which the power path does not observe.
* `Session.step`: one call of the session or one event of its connection.

A poll happens at one instant. A failed `write` throws: the poll ends there. Left out: the time of
the next poll, the events `ACCEPTED` and `OPEN`, which a connection raises before the handshake, and
the feedback about messages.
-/

namespace EverestCore.Iso15118

open D2

/-! ## State -/

/-- The payload type of a V2GTP frame. -/
inductive PayloadType
  | SAP
  -- another known type, which ISO 15118-2 ignores
  | other
  | unknown

/-- A complete packet. -/
structure Packet where
  payloadType : PayloadType
  request : Request

/-- `V2GTPReadResult`, with the packet. -/
inductive ReadResult
  | complete (packet : Packet)
  | wouldBlock
  | connectionClosed
  | invalidHeader

structure Session where
  engine : Engine
  connected : Bool
  newData : Bool
  packet : Option Packet        -- `packet`, once complete
  controlEventQueue : List ControlEvent    -- oldest first
  pendingStopCharging : Bool
  v2gSessionEstablished : Bool
  driverStopped : Bool
  finishedReported : Bool
  connectionCloseDeadline : Option Int
  peerCloseDeadline : Option Int
  errorTermination : Bool
  cleanSessionEnd : Bool
  dlinkSignalDeadline : Option Int
  throttleSameTypeOnly : Bool
  lastResponseType : Option (Option ResponseType)   -- absent: not of ISO 15118-2
  lastResponseTxTime : Option Int
  lastRequestRxTime : Option Int
  responseSendAfter : Option Int
  /-- The history just before `finish_session` or `close` released the power path. -/
  endedWith : Option (List Trace) := none

/-- What a poll reads from its environment. -/
structure PollEnv where
  env : Env
  read : ReadResult
  writeOk : Bool

def connectionCloseLingerMs : Int := 2000

def peerCloseWaitMs : Int := 500

def dlinkSignalGraceMs : Int := 300

def minResponseIntervalMs : Int := 100

def responseDelayAfterRequestMs : Int := 100

namespace Session

variable (s : Session)

/-- The history of the session. -/
def log : List Trace := s.engine.ctx.log

/-- Changes the context of the engine. -/
def updateCtx (f : Context → Context) (s : Session) : Session :=
  { s with engine := { s.engine with ctx := f s.engine.ctx } }

/-! ## The end of a session -/

/-- `connection->close()`: it raises `CLOSED` when the connection was open. -/
def closeConnection : Session :=
  if s.connected then { s with connected := false, driverStopped := true } else s

def sessionOver : Bool := s.driverStopped || s.engine.isFinished

def teardownSignal : Signal :=
  if s.engine.ctx.sessionPaused then .DLINK_PAUSE
  else if s.cleanSessionEnd then .DLINK_TERMINATE
  else .DLINK_ERROR

/-- `feedback.signal` of the session: the power path does not see it. -/
def signal (sig : Signal) (s : Session) : Session := s.updateCtx (Context.record (.signal sig))

def openPowerPath : Session :=
  let signals := s.engine.ctx.powerPath.teardownSignals
  signals.foldl (fun s sig => s.signal sig) (s.updateCtx fun c => { c with powerPath := {} })

/-- The common end of `finish_session` and `close`. -/
def release (dlink : Session → Signal) (s : Session) : Session :=
  if s.finishedReported then s
  else
    let s := { s with finishedReported := true, endedWith := some s.log }
    let s := s.closeConnection.openPowerPath
    s.signal (dlink s)

def finishSession : Session := s.release teardownSignal

def close : Session :=
  ({ s with driverStopped := true }).release fun _ => .DLINK_TERMINATE

/-! ## The stages of a poll -/

/-- A packet is read when data has arrived and none is waiting. -/
def readPacket (r : ReadResult) (s : Session) : Session :=
  if s.connected && s.newData && s.packet.isNone then
    match r with
    | .connectionClosed => s.closeConnection
    | .wouldBlock => { s with newData := false }
    | .invalidHeader => s
    | .complete packet => { s with packet := some packet }
  else s

section Poll

variable (crypto : Crypto) (env : Env) (s : Session)

/-- One control event. -/
def handleControlEvent (event : ControlEvent) : Session :=
  let s := match event with
    | .stopCharging stop => { s with pendingStopCharging := stop }
    | _ => s
  { s with engine := s.engine.onControlEvent crypto env event }

/-- The control events, in the order in which they were pushed. -/
def drainControlEvents : Session :=
  s.controlEventQueue.foldl (handleControlEvent crypto env) { s with controlEventQueue := [] }

/-- One timeout: the timer is reset after it was handled. -/
def handleTimeout (timeout : TimeoutType) : Session :=
  ({ s with engine := s.engine.onTimeout timeout }).updateCtx fun c =>
    { c with timeouts := c.timeouts.reset timeout }

/-- The reached timeouts. -/
def checkTimeouts : Session :=
  (s.engine.ctx.timeouts.check env.now).foldl handleTimeout s

/-- The request of a complete packet, unless the session is over or the payload is unknown. -/
def dispatchPacket : Session :=
  match s.packet with
  | none => s
  | some packet =>
    let done := { s with packet := none, newData := false }
    if s.sessionOver then done
    else match packet.payloadType with
      | .unknown => done
      -- `on_packet` ignores the frame: the timers run on as if it never arrived
      | .other => { done with lastRequestRxTime := some env.now }
      | .SAP =>
        let done := { done with
          lastRequestRxTime := some env.now
          v2gSessionEstablished := true
          engine := s.engine.onPacket crypto env packet.request }
        done.updateCtx (Context.stopTimeout .SEQUENCE)

/-- `peek_response_type`: the type of the response staged last; a relayed response has none. -/
def peekResponseType : List Trace → Option ResponseType
  | .staged _ _ res :: _ => some res.type
  | .stagedRaw _ :: _ => none
  | _ :: log => peekResponseType log
  | [] => none

/-- The time at which the staged response is due. -/
def responseDue (now : Int) (s : Session) : Int :=
  let paced := match s.lastRequestRxTime with
    | some rx => max now (rx + responseDelayAfterRequestMs)
    | none => match s.lastResponseTxTime with
      | some tx => if now - tx < minResponseIntervalMs then tx + minResponseIntervalMs else now
      | none => now
  if s.throttleSameTypeOnly then
    if s.engine.ctx.sessionStopped || s.engine.ctx.sessionPaused then now
    else match s.lastResponseTxTime with
      | some tx =>
        if some (peekResponseType s.log) = s.lastResponseType then tx + minResponseIntervalMs
        else now
      | none => now
  else s.responseSendAfter.getD paced

/-- `send_response`, after the write. -/
def responseSent (now : Int) (type : Option ResponseType) (s : Session) : Session :=
  let s := { s with lastResponseTxTime := some now, lastResponseType := some type }
  let s := s.updateCtx fun c => (c.record .sent).startTimeout now .SEQUENCE timeoutSequence
  let action := s.engine.ctx.sessionStopResPending
  let s := s.updateCtx fun c => { c with sessionStopResPending := none }
  match action with
  | none => s
  | some .FailedTermination => { s with errorTermination := true }
  | some _ => { s with cleanSessionEnd := true }

/-- Sends the staged response when it is due. The flag is false when the write fails. -/
def sendDueResponse (now : Int) (writeOk : Bool) (s : Session) : Session × Bool :=
  if s.engine.ctx.responseAvailable then
    if now < responseDue now s then
      ({ s with responseSendAfter := some (responseDue now s) }, true)
    else
      let type := peekResponseType s.log
      let s := ({ s with responseSendAfter := none }).updateCtx fun c =>
        { c with responseAvailable := false }
      if writeOk then (responseSent now type s, true) else (s, false)
  else ({ s with responseSendAfter := none }, true)

/-- The end of a session that is over: with an error after a grace period, at once when the
connection is gone, and otherwise once the EV had time to close the connection first. -/
def endSession (now : Int) (s : Session) : Session :=
  if s.sessionOver && !s.finishedReported then
    if s.errorTermination || s.engine.ctx.sessionEndedWithError then
      let s := s.closeConnection
      let deadline := s.dlinkSignalDeadline.getD (now + dlinkSignalGraceMs)
      let s := { s with dlinkSignalDeadline := some deadline }
      if deadline ≤ now then s.finishSession else s
    else if s.driverStopped then s.finishSession
    else
      let deadline := s.connectionCloseDeadline.getD (now + connectionCloseLingerMs)
      let s := { s with connectionCloseDeadline := some deadline }
      if now < deadline then s
      else match s.peerCloseDeadline with
        | none => { s with peerCloseDeadline := some (now + peerCloseWaitMs) }
        | some peer => if now < peer then s else s.finishSession
  else s

def poll (p : PollEnv) (s : Session) : Session :=
  let s := s.readPacket p.read
  if ¬ s.connected then
    if s.sessionOver then s.finishSession else s
  else
    let s := s.drainControlEvents crypto p.env
    let s := s.checkTimeouts p.env
    let s := s.dispatchPacket crypto p.env
    let (s, sent) := s.sendDueResponse p.env.now p.writeOk
    if sent then s.endSession p.env.now else s

end Poll

/-! ## Runs -/

def pushControlEvent (event : ControlEvent) (s : Session) : Session :=
  { s with controlEventQueue := s.controlEventQueue ++ [event] }

def requestShutdown : Session :=
  if s.connected then s.pushControlEvent (.stopCharging true) else s.close

/-- `create_engine` for ISO 15118-2: a stop requested during the handshake is handed over. -/
def createEngine (crypto : Crypto) (env : Env) (config : SessionConfig)
    (pauseCtx : Option PauseContext) (s : Session) : Session :=
  let engine := Engine.init config pauseCtx
  let engine := { engine with ctx := { engine.ctx with timeouts := s.engine.ctx.timeouts } }
  { s with engine :=
      if s.pendingStopCharging then engine.onControlEvent crypto env (.stopCharging true)
      else engine }

/-- A call of the session, or an event of its connection. -/
inductive Op
  | poll (p : PollEnv)
  | pushControlEvent (event : ControlEvent)
  | close
  | requestShutdown
  -- `handle_connection_event`
  | newDataEvent
  | closedEvent

/-- One call or event. -/
def step (crypto : Crypto) (s : Session) : Op → Session
  | .poll p => s.poll crypto p
  | .pushControlEvent event => s.pushControlEvent event
  | .close => s.close
  | .requestShutdown => s.requestShutdown
  | .newDataEvent => { s with newData := true }
  | .closedEvent => { s with connected := false, driverStopped := true }

end Session

end EverestCore.Iso15118
