import EverestCore.Slac.Matching

/-!
# The EVSE SLAC machine (`machine.hpp`, `slac_fsm.cpp`, `fsm_controller.cpp`)

The top-level machine with its sub-machines. A sub-machine gets an event first, and the rows of the
top level get what it does not handle. A sub-machine that reaches an exit point is left within the
same event, and entering a state takes its completion transitions.

Every public event is followed by `settle`, which feeds `update` until no state changes any more. A
callback that throws is noticed between two events of the machine only; the event then ends there,
and the module tears the machine down with one `reset`.

* `Machine.process`: `process_event`, one event of the state machine.
* `Machine.settle`, `Machine.handle`: a public event of `slac_fsm`.
* `Controller.step`: the module around it.

The log lines, the telemetry and the published states are left out, and so is the second `update`
that the exit points of `Matching` forward: `settle` feeds another one anyway.
-/

namespace EverestCore.Slac

open Timer

/-! ## The other sub-machines -/

/-- `Init_def`: the modem is asked for its vendor. -/
inductive InitRegion
  | init (timer : Timer)
  | opAttr (timer : Timer)
  | getVersion (timer : Timer)

/-- `Reset_def` past its first state; `msgValid` tells `MsgValid` from `MsgSent`. -/
structure Reset where
  pendingNmk : Nmk
  setKeyAttempts : Int := 1
  setKeyTimer : Timer
  msgValid : Bool := false

/-- `ResetChip_def`. -/
inductive ResetChip
  | delay (timer : Timer)
  | sent (timer : Timer)
  | received

/-- `WaitForLink_def` past its first state. -/
structure WaitForLink where
  timer : Timer
  vendor : ModemVendor
  poll : Timer

structure AmpMapHandler where
  awaitingCnf : Bool := false
  retries : Nat := 0
  timer : Timer := {}

/-- The states of `Matched_def`. -/
inductive MatchedLink
  | init
  | poll (vendor : ModemVendor) (timer : Timer)
  | noDetect

/-- `Matched_def`. -/
structure Matched where
  link : MatchedLink
  consecutiveNegLinkStatus : Int := 0
  ampMap : AmpMapHandler

/-- The state of `SlacFSM_def`. -/
inductive State
  -- with the vendor, once the modem told it
  | init (region : InitRegion) (vendor : Option ModemVendor)
  | reset (s : Reset)
  | resetChip (s : ResetChip)
  | idle
  | matching (m : Matching)
  | waitForLink (s : WaitForLink)
  | matched (s : Matched)
  | failed

/-- The number of the active state, for `signature_of`. -/
def InitRegion.id : InitRegion → Nat
  | .init _ => 0
  | .opAttr _ => 1
  | .getVersion _ => 2

def ResetChip.id : ResetChip → Nat
  | .delay _ => 0
  | .sent _ => 1
  | .received => 2

def SessionState.id : SessionState → Nat
  | .waitStartAtten _ => 0
  | .sounding _ => 1
  | .finalizeSounding _ => 2
  | .waitAttenRsp _ => 3
  | .waitSlacMatch _ _ => 4
  | .matchComplete => 5
  | .failed => 6

def MatchedLink.id : MatchedLink → Nat
  | .init => 0
  | .poll _ _ => 1
  | .noDetect => 2

structure Machine where
  ctx : Context
  state : State

/-! ## Entering a state -/

/-- A vendor whose link status query and reset the machine knows. -/
def ModemVendor.supported (v : ModemVendor) : Bool := v = .Lumissil || v = .Qualcomm

namespace Machine

variable (c : Context)

/-- `start`. -/
def enterInit : Machine :=
  ⟨c, .init (.init (arm c.now c.config.requestInfoDelay)) none⟩

/-- `select_nmk_for_reset`: the key to send, and the session key. -/
def selectNmkForReset : Nmk × Nmk :=
  match c.config.setKeyHandlingMode with
  | .retry_confirmed =>
    (if c.config.regenerateKeyOnReset then c.env.randomNmk else c.config.sessionNmk,
      c.config.sessionNmk)
  | .legacy_single_attempt =>
    let key := if c.config.regenerateKeyOnReset then c.env.randomNmk else c.config.sessionNmk
    (key, key)

/-- `Reset`, with its completion transition `send_set_key_req`. -/
def enterReset : Machine :=
  let (pending, session) := selectNmkForReset c
  let c := { c with config := { c.config with sessionNmk := session } }
  ⟨c.clearMatchConfirmCache.sendToModem (.setKeyReq pending),
    .reset ⟨pending, 1, arm c.now c.config.setKeyTimeout, false⟩⟩

def enterResetChip : Machine :=
  ⟨c, .resetChip (.delay (arm c.now c.config.chipResetDelay))⟩

def enterIdle : Machine := ⟨c.clearMatchConfirmCache, .idle⟩

def enterFailed : Machine := ⟨c.clearMatchConfirmCache, .failed⟩

def enterMatching : Machine := ⟨c.record .enteredMatching, .matching (.enter c)⟩

/-- `WaitForLink`; without a link status query it fails at once. -/
def enterWaitForLink : Machine :=
  if c.modemVendor.supported then
    ⟨c.sendToModem (.linkStatusReq c.modemVendor),
      .waitForLink ⟨arm c.now c.config.linkTimeout, c.modemVendor,
        arm c.now c.config.linkRetry⟩⟩
  else enterFailed c

/-- `AmpMapHandler::start`. -/
def startAmpMap : AmpMapHandler × Context :=
  if c.config.initiateAmpMap ∧ c.config.ampMapLen ≠ 0 then
    ({ awaitingCnf := true, timer := arm c.now ttMatchResponseMs },
      c.send c.statusEvMac (.ampMapReq c.config.ampMapLen c.config.ampMapData))
  else ({}, c)

/-- `Matched`, with its completion transition. -/
def enterMatched : Machine :=
  let (ampMap, c) := startAmpMap c.clearMatchConfirmCache
  if ¬ c.config.linkDoDetect then ⟨c, .matched { link := .noDetect, ampMap := ampMap }⟩
  else if c.modemVendor.supported then
    ⟨c.sendToModem (.linkStatusReq c.modemVendor), .matched {
      link := .poll c.modemVendor (arm c.now c.config.linkPollInMatchedState)
      ampMap := ampMap }⟩
  else ⟨c, .matched { link := .init, ampMap := ampMap }⟩

/-- `on_exit` of the state that is left. -/
def leave (m : Machine) : Context :=
  match m.state with
  | .matched _ => { m.ctx.clearMatchConfirmCache with statusEvMac := 0 }
  | _ => m.ctx

/-! ## `process_event` -/

/-- `Init`, on `update`. -/
def updateInit (region : InitRegion) (vendor : Option ModemVendor) : Machine :=
  match region with
  | .init timer =>
    if timer.expired c.now then
      ⟨c.sendToModem .opAttrReq,
        .init (.opAttr (arm c.now c.config.requestInfoDelay)) vendor⟩
    else ⟨c, .init region vendor⟩
  | .opAttr timer =>
    if timer.expired c.now then
      ⟨c.sendToModem .getVersionReq,
        .init (.getVersion (arm c.now c.config.requestInfoDelay)) vendor⟩
    else ⟨c, .init region vendor⟩
  | .getVersion timer =>
    if timer.expired c.now then enterReset c else ⟨c, .init region vendor⟩

/-- `Reset`, on `update`; the top level gives up in the legacy mode. -/
def updateReset (s : Reset) : Machine :=
  if s.msgValid then
    if c.config.chipResetEnabled then enterResetChip c else enterIdle c
  else if s.setKeyTimer.expired c.now then
    match c.config.setKeyHandlingMode with
    | .legacy_single_attempt => enterFailed c
    | .retry_confirmed =>
      if s.setKeyAttempts < c.config.setKeyMaxAttempts then
        ⟨c.sendToModem (.setKeyReq s.pendingNmk), .reset { s with
          setKeyAttempts := s.setKeyAttempts + 1
          setKeyTimer := arm c.now c.config.setKeyTimeout }⟩
      else ⟨c, .reset { s with msgValid := true }⟩
  else ⟨c, .reset s⟩

/-- `accepts_set_key_cnf_success_result`. -/
def acceptsSetKeyCnf (mode : SetKeyCnfSuccessMode) (result : BitVec 8) : Bool :=
  match mode with
  | .modem_compat_0x01 => result = 1
  | .hpgp_standard_0x00 => result = 0
  | .accept_0x00_or_0x01 => result = 0 || result = 1

variable (msg : Message)

/-- `Reset`, on `message`. -/
def messageReset (s : Reset) : Machine :=
  match s.msgValid, msg.payload with
  | false, .setKeyCnf result =>
    if acceptsSetKeyCnf c.config.setKeyCnfSuccessMode result then
      ⟨{ c with config := { c.config with sessionNmk := s.pendingNmk } },
        .reset { s with msgValid := true }⟩
    else if c.config.setKeyHandlingMode = .retry_confirmed ∧
        c.config.setKeyMaxAttempts ≤ s.setKeyAttempts then
      ⟨c, .reset { s with msgValid := true }⟩
    else ⟨c, .reset s⟩
  | _, _ => ⟨c, .reset s⟩

/-- `send_message`: other modems have no reset. -/
def sendChipReset : Context :=
  if c.modemVendor.supported then c.sendToModem (.resetDeviceReq c.modemVendor) else c

/-- `ResetChip`, on `update`: only the Qualcomm modem answers. -/
def updateResetChip (s : ResetChip) : Machine :=
  match s with
  | .delay timer =>
    if timer.expired c.now then
      ⟨sendChipReset c, .resetChip (.sent (arm c.now c.config.chipResetTimeout))⟩
    else ⟨c, .resetChip s⟩
  | .sent timer =>
    if c.modemVendor ≠ .Qualcomm ∨ timer.expired c.now then enterIdle c else ⟨c, .resetChip s⟩
  | .received => enterIdle c

/-- The rows of the top level for the exit points of `Matching`. -/
def exitMatching (m : Matching) : Machine :=
  match m.region with
  | .init => ⟨c, .matching m⟩
  | .failed => enterFailed c
  | .matched => if c.config.linkDoDetect then enterWaitForLink c else enterMatched c

/-- `WaitForLink`, on `update`; the top level gives up. -/
def updateWaitForLink (s : WaitForLink) : Machine :=
  if s.poll.expired c.now then
    ⟨c.sendToModem (.linkStatusReq s.vendor), .waitForLink { s with poll := s.poll.reset c.now }⟩
  else if s.timer.expired c.now then enterFailed c
  else ⟨c, .waitForLink s⟩

def isMatchReq : Bool :=
  match msg.payload, c.matchConfirmCache with
  | .slacMatchReq req, some cache =>
    msg.srcMac = cache.evMac &&
      MatchingSessionData.validateSlacMatchReq
        { evseMac := cache.evseMac, evMac := cache.evMac, runId := cache.runId } req
  | _, _ => false

/-- `send_match_cnf`, the cached one. -/
def sendMatchCnf : Context :=
  match c.matchConfirmCache with
  | some cache => c.send cache.evMac (.slacMatchCnf cache.message)
  | none => c

/-- `WaitForLink`, on `message`. -/
def messageWaitForLink (s : WaitForLink) : Machine :=
  if isMatchReq c msg then ⟨sendMatchCnf c, .waitForLink s⟩
  else if msg.payload = .linkStatusCnf s.vendor dLinkStatusLinked then enterMatched c
  else ⟨c, .waitForLink s⟩

/-- `retransmit_due` and `retransmit`. -/
def serviceAmpMap (a : AmpMapHandler) : AmpMapHandler × Context :=
  if a.awaitingCnf && a.timer.expired c.now then
    if a.retries < cEvMatchRetry then
      ({ a with retries := a.retries + 1, timer := a.timer.reset c.now },
        c.send c.statusEvMac (.ampMapReq c.config.ampMapLen c.config.ampMapData))
    else ({ a with awaitingCnf := false }, c)
  else (a, c)

/-- `Matched`, on `update`. -/
def updateMatched (s : Matched) : Machine :=
  match s.link with
  | .init => ⟨c, .matched s⟩
  | .noDetect =>
    let (ampMap, c) := serviceAmpMap c s.ampMap
    ⟨c, .matched { s with ampMap := ampMap }⟩
  | .poll vendor timer =>
    let due := timer.expired c.now
    let c := if due then c.sendToModem (.linkStatusReq vendor) else c
    let (ampMap, c) := serviceAmpMap c s.ampMap
    ⟨c, .matched { s with
      link := .poll vendor (if due then timer.reset c.now else timer), ampMap := ampMap }⟩

/-- `Matched`, on a link status; enough negative ones lose the link. -/
def linkStatusMatched (linkStatus : BitVec 8) (s : Matched) : Machine :=
  if linkStatus = dLinkStatusLinked then
    ⟨c, .matched { s with consecutiveNegLinkStatus := 0 }⟩
  else if max 1 c.config.linkDebounceCount ≤ s.consecutiveNegLinkStatus + 1 then
    enterReset (leave ⟨c, .matched s⟩)
  else ⟨c, .matched { s with consecutiveNegLinkStatus := s.consecutiveNegLinkStatus + 1 }⟩

/-- `Matched`, on `message`. -/
def messageMatched (s : Matched) : Machine :=
  match msg.payload, s.link with
  | .ampMapReq amLen, _ =>
    if amLen ≠ 0 then ⟨c.send msg.srcMac (.ampMapCnf 0), .matched s⟩ else ⟨c, .matched s⟩
  | .ampMapCnf result, .noDetect | .ampMapCnf result, .poll _ _ =>
    if s.ampMap.awaitingCnf ∧ result = 0 then
      ⟨c, .matched { s with ampMap := { s.ampMap with awaitingCnf := false } }⟩
    else ⟨c, .matched s⟩
  | .linkStatusCnf vendor linkStatus, .poll vendor' _ =>
    if vendor = vendor' then linkStatusMatched c linkStatus s else ⟨c, .matched s⟩
  | _, _ => ⟨c, .matched s⟩

/-- `message` in every state, once the frame is in the history. -/
def processMessage (c : Context) (state : State) : Machine :=
  match state with
  | .init region none =>
    match msg.payload with
    | .deviceInfo vendor => ⟨{ c with modemVendor := vendor }, .init region (some vendor)⟩
    | _ => ⟨c, state⟩
  | .reset s => messageReset c msg s
  | .resetChip (.sent _) =>
    if msg.payload = .resetDeviceCnf then ⟨c, .resetChip .received⟩ else ⟨c, state⟩
  | .matching m =>
    let (m, c) := m.onMessage msg c
    ⟨c, .matching m⟩
  | .waitForLink s => messageWaitForLink c msg s
  | .matched s => messageMatched c msg s
  | .init _ (some _) | .resetChip _ | .idle | .failed => ⟨c, state⟩

/-- `update` in every state. -/
def processUpdate (state : State) : Machine :=
  match state with
  | .init region vendor => updateInit c region vendor
  | .reset s => updateReset c s
  | .resetChip s => updateResetChip c s
  | .matching m =>
    let (m, c) := m.onUpdate c
    exitMatching c m
  | .waitForLink s => updateWaitForLink c s
  | .matched s => updateMatched c s
  | .idle | .failed => ⟨c, state⟩

/-- The events of the machine. -/
inductive Event
  | message (msg : Message)
  | reset
  | enterBcd
  | leaveBcd
  | update
  deriving DecidableEq

/-- `process_event`. -/
def process (m : Machine) : Event → Machine
  | .message msg => processMessage msg (m.ctx.record (.received m.ctx.now msg)) m.state
  | .update => processUpdate m.ctx m.state
  | .reset =>
    match m.state with
    | .init _ _ => m
    | _ => enterReset m.leave
  | .enterBcd =>
    match m.state with
    | .idle => enterMatching m.ctx
    | _ => m
  | .leaveBcd =>
    match m.state with
    | .matching _ => enterIdle m.ctx
    | .waitForLink _ | .matched _ | .failed => enterReset m.leave
    | _ => m

/-! ## Public events -/

/-- `signature_of`: the active states of the machine, its sub-machine and the sessions. -/
def signature (m : Machine) : List Nat :=
  match m.state with
  | .init region vendor => [0, region.id, if vendor.isSome then 1 else 0]
  | .reset s => [1, if s.msgValid then 1 else 0]
  | .resetChip s => [2, s.id]
  | .idle => [3]
  | .matching m => 4 :: m.sessions.length :: m.sessions.map (·.state.id)
  | .waitForLink _ => [5]
  | .matched s => [6, s.link.id]
  | .failed => [7]

/-- `settle`, with at most `rounds` rounds; `throws k` tells whether a callback has thrown at the
`k`-th check. The result tells whether the event ended without a throw. -/
def settle (throws : Nat → Bool) : (rounds : Nat) → (k : Nat) → Machine → Machine × Bool
  | 0, _, m => (m, false)
  | rounds + 1, k, m =>
    let m' := m.process .update
    if throws k then (m', false)
    else if m'.signature = m.signature then (m', !throws (k + 1))
    else settle throws rounds (k + 1) m'

/-- `sample_time`, and the other answers of the callbacks. -/
def sample (env : Env) (m : Machine) : Machine := { m with ctx := { m.ctx with env := env } }

/-- A public event of `slac_fsm`. -/
def handle (env : Env) (throws : Nat → Bool) (ev : Event) (m : Machine) : Machine × Bool :=
  let m := m.sample env
  if throws 0 then (m, false)
  else if ev = .update then settle throws 32 1 m
  else
    let m := m.process ev
    if throws 1 then (m, false) else settle throws 32 2 m

/-- `restart_fsm`. -/
def restart (env : Env) (throws : Nat → Bool) (m : Machine) : Machine × Bool :=
  let m := m.sample env
  if throws 0 then (m, false)
  else
    let m := enterInit m.leave
    if throws 1 then (m, false) else settle throws 32 2 m

end Machine

/-! ## The module -/

/-- `FSMController`. -/
structure Controller where
  machine : Machine
  active : Bool := false

/-- The answers of the callbacks, and when they throw. -/
structure Reading where
  env : Env
  throws : Nat → Bool := fun _ => false

/-- What the module does with the machine. -/
inductive Command
  -- the I/O is ready
  | init
  -- a frame, a command of the interface or the deadline of a timer
  | event (ev : Machine.Event)
  -- the I/O failed
  | teardown
  | stop

namespace Controller

/-- `teardown`: the machine is reset, whatever comes of it, and stopped. -/
def teardown (r : Reading) (c : Controller) : Controller :=
  if c.active then ⟨(c.machine.handle r.env r.throws .reset).1, false⟩ else c

/-- An event that threw ends in a teardown. -/
def settled (r : Reading) (o : Machine × Bool) : Controller :=
  if o.2 then ⟨o.1, true⟩ else teardown r ⟨o.1, true⟩

/-- One command, with the readings for it and for a teardown. -/
def step (c : Controller) (i : Reading × Reading × Command) : Controller :=
  let (r, r', command) := i
  match command with
  | .init => settled r' (c.machine.restart r.env r.throws)
  | .event ev => if c.active then settled r' (c.machine.handle r.env r.throws ev) else c
  | .teardown => c.teardown r
  | .stop => { c with active := false }

/-- Before the first `init`. -/
def initial (config : EvseSlacConfig) (evseMac : MacAddress) (env : Env) : Controller where
  machine := Machine.enterInit { config := config, env := env, evseMac := evseMac }

end Controller

end EverestCore.Slac
