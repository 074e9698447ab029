import EverestCore.Evse.Iec.StateMachine

/-!
# What the sections of the state machine do

The properties of the state machine look at three parts of its state: the connector lock with its
signals (`Latch`), the members that the control pilot decides from (`Pilot`), and the calls of the
BSP's `allow_power_on` (`powerCalls`). Here each section is described once for all three. The lock
is a machine of its own, `Latch.step`, which every section refines.

Results:
* **`start_views`**, **`resume_views`**: what every section but a run of `state_machine` does.
* `stateMachine_latch`: what a run does to the lock.
-/

namespace EverestCore.Evse.Iec

open EverestCore.Lib.Machine State Lib.Machine

/-! ## The calls of `allow_power_on` -/

/-- The calls of the BSP's `allow_power_on`, newest first. -/
def powerCalls (log : List Output) : List PowerCall :=
  log.filterMap fun
    | .allowPowerOn call => some call
    | _ => none

/-- The last value passed to the BSP's `allow_power_on`. -/
def lastPassed (log : List Output) : Option Bool := (powerCalls log).head?.map PowerCall.value

/-! ## The control pilot -/

/-- The members that the switch decides from, and what the BSP was last told. -/
@[ext] structure Pilot where
  pwmRunning : Bool
  lastPwmRunning : Bool
  powerOnAllowed : Bool
  lastPowerOnAllowed : Bool
  carPluggedIn : Bool
  lastCpState : RawCPState
  passed : Option Bool

def State.pilot (s : State) : Pilot where
  pwmRunning := s.pwmRunning
  lastPwmRunning := s.lastPwmRunning
  powerOnAllowed := s.powerOnAllowed
  lastPowerOnAllowed := s.lastPowerOnAllowed
  carPluggedIn := s.carPluggedIn
  lastCpState := s.lastCpState
  passed := lastPassed s.log

/-! ## The connector lock -/

/-- How often `signal_unlock` was emitted. -/
def unlockSignals (s : State) : Nat := s.log.count .unlock

/-- How often `signal_lock` was emitted. -/
def lockSignals (s : State) : Nat := s.log.count .lock

/-- The members that decide about the lock, and how often it was signalled. -/
structure Latch where
  relaisOn : Bool
  isLocked : Bool
  shouldBeLocked : Bool
  forceUnlocked : Bool
  authorized : Bool
  keepCableLocked : Bool
  plugged : Bool
  captiveLockDelayElapsed : Bool
  captiveUnlockWindow : Bool
  captiveLatched : Bool
  locks : Nat
  unlocks : Nat

def State.latch (s : State) : Latch where
  relaisOn := s.relaisOn
  isLocked := s.isLocked
  shouldBeLocked := s.shouldBeLocked
  forceUnlocked := s.forceUnlocked
  authorized := s.authorized
  keepCableLocked := s.keepCableLocked
  plugged := decide (0 < s.ppAmpacity)
  captiveLockDelayElapsed := s.captiveLockDelayElapsed
  captiveUnlockWindow := s.captiveUnlockWindow
  captiveLatched := s.captiveLatched
  locks := lockSignals s
  unlocks := unlockSignals s

/-- What happens to the lock. -/
inductive LockOp
  | nothing
  | relais (on : Bool)
  | authorize (a : Bool)
  -- the proximity pilot is read; `delayed`: a new plug is debounced
  | proximity (delayed plugged : Bool)
  | debounced
  | keepCableLocked (enabled : Bool)
  -- `recorded`: in the states B and C
  | forceUnlock (recorded : Bool)
  -- a run asks for the lock or not, and may reset the forced unlock
  | run (lock resets : Bool)

namespace Latch

/-- A plug that sits is held. -/
def latchCaptive (l : Latch) : Latch :=
  { l with captiveLatched := l.captiveLatched || (l.keepCableLocked && l.plugged &&
    l.captiveLockDelayElapsed && !l.captiveUnlockWindow) }

def mustBeLocked (l : Latch) : Bool :=
  l.relaisOn || (l.shouldBeLocked && !l.forceUnlocked && l.authorized) ||
    (l.keepCableLocked && l.captiveLatched)

/-- `check_connector_lock`. -/
def check (l : Latch) : Latch :=
  let l := l.latchCaptive
  { l with
    isLocked := l.mustBeLocked
    locks := if l.mustBeLocked && !l.isLocked then l.locks + 1 else l.locks
    unlocks := if l.isLocked && !l.mustBeLocked then l.unlocks + 1 else l.unlocks }

/-- `connector_force_unlock` unlocks without asking the members, though not under power. -/
def release (l : Latch) : Latch :=
  { l with
    captiveUnlockWindow := l.captiveUnlockWindow || (l.keepCableLocked && l.plugged)
    captiveLatched := l.captiveLatched && !l.keepCableLocked
    isLocked := l.isLocked && l.relaisOn
    unlocks := if l.relaisOn then l.unlocks else l.unlocks + 1 }

/-- The request of a run. -/
def ask (lock forced : Bool) (l : Latch) : Latch :=
  { l with shouldBeLocked := lock, forceUnlocked := forced }

def step (l : Latch) : LockOp → Latch
  | .nothing => l
  | .relais on => { l with relaisOn := on }.check
  | .authorize a => { l with authorized := a }
  | .proximity delayed plugged =>
    let l' := { l with plugged := plugged }
    if !l.keepCableLocked then l'
    else if !plugged then
      { l' with captiveUnlockWindow := false, captiveLockDelayElapsed := false }.check
    else if !l.plugged && !delayed then { l' with captiveLockDelayElapsed := true }.check
    else l'.check
  | .debounced =>
    { l with captiveLockDelayElapsed := l.captiveLockDelayElapsed || l.plugged }.check
  | .keepCableLocked enabled =>
    { l with
      keepCableLocked := enabled, captiveUnlockWindow := false, captiveLatched := false
      captiveLockDelayElapsed := l.plugged }.check
  | .forceUnlock recorded =>
    if recorded then { l.release with forceUnlocked := true }.check else l.release
  | .run lock resets => (l.ask lock (l.forceUnlocked && !resets)).check

end Latch

/-! ## The check -/

variable (s : State)

theorem latchCaptive_latch : s.latchCaptive.latch = s.latch.latchCaptive := by
  simp only [latchCaptive, Latch.latchCaptive, latch, onlyIf]
  split_ifs <;> simp_all [lockSignals, unlockSignals]

theorem checkConnectorLock_latch : s.checkConnectorLock.latch = s.latch.check := by
  unfold checkConnectorLock Latch.check
  rw [← latchCaptive_latch]
  generalize s.latchCaptive = t
  have hm : t.latch.mustBeLocked = t.mustBeLocked := rfl
  have hl : t.latch.isLocked = t.isLocked := rfl
  dsimp only
  rw [hm, hl]
  cases h : t.isLocked <;> cases t.mustBeLocked <;>
    simp [latch, emit, lockSignals, unlockSignals, h]

/-- The check leaves everything else alone. -/
theorem checkConnectorLock_pilot :
    s.checkConnectorLock.pilot = s.pilot ∧
      powerCalls s.checkConnectorLock.log = powerCalls s.log := by
  simp only [checkConnectorLock, latchCaptive, onlyIf]
  split_ifs <;> exact ⟨rfl, rfl⟩

/-- What the first section of a call does to the lock. -/
def startLock (cfg : Config) (op : Operation) (now : Int) (s : State) : LockOp :=
  match op with
  | .bspEvent .PowerOn => if s.enabled then .relais true else .nothing
  | .bspEvent .PowerOff => if s.enabled then .relais false else .nothing
  | .setPpAmpacity ampacity =>
    .proximity (s.captiveLockDelayElapsed || decide (0 < cfg.keepCableLockedLockDelayMs))
      (decide (0 < s.ampacityOf ampacity))
  | .connectorForceUnlock => .forceUnlock (decide (s.lastCpState = .B ∨ s.lastCpState = .C))
  | .setAuthorized a => if cfg.useAuthorized then .authorize a else .nothing
  | .setKeepCableLocked enabled =>
    if s.keepCableLocked = enabled then .nothing else .keepCableLocked enabled
  | .timeoutCaptiveLockReached =>
    if s.timeoutCaptiveLock.reached now then .debounced else .nothing
  | _ => .nothing

variable (cfg : Config)

theorem setPpAmpacity_latch (ampacity : Ampacity) (s : State) :
    (s.setPpAmpacity cfg ampacity).1.latch = s.latch.step
      (.proximity (s.captiveLockDelayElapsed || decide (0 < cfg.keepCableLockedLockDelayMs))
        (decide (0 < s.ampacityOf ampacity))) := by
  unfold setPpAmpacity Latch.step
  generalize s.ampacityOf ampacity = n
  dsimp only
  split_ifs <;> simp_all [checkConnectorLock_latch] <;>
    simp_all [latch, lockSignals, unlockSignals]

theorem connectorForceUnlock_latch :
    s.connectorForceUnlock.latch =
      s.latch.step (.forceUnlock (decide (s.lastCpState = .B ∨ s.lastCpState = .C))) := by
  unfold connectorForceUnlock Latch.step Latch.release onlyIf
  dsimp only
  split_ifs <;> simp_all [checkConnectorLock_latch] <;>
    simp_all [latch, emit, lockSignals, unlockSignals]

theorem start_latch (op : Operation) (now : Int) (s : State) :
    (start cfg op now s).1.latch = s.latch.step (startLock cfg op now s) := by
  cases op with
  | bspEvent e =>
    cases e <;> simp only [start, processBspEvent, fromBspEvent, startLock] <;> split_ifs
    all_goals first | rfl | exact checkConnectorLock_latch _
  | allowPowerOn value => cases value <;> rfl
  | setPpAmpacity ampacity => exact setPpAmpacity_latch cfg ampacity s
  | connectorForceUnlock => exact connectorForceUnlock_latch s
  | timeoutCaptiveLockReached =>
    simp only [start, startLock, captiveLockDebounced, onlyIf, Latch.step]
    split_ifs <;> simp_all [checkConnectorLock_latch] <;>
      simp_all [latch, lockSignals, unlockSignals]
  | setPwm | setAuthorized | setKeepCableLocked =>
    simp only [start, startLock]
    split_ifs
    all_goals first | rfl | exact checkConnectorLock_latch _
  | _ => rfl

/-! ## The switch -/

namespace Frame

variable (cfg : Config) (now : Int) (f : Frame)

theorem requestPower_latch : f.requestPower.s.latch = f.s.latch := by
  simp only [requestPower, onlyIf]
  split_ifs <;> rfl

theorem pwmChange_latch : f.pwmChange.s.latch = f.s.latch := by
  simp only [pwmChange, onlyIf]
  split_ifs <;> rfl

theorem c1Timeout_latch : (f.c1Timeout now).s.latch = f.s.latch := by
  simp only [c1Timeout, onlyIf]
  split_ifs <;> rfl

theorem powerInC2_latch : f.powerInC2.s.latch = f.s.latch := by
  simp only [powerInC2, onlyIf]
  split_ifs <;> rfl

theorem caseC_latch : (f.caseC now).s.latch = { f.s.latch with shouldBeLocked := true } := by
  rw [caseC, powerInC2_latch, c1Timeout_latch, pwmChange_latch, requestPower_latch]
  rfl

/-- The run calls `connector_unlock`, which resets the forced unlock. -/
def unlocks (cp : RawCPState) (s : State) : Bool :=
  match cp with
  | .Disabled => decide (s.lastCpState ≠ .Disabled)
  | .A => decide (s.lastCpState ≠ .A)
  | .B => !cfg.lockConnectorInStateB
  | .C | .D => false
  | .E => !s.stateETriggeredThroughHandle
  | .F => s.timeoutUnlockStateF.reached now

theorem switch_forceUnlocked (cp : RawCPState) :
    (f.switch cfg now cp).s.forceUnlocked = (f.s.forceUnlocked && !unlocks cfg now cp f.s) := by
  cases cp with
  | C => exact (congrArg Latch.forceUnlocked (caseC_latch now f)).trans (Bool.and_true _).symm
  | D =>
    simp only [switch, caseD, unlocks]
    split_ifs
    · exact (congrArg Latch.forceUnlocked (caseC_latch now _)).trans (Bool.and_true _).symm
    · exact (Bool.and_true _).symm
  | _ =>
    simp only [switch, caseDisabled, caseA, caseB, caseE, caseF, resetToX1, onlyIf,
      unlocks]
    split_ifs <;> simp_all [member, push, controlC1, connectorLock, connectorUnlock,
      callAllowPowerOnBsp, commandX1, emit]

theorem onlyIf_ask (b : Prop) [Decidable b] {g : Frame → Frame} {f : Frame} {lock forced : Bool}
    (h : (g f).s.latch.ask lock forced = f.s.latch.ask lock forced) :
    (onlyIf b g f).s.latch.ask lock forced = f.s.latch.ask lock forced :=
  onlyIf_frame (p := fun f : Frame => f.s.latch.ask lock forced) b h

theorem resetToX1_ask (lock forced : Bool) :
    f.resetToX1.s.latch.ask lock forced = f.s.latch.ask lock forced :=
  onlyIf_ask _ rfl

/-- A run changes two members of the lock only, before it checks the lock. -/
theorem switch_latch (cp : RawCPState) (lock forced : Bool) :
    (f.switch cfg now cp).s.latch.ask lock forced = f.s.latch.ask lock forced := by
  have hr := resetToX1_ask (f.member ({ · with pwmRunning := false })) lock forced
  cases cp with
  | Disabled => exact onlyIf_ask _ hr
  | A => exact (onlyIf_ask _ rfl).trans (onlyIf_ask _ hr)
  | B =>
    have hl : (f.member (if cfg.lockConnectorInStateB then connectorLock
        else connectorUnlock)).s.latch.ask lock forced = f.s.latch.ask lock forced := by
      split_ifs <;> rfl
    exact (onlyIf_ask _ rfl).trans ((onlyIf_ask _ rfl).trans ((onlyIf_ask _ rfl).trans hl))
  | C =>
    rw [switch, caseC_latch]
    rfl
  | D =>
    simp only [switch, caseD]
    split_ifs
    · rw [caseC_latch]
      rfl
    · rfl
  | E =>
    have hh : (onlyIf (f.s.stateETriggeredThroughHandle = false)
        (member connectorUnlock) (f.member ({ · with stateETriggeredThroughHandle := false
          }))).s.latch.ask lock forced = f.s.latch.ask lock forced := onlyIf_ask _ rfl
    refine Eq.trans (onlyIf_ask _ (Eq.trans (onlyIf_ask _ ?_) (Eq.trans (onlyIf_ask _ ?_) rfl))) hh
    · exact onlyIf_ask _ rfl
    · exact resetToX1_ask _ lock forced
  | F => exact (onlyIf_ask _ rfl).trans ((onlyIf_ask _ rfl).trans (onlyIf_ask _ rfl))

end Frame

/-- The frame in which `state_machine` runs the switch. -/
def entered (cp : RawCPState) (s : State) : Frame where
  s := s
  timerUnlockStateF :=
    if cp ≠ .F ∧ s.lastCpState = .F then TimerControl.stop else .doNothing

@[simp] theorem entered_s (cp : RawCPState) (s : State) : (entered cp s).s = s := rfl

/-- **A run asks for the lock or not, and then checks it.** -/
theorem stateMachine_latch (cpStateOpt : Option RawCPState) (now : Int) (s : State) :
    let cp := cpStateOpt.getD s.lastCpState
    ∃ lock, (stateMachine cfg cpStateOpt now s).s.latch =
      s.latch.step (.run lock (Frame.unlocks cfg now cp s)) := by
  intro cp
  set t := (Frame.switch cfg now cp (entered cp s)).s with ht
  have hf : t.latch.forceUnlocked = (s.latch.forceUnlocked && !Frame.unlocks cfg now cp s) :=
    Frame.switch_forceUnlocked cfg now (entered cp s) cp
  refine ⟨t.shouldBeLocked, ?_⟩
  calc (stateMachine cfg cpStateOpt now s).s.latch
      = t.checkConnectorLock.latch := rfl
    _ = (t.latch.ask t.shouldBeLocked t.latch.forceUnlocked).check := checkConnectorLock_latch t
    _ = s.latch.step (.run t.shouldBeLocked (Frame.unlocks cfg now cp s)) := by
      rw [hf, ht, Frame.switch_latch, entered_s]
      rfl

/-! ## The sections of all calls -/

section Sections

variable (cfg : Config) (now : Int) (s : State)

/-- **The first section of a call**, as the members of the control pilot and the BSP see it. -/
theorem start_views (op : Operation) :
    ((start cfg op now s).1.pilot = match op with
      | .allowPowerOn value _ =>
        { s.pilot with
          powerOnAllowed := value, passed := if value then s.pilot.passed else some false }
      | .setPwm value => { s.pilot with pwmRunning := !decide (1 ≤ value) && !decide (value ≤ 0) }
      | .setCpStateX1 | .setCpStateE | .setCpStateF => { s.pilot with pwmRunning := false }
      | _ => s.pilot) ∧
    powerCalls (start cfg op now s).1.log = match op with
      | .allowPowerOn false _ => ⟨false, .PowerOff, s.pwmRunning, false⟩ :: powerCalls s.log
      | _ => powerCalls s.log := by
  have hc := checkConnectorLock_pilot
  cases op with
  | bspEvent e =>
    cases e <;> simp only [start, processBspEvent, fromBspEvent] <;> split_ifs
    all_goals first | exact ⟨rfl, rfl⟩ | exact hc _
  | allowPowerOn value => cases value <;> exact ⟨rfl, rfl⟩
  | setPwm =>
    simp only [start]
    split_ifs with hX1 hF <;> refine ⟨?_, rfl⟩
    · simp [pilot, setCp, setCpFlags, hX1]
    · simp [pilot, setCp, setCpFlags, hF]
    · simp [pilot, setCp, setCpFlags, hX1, hF]
  | setPpAmpacity | connectorForceUnlock | setAuthorized | setKeepCableLocked
  | timeoutCaptiveLockReached =>
    simp only [start, setPpAmpacity, connectorForceUnlock, captiveLockDebounced, onlyIf]
    split_ifs
    all_goals first | exact ⟨rfl, rfl⟩ | exact hc _
  | _ => exact ⟨rfl, rfl⟩

theorem publish_views (cp : Option RawCPState) (events : List CPEvent) :
    (s.publish cp events).latch = s.latch ∧ (s.publish cp events).pilot = s.pilot ∧
      powerCalls (s.publish cp events).log = powerCalls s.log := by
  have he : ∀ (es : List CPEvent) (t : State), let t' := es.foldl (fun s e => s.emit (.event e)) t
      t'.latch = t.latch ∧ t'.pilot = t.pilot ∧ powerCalls t'.log = powerCalls t.log := by
    intro es
    induction es with
    | nil => exact fun _ => ⟨rfl, rfl, rfl⟩
    | cons e es ih => exact fun t => ih (t.emit (.event e))
  unfold publish
  cases cp with
  | none => exact he events s
  | some cp =>
    simp only [onlyIf]
    split_ifs <;> exact he events _

/-- **The next section of a call**, unless it is a run of `state_machine`. -/
theorem resume_views (t : Task) (ht : ∀ cp, t ≠ .feed cp) :
    (resume cfg t now s).1.latch = s.latch ∧ (resume cfg t now s).1.pilot = s.pilot ∧
      powerCalls (resume cfg t now s).1.log = powerCalls s.log := by
  cases t with
  | feed cp => exact absurd rfl (ht cp)
  | command c => cases c <;> exact ⟨rfl, rfl, rfl⟩
  | publish cp events => exact publish_views s cp events
  | debounceCaptiveLock =>
    simp only [resume, onlyIf]
    split_ifs <;> exact ⟨rfl, rfl, rfl⟩
  | _ => exact ⟨rfl, rfl, rfl⟩

end Sections

/-! ## Calls one after another -/

/-- No ventilation, no captive cable. -/
def socket : Config where
  lockConnectorInStateB := false
  useAuthorized := false
  keepCableLockedLockDelayMs := 0
  hasVentilation := false

/-- A call, and the sections that follow it without another thread in between. -/
def calls (op : Operation) (sections : Nat) : List (Action Operation Int) :=
  .call op 0 :: List.replicate sections (.proceed 0 0)

/-- The BSP reports the control pilot states `es`, each handled to the end. -/
def pilotStates (es : List BspEvent) : List (Action Operation Int) :=
  calls (.enable true) 0 ++ es.flatMap fun e => calls (.bspEvent e) 3

end EverestCore.Evse.Iec
