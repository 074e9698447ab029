import EverestCore.Lib.Cursor
import EverestCore.Lib.Machine

/-!
# The connectivity manager (`connectivity_manager.cpp`)

`ConnectivityManager` keeps the websocket to the CSMS alive. It dials the network connection
profiles in the order of `NetworkConfigurationPriority`, moves on to the next one when a profile
does not answer, and falls back to the last successful one when none does. Profiles below the
security profile in use are pruned.

* `cacheNetworkConnectionProfiles`, `checkCacheForInvalidSecurityProfiles`,
  `removeNetworkConnectionProfilesBelowActualSecurityProfile`, `ensureSlotInWorkingSet`: the four
  places that change the list of slots.
* `selectNextNetworkSlot`, `getNextConfigurationSlot`: the next slot to try.
* `tryConnectWebsocket`: one attempt. It starts connecting, or sets the timer to try the next slot.
* `Event`, `step`: the calls from outside, the callbacks of the websocket, the timer, and the
  changes of the device model. Each is one step. `usable` is what an attempt finds out about the
  slot that it tries: whether its URL is valid and the callback could configure the network
  interface.
* `Dial`: a start of `start_connecting`, with what the configuration said at that moment.

The configuration is the one of OCPP 2 (`DeviceModel`), in which `set_active_security_profile` and
`set_security_ctrl_security_profile` write the variable that `get_security_profile` reads. A change
of the stored profiles by others is one step with the reload that follows it, and writes to the
device model succeed.

Left out: the fields of a profile other than `securityProfile`, the reconnect backoff (it only
delays the timer), the callbacks to the charging station and the protocol version.
-/

namespace EverestCore.Ocpp.Connectivity

open EverestCore.Lib
open EverestCore.Lib.Cursor (position cap)

/-! ## Configuration -/

structure NetworkConnectionProfile where
  securityProfile : Nat
  deriving DecidableEq

structure SetNetworkProfileRequest where
  configurationSlot : Int
  connectionData : NetworkConnectionProfile

/-- What the device model stores about networks: the profile of each slot, the integers of
`NetworkConfigurationPriority` and `AllowSecurityLevelZeroConnections`. -/
structure NetworkConfiguration where
  profiles : Int → Option NetworkConnectionProfile
  priority : List Int
  allowSecurityLevelZero : Bool

inductive WebsocketCloseReason
  | Normal | ForceTcpDrop | GoingAway | AbnormalClose | ServiceRestart
  deriving DecidableEq

/-- What the websocket timer does when it expires: try the slot after `slot`, which could not be
used, or reconnect after the websocket stopped connecting. -/
inductive TimerTask
  | nextSlot (slot : Int)
  | reconnect (reason : WebsocketCloseReason)

/-- A start of `start_connecting`: the slot, its stored profile and `get_security_profile` then. -/
structure Dial where
  slot : Int
  profile : Option NetworkConnectionProfile
  securityProfile : Nat
  deriving DecidableEq

/-- The configuration, `NetworkProfileCacheState` and what decides about reconnecting. `dials` is
the history of the attempts, the last one first. -/
structure Manager where
  network : NetworkConfiguration
  securityProfile : Nat
  activeNetworkProfile : Option Int
  cachedProfiles : List SetNetworkProfileRequest := []
  slots : List Int := []
  activePriority : Nat := 0
  pendingConfigurationSlot : Option Int := none
  lastKnownSecurityLevel : Int := 0
  lastSuccessfulSlot : Option Int := none
  failedSlotsSinceSuccess : Nat := 0
  inFallback : Bool := false
  wantsToBeConnected : Bool := false
  websocketTimer : Option TimerTask := none
  dials : List Dial := []

namespace Manager

/-! ## Looking slots up -/

/-- Whether a profile may be used at all: security profile 0 has to be allowed. -/
def allowed (m : Manager) (p : NetworkConnectionProfile) : Bool :=
  m.network.allowSecurityLevelZero || p.securityProfile != 0

def getNetworkConnectionProfile (m : Manager) (slot : Int) : Option NetworkConnectionProfile :=
  match m.cachedProfiles.find? fun p => p.configurationSlot == slot with
  | none => none
  | some p => if m.allowed p.connectionData then some p.connectionData else none

def getActiveNetworkConfigurationSlot (m : Manager) : Option Int := m.slots[m.activePriority]?

/-- The slot of the pending attempt, else the active one. -/
def slotInUse (m : Manager) : Option Int :=
  match m.pendingConfigurationSlot with
  | some slot => some slot
  | none => m.getActiveNetworkConfigurationSlot

end Manager

/-- `get_next_configuration_slot`: the slot after `slot`, and after the last one the first. -/
def getNextConfigurationSlot (slots : List Int) (slot : Int) : Option Int :=
  match position slots slot with
  | some i => slots[(i + 1) % slots.length]?
  | none => slots[0]?

structure NextSlotSelection where
  slot : Int
  isFallback : Bool

def selectNextNetworkSlot (prioritySlots : List Int) (currentSlot : Int) (failed : Nat)
    (lastSuccessfulSlot : Option Int) (inFallback : Bool) : Option NextSlotSelection :=
  if prioritySlots = [] then none
  else match lastSuccessfulSlot with
    | some slot =>
      if inFallback || decide (prioritySlots.length ≤ failed) then some ⟨slot, true⟩
      else (getNextConfigurationSlot prioritySlots currentSlot).map (⟨·, false⟩)
    | none => (getNextConfigurationSlot prioritySlots currentSlot).map (⟨·, false⟩)

namespace Manager

/-! ## The list of slots -/

variable (m : Manager)

/-- `cache_network_connection_profiles`: the list is built again, and the index follows the slot in
use. -/
def cacheNetworkConnectionProfiles : Manager :=
  let slots := m.network.priority
  { m with
    cachedProfiles := slots.filterMap fun slot => (m.network.profiles slot).map (⟨slot, ·⟩)
    slots := slots
    inFallback := false
    failedSlotsSinceSuccess := 0
    activePriority := ((m.slotInUse.bind (position slots)).getD (cap slots m.activePriority))
    lastKnownSecurityLevel := -1 }

variable (slot : Int)

def isLowerSecurityLevel : Bool :=
  match m.getNetworkConnectionProfile slot with
  | none => true
  | some p => decide (p.securityProfile < m.securityProfile)

/-- The slot to try after slots were pruned: the one in use, or the next one where it is gone. -/
def pendingAfterPrune (slots : List Int) (before : Option Int) : Option Int :=
  match before with
  | none => none
  | some slot => if slot ∈ slots then some slot else getNextConfigurationSlot slots slot

/-- `check_cache_for_invalid_security_profiles`: nothing happens where the level is the one of the
last time. -/
def checkCacheForInvalidSecurityProfiles : Manager :=
  if m.lastKnownSecurityLevel = m.securityProfile then m
  else
    let slots := m.slots.filter fun slot => !m.isLowerSecurityLevel slot
    { m with
      lastKnownSecurityLevel := m.securityProfile
      slots := slots
      cachedProfiles := m.cachedProfiles.filter fun p =>
        !decide (p.connectionData.securityProfile < m.securityProfile)
      activePriority := cap slots m.activePriority
      pendingConfigurationSlot := pendingAfterPrune slots m.slotInUse }

/-- The slots whose cached profile is below the security profile. -/
def prunedSlots : List Int :=
  (m.cachedProfiles.filter fun p =>
    decide (p.connectionData.securityProfile < m.securityProfile)).map (·.configurationSlot)

/-- `remove_network_connection_profiles_below_actual_security_profile`: the pruned slots are gone
from the device model too. -/
def removeNetworkConnectionProfilesBelowActualSecurityProfile : Manager :=
  let pruned := m.prunedSlots
  if pruned = [] then m
  else
    let slots := m.slots.filter fun slot => decide (slot ∉ pruned)
    { m with
      cachedProfiles := m.cachedProfiles.filter fun p => decide (p.configurationSlot ∉ pruned)
      slots := slots
      activePriority := cap slots m.activePriority
      network := { m.network with
        profiles := fun slot => if slot ∈ pruned then none else m.network.profiles slot
        priority := slots } }

/-- `ensure_slot_in_working_set`: a slot that was pruned comes back from storage, at the end. -/
def ensureSlotInWorkingSet : Manager :=
  if slot ∈ m.slots then m
  else match m.network.profiles slot with
    | none => m
    | some profile =>
      { m with
        cachedProfiles :=
          if m.cachedProfiles.any fun p => p.configurationSlot == slot then m.cachedProfiles
          else m.cachedProfiles ++ [⟨slot, profile⟩]
        slots := m.slots ++ [slot] }

/-! ## Attempts -/

/-- The index and the stored profile with which an attempt on `slot` can be made. -/
def connectionFor : Option (Nat × NetworkConnectionProfile) :=
  match position m.slots slot, m.getNetworkConnectionProfile slot, m.network.profiles slot with
  | some priority, some _, some profile => some (priority, profile)
  | _, _, _ => none

/-- `start_connecting` on the websocket. -/
def startConnecting (priority : Nat) (profile : NetworkConnectionProfile) : Manager :=
  { m with
    pendingConfigurationSlot := none
    activePriority := priority
    dials := ⟨slot, some profile, m.securityProfile⟩ :: m.dials }

/-- The slot cannot be used: the timer tries the next one. -/
def retryLater : Manager :=
  if m.wantsToBeConnected then { m with websocketTimer := some (.nextSlot slot) } else m

/-- The attempt of `try_connect_websocket`, after the slots were checked. -/
def attempt (usable : Bool) (m : Manager) : Manager :=
  match m.slotInUse with
  | none => m
  | some slot =>
    match m.connectionFor slot with
    | some (priority, profile) =>
      if usable then m.startConnecting slot priority profile else m.retryLater slot
    | none => m.retryLater slot

def tryConnectWebsocket (usable : Bool) (m : Manager) : Manager :=
  m.checkCacheForInvalidSecurityProfiles.attempt usable

/-! ## Events -/

/-- The slot that `connect` is to use: the given one, else the active one. -/
def connectSlot (networkProfileSlot : Option Int) : Option Int :=
  if m.slots = [] then none
  else match networkProfileSlot with
    | some slot => some slot
    | none => m.getActiveNetworkConfigurationSlot

/-- The next attempt goes to `slot`, and the manager is to be connected. -/
def aimAt : Manager :=
  { m with pendingConfigurationSlot := some slot, wantsToBeConnected := true }

/-- `connect`. A websocket that is connected is closed first, and the reconnect comes with
`on_websocket_stopped_connecting`. -/
def connect (networkProfileSlot : Option Int) (connected usable : Bool) (m : Manager) : Manager :=
  match m.connectSlot networkProfileSlot with
  | none => m
  | some slot =>
    if (m.getNetworkConnectionProfile slot).isSome then
      if connected then m.aimAt slot else (m.aimAt slot).tryConnectWebsocket usable
    else { m with pendingConfigurationSlot := some slot }

/-- `disconnect`, `suppress_reconnect`. -/
def stopReconnecting : Manager :=
  { m with wantsToBeConnected := false, websocketTimer := none }

/-- `set_security_ctrl_security_profile` and `set_active_security_profile`, for the profile of
`slot`. -/
def adoptSecurityProfile : Manager :=
  match m.getNetworkConnectionProfile slot with
  | some p => { m with securityProfile := p.securityProfile }
  | none => m

def confirmSuccessfulConnection : Manager :=
  match m.getActiveNetworkConfigurationSlot with
  | none => m
  | some slot =>
    let m := m.adoptSecurityProfile slot
    let m := { m with
      activeNetworkProfile := some slot
      lastSuccessfulSlot := some slot
      failedSlotsSinceSuccess := 0
      inFallback := false }
    m.removeNetworkConnectionProfilesBelowActualSecurityProfile.checkCacheForInvalidSecurityProfiles

def onWebsocketConnected : Manager :=
  match m.getActiveNetworkConfigurationSlot with
  | none => m
  | some slot => m.adoptSecurityProfile slot

def onWebsocketStoppedConnecting (reason : WebsocketCloseReason) (m : Manager) : Manager :=
  if m.wantsToBeConnected then { m with websocketTimer := some (.reconnect reason) } else m

/-- The failures since the last success, once the active slot has used up its attempts. -/
def failedSlots : Nat :=
  if m.inFallback then m.failedSlotsSinceSuccess else m.failedSlotsSinceSuccess + 1

/-- What the timer selects after the slot `current` stopped connecting. -/
def nextSelection (current : Int) : Option NextSlotSelection :=
  selectNextNetworkSlot m.slots current m.failedSlots m.lastSuccessfulSlot m.inFallback

/-- The timer after a stopped connection: it moves on from the active slot. -/
def selectNext : Manager :=
  match m.getActiveNetworkConfigurationSlot with
  | none => m
  | some current =>
    let failed := { m with failedSlotsSinceSuccess := m.failedSlots }
    match m.nextSelection current with
    | none => failed
    | some ⟨slot, isFallback⟩ =>
      let m :=
        if isFallback then ({ failed with inFallback := true }).ensureSlotInWorkingSet slot
        else failed
      { m with pendingConfigurationSlot := some slot }

/-- What the timer does before it tries to connect. -/
def runTask : TimerTask → Manager
  | .nextSlot slot =>
    match getNextConfigurationSlot m.slots slot with
    | some next => { m with pendingConfigurationSlot := some next }
    | none => m
  | .reconnect reason => if reason = .ServiceRestart then m else m.selectNext

/-- The websocket timer expires. -/
def onTimer (usable : Bool) (m : Manager) : Manager :=
  match m.websocketTimer with
  | none => m
  | some task => (({ m with websocketTimer := none }).runTask task).tryConnectWebsocket usable

def setNetworkProfile (profile : NetworkConnectionProfile) (m : Manager) : Manager :=
  ({ m with network := { m.network with
      profiles := Function.update m.network.profiles slot (some profile) } }
  ).cacheNetworkConnectionProfiles

/-- `reload_network_profiles`, after the device model changed to `network`. -/
def reloadNetworkProfiles (network : NetworkConfiguration) (m : Manager) : Manager :=
  ({ m with network := network }).cacheNetworkConnectionProfiles

end Manager

/-- What happens to the manager. -/
inductive Event
  | connect (slot : Option Int) (connected usable : Bool)
  | disconnect
  | confirmSuccessfulConnection
  | websocketConnected
  | websocketStoppedConnecting (reason : WebsocketCloseReason)
  | timer (usable : Bool)
  | setNetworkProfile (slot : Int) (profile : NetworkConnectionProfile)
  | reloadNetworkProfiles (network : NetworkConfiguration)
  | securityProfileChanged (level : Nat)

/-- One event. -/
def step (m : Manager) : Event → Manager
  | .connect slot connected usable => m.connect slot connected usable
  | .disconnect => m.stopReconnecting
  | .confirmSuccessfulConnection => m.confirmSuccessfulConnection
  | .websocketConnected => m.onWebsocketConnected
  | .websocketStoppedConnecting reason => m.onWebsocketStoppedConnecting reason
  | .timer usable => m.onTimer usable
  | .setNetworkProfile slot profile => m.setNetworkProfile slot profile
  | .reloadNetworkProfiles network => m.reloadNetworkProfiles network
  | .securityProfileChanged level => { m with securityProfile := level }

/-- The constructor of `ConnectivityManager`. -/
def init (network : NetworkConfiguration) (securityProfile : Nat)
    (activeNetworkProfile : Option Int) : Manager :=
  { ({ network, securityProfile, activeNetworkProfile : Manager }).cacheNetworkConnectionProfiles
    with lastSuccessfulSlot := activeNetworkProfile }

end EverestCore.Ocpp.Connectivity
