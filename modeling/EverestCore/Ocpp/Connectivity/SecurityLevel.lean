import EverestCore.Ocpp.Connectivity.Manager

/-!
# No dial below the security profile in use

Before each attempt `check_cache_for_invalid_security_profiles` prunes the slots whose profile is
below the security profile, unless the level is the one it pruned for the last time. That is sound
as long as no slot enters the list between two prunes. `cache_network_connection_profiles` lists
every slot again and therefore forgets the level. The fallback puts the last successful slot back
into the list (`ensure_slot_in_working_set`) and does not: where that slot was pruned, because a
connection that was never confirmed raised the level, the next attempt dials it.

Results:
* **`dials_secure`**: in every history in which the fallback readmits no slot, each attempt goes to
  a profile of at least the security profile in use.
* `fallback_dials_pruned_slot`: the history in which it does not.
-/

namespace EverestCore.Ocpp.Connectivity

open EverestCore.Lib List
open EverestCore.Lib.Cursor (position mem_of_position)
open EverestCore.Lib.Machine (run Along run_invariant_along)

/-- The stored profile of the dialled slot has at least the security profile in use. -/
def Dial.secure (d : Dial) : Bool :=
  d.profile.any fun p => decide (d.securityProfile ≤ p.securityProfile)

namespace Manager

/-- The slot that the timer falls back to, where it does. -/
def fallbackSlot (m : Manager) : Option Int :=
  match m.websocketTimer, m.getActiveNetworkConfigurationSlot with
  | some (.reconnect reason), some current =>
    if reason = .ServiceRestart then none
    else (m.nextSelection current).bind fun s => if s.isFallback then some s.slot else none
  | _, _ => none

/-- Listing `slot` again would admit a profile that the prune for the present level took out: the
next check finds the level unchanged. -/
def admitsPruned (m : Manager) (slot : Int) : Bool :=
  decide (slot ∉ m.slots) && decide (m.lastKnownSecurityLevel = m.securityProfile) &&
    (m.network.profiles slot).any fun p =>
      m.allowed p && decide (p.securityProfile < m.securityProfile)

end Manager

/-- The event makes the fallback list a pruned slot again. -/
def readmits (m : Manager) : Event → Bool
  | .timer _ => m.fallbackSlot.any m.admitsPruned
  | _ => false

/-! ## The invariant -/

/-- The cached profiles are those of the device model. -/
def Mirrors (m : Manager) : Prop :=
  ∀ p ∈ m.cachedProfiles, m.network.profiles p.configurationSlot = some p.connectionData

/-- The listed profiles that may be used have at least the level of the last prune. -/
def Pruned (m : Manager) : Prop :=
  ∀ p ∈ m.cachedProfiles, p.configurationSlot ∈ m.slots → m.allowed p.connectionData →
    m.lastKnownSecurityLevel ≤ p.connectionData.securityProfile

/-- The cache can be trusted, and every attempt so far was secure. -/
structure Sound (m : Manager) : Prop where
  mirrors : Mirrors m
  pruned : Pruned m
  dials : ∀ d ∈ m.dials, d.secure

/-- What an attempt needs: the listed profiles are pruned where the check would not prune them. -/
structure Checkable (m : Manager) : Prop where
  mirrors : Mirrors m
  pruned : m.lastKnownSecurityLevel = m.securityProfile → Pruned m
  dials : ∀ d ∈ m.dials, d.secure

theorem Sound.checkable {m : Manager} (h : Sound m) : Checkable m :=
  ⟨h.mirrors, fun _ => h.pruned, h.dials⟩

namespace Manager

variable {m : Manager}

theorem exists_cached {slot : Int} {p : NetworkConnectionProfile}
    (h : m.getNetworkConnectionProfile slot = some p) :
    ⟨slot, p⟩ ∈ m.cachedProfiles ∧ m.allowed p := by
  unfold getNetworkConnectionProfile at h
  split at h
  · exact absurd h (by simp)
  · rename_i q hq
    split_ifs at h with hall
    obtain rfl := Option.some.inj h
    have hs : q.configurationSlot = slot := by simpa using find?_some hq
    exact ⟨hs ▸ mem_of_find?_eq_some hq, hall⟩

/-! ## The operations on the list -/

theorem cacheNetworkConnectionProfiles_sound (hd : ∀ d ∈ m.dials, d.secure) :
    Sound m.cacheNetworkConnectionProfiles := by
  refine ⟨?_, ?_, hd⟩
  · intro p hp
    obtain ⟨slot, -, hs⟩ := mem_filterMap.mp hp
    obtain ⟨profile, hpro, rfl⟩ := Option.map_eq_some_iff.mp hs
    exact hpro
  · -- the level is forgotten
    intro p _ _ _
    have : (-1 : Int) ≤ p.connectionData.securityProfile := by omega
    exact this

/-- **After the check, the level of the last prune is the present one, and the cache is sound.** -/
theorem checkCache_pruned (h : Checkable m) :
    Sound m.checkCacheForInvalidSecurityProfiles ∧
      m.checkCacheForInvalidSecurityProfiles.lastKnownSecurityLevel
        = m.checkCacheForInvalidSecurityProfiles.securityProfile := by
  unfold checkCacheForInvalidSecurityProfiles
  split_ifs with hle
  · exact ⟨⟨h.mirrors, h.pruned hle, h.dials⟩, hle⟩
  · refine ⟨⟨?_, ?_, h.dials⟩, rfl⟩
    · intro p hp
      exact h.mirrors p (mem_of_mem_filter hp)
    · intro p hp _ _
      have hk := (mem_filter.mp hp).2
      simp only [Bool.not_eq_true', decide_eq_false_iff_not, Nat.not_lt] at hk
      exact Int.ofNat_le.mpr hk

theorem remove_sound (h : Sound m) :
    Sound m.removeNetworkConnectionProfilesBelowActualSecurityProfile := by
  unfold removeNetworkConnectionProfilesBelowActualSecurityProfile
  dsimp only
  split_ifs with hno
  · exact h
  · refine ⟨?_, ?_, h.dials⟩
    · intro p hp
      obtain ⟨hp, hk⟩ := mem_filter.mp hp
      simp only [decide_eq_true_eq] at hk
      show (if p.configurationSlot ∈ m.prunedSlots then none else _) = _
      rw [if_neg hk]
      exact h.mirrors p hp
    · intro p hp hs hall
      exact h.pruned p (mem_of_mem_filter hp) (mem_of_mem_filter hs) hall

/-- Listing a slot again keeps the prune, unless it admits a pruned one. -/
theorem ensureSlot_checkable (h : Sound m) {slot : Int} (hsl : m.admitsPruned slot = false) :
    Checkable (m.ensureSlotInWorkingSet slot) := by
  unfold ensureSlotInWorkingSet
  by_cases hmem : slot ∈ m.slots
  · rw [if_pos hmem]
    exact h.checkable
  rw [if_neg hmem]
  split
  · exact h.checkable
  rename_i profile hpro
  -- the cached profile of the slot, new or not, is the stored one
  have hc : ∀ p ∈ (if m.cachedProfiles.any fun p => p.configurationSlot == slot
      then m.cachedProfiles else m.cachedProfiles ++ [⟨slot, profile⟩]),
      p ∈ m.cachedProfiles ∨ p = ⟨slot, profile⟩ := by
    intro p hp
    split_ifs at hp
    · exact .inl hp
    · simpa using hp
  have hm : ∀ p, p ∈ m.cachedProfiles ∨ p = ⟨slot, profile⟩ →
      m.network.profiles p.configurationSlot = some p.connectionData := by
    rintro p (hp | rfl)
    · exact h.mirrors p hp
    · exact hpro
  refine ⟨fun p hp => hm p (hc p hp), ?_, h.dials⟩
  intro hle p hp hl hall
  rcases mem_append.mp hl with hold | hnew
  · rcases hc p hp with hp | rfl
    · exact h.pruned p hp hold hall
    · exact absurd hold hmem
  · have hs := hm p (hc p hp)
    rw [mem_singleton.mp hnew, hpro] at hs
    obtain rfl := Option.some.inj hs
    have hlow : ¬ p.connectionData.securityProfile < m.securityProfile := by
      intro hlow
      refine absurd hsl ?_
      have hle : m.lastKnownSecurityLevel = m.securityProfile := hle
      have hall : m.allowed p.connectionData := hall
      simp [admitsPruned, hmem, hle, hpro, hall, hlow]
    have hle : m.lastKnownSecurityLevel = m.securityProfile := hle
    show m.lastKnownSecurityLevel ≤ _
    omega

/-! ## Attempts -/

theorem retryLater_sound (h : Sound m) (slot : Int) : Sound (m.retryLater slot) := by
  unfold retryLater
  split_ifs
  · exact ⟨h.mirrors, h.pruned, h.dials⟩
  · exact h

/-- What an attempt dials is listed, and stored with the profile that the cache holds. -/
theorem connectionFor_secure (h : Sound m)
    (hl : m.lastKnownSecurityLevel = m.securityProfile) {slot : Int} {priority : Nat}
    {profile : NetworkConnectionProfile} (hc : m.connectionFor slot = some (priority, profile)) :
    m.securityProfile ≤ profile.securityProfile := by
  unfold connectionFor at hc
  split at hc
  · rename_i i p q hi hp hq
    obtain ⟨-, rfl⟩ := Prod.mk.inj (Option.some.inj hc)
    obtain ⟨hcac, hall⟩ := exists_cached hp
    have hs := h.mirrors _ hcac
    rw [hq] at hs
    obtain rfl := Option.some.inj hs
    have hle := h.pruned _ hcac (mem_of_position hi) hall
    rw [hl] at hle
    exact Int.ofNat_le.mp hle
  · exact absurd hc (by simp)

theorem attempt_sound (h : Sound m) (hle : m.lastKnownSecurityLevel = m.securityProfile)
    (usable : Bool) : Sound (m.attempt usable) := by
  unfold attempt
  split
  · exact h
  split
  · rename_i priority profile hc
    split_ifs
    · refine ⟨h.mirrors, h.pruned, ?_⟩
      intro d hd
      rcases mem_cons.mp hd with rfl | hd
      · simpa [Dial.secure] using connectionFor_secure h hle hc
      · exact h.dials d hd
    · exact retryLater_sound h _
  · exact retryLater_sound h _

theorem tryConnectWebsocket_sound (h : Checkable m) (usable : Bool) :
    Sound (m.tryConnectWebsocket usable) := by
  obtain ⟨hs, hle⟩ := checkCache_pruned h
  exact attempt_sound hs hle usable

/-! ## Events -/

theorem adoptSecurityProfile_sound (h : Sound m) (slot : Int) :
    Sound (m.adoptSecurityProfile slot) := by
  unfold adoptSecurityProfile
  split
  · exact ⟨h.mirrors, h.pruned, h.dials⟩
  · exact h

theorem connect_sound (h : Sound m) (slot : Option Int) (connected usable : Bool) :
    Sound (m.connect slot connected usable) := by
  unfold connect
  split
  · exact h
  rename_i slot _
  have ha : Sound (m.aimAt slot) := ⟨h.mirrors, h.pruned, h.dials⟩
  split
  · split
    · exact ha
    · exact tryConnectWebsocket_sound ha.checkable usable
  · exact ⟨h.mirrors, h.pruned, h.dials⟩

theorem confirmSuccessfulConnection_sound (h : Sound m) : Sound m.confirmSuccessfulConnection := by
  unfold confirmSuccessfulConnection
  split
  · exact h
  rename_i slot _
  have ha := adoptSecurityProfile_sound h slot
  have hrem : Sound { m.adoptSecurityProfile slot with
      activeNetworkProfile := some slot, lastSuccessfulSlot := some slot,
      failedSlotsSinceSuccess := 0, inFallback := false } :=
    ⟨ha.mirrors, ha.pruned, ha.dials⟩
  exact (checkCache_pruned (remove_sound hrem).checkable).1

/-- The timer may list the last successful slot again, but no pruned one. -/
theorem selectNext_checkable (h : Sound m)
    (hf : ∀ current selection, m.getActiveNetworkConfigurationSlot = some current →
      m.nextSelection current = some selection → selection.isFallback →
      m.admitsPruned selection.slot = false) :
    Checkable m.selectNext := by
  unfold selectNext
  split
  · exact h.checkable
  rename_i current hc
  split
  · exact ⟨h.mirrors, fun _ => h.pruned, h.dials⟩
  rename_i slot isFallback hsel
  split_ifs with hfal
  · have hfl : Sound { m with
        failedSlotsSinceSuccess := m.failedSlots, inFallback := true } :=
      ⟨h.mirrors, h.pruned, h.dials⟩
    have hadm : m.admitsPruned slot = false := hf current _ hc hsel hfal
    have hl := ensureSlot_checkable hfl hadm
    exact ⟨hl.mirrors, hl.pruned, hl.dials⟩
  · exact ⟨h.mirrors, fun _ => h.pruned, h.dials⟩

theorem runTask_checkable (h : Sound m) {task : TimerTask} (ht : m.websocketTimer = some task)
    (hf : m.fallbackSlot.any m.admitsPruned = false) :
    Checkable (({ m with websocketTimer := none }).runTask task) := by
  have hs : Sound { m with websocketTimer := none } := ⟨h.mirrors, h.pruned, h.dials⟩
  unfold runTask
  cases task with
  | nextSlot slot =>
    dsimp only
    split
    · exact ⟨h.mirrors, fun _ => h.pruned, h.dials⟩
    · exact hs.checkable
  | reconnect reason =>
    dsimp only
    split_ifs with hr
    · exact hs.checkable
    · refine selectNext_checkable hs ?_
      intro current selection hc hsel hfal
      have hsl : m.fallbackSlot = some selection.slot := by
        have hact : m.getActiveNetworkConfigurationSlot = some current := hc
        have hne : m.nextSelection current = some selection := hsel
        simp [fallbackSlot, ht, hact, hne, hr, hfal]
      rw [hsl] at hf
      exact hf

end Manager

open Manager

/-- **An event that readmits no pruned slot keeps the cache sound and the dials secure.** -/
theorem step_sound (m : Manager) (e : Event) (he : readmits m e = false) (h : Sound m) :
    Sound (step m e) := by
  cases e with
  | connect slot connected usable => exact connect_sound h slot connected usable
  | disconnect | securityProfileChanged => exact ⟨h.mirrors, h.pruned, h.dials⟩
  | confirmSuccessfulConnection => exact confirmSuccessfulConnection_sound h
  | websocketConnected =>
    simp only [step, onWebsocketConnected]
    split
    · exact h
    · exact adoptSecurityProfile_sound h _
  | websocketStoppedConnecting =>
    simp only [step, onWebsocketStoppedConnecting]
    split_ifs
    · exact ⟨h.mirrors, h.pruned, h.dials⟩
    · exact h
  | timer usable =>
    simp only [step, onTimer]
    split
    · exact h
    · rename_i task ht
      exact tryConnectWebsocket_sound (runTask_checkable h ht he) usable
  | setNetworkProfile | reloadNetworkProfiles => exact cacheNetworkConnectionProfiles_sound h.dials

theorem init_sound (network : NetworkConfiguration) (level : Nat) (active : Option Int) :
    Sound (init network level active) := by
  have h := cacheNetworkConnectionProfiles_sound
    (m := { network, securityProfile := level, activeNetworkProfile := active }) (by simp)
  exact ⟨h.mirrors, h.pruned, h.dials⟩

/-- **No security downgrade on dialling: where the fallback never lists a pruned slot again, each
attempt goes to a stored profile of at least the security profile in use.** -/
theorem dials_secure (network : NetworkConfiguration) (level : Nat) (active : Option Int)
    (es : List Event)
    (hes : Along step (fun m e => readmits m e = false) (init network level active) es) :
    ∀ d ∈ (run step (init network level active) es).dials, d.secure :=
  (run_invariant_along (fun m e he h => step_sound m e he h) es hes
    (init_sound network level active)).dials

/-! ## The fallback lists a pruned slot again -/

/-- Slot 1 has security profile 1 and slot 2 security profile 2. -/
def twoProfiles : NetworkConfiguration where
  profiles slot := if slot = 1 then some ⟨1⟩ else if slot = 2 then some ⟨2⟩ else none
  priority := [1, 2]
  allowSecurityLevelZero := false

/-- Slot 1 is confirmed. When it stops connecting, slot 2 connects, which raises the security
profile to 2, and closes before it is confirmed. -/
def unconfirmedUpgrade : List Event :=
  [.connect none false true, .websocketConnected, .confirmSuccessfulConnection,
    .websocketStoppedConnecting .AbnormalClose, .timer true, .websocketConnected,
    .websocketStoppedConnecting .AbnormalClose, .timer true]

/-- A history without a fallback: slot 2 is dialled again, since slot 1 was pruned. -/
theorem dials_secure_unconfirmedUpgrade :
    Along step (fun m e => readmits m e = false) (init twoProfiles 1 none) unconfirmedUpgrade ∧
      ∀ d ∈ (run step (init twoProfiles 1 none) unconfirmedUpgrade).dials, d.secure :=
  ⟨by decide, dials_secure _ _ _ _ (by decide)⟩

/-- When slot 2 fails once more, the fallback dials slot 1, with security profile 1 below 2. -/
theorem fallback_dials_pruned_slot :
    (run step (init twoProfiles 1 none) (unconfirmedUpgrade ++
        [.websocketStoppedConnecting .AbnormalClose, .timer true])).dials.head?
      = some ⟨1, some ⟨1⟩, 2⟩ ∧
    (⟨1, some ⟨1⟩, 2⟩ : Dial).secure = false := by
  decide

end EverestCore.Ocpp.Connectivity
