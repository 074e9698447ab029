import EverestCore.Ocpp.Connectivity.Manager

/-!
# The active slot and the live connection

`active_priority` is an index into the list of slots. `try_connect_websocket` sets it to the slot
that it dials, and the rest of the manager reads it to tell which profile is in use. The list is
shortened by the two prunes, which only cap the index, and built again by a reload, which makes the
index follow the pending slot where there is one. So the index may name another slot than the one
of the connection that is open.

Results:
* **`active_slot_names_live_connection`**: in every history whose events do not slip, the active
  slot is the one of the live connection.
* `prune_renames_active_slot`: the confirmation after which it is not.
-/

namespace EverestCore.Ocpp.Connectivity

open EverestCore.Lib Option
open EverestCore.Lib.Cursor (position cap Settles getElem?_position position_of_mem
  getElem?_filter_cap)
open EverestCore.Lib.Machine (run Along run_invariant_along)

/-! ## The live connection -/

/-- The manager, and the slot of the last dial while it is in the list. -/
abbrev Tracked := Manager × Option Int

/-- One event. A dial begins a new connection. -/
def track (c : Tracked) (e : Event) : Tracked :=
  let m := step c.1 e
  (m, if c.1.dials.length < m.dials.length then m.dials.head?.map (·.slot)
      else c.2.filter fun slot => decide (slot ∈ m.slots))

/-! ## Where the index slips -/

namespace Manager

variable (m : Manager)

/-- Shortening the list to `keep` leaves the active slot in it, but not at the index. -/
def slipsTo (keep : Int → Bool) : Bool :=
  m.getActiveNetworkConfigurationSlot.any keep && !decide (Settles keep m.slots m.activePriority)

/-- The check prunes and slips. -/
def checkSlips : Bool :=
  decide (m.lastKnownSecurityLevel ≠ m.securityProfile) &&
    m.slipsTo fun slot => !m.isLowerSecurityLevel slot

/-- The removal after a confirmation slips. -/
def removeSlips : Bool := m.slipsTo fun slot => decide (slot ∉ m.prunedSlots)

/-- Building the list again from `priority` keeps the active slot in it, but another slot is
pending: the index follows that one, or stays where the list has something else. -/
def reloadSlips (priority : List Int) : Bool :=
  match m.getActiveNetworkConfigurationSlot, m.pendingConfigurationSlot with
  | some slot, some pending =>
    decide (pending ≠ slot) && decide (slot ∈ priority) &&
      (decide (pending ∈ priority) ||
        decide (priority[cap priority m.activePriority]? ≠ some slot))
  | _, _ => false

/-- The attempt, once the slots were checked, starts connecting. -/
def dials? (usable : Bool) (m : Manager) : Bool :=
  usable && (m.slotInUse.bind m.connectionFor).isSome

/-- `try_connect_websocket` slips and then dials nothing. -/
def tryConnectSlips (usable : Bool) (m : Manager) : Bool :=
  m.checkSlips && !m.checkCacheForInvalidSecurityProfiles.dials? usable

/-- What `confirm_successful_connection` writes down before it prunes. -/
def rememberSuccess (slot : Int) : Manager :=
  { m.adoptSecurityProfile slot with
    activeNetworkProfile := some slot
    lastSuccessfulSlot := some slot
    failedSlotsSinceSuccess := 0
    inFallback := false }

end Manager

open Manager

/-- The event changes what the index names, and dials nothing. -/
def slips (m : Manager) : Event → Bool
  | .connect slot connected usable =>
    (m.connectSlot slot).any fun slot =>
      (m.getNetworkConnectionProfile slot).isSome && !connected &&
        (m.aimAt slot).tryConnectSlips usable
  | .confirmSuccessfulConnection =>
    m.getActiveNetworkConfigurationSlot.any fun slot =>
      let m := m.rememberSuccess slot
      m.removeSlips || m.removeNetworkConnectionProfilesBelowActualSecurityProfile.checkSlips
  | .timer usable =>
    m.websocketTimer.any fun task =>
      (({ m with websocketTimer := none }).runTask task).tryConnectSlips usable
  | .setNetworkProfile _ _ => m.reloadSlips m.network.priority
  | .reloadNetworkProfiles network => m.reloadSlips network.priority
  | _ => false

/-! ## What keeps the active slot -/

/-- Nothing is dialled, and the active slot stays the active one if it stays in the list. -/
structure Keeps (m m' : Manager) : Prop where
  dials : m'.dials = m.dials
  active : ∀ slot, m.getActiveNetworkConfigurationSlot = some slot → slot ∈ m'.slots →
    m'.getActiveNetworkConfigurationSlot = some slot

theorem Keeps.refl (m : Manager) : Keeps m m := ⟨rfl, fun _ h _ => h⟩

/-- Operations that only shorten the list compose with what came before. -/
theorem Keeps.trans {m m' m'' : Manager} (h : Keeps m m') (h' : Keeps m' m'')
    (hsub : ∀ slot ∈ m''.slots, slot ∈ m'.slots) : Keeps m m'' where
  dials := h'.dials.trans h.dials
  active := fun slot hs hmem => h'.active slot (h.active slot hs (hsub slot hmem)) hmem

/-- Nothing changes but fields that the active slot does not depend on. -/
theorem Keeps.of_eq {m m' : Manager} (hd : m'.dials = m.dials) (hs : m'.slots = m.slots)
    (hact : m'.activePriority = m.activePriority) : Keeps m m' := by
  refine ⟨hd, fun slot hst _ => ?_⟩
  unfold getActiveNetworkConfigurationSlot at *
  rw [hs, hact]
  exact hst

/-- An event keeps the active slot, or dials and makes the dialled slot the active one. -/
inductive Follows (m m' : Manager) : Prop
  | keeps (h : Keeps m m')
  | dials (d : Dial) (hdials : m'.dials = d :: m.dials)
      (hactive : m'.getActiveNetworkConfigurationSlot = some d.slot)

namespace Manager

variable {m : Manager}

/-- Shortening the list to `keep` and capping the index, where that does not slip. -/
theorem active_filter {keep : Int → Bool} (h : m.slipsTo keep = false) {slot : Int}
    (hs : m.getActiveNetworkConfigurationSlot = some slot) (hmem : slot ∈ m.slots.filter keep) :
    (m.slots.filter keep)[cap (m.slots.filter keep) m.activePriority]? = some slot := by
  have hk : keep slot := (List.mem_filter.mp hmem).2
  refine getElem?_filter_cap hs hk ?_
  simpa [slipsTo, hs, hk] using h

theorem checkCache_slots_subset :
    ∀ slot ∈ m.checkCacheForInvalidSecurityProfiles.slots, slot ∈ m.slots := by
  unfold checkCacheForInvalidSecurityProfiles
  split_ifs
  · exact fun _ h => h
  · exact fun _ h => List.mem_of_mem_filter h

theorem checkCache_dials (m : Manager) :
    m.checkCacheForInvalidSecurityProfiles.dials = m.dials := by
  unfold checkCacheForInvalidSecurityProfiles
  split <;> rfl

theorem checkCache_keeps (h : m.checkSlips = false) :
    Keeps m m.checkCacheForInvalidSecurityProfiles := by
  unfold checkCacheForInvalidSecurityProfiles
  split_ifs with hle
  · exact Keeps.refl m
  · have hs : (m.slipsTo fun slot => !m.isLowerSecurityLevel slot) = false := by
      simpa [checkSlips, hle] using h
    exact ⟨rfl, fun _ hst hmem => active_filter hs hst hmem⟩

theorem remove_keeps (h : m.removeSlips = false) :
    Keeps m m.removeNetworkConnectionProfilesBelowActualSecurityProfile := by
  unfold removeNetworkConnectionProfilesBelowActualSecurityProfile
  dsimp only
  split_ifs
  · exact Keeps.refl m
  · exact ⟨rfl, fun _ hs hmem => active_filter h hs hmem⟩

/-- The index follows the active slot, unless another one is pending. -/
theorem cacheNetworkConnectionProfiles_keeps (h : m.reloadSlips m.network.priority = false) :
    Keeps m m.cacheNetworkConnectionProfiles := by
  refine ⟨rfl, fun slot hs hmem => ?_⟩
  have hmem : slot ∈ m.network.priority := hmem
  show m.network.priority[(m.slotInUse.bind (position m.network.priority)).getD
    (cap m.network.priority m.activePriority)]? = some slot
  obtain ⟨i, hi⟩ := position_of_mem hmem
  cases hpen : m.pendingConfigurationSlot with
  | none =>
    rw [slotInUse, hpen, hs, bind_some, hi, getD_some]
    exact getElem?_position hi
  | some pending =>
    rw [slotInUse, hpen, bind_some]
    by_cases hsa : pending = slot
    · rw [hsa, hi, getD_some]
      exact getElem?_position hi
    · -- the pending slot is not listed, and the index still names the active one
      simp only [reloadSlips, hs, hpen, ne_eq, hsa, not_false_eq_true, decide_true, hmem,
        Bool.and_self, Bool.true_and, Bool.or_eq_false_iff, decide_eq_false_iff_not,
        Decidable.not_not] at h
      obtain ⟨hpos, hcap⟩ := h
      have hno : position m.network.priority pending = none := by
        cases hp : position m.network.priority pending with
        | none => rfl
        | some j => exact absurd (Cursor.mem_of_position hp) hpos
      rw [hno, getD_none]
      exact hcap

variable (slot : Int)

/-- A slot that comes back stands at the end, behind the active one. -/
theorem ensureSlotInWorkingSet_keeps : Keeps m (m.ensureSlotInWorkingSet slot) := by
  unfold ensureSlotInWorkingSet
  split
  · exact Keeps.refl m
  split
  · exact Keeps.refl m
  · refine ⟨rfl, fun current hc _ => ?_⟩
    obtain ⟨hlt, -⟩ := List.getElem?_eq_some_iff.mp hc
    show (m.slots ++ [slot])[m.activePriority]? = some current
    rw [List.getElem?_append_left hlt]
    exact hc

/-! ## Attempts -/

theorem retryLater_keeps : Keeps m (m.retryLater slot) := by
  unfold retryLater
  split
  · exact Keeps.of_eq rfl rfl rfl
  · exact Keeps.refl m

theorem retryLater_slots : (m.retryLater slot).slots = m.slots := by
  unfold retryLater
  split <;> rfl

theorem position_of_connectionFor {slot : Int} {priority : Nat}
    {profile : NetworkConnectionProfile} (h : m.connectionFor slot = some (priority, profile)) :
    position m.slots slot = some priority := by
  unfold connectionFor at h
  split at h
  · rename_i hpos _ _
    rw [hpos, (Prod.mk.inj (Option.some.inj h)).1]
  · exact absurd h (by simp)

variable {usable : Bool}

/-- An attempt that does not dial changes neither list nor index. -/
theorem attempt_keeps (h : m.dials? usable = false) :
    Keeps m (m.attempt usable) ∧ (m.attempt usable).slots = m.slots := by
  unfold attempt
  split
  · exact ⟨Keeps.refl m, rfl⟩
  rename_i slot hs
  split
  · rename_i priority profile hc
    have hu : usable = false := by simpa [dials?, hs, hc] using h
    rw [if_neg (by simp [hu])]
    exact ⟨retryLater_keeps slot, retryLater_slots slot⟩
  · exact ⟨retryLater_keeps slot, retryLater_slots slot⟩

theorem attempt_dials (h : m.dials? usable) :
    ∃ d : Dial, (m.attempt usable).dials = d :: m.dials ∧
      (m.attempt usable).getActiveNetworkConfigurationSlot = some d.slot := by
  obtain ⟨hu, hc⟩ := Bool.and_eq_true_iff.mp h
  obtain ⟨⟨priority, profile⟩, hc⟩ := isSome_iff_exists.mp hc
  obtain ⟨slot, hs, hc⟩ := bind_eq_some_iff.mp hc
  refine ⟨⟨slot, some profile, m.securityProfile⟩, ?_⟩
  simp only [attempt, hs, hc, hu, if_true]
  exact ⟨rfl, getElem?_position (position_of_connectionFor hc)⟩

/-- What came before an attempt kept the active slot: the attempt keeps it, or dials. -/
theorem tryConnectWebsocket_follows {m₀ : Manager} (h₀ : Keeps m₀ m)
    (h : m.tryConnectSlips usable = false) : Follows m₀ (m.tryConnectWebsocket usable) := by
  unfold tryConnectWebsocket
  cases hdi : m.checkCacheForInvalidSecurityProfiles.dials? usable with
  | true =>
    obtain ⟨d, hd, hact⟩ := attempt_dials hdi
    exact .dials d (by rw [hd, checkCache_dials, h₀.dials]) hact
  | false =>
    have hs : m.checkSlips = false := by simpa [tryConnectSlips, hdi] using h
    obtain ⟨hk, hst⟩ := attempt_keeps hdi
    have hc := h₀.trans (checkCache_keeps hs) checkCache_slots_subset
    refine .keeps (hc.trans hk ?_)
    rw [hst]
    exact fun _ h => h

/-! ## Events -/

theorem selectNext_keeps : Keeps m m.selectNext := by
  unfold selectNext
  split
  · exact Keeps.refl m
  split
  · exact Keeps.of_eq rfl rfl rfl
  rename_i slot isFallback _
  cases isFallback with
  | false => exact Keeps.of_eq rfl rfl rfl
  | true =>
    have hl := ensureSlotInWorkingSet_keeps
      (m := { m with failedSlotsSinceSuccess := m.failedSlots, inFallback := true }) slot
    exact ⟨hl.dials, hl.active⟩

theorem runTask_keeps (task : TimerTask) : Keeps m (m.runTask task) := by
  unfold runTask
  cases task with
  | nextSlot slot =>
    dsimp only
    split
    · exact Keeps.of_eq rfl rfl rfl
    · exact Keeps.refl m
  | reconnect reason =>
    dsimp only
    split
    · exact Keeps.refl m
    · exact selectNext_keeps

theorem adoptSecurityProfile_keeps : Keeps m (m.adoptSecurityProfile slot) := by
  unfold adoptSecurityProfile
  split
  · exact Keeps.of_eq rfl rfl rfl
  · exact Keeps.refl m

theorem confirmSuccessfulConnection_keeps
    (h : slips m .confirmSuccessfulConnection = false) : Keeps m m.confirmSuccessfulConnection := by
  unfold confirmSuccessfulConnection
  split
  · exact Keeps.refl m
  rename_i slot hs
  simp only [slips, hs, any_some, Bool.or_eq_false_iff] at h
  have ha := adoptSecurityProfile_keeps (m := m) slot
  have hrem : Keeps m (m.rememberSuccess slot) := ⟨ha.dials, ha.active⟩
  have hr := hrem.trans (remove_keeps h.1) (by
    unfold removeNetworkConnectionProfilesBelowActualSecurityProfile
    dsimp only
    split
    · exact fun _ h => h
    · exact fun _ h => List.mem_of_mem_filter h)
  exact hr.trans (checkCache_keeps h.2) checkCache_slots_subset

theorem connect_follows {slot : Option Int} {connected : Bool}
    (h : slips m (.connect slot connected usable) = false) :
    Follows m (m.connect slot connected usable) := by
  unfold connect
  split
  · exact .keeps (Keeps.refl m)
  rename_i target ht
  have ha : Keeps m (m.aimAt target) := Keeps.of_eq rfl rfl rfl
  split
  · rename_i hp
    cases connected with
    | true => exact .keeps ha
    | false =>
      refine tryConnectWebsocket_follows ha ?_
      simpa [slips, ht, hp] using h
  · exact .keeps (Keeps.of_eq rfl rfl rfl)

theorem onTimer_follows (h : slips m (.timer usable) = false) : Follows m (m.onTimer usable) := by
  unfold onTimer
  split
  · exact .keeps (Keeps.refl m)
  rename_i task ht
  have hran := runTask_keeps (m := { m with websocketTimer := none }) task
  refine tryConnectWebsocket_follows ⟨hran.dials, hran.active⟩ ?_
  simpa [slips, ht] using h

end Manager

/-- **An event that does not slip leaves the active slot, or dials the slot that it makes
active.** -/
theorem step_follows {m : Manager} {e : Event} (h : slips m e = false) : Follows m (step m e) := by
  cases e with
  | connect => exact connect_follows h
  | disconnect | securityProfileChanged => exact .keeps (Keeps.of_eq rfl rfl rfl)
  | confirmSuccessfulConnection => exact .keeps (confirmSuccessfulConnection_keeps h)
  | websocketConnected =>
    simp only [step, onWebsocketConnected]
    split
    · exact .keeps (Keeps.refl m)
    · exact .keeps (adoptSecurityProfile_keeps _)
  | websocketStoppedConnecting =>
    simp only [step, onWebsocketStoppedConnecting]
    split
    · exact .keeps (Keeps.of_eq rfl rfl rfl)
    · exact .keeps (Keeps.refl m)
  | timer => exact onTimer_follows h
  | setNetworkProfile slot profile =>
    have hk := cacheNetworkConnectionProfiles_keeps (m := { m with network :=
      { m.network with profiles := Function.update m.network.profiles slot (some profile) } }) h
    exact .keeps ⟨hk.dials, hk.active⟩
  | reloadNetworkProfiles network =>
    have hk := cacheNetworkConnectionProfiles_keeps (m := { m with network := network }) h
    exact .keeps ⟨hk.dials, hk.active⟩

/-! ## Dials -/

/-- Nothing is dialled, or one slot, which is the active one then. -/
def Dials (m m' : Manager) : Prop :=
  m'.dials = m.dials ∨ ∃ d : Dial, m'.dials = d :: m.dials ∧
    m'.getActiveNetworkConfigurationSlot = some d.slot

namespace Manager

variable {m : Manager}

theorem tryConnectWebsocket_dials {m₀ : Manager} (h₀ : m.dials = m₀.dials) (usable : Bool) :
    Dials m₀ (m.tryConnectWebsocket usable) := by
  have hc := h₀ ▸ m.checkCache_dials
  unfold tryConnectWebsocket
  cases hdi : m.checkCacheForInvalidSecurityProfiles.dials? usable with
  | true =>
    obtain ⟨d, hd, hact⟩ := attempt_dials hdi
    exact .inr ⟨d, by rw [hd, hc], hact⟩
  | false => exact .inl ((attempt_keeps hdi).1.dials.trans hc)

theorem confirmSuccessfulConnection_dials : m.confirmSuccessfulConnection.dials = m.dials := by
  unfold confirmSuccessfulConnection
  split
  · rfl
  rename_i slot _
  rw [checkCache_dials]
  have ha : (m.adoptSecurityProfile slot).dials = m.dials :=
    (adoptSecurityProfile_keeps slot).dials
  unfold removeNetworkConnectionProfilesBelowActualSecurityProfile
  dsimp only
  split
  · exact ha
  · exact ha

end Manager

theorem step_dials (m : Manager) (e : Event) : Dials m (step m e) := by
  cases e with
  | connect _ _ usable =>
    simp only [step, Manager.connect]
    split
    · exact .inl rfl
    split
    · split
      · exact .inl rfl
      · exact tryConnectWebsocket_dials rfl usable
    · exact .inl rfl
  | confirmSuccessfulConnection => exact .inl confirmSuccessfulConnection_dials
  | timer usable =>
    simp only [step, onTimer]
    split
    · exact .inl rfl
    · exact tryConnectWebsocket_dials (runTask_keeps _).dials usable
  | websocketConnected =>
    simp only [step, onWebsocketConnected]
    split
    · exact .inl rfl
    · exact .inl (adoptSecurityProfile_keeps _).dials
  | websocketStoppedConnecting =>
    simp only [step, onWebsocketStoppedConnecting]
    split
    · exact .inl rfl
    · exact .inl rfl
  | _ => exact .inl rfl

/-! ## Histories -/

/-- The active slot is the one of the live connection. -/
def Names (c : Tracked) : Prop :=
  ∀ slot, c.2 = some slot → c.1.getActiveNetworkConfigurationSlot = some slot

theorem track_names (c : Tracked) (e : Event) (he : c.2.isSome → slips c.1 e = false)
    (h : Names c) : Names (track c e) := by
  intro slot hs
  rcases step_dials c.1 e with hsa | ⟨d, hd, hact⟩
  · -- nothing was dialled, so the connection was live before
    have hl : (c.2.filter fun slot => decide (slot ∈ (step c.1 e).slots)) = some slot := by
      simpa [track, hsa] using hs
    obtain ⟨hl, hmem⟩ := filter_eq_some_iff.mp hl
    rcases step_follows (he (by simp [hl])) with hk | ⟨d, hd, -⟩
    · exact hk.active slot (h slot hl) (of_decide_eq_true hmem)
    · rw [hsa] at hd
      exact absurd hd (List.cons_ne_self d _).symm
  · have hl : some d.slot = some slot := by simpa [track, hd] using hs
    rw [← hl]
    exact hact

/-- **The active slot names the live connection: where no event slips while a connection is live,
the active slot is the one that was dialled last, as long as it stays in the list.** -/
theorem active_slot_names_live_connection (network : NetworkConfiguration) (level : Nat)
    (active : Option Int) (es : List Event)
    (hes : Along track (fun c e => c.2.isSome → slips c.1 e = false)
      (init network level active, none) es) (slot : Int)
    (hlive : (run track (init network level active, none) es).2 = some slot) :
    (run track (init network level active, none) es).1.getActiveNetworkConfigurationSlot
      = some slot :=
  run_invariant_along (I := Names) track_names es hes (by simp [Names]) slot hlive

/-! ## A prune renames the active slot -/

/-- The slots 1, 2 and 3 have the security profiles 1, 2 and 3. -/
def threeProfiles : NetworkConfiguration where
  profiles slot := if slot = 1 ∨ slot = 2 ∨ slot = 3 then some ⟨slot.toNat⟩ else none
  priority := [1, 2, 3]
  allowSecurityLevelZero := false

/-- The connection to slot 1 is confirmed, and the list is reloaded. -/
theorem active_slot_names_first_slot :
    (run track (init threeProfiles 1 none, none)
      [.connect none false true, .websocketConnected, .confirmSuccessfulConnection,
        .reloadNetworkProfiles { threeProfiles with priority := [3, 2, 1] }]
      ).1.getActiveNetworkConfigurationSlot = some 1 :=
  active_slot_names_live_connection _ _ _ _ (by decide) 1 (by decide)

/-- Slot 1 cannot be used, and slot 2 connects. When that connection is confirmed, slot 1 is pruned,
and the index names slot 3. -/
theorem prune_renames_active_slot :
    let c := run track (init threeProfiles 1 none, none)
      [.connect none false false, .timer true, .websocketConnected, .confirmSuccessfulConnection]
    c.1.dials.map (·.slot) = [2] ∧ c.1.slots = [2, 3] ∧ c.2 = some 2 ∧
      c.1.getActiveNetworkConfigurationSlot = some 3 := by
  decide

end EverestCore.Ocpp.Connectivity
