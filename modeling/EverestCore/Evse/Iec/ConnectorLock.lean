import EverestCore.Evse.Iec.Sections

/-!
# The connector lock

Every section is a step of the lock (`section_latch`), so what holds of the lock under all of its
steps holds in every interleaving. Under power it is never opened. Where `connector_force_unlock`
has opened it in the states B and C, it stays open until the run or the plug that follows says
otherwise; in the states D to F the unlock is not recorded, and the next check locks again.

Results:
* **`never_unlocked_under_power`**: for every interleaving of the calls of all threads.
* **`forced_unlock_holds`**: for every interleaving without a step that ends the forced unlock.
  `forced_unlock_lost` is a run in state D.
-/

namespace EverestCore.Evse.Iec

open EverestCore.Lib.Machine

/-- Every section is a step of the lock. -/
theorem section_latch (cfg : Config) (c : Threads State Task) (a : Action Operation Int) :
    ∃ op, ((iec cfg).step c a).shared.latch = c.shared.latch.step op := by
  cases a with
  | call op now => exact ⟨_, start_latch cfg op now c.shared⟩
  | proceed n now =>
    simp only [Program.step]
    cases c.pending[n]? with
    | none => exact ⟨.nothing, rfl⟩
    | some t =>
      by_cases ht : ∃ cp, t = .feed cp
      · obtain ⟨cp, rfl⟩ := ht
        obtain ⟨lock, h⟩ := stateMachine_latch cfg cp now c.shared
        exact ⟨_, h⟩
      · exact ⟨.nothing, (resume_views cfg now c.shared t fun cp h => ht ⟨cp, h⟩).1⟩

/-! ## Under power -/

/-- Under power the lock is closed, and it was not opened under power. -/
theorem Latch.step_secure {l : Latch} (h : l.relaisOn → l.isLocked) (op : LockOp) :
    ((l.step op).relaisOn → (l.step op).isLocked) ∧
      ((l.step op).unlocks ≠ l.unlocks → (l.step op).relaisOn = false) := by
  have hc : ∀ l' : Latch, (l'.check.relaisOn → l'.check.isLocked) ∧
      (l'.check.unlocks ≠ l'.unlocks → l'.check.relaisOn = false) := by
    intro l'
    cases hr : l'.relaisOn <;> simp [check, latchCaptive, mustBeLocked, hr]
  cases op with
  | nothing | authorize => exact ⟨h, fun hne => absurd rfl hne⟩
  | relais | debounced | keepCableLocked | run => exact hc _
  | proximity =>
    simp only [step]
    split_ifs
    all_goals first | exact hc _ | exact ⟨h, fun hne => absurd rfl hne⟩
  | forceUnlock =>
    simp only [step]
    cases hr : l.relaisOn <;> split_ifs <;> simp_all [check, latchCaptive, mustBeLocked, release]

/-- **The connector is never unlocked under power.** For every interleaving of the calls of all
threads, `relais_on` implies `is_locked` after every section, and a section that emits
`signal_unlock` does so with `relais_on` unset. -/
theorem never_unlocked_under_power (cfg : Config) (keepCableLocked : Bool)
    (run : List (Action Operation Int)) :
    let c := Lib.Machine.run (iec cfg).step (initial cfg keepCableLocked) run
    (c.shared.relaisOn = true → c.shared.isLocked = true) ∧
      ∀ a, unlockSignals ((iec cfg).step c a).shared ≠ unlockSignals c.shared →
        ((iec cfg).step c a).shared.relaisOn = false := by
  have hs : ∀ (c : Threads State Task) (a : Action Operation Int),
      (c.shared.latch.relaisOn = true → c.shared.latch.isLocked = true) →
      (((iec cfg).step c a).shared.latch.relaisOn = true →
        ((iec cfg).step c a).shared.latch.isLocked = true) ∧
      (((iec cfg).step c a).shared.latch.unlocks ≠ c.shared.latch.unlocks →
        ((iec cfg).step c a).shared.latch.relaisOn = false) := by
    intro c a hc
    obtain ⟨op, hop⟩ := section_latch cfg c a
    rw [hop]
    exact Latch.step_secure hc op
  have hrun := run_invariant (I := fun c : Threads State Task =>
    c.shared.latch.relaisOn = true → c.shared.latch.isLocked = true)
    (fun c a hc => (hs c a hc).1) run (s := initial cfg keepCableLocked) nofun
  exact ⟨hrun, fun a => (hs _ a hrun).2⟩

/-! ## The forced unlock -/

/-- The relais close, the cable is gone, or the mode of the captive cable is set. -/
def endsUnlock : Operation → Bool
  | .bspEvent .PowerOn | .setPpAmpacity .None | .setKeepCableLocked _ => true
  | _ => false

/-- A run calls `connector_unlock`. -/
def resetsUnlock (cfg : Config) (t : Task) (now : Int) (s : State) : Bool :=
  match t with
  | .feed cpStateOpt => Frame.unlocks cfg now (cpStateOpt.getD s.lastCpState) s
  | _ => false

/-- Nothing that ends a forced unlock. -/
def keepsUnlocked (cfg : Config) : Threads State Task → Action Operation Int → Prop :=
  Program.Guard (fun op _ _ => endsUnlock op = false)
    fun t now s => resetsUnlock cfg t now s = false

instance (cfg : Config) (c : Threads State Task) (a : Action Operation Int) :
    Decidable (keepsUnlocked cfg c a) :=
  inferInstanceAs (Decidable (Program.Guard _ _ c a))

/-- The lock is open and stays so, with `n` signals to lock it. -/
structure Latch.Released (n : Nat) (l : Latch) : Prop where
  relaisOn : l.relaisOn = false
  forceUnlocked : l.forceUnlocked = true
  captive : l.keepCableLocked = true → l.captiveLatched = false ∧ l.captiveUnlockWindow = true
  locks : l.locks = n

namespace Latch.Released

variable {n : Nat} {l : Latch}

theorem check (h : l.Released n) : l.check.Released n := by
  have hl : l.latchCaptive.captiveLatched = l.captiveLatched := by
    cases hk : l.keepCableLocked with
    | false => simp [latchCaptive, hk]
    | true => simp [latchCaptive, h.captive hk]
  have hop : l.latchCaptive.mustBeLocked = false := by
    cases hk : l.keepCableLocked <;>
      simp_all [mustBeLocked, latchCaptive, h.relaisOn, h.forceUnlocked, h.captive]
  refine ⟨h.relaisOn, h.forceUnlocked, fun hk => ?_, ?_⟩
  · exact ⟨hl.trans (h.captive hk).1, (h.captive hk).2⟩
  · show (if l.latchCaptive.mustBeLocked && _ then _ else _) = n
    rw [hop]
    exact h.locks

theorem release (h : l.Released n) : l.release.Released n :=
  ⟨h.relaisOn, h.forceUnlocked, fun hk => by simp [Latch.release, h.captive hk], h.locks⟩

/-- What does not end the forced unlock. -/
theorem step (h : l.Released n) {op : LockOp} (hr : op ≠ .relais true)
    (hp : ∀ delayed, op ≠ .proximity delayed false)
    (hk : ∀ enabled, op ≠ .keepCableLocked enabled) (hrun : ∀ lock, op ≠ .run lock true) :
    (l.step op).Released n := by
  cases op with
  | nothing => exact h
  | authorize => exact { h with }
  | relais on =>
    cases on with
    | true => exact absurd rfl hr
    | false => exact check { h with relaisOn := rfl }
  | proximity delayed plugged =>
    cases plugged with
    | false => exact absurd rfl (hp delayed)
    | true =>
      simp only [Latch.step]
      split_ifs
      all_goals first | exact check { h with } | exact { h with } | contradiction
  | debounced => exact check { h with }
  | keepCableLocked enabled => exact absurd rfl (hk enabled)
  | forceUnlock recorded =>
    cases recorded with
    | true => exact check { h.release with forceUnlocked := rfl }
    | false => exact h.release
  | run lock resets =>
    cases resets with
    | true => exact absurd rfl (hrun lock)
    | false => exact check { h with forceUnlocked := by simp [ask, h.forceUnlocked] }

end Latch.Released

/-- A forced unlock in B or C that finds the relais open, with a plug if the cable is captive. -/
theorem Latch.released_forceUnlock {l : Latch} (hop : l.relaisOn = false)
    (hp : l.keepCableLocked → l.plugged) : (l.step (.forceUnlock true)).Released l.locks := by
  refine Released.check ⟨hop, rfl, fun hk => ?_, rfl⟩
  have hk : l.keepCableLocked := hk
  simp [Latch.release, hk, hp hk]

theorem ampacityOf_pos {ampacity : Ampacity} (h : ampacity ≠ .None) (s : State) :
    0 < s.ampacityOf ampacity := by
  cases ampacity with
  | None => exact absurd rfl h
  | A_63_3ph_70_1ph =>
    simp only [State.ampacityOf]
    split_ifs <;> decide
  | _ => exact Nat.zero_lt_succ _

theorem released_step (cfg : Config) {n : Nat} (c : Threads State Task)
    (a : Action Operation Int) (ha : keepsUnlocked cfg c a) (hc : c.shared.latch.Released n) :
    ((iec cfg).step c a).shared.latch.Released n := by
  refine Program.step_invariant_guarded (p := iec cfg) (I := fun s => s.latch.Released n)
    (fun op now s hop hs => ?_) (fun t now s ht hs => ?_) c a ha hc
  · show (start cfg op now s).1.latch.Released n
    rw [start_latch]
    cases op with
    | setPpAmpacity ampacity =>
      have hp : 0 < s.ampacityOf ampacity := ampacityOf_pos (by rintro rfl; cases hop) s
      refine hs.step (by rintro ⟨⟩) (fun delayed heq => ?_) (by rintro _ ⟨⟩) (by rintro _ ⟨⟩)
      simp [startLock, hp] at heq
    | setKeepCableLocked => cases hop
    | bspEvent e =>
      cases e with
      | PowerOn => cases hop
      | PowerOff =>
        simp only [startLock]
        split_ifs <;> exact hs.step (by simp) (by simp) (by simp) (by simp)
      | _ => exact hs
    | setAuthorized | timeoutCaptiveLockReached =>
      simp only [startLock]
      split_ifs <;> exact hs.step (by simp) (by simp) (by simp) (by simp)
    | _ => exact hs.step (by rintro ⟨⟩) (by rintro _ ⟨⟩) (by rintro _ ⟨⟩) (by rintro _ ⟨⟩)
  · show (resume cfg t now s).1.latch.Released n
    by_cases hf : ∃ cp, t = .feed cp
    · obtain ⟨cp, rfl⟩ := hf
      obtain ⟨lock, hl⟩ := stateMachine_latch cfg cp now s
      rw [show (resume cfg (.feed cp) now s).1.latch = _ from hl]
      refine hs.step (by simp) (by simp) (by simp) fun lock heq => ?_
      have hr : Frame.unlocks cfg now (cp.getD s.lastCpState) s = false := ht
      cases hr.symm.trans (LockOp.run.inj heq).2
    · rw [(resume_views cfg now s t fun cp h => hf ⟨cp, h⟩).1]
      exact hs

/-- **A forced unlock holds.** After any interleaving of the calls of all threads, with the relais
open, the last control pilot state B or C and, if the cable is captive, a plug in the socket: from
`connector_force_unlock` on no `signal_lock` is emitted in any interleaving in which the relais do
not close, no run calls `connector_unlock`, the cable is not found to be gone and
`set_keep_cable_locked` is not called. -/
theorem forced_unlock_holds (cfg : Config) (keepCableLocked : Bool)
    (before after : List (Action Operation Int)) (now : Int) :
    let c := Lib.Machine.run (iec cfg).step (initial cfg keepCableLocked) before
    let c' := (iec cfg).step c (.call .connectorForceUnlock now)
    c.shared.relaisOn = false → c.shared.lastCpState = .B ∨ c.shared.lastCpState = .C →
      (c.shared.keepCableLocked = true → 0 < c.shared.ppAmpacity) →
      Along (iec cfg).step (keepsUnlocked cfg) c' after →
      lockSignals (Lib.Machine.run (iec cfg).step c' after).shared = lockSignals c.shared := by
  intro c c' ho hcp hp ha
  have hs : c'.shared.latch.Released (lockSignals c.shared) := by
    have hl : c'.shared.latch = c.shared.latch.step (.forceUnlock true) := by
      rw [← decide_eq_true hcp]
      exact connectorForceUnlock_latch c.shared
    rw [hl]
    refine Latch.released_forceUnlock (l := c.shared.latch) ho fun hk => ?_
    exact decide_eq_true (hp hk)
  exact (run_invariant_along (I := fun c : Threads State Task => c.shared.latch.Released _)
    (released_step cfg) after ha hs).locks

/-- The connector is unlocked in C, and the permission to charge is given afterwards. -/
theorem forced_unlock_kept :
    let c := Lib.Machine.run (iec socket).step (initial socket false) (pilotStates [.A, .B, .C])
    lockSignals (Lib.Machine.run (iec socket).step
      ((iec socket).step c (.call .connectorForceUnlock 0))
      (calls (.allowPowerOn true .FullPowerCharging) 3)).shared = lockSignals c.shared :=
  forced_unlock_holds socket false (pilotStates [.A, .B, .C])
    (calls (.allowPowerOn true .FullPowerCharging) 3) 0 (by decide +kernel)
    (.inr (by decide +kernel)) (by decide +kernel) (by decide +kernel)

/-- The connector is unlocked in D, and the next run of `state_machine` locks it again. -/
theorem forced_unlock_lost :
    let c := Lib.Machine.run (iec socket).step (initial socket false) (pilotStates [.A, .B, .C, .D])
    let c' := (iec socket).step c (.call .connectorForceUnlock 0)
    let after := calls (.allowPowerOn false .PowerOff) 3
    c.shared.relaisOn = false ∧ c.shared.lastCpState = .D ∧
      Along (iec socket).step (keepsUnlocked socket) c' after ∧
      lockSignals (Lib.Machine.run (iec socket).step c' after).shared =
        lockSignals c.shared + 1 := by
  decide +kernel

end EverestCore.Evse.Iec
