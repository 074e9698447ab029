import EverestCore.Lib.Machine
import EverestCore.Slac.Exchange
import EverestCore.Slac.Machine

/-!
# Who gets the network key of SLAC

`CM_SLAC_MATCH.CNF` carries the key of the network. It is sent by the session whose
`CM_SLAC_MATCH.REQ` arrives first, and again from the cache while the link comes up. `Matching` is
left on an `update` only, but every event of the machine is followed by one, and the module tears
the machine down where a callback keeps it from that one: no frame ever meets a `Matching` with a
matched session (`Machine.Calm`).

What the session sends on the way is not checked: a `CM_ATTEN_CHAR.IND` that the transport did not
take leaves the session waiting for a response all the same, and a `CM_ATTEN_CHAR.RSP` completes the
exchange without it.

Results:
* **`key_for_one_mac`**: in every run the key goes to one MAC address, after an exchange in which
  the indication was at least handed to the transport.
* **`key_after_exchange`**: where the transport takes every indication, it was sent.
* `key_without_indication`: a run in which no indication was sent.
-/

namespace EverestCore.Slac

open Lib.Machine

/-! ## Histories that grow -/

/-- From `c` to `c'` nothing was added but entries that are quiet. -/
def Grows (c c' : Context) : Prop := ∃ new, c'.log = new ++ c.log ∧ ∀ x ∈ new, x.quiet = true

namespace Grows

variable {a b c : Context}

theorem same (h : b.log = a.log) : Grows a b := ⟨[], h, nofun⟩

theorem record {t : Trace} (ht : t.quiet) (h : Grows a b) : Grows a (b.record t) := by
  obtain ⟨new, hlog, hq⟩ := h
  refine ⟨t :: new, by rw [List.cons_append, ← hlog]; rfl, fun x hx => ?_⟩
  exact (List.mem_cons.1 hx).elim (· ▸ ht) (hq x)

theorem send {mac : MacAddress} {frame : Frame}
    (hf : ∀ taken, (Trace.sent mac frame taken).quiet) (h : Grows a b) :
    Grows a (b.send mac frame) :=
  h.record (hf _)

theorem fine (h : Grows a b) (hf : Fine a.segment) : Fine b.segment := by
  obtain ⟨new, hlog, hq⟩ := h
  rw [segment_append hlog hq]
  exact hf.append_quiet hq

end Grows

/-! ## The invariants of the machine -/

/-- The states in which a `CM_SLAC_MATCH.CNF` may be sent. -/
def State.exchanging : State → Bool
  | .matching _ | .waitForLink _ => true
  | _ => false

namespace Machine

structure Sound (m : Machine) : Prop where
  fine : Fine m.ctx.segment
  matching : ∀ s, m.state = .matching s → MatchingSound s m.ctx
  waitForLink : ∀ s, m.state = .waitForLink s → Keyed m.ctx

/-- No session is matched. -/
def Calm (m : Machine) : Prop := ∀ s, m.state = .matching s → s.anySessionMatched = false

variable {m : Machine}

/-- A step on which nothing depends. -/
structure Passes (c : Context) (m : Machine) : Prop where
  grows : Grows c m.ctx
  state : m.state.exchanging = false

theorem Passes.not_exchanging {c : Context} (h : Passes c m) :
    (∀ s, m.state ≠ .matching s) ∧ ∀ s, m.state ≠ .waitForLink s := by
  have hst := h.state
  constructor
  · rintro s hs
    simp [hs, State.exchanging] at hst
  · rintro s hs
    simp [hs, State.exchanging] at hst

theorem Passes.sound {c : Context} (h : Passes c m) (hf : Fine c.segment) :
    m.Sound ∧ m.Calm := by
  obtain ⟨hm, hl⟩ := h.not_exchanging
  exact ⟨⟨h.grows.fine hf, fun s hs => absurd hs (hm s), fun s hs => absurd hs (hl s)⟩,
    fun s hs => absurd hs (hm s)⟩

/-- The link status is polled. -/
def Polls (c : Context) (m : Machine) : Prop :=
  ∃ s vendor, m = ⟨c.sendToModem (.linkStatusReq vendor), .waitForLink s⟩

/-! ### Entering a state -/

variable {a c : Context}

theorem enterReset_passes (h : Grows a c) : Passes a (enterReset c) := by
  refine ⟨?_, rfl⟩
  obtain ⟨new, hlog, hq⟩ := h
  exact Grows.send (fun _ => rfl) ⟨new, hlog, hq⟩

theorem startAmpMap_grows (h : Grows a c) : Grows a (startAmpMap c).2 := by
  unfold startAmpMap
  split
  · exact h.send fun _ => rfl
  · exact h

theorem enterMatched_passes (h : Grows a c) : Passes a (enterMatched c) := by
  have hc : Grows a c.clearMatchConfirmCache := h
  have hst := startAmpMap_grows hc
  unfold enterMatched
  dsimp only
  split_ifs
  · exact ⟨hst.send fun _ => rfl, rfl⟩
  · exact ⟨hst, rfl⟩
  · exact ⟨hst, rfl⟩

theorem leave_grows (m : Machine) : Grows m.ctx m.leave := by
  unfold leave
  split <;> exact .same rfl

theorem process_update_matching {m : Machine} {s : Matching} (hs : m.state = .matching s) :
    m.process .update = exitMatching (s.onUpdate m.ctx).2 (s.onUpdate m.ctx).1 := by
  rw [process, hs, processUpdate]

theorem exitMatching_cases (c : Context) (s : Matching) :
    (s.region = .init ∧ exitMatching c s = ⟨c, .matching s⟩) ∨
      (s.region = .matched ∧ Polls c (exitMatching c s)) ∨ Passes c (exitMatching c s) := by
  unfold exitMatching enterWaitForLink
  split
  · next h => exact .inl ⟨h, rfl⟩
  · exact .inr (.inr ⟨.same rfl, rfl⟩)
  · next h =>
    split_ifs
    · exact .inr (.inl ⟨h, _, _, rfl⟩)
    · exact .inr (.inr ⟨.same rfl, rfl⟩)
    · exact .inr (.inr (enterMatched_passes (.same rfl)))

theorem updateWaitForLink_cases (c : Context) (s : WaitForLink) :
    updateWaitForLink c s = ⟨c, .waitForLink s⟩ ∨ Polls c (updateWaitForLink c s) ∨
      Passes c (updateWaitForLink c s) := by
  unfold updateWaitForLink
  split_ifs
  · exact .inr (.inl ⟨_, _, rfl⟩)
  · exact .inr (.inr ⟨.same rfl, rfl⟩)
  · exact .inl rfl

/-! ### Update -/

theorem serviceAmpMap_grows (ampMap : AmpMapHandler) (h : Grows a c) :
    Grows a (serviceAmpMap c ampMap).2 := by
  unfold serviceAmpMap
  split_ifs
  · exact h.send fun _ => rfl
  · exact h
  · exact h

theorem processUpdate_passes (c : Context) {state : State} (h : state.exchanging = false) :
    Passes c (processUpdate c state) := by
  have hr : Grows c c := .same rfl
  cases state with
  | matching | waitForLink => cases h
  | idle | failed => exact ⟨hr, rfl⟩
  | init region vendor =>
    dsimp only [processUpdate, updateInit]
    repeat' split
    all_goals first | exact ⟨hr, rfl⟩ | exact ⟨hr.send fun _ => rfl, rfl⟩
  | reset s =>
    dsimp only [processUpdate, updateReset]
    repeat' split
    all_goals first | exact ⟨hr, rfl⟩ | exact ⟨hr.send fun _ => rfl, rfl⟩
  | resetChip s =>
    dsimp only [processUpdate, updateResetChip, sendChipReset]
    repeat' split
    all_goals first | exact ⟨hr, rfl⟩ | exact ⟨hr.send fun _ => rfl, rfl⟩
  | matched s =>
    dsimp only [processUpdate, updateMatched]
    split
    · exact ⟨hr, rfl⟩
    · exact ⟨serviceAmpMap_grows s.ampMap hr, rfl⟩
    · refine ⟨serviceAmpMap_grows s.ampMap ?_, rfl⟩
      split
      · exact hr.send fun _ => rfl
      · exact hr

theorem update_passes (h : m.state.exchanging = false) : Passes m.ctx (m.process .update) :=
  processUpdate_passes m.ctx h

theorem waitForLink_sound {c : Context} (s : WaitForLink) (hf : Fine c.segment)
    (hk : Keyed c) : Sound ⟨c, .waitForLink s⟩ ∧ Calm ⟨c, .waitForLink s⟩ := by
  refine ⟨⟨hf, fun _ hs => ?_, fun _ _ => hk⟩, fun _ hs => ?_⟩
  · cases hs
  · cases hs

/-- The cached confirmation stays while the link status is polled. -/
theorem Polls.sound {c : Context} (h : Polls c m) (hf : Fine c.segment)
    (hk : Keyed c) : m.Sound ∧ m.Calm := by
  obtain ⟨s, vendor, rfl⟩ := h
  have had := Adds.send c.config.plcPeerMac (.linkStatusReq vendor) c fun _ => rfl
  exact waitForLink_sound s (hf.adds ⟨_, had⟩) (hk.adds had)

/-- **`Matching` on `update`**: a matched session hands its confirmation on. -/
theorem updateMatching_sound {c : Context} {s : Matching} (hf : Fine c.segment)
    (h : MatchingSound s c) :
    (exitMatching (s.onUpdate c).2 (s.onUpdate c).1).Sound ∧
      (exitMatching (s.onUpdate c).2 (s.onUpdate c).1).Calm := by
  obtain ⟨⟨new, had⟩, hmat, hu⟩ := matching_update h
  have hf' : Fine (s.onUpdate c).2.segment := hf.adds ⟨new, had⟩
  rcases exitMatching_cases (s.onUpdate c).2 (s.onUpdate c).1 with
    ⟨hreg, heq⟩ | ⟨hreg, hpo⟩ | hp
  · rw [heq]
    cases hm : s.anySessionMatched with
    | true => cases (hmat hm).symm.trans hreg
    | false =>
      rcases hu hm with hfai | ⟨hs, hca⟩
      · cases hfai.symm.trans hreg
      · refine ⟨⟨hf', ?_, nofun⟩, ?_⟩
        · rintro _ ⟨⟩
          exact hs
        · rintro _ ⟨⟩
          exact hca
  · cases hm : s.anySessionMatched with
    | true => exact hpo.sound hf' ((h.matched hm).adds had)
    | false =>
      rcases hu hm with hfai | ⟨hs, -⟩
      · cases hfai.symm.trans hreg
      · cases hs.region.symm.trans hreg
  · exact hp.sound hf'

/-- **`update` leaves no matched session behind.** -/
theorem update_sound (h : m.Sound) :
    (m.process .update).Sound ∧ (m.process .update).Calm := by
  cases hs : m.state with
  | matching s =>
    rw [process, hs]
    exact updateMatching_sound h.fine (h.matching s hs)
  | waitForLink s =>
    rw [process, hs]
    rcases updateWaitForLink_cases m.ctx s with heq | hpo | hp
    · rw [processUpdate, heq]
      exact waitForLink_sound s h.fine (h.waitForLink s hs)
    · exact hpo.sound h.fine (h.waitForLink s hs)
    · exact hp.sound h.fine
  | _ => exact (update_passes (by rw [hs]; rfl)).sound h.fine

/-! ### Messages -/

theorem sendMatchCnf_sound {c : Context} (s : WaitForLink) (hf : Fine c.segment)
    (hk : Keyed c) : Sound ⟨sendMatchCnf c, .waitForLink s⟩ := by
  obtain ⟨cache, hca, hrun, hmac, hex⟩ := hk
  have hs : sendMatchCnf c = c.send cache.evMac (.slacMatchCnf cache.message) := by
    rw [sendMatchCnf, hca]
  have hf' : Fine (c.send cache.evMac (.slacMatchCnf cache.message)).segment := by
    exact hf.cons_matchCnf rfl hmac hex
  have hk' : Keyed (c.send cache.evMac (.slacMatchCnf cache.message)) := by
    exact ⟨cache, hca, hrun, matchCnf_cons rfl hmac, hex.mono [_]⟩
  rw [hs]
  exact (waitForLink_sound s hf' hk').1

variable (msg : Message)

theorem messageWaitForLink_sound {c : Context} (s : WaitForLink)
    (hf : Fine c.segment) (hk : Keyed c) :
    (messageWaitForLink c msg s).Sound := by
  unfold messageWaitForLink
  split
  · exact sendMatchCnf_sound s hf hk
  · split
    · exact ((enterMatched_passes (.same rfl)).sound hf).1
    · exact (waitForLink_sound s hf hk).1

theorem processMessage_passes (h : Grows a c) {state : State}
    (hst : state.exchanging = false) : Passes a (processMessage msg c state) := by
  cases state with
  | matching | waitForLink => cases hst
  | idle | failed => exact ⟨h, rfl⟩
  | init region vendor =>
    cases vendor <;> dsimp only [processMessage]
    · split <;> exact ⟨h, rfl⟩
    · exact ⟨h, rfl⟩
  | reset s =>
    dsimp only [processMessage, messageReset]
    repeat' split
    all_goals exact ⟨h, rfl⟩
  | resetChip s =>
    cases s <;> dsimp only [processMessage]
    all_goals first | exact ⟨h, rfl⟩ | (split_ifs <;> exact ⟨h, rfl⟩)
  | matched s =>
    dsimp only [processMessage, messageMatched, linkStatusMatched]
    repeat' split
    all_goals first
      | exact ⟨h, rfl⟩
      | exact ⟨h.send fun _ => rfl, rfl⟩

theorem message_passes (h : m.state.exchanging = false) : Passes m.ctx (m.process (.message msg)) :=
  processMessage_passes msg (Grows.record rfl (.same rfl)) h

/-- **A frame**, as long as no session is matched. -/
theorem message_sound (h : m.Sound) (hca : m.Calm) : (m.process (.message msg)).Sound := by
  have had := Adds.receive msg m.ctx
  cases hs : m.state with
  | matching s =>
    rw [process, hs]
    obtain ⟨hso, hf⟩ := matching_message msg (h.matching s hs) h.fine (hca s hs)
    refine ⟨hf, ?_, nofun⟩
    rintro _ ⟨⟩
    exact hso
  | waitForLink s =>
    rw [process, hs]
    exact messageWaitForLink_sound msg s (h.fine.adds ⟨_, had⟩) ((h.waitForLink s hs).adds had)
  | _ => exact ((message_passes msg (by rw [hs]; rfl)).sound h.fine).1

/-! ### Events -/

/-- **`reset` leaves no session behind.** -/
theorem reset_passes (m : Machine) : Passes m.ctx (m.process .reset) := by
  cases hs : m.state with
  | init region vendor =>
    have hsa : m.process .reset = m := by rw [process, hs]
    rw [hsa]
    exact ⟨.same rfl, by rw [hs]; rfl⟩
  | _ =>
    rw [process, hs]
    exact enterReset_passes (leave_grows m)

theorem enterBcd_cases (m : Machine) :
    m.process .enterBcd = enterMatching m.ctx ∨ m.process .enterBcd = m := by
  unfold process
  dsimp only
  split
  · exact .inl rfl
  · exact .inr rfl

theorem leaveBcd_cases (m : Machine) :
    Passes m.ctx (m.process .leaveBcd) ∨ m.process .leaveBcd = m := by
  unfold process
  dsimp only
  split
  · exact .inl ⟨.same rfl, rfl⟩
  · exact .inl (enterReset_passes (leave_grows m))
  · exact .inl (enterReset_passes (leave_grows m))
  · exact .inl (enterReset_passes (leave_grows m))
  · exact .inr rfl

theorem enterMatching_sound (c : Context) : (enterMatching c).Sound := by
  refine ⟨?_, ?_, nofun⟩
  · exact fine_nil
  · rintro _ ⟨⟩
    refine ⟨rfl, List.nodup_nil, nofun, nofun, fun _ => ?_⟩
    rfl

/-- **One event of the machine.** -/
theorem process_sound (ev : Event) (h : m.Sound) (hca : ev = .reset ∨ m.Calm) :
    (m.process ev).Sound := by
  cases ev with
  | message msg => exact message_sound msg h (hca.resolve_left nofun)
  | reset => exact ((reset_passes m).sound h.fine).1
  | enterBcd =>
    rcases enterBcd_cases m with heq | heq <;> rw [heq]
    · exact enterMatching_sound m.ctx
    · exact h
  | leaveBcd =>
    rcases leaveBcd_cases m with hp | heq
    · exact (hp.sound h.fine).1
    · exact heq.symm ▸ h
  | update => exact (update_sound h).1

/-! ### Public events -/

section Rules

variable {I J : Machine → Prop} (hupdate : ∀ m, I m → J (m.process .update)) (hJ : ∀ m, J m → I m)

include hupdate hJ

theorem settle_rule (throws : Nat → Bool) : ∀ (rounds k : Nat) {m : Machine}, I m →
    J (settle throws (rounds + 1) k m).1
  | rounds, k, m, h => by
    unfold settle
    dsimp only
    split_ifs
    · exact hupdate m h
    · exact hupdate m h
    · cases rounds with
      | zero => exact hupdate m h
      | succ rounds => exact settle_rule throws rounds (k + 1) (hJ _ (hupdate m h))

/-- **A public event**, of which `J` is left if nothing was thrown. -/
theorem handle_rule (env : Env) (throws : Nat → Bool) (ev : Event) (hs : I (m.sample env))
    (hp : throws 0 = false → ev ≠ .update → I ((m.sample env).process ev)) :
    I (m.handle env throws ev).1 ∧ ((m.handle env throws ev).2 → J (m.handle env throws ev).1) := by
  have hset : ∀ k {m}, I m → I (settle throws 32 k m).1 ∧ J (settle throws 32 k m).1 :=
    fun k m h => ⟨hJ _ (settle_rule hupdate hJ throws 31 k h), settle_rule hupdate hJ throws 31 k h⟩
  unfold handle
  split_ifs with h₀ hev h₁
  · exact ⟨hs, nofun⟩
  · exact (hset 1 hs).imp id fun h _ => h
  · exact ⟨hp (by simpa using h₀) hev, nofun⟩
  · exact (hset 2 (hp (by simpa using h₀) hev)).imp id fun h _ => h

theorem restart_rule (env : Env) (throws : Nat → Bool) (hs : I (m.sample env))
    (hin : I (enterInit (m.sample env).leave)) :
    I (m.restart env throws).1 ∧ ((m.restart env throws).2 → J (m.restart env throws).1) := by
  have hset := settle_rule hupdate hJ throws 31 2 hin
  unfold restart
  split_ifs
  · exact ⟨hs, nofun⟩
  · exact ⟨hin, nofun⟩
  · exact ⟨hJ _ hset, fun _ => hset⟩

end Rules

variable (env : Env)

theorem sample_sound (h : m.Sound) : (m.sample env).Sound := by
  have had : Adds m.ctx (m.sample env).ctx [] := ⟨rfl, rfl, nofun⟩
  exact
    { fine := h.fine
      matching := fun s hs => (h.matching s hs).neutral ⟨[], had, nofun⟩
      waitForLink := fun s hs => (h.waitForLink s hs).adds had }

/-- **A public event**: if it did not throw, no session is matched afterwards. -/
theorem handle_sound (throws : Nat → Bool) (ev : Event) (h : m.Sound)
    (hca : ev = .reset ∨ m.Calm) :
    (m.handle env throws ev).1.Sound ∧ ((m.handle env throws ev).2 →
      (m.handle env throws ev).1.Sound ∧ (m.handle env throws ev).1.Calm) :=
  handle_rule (J := fun m => m.Sound ∧ m.Calm) (fun _ => update_sound)
    (fun _ h => h.1) env throws ev (sample_sound env h)
    fun _ _ => process_sound ev (sample_sound env h) hca

theorem restart_sound (throws : Nat → Bool) (h : m.Sound) :
    (m.restart env throws).1.Sound ∧ ((m.restart env throws).2 →
      (m.restart env throws).1.Sound ∧ (m.restart env throws).1.Calm) :=
  restart_rule (J := fun m => m.Sound ∧ m.Calm) (fun _ => update_sound) (fun _ h => h.1) env
    throws (sample_sound env h)
    (Passes.sound ⟨leave_grows (m.sample env), rfl⟩ (sample_sound env h).fine).1

end Machine

/-! ## The module -/

namespace Controller

/-- The invariant of the module: an active machine has no matched session. -/
structure Sound (c : Controller) : Prop where
  machine : c.machine.Sound
  calm : c.active = true → c.machine.Calm

variable {c : Controller}

/-- **One command of the module**: `K` holds between the commands, and `J` as well while the machine
is active. -/
theorem step_rule {K J : Machine → Prop}
    (hr : ∀ m env throws, K m → K (m.handle env throws .reset).1)
    (i : Reading × Reading × Command) (hc : K c.machine)
    (hin : K (c.machine.restart i.1.env i.1.throws).1 ∧
      ((c.machine.restart i.1.env i.1.throws).2 → J (c.machine.restart i.1.env i.1.throws).1))
    (hev : ∀ ev, i.2.2 = .event ev → c.active →
      K (c.machine.handle i.1.env i.1.throws ev).1 ∧
        ((c.machine.handle i.1.env i.1.throws ev).2 →
          J (c.machine.handle i.1.env i.1.throws ev).1)) :
    K (c.step i).machine ∧ ((c.step i).active → J (c.step i).machine) := by
  have hset : ∀ (r : Reading) (o : Machine × Bool), K o.1 ∧ (o.2 → J o.1) →
      K (settled r o).machine ∧ ((settled r o).active → J (settled r o).machine) := by
    intro r o h
    unfold settled
    split
    · next hok => exact ⟨h.1, fun _ => h.2 hok⟩
    · exact ⟨hr _ _ _ h.1, nofun⟩
  obtain ⟨r, r', command⟩ := i
  cases command with
  | init => exact hset r' _ hin
  | event ev =>
    unfold step
    dsimp only
    split
    · next hact => exact hset r' _ (hev ev rfl hact)
    · next hact => exact ⟨hc, fun ha => absurd ha hact⟩
  | teardown =>
    show K (c.teardown r).machine ∧ ((c.teardown r).active → J (c.teardown r).machine)
    unfold teardown
    split
    · exact ⟨hr _ _ _ hc, nofun⟩
    · next hact => exact ⟨hc, fun ha => absurd ha hact⟩
  | stop => exact ⟨hc, nofun⟩

/-- **The module keeps its invariant.** -/
theorem step_sound (i : Reading × Reading × Command) (h : c.Sound) : (c.step i).Sound := by
  have hst := step_rule (c := c) (K := Machine.Sound) (J := fun m => m.Sound ∧ m.Calm)
    (fun m env throws hm => (Machine.handle_sound env throws .reset hm (.inl rfl)).1) i h.machine
    (Machine.restart_sound i.1.env i.1.throws h.machine) fun ev _ hact =>
      Machine.handle_sound i.1.env i.1.throws ev h.machine (.inr (h.calm hact))
  exact ⟨hst.1, fun ha => (hst.2 ha).2⟩

theorem initial_sound (config : EvseSlacConfig) (evseMac : MacAddress) (env : Env) :
    (initial config evseMac env).Sound := by
  refine ⟨(Machine.Passes.sound ⟨.same rfl, rfl⟩ ?_).1, nofun⟩
  exact fine_nil

/-- The history since `Matching` was last entered. -/
def segment (c : Controller) : List Trace := c.machine.ctx.segment

variable (config : EvseSlacConfig) (evseMac : MacAddress) (env : Env)

theorem run_sound (inputs : List (Reading × Reading × Command)) :
    (run step (initial config evseMac env) inputs).Sound :=
  run_invariant (fun _ i => step_sound i) inputs (initial_sound config evseMac env)

/-- **In every run the key goes to one MAC address**, after an exchange in which the indication was
at least handed to the transport. -/
theorem key_for_one_mac (config : EvseSlacConfig) (evseMac : MacAddress) (env : Env)
    (inputs : List (Reading × Reading × Command)) :
    OneMac (run step (initial config evseMac env) inputs).segment ∧
      AfterExchange false (run step (initial config evseMac env) inputs).segment := by
  have hs := run_sound config evseMac env inputs
  exact ⟨hs.machine.fine.oneMac, hs.machine.fine.afterExchange⟩

/-- **The network key goes to one EV, after the full exchange**, in every run in which the transport
takes every `CM_ATTEN_CHAR.IND` that is handed to it. -/
theorem key_after_exchange (inputs : List (Reading × Reading × Command))
    (h : ∀ x ∈ (run step (initial config evseMac env) inputs).segment, x.refusedInd = false) :
    OneMac (run step (initial config evseMac env) inputs).segment ∧
      AfterExchange true (run step (initial config evseMac env) inputs).segment := by
  have hs := run_sound config evseMac env inputs
  exact ⟨hs.machine.fine.oneMac, hs.machine.fine.afterExchange.taken h⟩

/-! ### One EV -/

/-- A command at `now`; only a `CM_ATTEN_CHAR.IND` may not be taken by the transport. -/
def command (taken : Bool) (now : Int) (command : Command) : Reading × Reading × Command :=
  let delivers : MacAddress → Frame → Bool
    | _, .attenCharInd _ => taken
    | _, _ => true
  (⟨⟨now, delivers, 0, 0⟩, fun _ => false⟩, ⟨⟨now, delivers, 0, 0⟩, fun _ => false⟩, command)

/-- The exchange with the EV 5 in its run 7, from the start of the module. -/
def exchange (taken : Bool) : List (Reading × Reading × Command) :=
  let frame (now : Int) (payload : Payload) := command taken now (.event (.message ⟨5, payload⟩))
  [command taken 0 .init, command taken 200000 (.event .update),
    command taken 400000 (.event .update), command taken 600000 (.event .update),
    frame 600000 (.setKeyCnf 1), command taken 600000 (.event .enterBcd),
    frame 600000 (.slacParmReq { runId := 7 }),
    frame 700000 (.startAttenCharInd
      { numSounds := 10, timeout := 6, respType := 1, forwardingSta := 5, runId := 7 }),
    command taken 1400000 (.event .update), command taken 1500000 (.event .update),
    frame 1600000 (.attenCharRsp { sourceAddress := 5, runId := 7 }),
    frame 1600000 (.slacMatchReq { mvfLength := 0x3e, pevMac := 5, evseMac := 1, runId := 7 })]

/-- The module before it starts, with the default configuration and the MAC address 1. -/
def idle : Controller := initial {} 1 ⟨0, fun _ _ => true, 0, 0⟩

theorem key_after_exchange_taken :
    (run step idle (exchange true)).segment.filterMap Trace.matchCnf = [(5, 7)] ∧
    OneMac (run step idle (exchange true)).segment ∧
      AfterExchange true (run step idle (exchange true)).segment :=
  ⟨by decide +kernel, key_after_exchange {} 1 _ _ (by decide +kernel)⟩

/-- **Without any indication the key is sent all the same.** -/
theorem key_without_indication : ¬ AfterExchange true (run step idle (exchange false)).segment := by
  intro h
  have hn : ∀ x ∈ (run step idle (exchange false)).segment,
      x.isAttenCharInd true 5 7 = false := by
    decide +kernel
  have hh : (run step idle (exchange false)).segment.head?.bind Trace.matchCnf = some (5, 7) := by
    decide +kernel
  obtain ⟨cnf, hcnf, hm⟩ := Option.bind_eq_some_iff.1 hh
  obtain ⟨older, hlog⟩ := List.head?_eq_some_iff.1 hcnf
  obtain ⟨rsp, ind, start, parm, hsub, -, hind, -⟩ :=
    h cnf older (hlog ▸ List.suffix_rfl) 5 7 hm
  have hmem : ind ∈ (run step idle (exchange false)).segment := by
    rw [hlog]
    exact List.mem_cons_of_mem cnf (hsub.subset (by simp))
  cases (hn ind hmem).symm.trans hind

end Controller

end EverestCore.Slac
