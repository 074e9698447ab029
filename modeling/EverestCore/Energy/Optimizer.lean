import EverestCore.Energy.Broker

/-!
# The optimizer (`EnergyManagerImpl::run_optimizer`)

One broker per EVSE node trades on a fresh offer, broker after broker and round after round,
until a round passes without a trade or the rounds are used up.

`Optimizer` collects what does not change during a run: the configuration, the start time with
the leap seconds elapsed then, and the request. The readings of the clock are a function of the
round, the broker and the slot.

Results:
* **`no_market_oversold`**: after any number of rounds no market has sold more than its import
  limit or bought back more than its export limit, in ampere and in watt.
* `active_eq_selected_iff`: when the slot a broker takes for active is the one whose limits are
  sent.
-/

namespace EverestCore.Energy

open EverestCore.Lib.PathLedger

/-! ## One broker -/

/-- The members of a broker during `tradeImpl`. -/
structure BrokerRun (g : Globals) where
  trading : Schedule g LimitsRes
  slots : Schedule g BrokerSlot
  traded : Bool
  ctx : BrokerContext

/-- The round of the loop of `tradeImpl` for slot `i`. -/
def BrokerRun.tradeSlot {g : Globals} (cfg : Config) (clock : Schedule g Int) (offer : Offer g)
    (s : BrokerRun g) (i : Fin g.timestamps.length) : BrokerRun g :=
  let r := Energy.tradeSlot cfg g (clock i) (timeSlotActive g i) (offer.importOffer i)
    (offer.exportOffer i) (s.slots i) s.ctx
  { trading := Function.update s.trading i r.1
    slots := Function.update s.slots i r.2.1
    traded := s.traded || r.2.2.1
    ctx := r.2.2.2 }

/-- `BrokerFastCharging::tradeImpl`, from the zero trade. -/
def tradeImpl {g : Globals} (cfg : Config) (clock : Schedule g Int) (offer : Offer g)
    (slots : Schedule g BrokerSlot) (ctx : BrokerContext) : BrokerRun g :=
  (List.finRange g.timestamps.length).foldl (BrokerRun.tradeSlot cfg clock offer)
    ⟨fun i => zeroTrade (offer.importOffer i), slots, false, ctx⟩

/-- What holds of a broker while it goes through the slots. -/
structure BrokerRun.Ok {g : Globals} (offer : Offer g) (s : BrokerRun g) : Prop where
  trading : ∀ i, AdmissibleTrade (offer.importOffer i) (offer.exportOffer i) (s.trading i)
  phases : ∀ i, 0 ≤ (s.slots i).numPhases.value

theorem BrokerRun.Ok.tradeSlot {g : Globals} {cfg : Config} {clock : Schedule g Int}
    {offer : Offer g} {s : BrokerRun g} (h : s.Ok offer)
    (ho : ∀ i, (offer.importOffer i).PhasesNonneg) (i : Fin g.timestamps.length) :
    (s.tradeSlot cfg clock offer i).Ok offer := by
  obtain ⟨ht, hp⟩ := tradeSlot_spec cfg g (clock i) (timeSlotActive g i)
    (offer.exportOffer i) s.ctx (ho i) (h.phases i)
  refine ⟨fun j => ?_, fun j => ?_⟩
  · by_cases hj : j = i
    · subst hj
      simpa only [BrokerRun.tradeSlot, Function.update_self] using ht
    · simpa only [BrokerRun.tradeSlot, Function.update_of_ne hj] using h.trading j
  · by_cases hj : j = i
    · subst hj
      simpa only [BrokerRun.tradeSlot, Function.update_self] using hp
    · simpa only [BrokerRun.tradeSlot, Function.update_of_ne hj] using h.phases j

/-- **Every slot of a broker's trade fits its offer.** -/
theorem tradeImpl_spec {g : Globals} (cfg : Config) (clock : Schedule g Int) {offer : Offer g}
    {slots : Schedule g BrokerSlot} (ctx : BrokerContext)
    (ho : ∀ i, (offer.importOffer i).PhasesNonneg) (hs : ∀ i, 0 ≤ (slots i).numPhases.value) :
    (tradeImpl cfg clock offer slots ctx).Ok offer :=
  List.foldlRecOn _ _ ⟨fun _ => admissibleTrade_zero _ _, hs⟩ fun _ h i _ => h.tradeSlot ho i

/-! ## All brokers -/

/-- What is fixed during a run of the optimizer. -/
structure Optimizer where
  cfg : Config
  startTime : Int
  leapElapsed : Int
  request : EnergyFlowRequest

namespace Optimizer

variable (o : Optimizer)

def globals : Globals := Globals.init o.cfg o.startTime o.leapElapsed o.request

/-- The market of the node at a path; a path that leads nowhere has nothing to offer. -/
def market (path : List Nat) : MarketNode o.globals :=
  match o.request.at? path with
  | some r => MarketNode.ofRequest o.globals r.request
  | none => ⟨fun _ => zeroLimits, fun _ => zeroLimits⟩

def uuid (path : List Nat) : String :=
  ((o.request.at? path).map fun r => r.request.uuid).getD ""

/-- The brokers, by the paths of their EVSEs. -/
def brokers : List (List Nat) := o.request.evses []

/-- The state of a run: what every market has sold, what every broker remembers of its slots, and
the contexts of the EVSEs. -/
structure State (o : Optimizer) where
  sold : Sold o.globals
  slots : List Nat → Schedule o.globals BrokerSlot
  contexts : String → BrokerContext

variable (contexts : String → BrokerContext)

/-- The context of an EVSE is cleared when it is unplugged or has finished. -/
def clearContext (path : List Nat) : String → BrokerContext :=
  match (o.request.at? path).bind fun r => r.request.evseState with
  | some .Unplugged | some .Finished =>
    Function.update contexts (o.uuid path)
      ⟨0, 0, o.startTime - o.cfg.timeHysteresisS * 1000000000⟩
  | _ => contexts

/-- The state before the first round, with the contexts of the last run. -/
def init : o.State where
  sold := fun _ _ => {}
  slots := fun _ _ => {}
  contexts := o.brokers.foldl o.clearContext contexts

/-- `Broker::trade` of the broker at a path, on a fresh offer. -/
def brokerTrade (clock : Schedule o.globals Int) (path : List Nat) (s : o.State) : o.State × Bool :=
  let offer := createOffer o.market s.sold path
  let r := tradeImpl o.cfg clock offer (s.slots path) (s.contexts (o.uuid path))
  ({ sold := Market.trade path r.trading s.sold
     slots := Function.update s.slots path r.slots
     contexts := Function.update s.contexts (o.uuid path) r.ctx }, r.traded)

/-- One trading round; the flag tells whether a trade happened in it. -/
def tradingRound (clock : List Nat → Schedule o.globals Int) (s : o.State) : o.State × Bool :=
  o.brokers.foldl (fun acc path =>
    let r := o.brokerTrade (clock path) path acc.1
    (r.1, acc.2 || r.2)) (s, false)

/-- At most `rounds` trading rounds, numbered from `k` on, until nothing is traded. -/
def tradingRounds (o : Optimizer) (clock : Nat → List Nat → Schedule o.globals Int) :
    Nat → Nat → o.State → o.State
  | 0, _, s => s
  | rounds + 1, k, s =>
    let r := o.tradingRound (clock k) s
    if r.2 then o.tradingRounds clock rounds (k + 1) r.1 else r.1

def maxNumberOfTradingRounds : Nat := 100

/-- The trading of `run_optimizer`. -/
def runOptimizer
    (clock : Nat → List Nat → Schedule o.globals Int) : o.State :=
  o.tradingRounds clock maxNumberOfTradingRounds 0 (o.init contexts)

/-! ## No market is oversold -/

variable {o : Optimizer}

/-- Every market is within its limits, and no broker remembers a negative number of phases. -/
structure State.WithinLimits (s : o.State) : Prop where
  sold : ∀ n i q, Within (((o.market n).exportMaxAvailable i).value q)
    (((o.market n).importMaxAvailable i).value q) ((s.sold n i).amount q)
  phases : ∀ p i, 0 ≤ (s.slots p i).numPhases.value

theorem phasesNonneg_market (o : Optimizer) (n : List Nat) (i : Fin o.globals.timestamps.length) :
    ((o.market n).importMaxAvailable i).PhasesNonneg := by
  unfold market
  split
  · exact phasesNonneg_maxAvailableAt _ _
  · exact ⟨fun _ h => absurd h (by simp [zeroLimits]), fun _ h => absurd h (by simp [zeroLimits]),
      fun _ h => absurd h (by simp [zeroLimits])⟩

theorem nonneg_market (o : Optimizer) (n : List Nat) (i : Fin o.globals.timestamps.length) :
    ((o.market n).importMaxAvailable i).Nonneg ∧ ((o.market n).exportMaxAvailable i).Nonneg := by
  have hz : zeroLimits.Nonneg := nonneg_maxAvailableEnergy [] 0
  unfold market
  split
  · exact nonneg_maxAvailableAt _ _
  · exact ⟨hz, hz⟩

theorem withinLimits_init (o : Optimizer) (contexts : String → BrokerContext) :
    (o.init contexts).WithinLimits where
  sold n i q := by
    have hz : ((o.init contexts).sold n i).amount q = 0 := by cases q <;> rfl
    rw [hz]
    exact within_zero _ _
  phases _ _ := le_rfl

/-- **The trade of one broker keeps every market in its limits.** -/
theorem brokerTrade_withinLimits {s : o.State} (h : s.WithinLimits)
    (clock : Schedule o.globals Int) (path : List Nat) :
    (o.brokerTrade clock path s).1.WithinLimits := by
  have ho : ∀ i, ((createOffer o.market s.sold path).importOffer i).PhasesNonneg :=
    fun i => phasesNonneg_createOffer (phasesNonneg_market o) i path
  have hok := tradeImpl_spec o.cfg clock (s.contexts (o.uuid path)) ho (h.phases path)
  constructor
  · intro n i q
    simp only [brokerTrade, Market.trade, post_eq]
    split_ifs with hn
    · rw [amount_scheduleAdd]
      refine within_add (h.sold n i q) ?_
      obtain ⟨himp, hexp⟩ := createOffer_tighter o.market s.sold i q hn
      simp only [value_availableEnergy, soldTerm_import] at himp
      simp only [value_availableEnergy, soldTerm_export] at hexp
      exact (hok.trading i q).mono hexp himp
    · exact h.sold n i q
  · intro p i
    by_cases hp : p = path
    · subst hp
      simp only [brokerTrade, Function.update_self]
      exact hok.phases i
    · simp only [brokerTrade, Function.update_of_ne hp]
      exact h.phases p i

theorem tradingRound_withinLimits {s : o.State} (h : s.WithinLimits)
    (clock : List Nat → Schedule o.globals Int) : (o.tradingRound clock s).1.WithinLimits :=
  List.foldlRecOn (motive := fun acc : o.State × Bool => acc.1.WithinLimits) _ _ h
    fun _ hacc path _ => brokerTrade_withinLimits hacc _ path

theorem tradingRounds_withinLimits (clock : Nat → List Nat → Schedule o.globals Int) :
    ∀ (rounds k : Nat) (s : o.State), s.WithinLimits →
      (o.tradingRounds clock rounds k s).WithinLimits
  | 0, _, _, h => h
  | rounds + 1, k, s, h => by
    have hr := tradingRound_withinLimits h (clock k)
    simp only [tradingRounds]
    split_ifs
    · exact tradingRounds_withinLimits clock rounds (k + 1) _ hr
    · exact hr

/-- **No market is ever oversold.** For every request tree, whatever the contexts of earlier runs
and the readings of the clock, after any number of trading rounds the net amount sold at every
market lies between its export limit, below zero, and its import limit, where it states them. -/
theorem no_market_oversold (o : Optimizer) (contexts : String → BrokerContext)
    (clock : Nat → List Nat → Schedule o.globals Int) (rounds : Nat) (n : List Nat)
    (i : Fin o.globals.timestamps.length) (q : Quantity) :
    let sold := ((o.tradingRounds clock rounds 0 (o.init contexts)).sold n i).amount q
    (∀ limit ∈ ((o.market n).importMaxAvailable i).limit q, sold ≤ limit.value) ∧
      (∀ limit ∈ ((o.market n).exportMaxAvailable i).limit q, -limit.value ≤ sold) := by
  have h := (tradingRounds_withinLimits clock rounds 0 _ (withinLimits_init o contexts)).sold n i q
  obtain ⟨himp, hexp⟩ := nonneg_market o n i
  refine ⟨fun l hl => ?_, fun l hl => ?_⟩
  · have := h.1 l.value (Option.mem_map_of_mem _ hl)
    rwa [max_eq_left (himp q l hl)] at this
  · have := h.2 l.value (Option.mem_map_of_mem _ hl)
    rwa [max_eq_left (hexp q l hl)] at this

/-- A node that may import up to a current, on one to three phases. -/
def upTo (ampere : Nat) (uuid : String) (nodeType : NodeType) : NodeRequest where
  uuid := uuid
  nodeType := nodeType
  evseState := some .Charging
  scheduleImport :=
    let limits : LimitsReq :=
      { acMaxCurrentA := some ⟨ampere, uuid⟩
        acMaxPhaseCount := some ⟨3, uuid⟩
        acMinPhaseCount := some ⟨1, uuid⟩
        limit_nonneg := by rintro (_ | _) <;> simp [Limits.limit]
        maxPhases := by simp
        minPhases := by simp
        activePhases := by simp }
    [⟨0, limits, limits, some 1, by simp⟩]
  scheduleExport := []
  scheduleSetpoints := []
  frequencyRoot := none
  frequencyLeaves := none

/-- Two EVSEs of 16 A under a fuse of 25 A, for one slot. -/
def twoEvses : Optimizer where
  cfg :=
    { nominalAcVoltage := 230
      scheduleIntervalDuration := 60
      scheduleTotalDuration := 1
      sliceAmpere := 5
      sliceWatt := 500
      switch1ph3phMode := .Never
      stickyness := .DontChange
      maxNrOfSwitches := 0
      powerHysteresisW := 0
      timeHysteresisS := 0
      voltage_nonneg := by decide
      sliceAmpere_nonneg := by decide
      sliceWatt_nonneg := by decide }
  startTime := 0
  leapElapsed := 0
  request := .node (upTo 25 "fuse" .Generic)
    [.node (upTo 16 "evse1" .Evse) [], .node (upTo 16 "evse2" .Evse) []]

/-- The fuse is sold out, before both EVSEs are. -/
example :
    let sold := (twoEvses.runOptimizer (fun _ => ⟨0, 0, 0⟩) fun _ _ _ => 0).sold
    ∀ i, [[], [0], [1]].map (fun path => (sold path i).amount .Current) = [25, 15, 10] := by
  decide +kernel

end Optimizer

/-! ## The slot in force -/

namespace Globals

variable (g : Globals)

/-- The loop of `run_optimizer` that selects the limits in force, from the slot `k` on. -/
def selectSlot (startTime : Int) : List Int → (k selected : Nat) → Nat
  | [], _, selected => selected
  | t :: timestamps, k, selected =>
    if startTime < t then selected else selectSlot startTime timestamps (k + 1) k

def selectedSlot : Nat := selectSlot g.startTime g.timestamps 0 0

/-- The limits that are sent to an EVSE, if its market has sold anything. -/
def limitsRootSide (sold : Schedule g LimitsRes) : Option LimitsRes :=
  if h : g.selectedSlot < g.timestamps.length then some (sold ⟨g.selectedSlot, h⟩) else none

/-- The slot is the last one that has begun, or the first one. -/
def Current (i : Nat) : Prop :=
  i < g.timestamps.length ∧
    ∀ k, 0 < k → k < g.timestamps.length → (g.time k ≤ g.startTime ↔ k ≤ i)

theorem selectSlot_spec (startTime : Int) : ∀ {timestamps : List Int} {k selected : Nat},
    timestamps.Pairwise (· < ·) → selected < k →
      selected ≤ selectSlot startTime timestamps k selected ∧
      selectSlot startTime timestamps k selected < k + timestamps.length ∧
      ∀ j t, timestamps[j]? = some t →
        (t ≤ startTime ↔ k + j ≤ selectSlot startTime timestamps k selected)
  | [], k, selected, _, hk => ⟨le_rfl, hk, nofun⟩
  | t :: timestamps, k, selected, hs, hk => by
    obtain ⟨ht, hs⟩ := List.pairwise_cons.1 hs
    rw [selectSlot, List.length_cons]
    split_ifs with hlt
    · refine ⟨le_rfl, by omega, fun j t' hj => iff_of_false (not_le.2 ?_) (by omega)⟩
      rcases List.mem_cons.1 (List.mem_of_getElem? hj) with rfl | hmem
      · exact hlt
      · exact hlt.trans (ht _ hmem)
    · obtain ⟨hge, hlen, hsel⟩ := selectSlot_spec startTime hs (lt_add_one k)
      refine ⟨by omega, by omega, fun j t' hj => ?_⟩
      cases j with
      | zero =>
        obtain rfl := Option.some.inj hj
        exact iff_of_true (not_lt.1 hlt) hge
      | succ j =>
        rw [hsel j t' hj]
        omega

variable {g}

theorem Current.le {i j : Nat} (hi : g.Current i) (hj : g.Current j) : i ≤ j := by
  rcases Nat.eq_zero_or_pos i with rfl | hpos
  · exact Nat.zero_le j
  · exact (hj.2 i hpos hi.1).1 ((hi.2 i hpos hi.1).2 le_rfl)

theorem between_of_find? {n : Nat} (h : (List.range (g.timestamps.length - 1)).find? (fun n =>
      decide (g.time n < g.startTime) && decide (g.startTime < g.time (n + 1))) = some n) :
    n + 1 < g.timestamps.length ∧ g.time n < g.startTime ∧ g.startTime < g.time (n + 1) := by
  have hn := List.mem_range.1 (List.mem_of_find?_eq_some h)
  have hp := List.find?_some h
  simp only [Bool.and_eq_true, decide_eq_true_eq] at hp
  exact ⟨by omega, hp⟩

theorem mem_tail {k : Nat} (hpos : 0 < k) (hk : k < g.timestamps.length) :
    g.time k ∈ g.timestamps.tail := by
  obtain ⟨k, rfl⟩ := Nat.exists_eq_add_one.2 hpos
  refine List.mem_of_getElem? (i := k) ?_
  simp [time, hk]

theorem exists_time_of_mem_tail {t : Int} (h : t ∈ g.timestamps.tail) :
    ∃ k, 0 < k ∧ k < g.timestamps.length ∧ g.time k = t := by
  obtain ⟨k, hk, rfl⟩ := List.mem_iff_getElem.1 h
  have hk' : k + 1 < g.timestamps.length := by
    rw [List.length_tail] at hk
    omega
  exact ⟨k + 1, Nat.succ_pos k, hk', by simp [time, hk']⟩

section Sorted

variable (hs : g.timestamps.Pairwise (· < ·))

include hs

theorem time_lt {i j : Nat} (h : i < j) (hj : j < g.timestamps.length) : g.time i < g.time j := by
  simpa [time, hj, h.trans hj] using List.pairwise_iff_getElem.1 hs i j (h.trans hj) hj h

variable (hne : g.timestamps ≠ [])

include hne

/-- The first slot needs no test: the others are selected just when they have begun. -/
theorem current_selectedSlot : g.Current g.selectedSlot := by
  obtain ⟨startTime, timestamps⟩ := g
  obtain ⟨t, timestamps, rfl⟩ := List.exists_cons_of_ne_nil hne
  obtain ⟨ht, hs⟩ := List.pairwise_cons.1 hs
  obtain ⟨-, hlen, hsel⟩ := selectSlot_spec startTime hs (lt_add_one 0)
  have htime : ∀ k, k + 1 < (t :: timestamps).length →
      timestamps[k]? = some (time ⟨startTime, t :: timestamps⟩ (k + 1)) := by
    intro k hk
    simp [time, Nat.lt_of_succ_lt_succ hk]
  unfold Current selectedSlot selectSlot
  dsimp only
  split_ifs with hlt
  · refine ⟨Nat.succ_pos _, fun k hpos hk => iff_of_false (not_le.2 ?_) (by omega)⟩
    obtain ⟨k, rfl⟩ := Nat.exists_eq_add_one.2 hpos
    exact hlt.trans (ht _ (List.mem_of_getElem? (htime k hk)))
  · refine ⟨by rw [List.length_cons]; omega, fun k hpos hk => ?_⟩
    obtain ⟨k, rfl⟩ := Nat.exists_eq_add_one.2 hpos
    rw [hsel k _ (htime k hk)]
    omega

/-- Only the current slot has the start time strictly between its begin and the next one's. -/
theorem eq_selectedSlot {n : Nat} (hn : n + 1 < g.timestamps.length)
    (h : g.time n < g.startTime) (h' : g.startTime < g.time (n + 1)) : n = g.selectedSlot := by
  obtain ⟨-, hcur⟩ := current_selectedSlot hs hne
  have hnext := (hcur (n + 1) (Nat.succ_pos n) hn).not.1 (not_le.2 h')
  rcases Nat.eq_zero_or_pos n with rfl | hpos
  · omega
  · have := (hcur n hpos (by omega)).1 h.le
    omega

/-- While no later slot begins, the strict comparisons miss nothing. -/
theorem activeSlot_of_notMem (hmem : g.startTime ∉ g.timestamps.tail) :
    g.activeSlot = g.selectedSlot := by
  obtain ⟨hlen, hcur⟩ := current_selectedSlot hs hne
  -- a selected slot other than the first has begun, and earlier than now
  have hbegun : 0 < g.selectedSlot → g.time g.selectedSlot < g.startTime := by
    intro hpos
    refine lt_of_le_of_ne ((hcur _ hpos hlen).2 le_rfl) fun heq => hmem ?_
    rw [← heq]
    exact mem_tail hpos hlen
  unfold activeSlot
  dsimp only
  split_ifs with hfirst hlast
  · by_contra hsel
    have hpos := Nat.pos_of_ne_zero (Ne.symm hsel)
    exact absurd (time_lt hs hpos hlen) (not_lt.2 ((hbegun hpos).trans hfirst).le)
  · rcases Nat.eq_zero_or_pos (g.timestamps.length - 1) with hzero | hpos
    · omega
    · have := (hcur _ hpos (by omega)).1 hlast.le
      omega
  · cases hfind : (List.range (g.timestamps.length - 1)).find? _ with
    | some n =>
      obtain ⟨hn, hp, hp'⟩ := between_of_find? hfind
      exact eq_selectedSlot (n := n) hs hne hn hp hp'
    | none =>
      by_contra hsel
      have hpos := Nat.pos_of_ne_zero (Ne.symm hsel)
      have hne : g.selectedSlot ≠ g.timestamps.length - 1 := by
        intro heq
        exact hlast (heq ▸ hbegun hpos)
      refine List.find?_eq_none.1 hfind g.selectedSlot (List.mem_range.2 (by omega)) ?_
      have hnext := (hcur (g.selectedSlot + 1) (Nat.succ_pos _) (by omega)).not.2 (by omega)
      simpa using ⟨hbegun hpos, not_le.1 hnext⟩

/-- A later slot that begins right now is selected, but is no slot's strict inside. -/
theorem activeSlot_of_mem (hmem : g.startTime ∈ g.timestamps.tail) :
    g.activeSlot ≠ g.selectedSlot := by
  obtain ⟨hlen, hcur⟩ := current_selectedSlot hs hne
  obtain ⟨k, hpos, hk, hstart⟩ := exists_time_of_mem_tail hmem
  have hsel := (hcur k hpos hk).1 hstart.le
  unfold activeSlot
  dsimp only
  split_ifs with hfirst hlast
  · omega
  · have : k ≠ g.timestamps.length - 1 := fun heq => hlast.ne (heq ▸ hstart)
    have := time_lt hs (show k < g.timestamps.length - 1 by omega) (by omega)
    omega
  · cases hfind : (List.range (g.timestamps.length - 1)).find? _ with
    | some n =>
      obtain ⟨hn, hp, hp'⟩ := between_of_find? hfind
      intro (heq : n = _)
      rcases Nat.lt_or_ge k n with hlt | hge
      · have := time_lt hs hlt (by omega)
        omega
      · obtain rfl : k = n := by omega
        omega
    | none => exact (by omega : 0 ≠ g.selectedSlot)

end Sorted

end Globals

/-- **The slot that a broker takes for active is the one whose limits are sent just when no slot
but the first begins at the start time.** -/
theorem active_eq_selected_iff (g : Globals) (hne : g.timestamps ≠ [])
    (hs : g.timestamps.Pairwise (· < ·)) :
    (∃ i : Fin g.timestamps.length, (∀ j, timeSlotActive g j = true ↔ j = i) ∧
        (∀ sold, g.limitsRootSide sold = some (sold i)) ∧ g.Current i) ↔
      g.startTime ∉ g.timestamps.tail := by
  have hsel := Globals.current_selectedSlot hs hne
  constructor
  · intro ⟨i, hactive, _, hi⟩ hmem
    refine Globals.activeSlot_of_mem hs hne hmem (((hactive _).1 (decide_eq_true rfl)).trans ?_)
    exact le_antisymm (hi.le hsel) (hsel.le hi)
  · intro hmem
    refine ⟨⟨g.selectedSlot, hsel.1⟩, fun j => ?_, fun sold => dif_pos hsel.1, hsel⟩
    rw [timeSlotActive, decide_eq_true_iff, Globals.activeSlot_of_notMem hs hne hmem, eq_comm]

theorem active_between_slots :
    ∃ i : Fin 3, (∀ j, timeSlotActive ⟨15, [0, 10, 20]⟩ j = true ↔ j = i) ∧
      (∀ sold, Globals.limitsRootSide ⟨15, [0, 10, 20]⟩ sold = some (sold i)) ∧
      Globals.Current ⟨15, [0, 10, 20]⟩ i :=
  (active_eq_selected_iff ⟨15, [0, 10, 20]⟩ (by decide) (by decide)).2 (by decide)

/-- At the very begin of the second slot the broker takes the first one for active. -/
theorem active_slot_misses_begin :
    (∀ i, timeSlotActive ⟨10, [0, 10, 20]⟩ i = true ↔ i = 0) ∧
      ∀ sold, Globals.limitsRootSide ⟨10, [0, 10, 20]⟩ sold = some (sold 1) :=
  ⟨fun _ => decide_eq_true_iff.trans eq_comm, fun _ => rfl⟩

end EverestCore.Energy
