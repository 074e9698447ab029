import EverestCore.Energy.Request
import EverestCore.Lib.PathLedger
import Mathlib.Tactic.Linarith
import Mathlib.Tactic.Ring

/-!
# Markets and offers (`Market.cpp`, `Offer.cpp`)

Every node of the request tree has a market: what may be imported and exported there in each time
slot, and what has been sold so far. A trade is added to the market it is made at and to all
markets above it. An offer to a market merges what is left at it and at all markets above it.

The slots are the timestamps of `globals_t`; all schedules have one entry per slot, so the size
checks of the source are replaced by the type `Schedule`. A market is addressed by its path
(`EnergyFlowRequest.at?`), the tree of `Market` objects is a function from paths.

Results:
* `amount_scheduleAdd`: a trade adds to the amount sold.
* `value_available_import`, `value_available_export`: what is left is `remaining` of
  `Lib.PathLedger`.
* `createOffer_tighter`: an offer is at least as tight as what is left at each market on the way
  to the root.
* `nonneg_maxAvailableAt`, `phasesNonneg_createOffer`: the ranges of the request reach the markets
  and the offers.
* `watt_interpolated_iff`: when the power of a frequency table is interpolated.
-/

namespace EverestCore.Energy

open EverestCore.Lib.PathLedger

/-! ## Configuration and time slots -/

/-- `switch_3ph1ph_while_charging_mode`. -/
inductive Switch1ph3phMode
  | Never | Oneway | Both
  deriving DecidableEq

/-- `switch_3ph1ph_switch_limit_stickyness`. -/
inductive StickyNess
  | SinglePhase | ThreePhase | DontChange

/-- `EnergyManagerConfig`. The voltage and the slices of a trade are not negative. -/
structure Config where
  nominalAcVoltage : Rat
  scheduleIntervalDuration : Int
  scheduleTotalDuration : Int
  sliceAmpere : Rat
  sliceWatt : Rat
  switch1ph3phMode : Switch1ph3phMode
  stickyness : StickyNess
  maxNrOfSwitches : Int
  powerHysteresisW : Int
  timeHysteresisS : Int
  voltage_nonneg : 0 ≤ nominalAcVoltage
  sliceAmpere_nonneg : 0 ≤ sliceAmpere
  sliceWatt_nonneg : 0 ≤ sliceWatt

/-- The part of `globals_t` that does not repeat the configuration. -/
structure Globals where
  startTime : Int
  timestamps : List Int

/-- `create_timestamps`: the regular slots, from the last full interval on and shifted by the
leap seconds elapsed, and the timestamps of all requests, sorted and without duplicates. -/
def createTimestamps (cfg : Config) (startTime leapElapsed : Int) (request : EnergyFlowRequest) :
    List Int :=
  let interval := cfg.scheduleIntervalDuration * 60000000000
  let length := ((cfg.scheduleTotalDuration * 60).tdiv cfg.scheduleIntervalDuration).toNat
  let start := startTime - startTime.tmod interval + leapElapsed
  let regular := (List.range length).map fun k => start + k * interval
  ((regular ++ request.timestamps).insertionSort (· ≤ ·)).dedup

def Globals.init (cfg : Config) (startTime leapElapsed : Int) (request : EnergyFlowRequest) :
    Globals where
  startTime := startTime
  timestamps := createTimestamps cfg startTime leapElapsed request

/-- A schedule has one entry per slot. -/
abbrev Schedule (g : Globals) (α : Type) := Fin g.timestamps.length → α

/-! ## What a node offers at most -/

section Optional

variable {α : Type} [LinearOrder α]

def minOptional (a b : Option (WithSource α)) : Option (WithSource α) :=
  match a, b with
  | some x, some y => if x.value < y.value then some x else some y
  | some x, none => some x
  | none, b => b

def maxOptional (a b : Option (WithSource α)) : Option (WithSource α) :=
  match a, b with
  | some x, some y => if x.value > y.value then some x else some y
  | some x, none => some x
  | none, b => b

def applyOneLimitIfSmaller (a b : Option (WithSource α)) : Option (WithSource α) :=
  match b, a with
  | none, a => a
  | some y, none => some y
  | some y, some x =>
    if x.value > y.value then some y
    else if x.value = y.value then some ⟨x.value, x.source ++ "," ++ y.source⟩
    else some x

def applyOneLimitIfGreater (a b : Option (WithSource α)) : Option (WithSource α) :=
  match b, a with
  | none, a => a
  | some y, none => some y
  | some y, some x =>
    if x.value < y.value then some y
    else if x.value = y.value then some ⟨x.value, x.source ++ "," ++ y.source⟩
    else some x

end Optional

/-- The entry in force at `tp`, as `resample` and `get_max_available_energy` look for it: the one
whose stretch contains it, the first one also before its time, the last one from its time on. -/
def findEntry {α : Type} (timestamp : α → Int) (tp : Int) : Bool → List α → Option α
  | _, [] => none
  | _, [r] => some r
  | isFirst, r₁ :: r₂ :: rs =>
    if (timestamp r₁ ≤ tp ∧ tp < timestamp r₂) ∨ (isFirst = true ∧ tp < timestamp r₁) then some r₁
    else findEntry timestamp tp false (r₂ :: rs)

/-- The limits of a request entry, merged on the root side. -/
def mergedLimits (r : ScheduleReqEntry) : Limits where
  totalPowerW := minOptional
    (r.limitsToLeaves.totalPowerW.map fun l => { l with
      value := l.value / r.conversionEfficiency.getD 1 }) r.limitsToRoot.totalPowerW
  acMaxCurrentA := minOptional r.limitsToLeaves.acMaxCurrentA r.limitsToRoot.acMaxCurrentA
  acMinPhaseCount := maxOptional r.limitsToRoot.acMinPhaseCount r.limitsToLeaves.acMinPhaseCount
  acMaxPhaseCount := minOptional r.limitsToRoot.acMaxPhaseCount r.limitsToLeaves.acMaxPhaseCount
  acMinCurrentA := maxOptional r.limitsToRoot.acMinCurrentA r.limitsToLeaves.acMinCurrentA
  acNumberOfActivePhases := r.limitsToRoot.acNumberOfActivePhases

/-- The entry of `zero_schedule_req`. -/
def zeroLimits : Limits where
  acMaxCurrentA := some ⟨0, ""⟩
  totalPowerW := some ⟨0, ""⟩

/-- `get_max_available_energy` at one slot; a node that requested nothing gets nothing. -/
def maxAvailableEnergy (request : List ScheduleReqEntry) (tp : Int) : Limits :=
  match findEntry ScheduleReqEntry.timestamp tp true request with
  | some r => mergedLimits r
  | none => zeroLimits

/-- `get_watt_from_freq_table`, its loop: the power and frequency of the last point not above
`freq`, and the power of the first point above it. -/
def freqTableLoop (freq : Rat) : List FrequencyWattPoint → Rat → Rat → Rat → Rat × Rat × Rat
  | [], watt1, watt2, freq1 => (watt1, watt2, freq1)
  | e :: es, watt1, _, freq1 =>
    if e.frequencyHz > freq then (watt1, e.totalPowerW, freq1)
    else freqTableLoop freq es e.totalPowerW e.totalPowerW e.frequencyHz

def getWattFromFreqTable (table : List FrequencyWattPoint) (freq : Rat) : Rat :=
  match table with
  | [] => 0
  | [p] => p.totalPowerW
  | p :: ps =>
    let (watt1, watt2, freq1) := freqTableLoop freq (p :: ps) p.totalPowerW 0 0
    watt1 + (freq - freq1) * (watt2 - watt1)

def applyLimitIfSmaller (base : Option (WithSource Rat)) (limit : Rat) (source : String) :
    Option (WithSource Rat) :=
  match base with
  | none => some ⟨limit, source⟩
  | some b => if b.value > limit then some ⟨limit, source⟩ else some b

def Limits.setLimit (l : Limits) (q : Quantity) (v : Option (WithSource Rat)) : Limits :=
  match q with
  | .Current => { l with acMaxCurrentA := v }
  | .Power => { l with totalPowerW := v }

/-- A target for the quantity `q` as a limit on imports and exports: a target in one direction
forbids the other. -/
def applyTarget (q : Quantity) (target : Rat) (source : String) (imp exp : Limits) :
    Limits × Limits :=
  if 0 ≤ target then
    (imp.setLimit q (applyLimitIfSmaller (imp.limit q) target source),
      exp.setLimit q (some ⟨0, source⟩))
  else
    (imp.setLimit q (some ⟨0, source⟩),
      exp.setLimit q (applyLimitIfSmaller (exp.limit q) (-target) source))

/-- `apply_setpoints` at one slot: only one of the values of a setpoint is used. -/
def applySetpoint (sp : Option SetpointType) (freq : Option Rat) (imp exp : Limits) :
    Limits × Limits :=
  match sp with
  | none => (imp, exp)
  | some sp =>
    match sp.acCurrentA, sp.totalPowerW, sp.frequencyTable, freq with
    | some a, _, _, _ => applyTarget .Current a sp.source imp exp
    | none, some w, _, _ => applyTarget .Power w sp.source imp exp
    | none, none, some table, some f =>
      applyTarget .Power (getWattFromFreqTable table f) sp.source imp exp
    | none, none, _, _ => (imp, exp)

/-- `import_max_available` and `export_max_available`, as the constructor of `Market` leaves
them at one slot. -/
def maxAvailableAt (r : NodeRequest) (tp : Int) : Limits × Limits :=
  applySetpoint
    ((findEntry ScheduleSetpointEntry.timestamp tp true r.scheduleSetpoints).bind (·.setpoint))
    (r.frequencyRoot.orElse fun _ => r.frequencyLeaves)
    (maxAvailableEnergy r.scheduleImport tp) (maxAvailableEnergy r.scheduleExport tp)

/-- The fixed part of a market. -/
structure MarketNode (g : Globals) where
  importMaxAvailable : Schedule g Limits
  exportMaxAvailable : Schedule g Limits

/-- The constructor of `Market`. -/
def MarketNode.ofRequest (g : Globals) (r : NodeRequest) : MarketNode g where
  importMaxAvailable i := (maxAvailableAt r (g.timestamps.get i)).1
  exportMaxAvailable i := (maxAvailableAt r (g.timestamps.get i)).2

/-! ## What has been sold -/

structure LimitsRes where
  totalPowerW : Option (WithSource Rat) := none
  acMaxCurrentA : Option (WithSource Rat) := none
  acMaxPhaseCount : Option (WithSource Int) := none

def LimitsRes.limit (l : LimitsRes) : Quantity → Option (WithSource Rat)
  | .Current => l.acMaxCurrentA
  | .Power => l.totalPowerW

/-- The amount of a quantity; nothing stated is nothing traded. -/
def LimitsRes.amount (l : LimitsRes) (q : Quantity) : Rat :=
  match l.limit q with
  | some n => n.value
  | none => 0

/-- `schedule_add` for one optional number. -/
def addNumber (a b : Option (WithSource Rat)) : Option (WithSource Rat) :=
  match b with
  | none => a
  | some y =>
    let source := if y.value ≠ 0 then y.source else (a.map (·.source)).getD ""
    some ⟨y.value + (a.map (·.value)).getD 0, source⟩

/-- `schedule_add` at one slot. -/
def scheduleAdd (a b : LimitsRes) : LimitsRes where
  acMaxCurrentA := addNumber a.acMaxCurrentA b.acMaxCurrentA
  totalPowerW := addNumber a.totalPowerW b.totalPowerW
  acMaxPhaseCount := match b.acMaxPhaseCount, a.acMaxPhaseCount with
    | none, x => x
    | some y, none => some y
    | some y, some x => if y.value > x.value then some y else some x

/-- `sold_root` of every market. -/
abbrev Sold (g : Globals) := List Nat → Schedule g LimitsRes

/-- `Market::trade`: add to this market, then to its parent. -/
def Market.trade {g : Globals} (path : List Nat) (traded : Schedule g LimitsRes) (sold : Sold g) :
    Sold g :=
  post (fun a b i => scheduleAdd (a i) (b i)) path traded sold

/-- What was sold, seen from one direction, never as a gain. -/
def soldTerm (sold : LimitsRes) (q : Quantity) (addSold : Bool) : Rat :=
  let s := (if addSold then 1 else -1) * sold.amount q
  if s > 0 then 0 else s

/-- `get_available_energy` at one slot. -/
def availableEnergy (maxAvailable : Limits) (sold : LimitsRes) (addSold : Bool) : Limits :=
  { maxAvailable with
    acMaxCurrentA := maxAvailable.acMaxCurrentA.map fun l => { l with
      value := l.value + soldTerm sold .Current addSold }
    totalPowerW := maxAvailable.totalPowerW.map fun l => { l with
      value := l.value + soldTerm sold .Power addSold } }

/-! ## Offers -/

/-- `apply_limits` at one slot. -/
def applyLimits (a b : Limits) : Limits where
  acMaxCurrentA := applyOneLimitIfSmaller a.acMaxCurrentA b.acMaxCurrentA
  acMaxPhaseCount := applyOneLimitIfSmaller a.acMaxPhaseCount b.acMaxPhaseCount
  totalPowerW := applyOneLimitIfSmaller a.totalPowerW b.totalPowerW
  acMinPhaseCount := applyOneLimitIfGreater a.acMinPhaseCount b.acMinPhaseCount
  acMinCurrentA := applyOneLimitIfGreater a.acMinCurrentA b.acMinCurrentA
  acNumberOfActivePhases := b.acNumberOfActivePhases

structure Offer (g : Globals) where
  importOffer : Schedule g Limits
  exportOffer : Schedule g Limits

/-- Limit an offer with what is left at one market. -/
def Offer.limitWith {g : Globals} (o : Offer g) (m : MarketNode g)
    (sold : Schedule g LimitsRes) : Offer g where
  importOffer i := applyLimits (o.importOffer i)
    (availableEnergy (m.importMaxAvailable i) (sold i) false)
  exportOffer i := applyLimits (o.exportOffer i)
    (availableEnergy (m.exportMaxAvailable i) (sold i) true)

/-- `create_offer_for_local_market`: from the root, with an empty offer, down to the market. -/
def createOffer {g : Globals} (market : List Nat → MarketNode g) (sold : Sold g) :
    List Nat → Offer g
  | [] => Offer.limitWith ⟨fun _ => {}, fun _ => {}⟩ (market []) (sold [])
  | k :: p => (createOffer market sold p).limitWith (market (k :: p)) (sold (k :: p))

/-! ## What is left, as `remaining` -/

/-- The stated limit of a quantity, without its source. -/
def Limits.value (l : Limits) (q : Quantity) : Option Rat := (l.limit q).map (·.value)

theorem amount_scheduleAdd (a b : LimitsRes) (q : Quantity) :
    (scheduleAdd a b).amount q = a.amount q + b.amount q := by
  have hnum : ∀ x y : Option (WithSource Rat),
      ((addNumber x y).map (·.value)).getD 0 = (x.map (·.value)).getD 0 +
        (y.map (·.value)).getD 0 := by
    intro x y
    cases x <;> cases y <;> simp [addNumber, add_comm]
  have ha : ∀ l : LimitsRes, l.amount q = ((l.limit q).map (·.value)).getD 0 := by
    intro l
    unfold LimitsRes.amount
    cases l.limit q <;> rfl
  rw [ha, ha, ha]
  cases q
  · exact hnum _ _
  · exact hnum _ _

theorem soldTerm_import (sold : LimitsRes) (q : Quantity) (l : Rat) :
    l + soldTerm sold q false = remaining l (sold.amount q) := by
  unfold soldTerm remaining
  simp only [Bool.false_eq_true, if_false, neg_one_mul]
  split_ifs with h
  · rw [max_eq_right (by linarith)]; ring
  · rw [max_eq_left (by linarith)]; ring

theorem soldTerm_export (sold : LimitsRes) (q : Quantity) (l : Rat) :
    l + soldTerm sold q true = remaining l (-sold.amount q) := by
  unfold soldTerm remaining
  simp only [if_true, one_mul]
  split_ifs with h
  · rw [max_eq_right (by linarith)]; ring
  · rw [max_eq_left (by linarith)]; ring

theorem value_availableEnergy (m : Limits) (sold : LimitsRes) (q : Quantity) (b : Bool) :
    (availableEnergy m sold b).value q = (m.value q).map fun l => l + soldTerm sold q b := by
  unfold Limits.value
  cases q <;> simp [availableEnergy, Limits.limit, Option.map_map, Function.comp_def]

/-! ## Offers are tight -/

theorem applyOneLimitIfSmaller_tighter (a b : Option (WithSource Rat)) :
    Tighter ((applyOneLimitIfSmaller a b).map (·.value)) (a.map (·.value)) ∧
      Tighter ((applyOneLimitIfSmaller a b).map (·.value)) (b.map (·.value)) := by
  unfold Tighter applyOneLimitIfSmaller
  cases a <;> cases b <;> simp
  split_ifs with h1 h2
  · simp [h1.le]
  · simp [h2]
  · have := not_lt.mp h1
    simp [this]

theorem applyLimits_tighter (a b : Limits) (q : Quantity) :
    Tighter ((applyLimits a b).value q) (a.value q) ∧
      Tighter ((applyLimits a b).value q) (b.value q) := by
  cases q <;> exact applyOneLimitIfSmaller_tighter _ _

/-- **An offer is at least as tight** as what is left at each market from it to the root. -/
theorem createOffer_tighter {g : Globals} (market : List Nat → MarketNode g) (sold : Sold g)
    (i : Fin g.timestamps.length) (q : Quantity) : ∀ {p n : List Nat}, n <:+ p →
      Tighter (((createOffer market sold p).importOffer i).value q)
        ((availableEnergy ((market n).importMaxAvailable i) (sold n i) false).value q) ∧
      Tighter (((createOffer market sold p).exportOffer i).value q)
        ((availableEnergy ((market n).exportMaxAvailable i) (sold n i) true).value q)
  | [], n, hn => by
    obtain rfl := List.suffix_nil.mp hn
    exact ⟨(applyLimits_tighter _ _ q).2, (applyLimits_tighter _ _ q).2⟩
  | k :: p, n, hn => by
    rcases List.suffix_cons_iff.mp hn with rfl | hp
    · exact ⟨(applyLimits_tighter _ _ q).2, (applyLimits_tighter _ _ q).2⟩
    · obtain ⟨him, hex⟩ := createOffer_tighter market sold i q hp
      exact ⟨Tighter.trans (applyLimits_tighter _ _ q).1 him,
        Tighter.trans (applyLimits_tighter _ _ q).1 hex⟩

/-! ## The ranges of the request reach the markets and the offers -/

section Merge

variable {α : Type} [LinearOrder α] {P : α → Prop} {a b : Option (WithSource α)}
  (ha : ∀ x ∈ a, P x.value) (hb : ∀ x ∈ b, P x.value)

include ha hb

theorem minOptional_forall : ∀ x ∈ minOptional a b, P x.value := by
  unfold minOptional
  split
  · split_ifs
    · exact ha
    · exact hb
  · exact ha
  · exact hb

theorem maxOptional_forall : ∀ x ∈ maxOptional a b, P x.value := by
  unfold maxOptional
  split
  · split_ifs
    · exact ha
    · exact hb
  · exact ha
  · exact hb

theorem applyOneLimitIfSmaller_forall : ∀ x ∈ applyOneLimitIfSmaller a b, P x.value := by
  unfold applyOneLimitIfSmaller
  split
  · exact ha
  · exact hb
  · rename_i x
    split_ifs
    · exact hb
    · intro z hz
      obtain rfl := Option.mem_some_iff.mp hz
      exact ha x rfl
    · exact ha

theorem applyOneLimitIfGreater_forall : ∀ x ∈ applyOneLimitIfGreater a b, P x.value := by
  unfold applyOneLimitIfGreater
  split
  · exact ha
  · exact hb
  · rename_i x
    split_ifs
    · exact hb
    · intro z hz
      obtain rfl := Option.mem_some_iff.mp hz
      exact ha x rfl
    · exact ha

end Merge

/-- No stated limit is negative. -/
def Limits.Nonneg (l : Limits) : Prop := ∀ q, ∀ n ∈ l.limit q, 0 ≤ n.value

theorem nonneg_mergedLimits (r : ScheduleReqEntry) : (mergedLimits r).Nonneg := by
  have hpos : 0 < r.conversionEfficiency.getD 1 := by
    cases h : r.conversionEfficiency with
    | none => exact zero_lt_one
    | some e => exact (r.efficiency_pos e h).1
  intro q
  cases q with
  | Current =>
    exact minOptional_forall (r.limitsToLeaves.limit_nonneg .Current)
      (r.limitsToRoot.limit_nonneg .Current)
  | Power =>
    refine minOptional_forall (fun x hx => ?_) (r.limitsToRoot.limit_nonneg .Power)
    obtain ⟨l, hl, rfl⟩ := Option.mem_map.mp hx
    exact div_nonneg (r.limitsToLeaves.limit_nonneg .Power l hl) hpos.le

theorem nonneg_maxAvailableEnergy (request : List ScheduleReqEntry) (tp : Int) :
    (maxAvailableEnergy request tp).Nonneg := by
  unfold maxAvailableEnergy
  split
  · exact nonneg_mergedLimits _
  · intro q n hn
    cases q <;> simp [zeroLimits, Limits.limit] at hn <;> simp [← hn]

theorem Limits.Nonneg.setLimit {l : Limits} (h : l.Nonneg) {q : Quantity}
    {v : Option (WithSource Rat)} (hv : ∀ n ∈ v, 0 ≤ n.value) : (l.setLimit q v).Nonneg := by
  intro q' n hn
  cases q <;> cases q'
  · exact hv n hn
  · exact h .Power n hn
  · exact h .Current n hn
  · exact hv n hn

theorem applyLimitIfSmaller_nonneg {base : Option (WithSource Rat)} {limit : Rat} {source : String}
    (hb : ∀ n ∈ base, 0 ≤ n.value) (hl : 0 ≤ limit) :
    ∀ n ∈ applyLimitIfSmaller base limit source, 0 ≤ n.value := by
  unfold applyLimitIfSmaller
  split
  · intro n hn
    obtain rfl := Option.mem_some_iff.mp hn
    exact hl
  · split_ifs
    · intro n hn
      obtain rfl := Option.mem_some_iff.mp hn
      exact hl
    · exact hb

theorem nonneg_applyTarget {q : Quantity} {target : Rat} {source : String} {imp exp : Limits}
    (hi : imp.Nonneg) (he : exp.Nonneg) :
    (applyTarget q target source imp exp).1.Nonneg ∧
      (applyTarget q target source imp exp).2.Nonneg := by
  have hz : ∀ n ∈ some (⟨0, source⟩ : WithSource Rat), 0 ≤ n.value := fun n hn => by
    obtain rfl := Option.mem_some_iff.mp hn
    exact le_rfl
  unfold applyTarget
  split_ifs with h
  · exact ⟨hi.setLimit (applyLimitIfSmaller_nonneg (hi q) h), he.setLimit hz⟩
  · exact ⟨hi.setLimit hz, he.setLimit (applyLimitIfSmaller_nonneg (he q) (by linarith))⟩

/-- **No market states a negative limit**, whatever the setpoints. -/
theorem nonneg_maxAvailableAt (r : NodeRequest) (tp : Int) :
    (maxAvailableAt r tp).1.Nonneg ∧ (maxAvailableAt r tp).2.Nonneg := by
  have hi := nonneg_maxAvailableEnergy r.scheduleImport tp
  have he := nonneg_maxAvailableEnergy r.scheduleExport tp
  unfold maxAvailableAt applySetpoint
  split
  · exact ⟨hi, he⟩
  · split
    · exact nonneg_applyTarget hi he
    · exact nonneg_applyTarget hi he
    · exact nonneg_applyTarget hi he
    · exact ⟨hi, he⟩

theorem phasesNonneg_maxAvailableEnergy (request : List ScheduleReqEntry) (tp : Int) :
    (maxAvailableEnergy request tp).PhasesNonneg := by
  unfold maxAvailableEnergy
  split
  · rename_i r _
    refine ⟨minOptional_forall (fun p hp => ?_) fun p hp => ?_,
      maxOptional_forall (fun p hp => ?_) fun p hp => ?_, fun n hn => ?_⟩
    · exact zero_le_one.trans (r.limitsToRoot.maxPhases p hp).1
    · exact zero_le_one.trans (r.limitsToLeaves.maxPhases p hp).1
    · exact zero_le_one.trans (r.limitsToRoot.minPhases p hp).1
    · exact zero_le_one.trans (r.limitsToLeaves.minPhases p hp).1
    · exact zero_le_one.trans (r.limitsToRoot.activePhases n hn).1
  · exact ⟨fun _ h => absurd h (by simp [zeroLimits]), fun _ h => absurd h (by simp [zeroLimits]),
      fun _ h => absurd h (by simp [zeroLimits])⟩

theorem Limits.PhasesNonneg.setLimit {l : Limits} (h : l.PhasesNonneg) (q : Quantity)
    (v : Option (WithSource Rat)) : (l.setLimit q v).PhasesNonneg := by
  cases q <;> exact ⟨h.max, h.min, h.active⟩

theorem phasesNonneg_maxAvailableAt (r : NodeRequest) (tp : Int) :
    (maxAvailableAt r tp).1.PhasesNonneg := by
  have hi := phasesNonneg_maxAvailableEnergy r.scheduleImport tp
  have ht : ∀ q t s exp, (applyTarget q t s (maxAvailableEnergy r.scheduleImport tp)
      exp).1.PhasesNonneg := fun q t s exp => by
    unfold applyTarget
    split_ifs <;> exact hi.setLimit q _
  unfold maxAvailableAt applySetpoint
  split
  · exact hi
  · split
    · exact ht _ _ _ _
    · exact ht _ _ _ _
    · exact ht _ _ _ _
    · exact hi

theorem phasesNonneg_applyLimits {a b : Limits} (ha : a.PhasesNonneg) (hb : b.PhasesNonneg) :
    (applyLimits a b).PhasesNonneg :=
  ⟨applyOneLimitIfSmaller_forall ha.max hb.max, applyOneLimitIfGreater_forall ha.min hb.min,
    hb.active⟩

theorem phasesNonneg_createOffer {g : Globals} {market : List Nat → MarketNode g} {sold : Sold g}
    (hm : ∀ n i, ((market n).importMaxAvailable i).PhasesNonneg) (i : Fin g.timestamps.length) :
    ∀ p, ((createOffer market sold p).importOffer i).PhasesNonneg
  | [] => phasesNonneg_applyLimits ⟨fun _ h => absurd h (by simp), fun _ h => absurd h (by simp),
      fun _ h => absurd h (by simp)⟩ ⟨(hm [] i).max, (hm [] i).min, (hm [] i).active⟩
  | k :: p => phasesNonneg_applyLimits (phasesNonneg_createOffer hm i p)
      ⟨(hm (k :: p) i).max, (hm (k :: p) i).min, (hm (k :: p) i).active⟩

/-! ## Frequency tables -/

/-- The power on the line through the points of a table, constant on both sides of them. -/
def polyline (freq : Rat) : List FrequencyWattPoint → Rat
  | [] => 0
  | [p] => p.totalPowerW
  | p :: q :: table =>
    if freq < p.frequencyHz then p.totalPowerW
    else if freq < q.frequencyHz then
      p.totalPowerW + (freq - p.frequencyHz) / (q.frequencyHz - p.frequencyHz) *
        (q.totalPowerW - p.totalPowerW)
    else polyline freq (q :: table)

/-- Two neighbouring points have the same power or are 1 Hz apart, if the frequency is between
them. -/
def Unscaled (freq : Rat) (table : List FrequencyWattPoint) : Prop :=
  ∀ s ∈ table.zip table.tail, s.1.frequencyHz < freq → freq < s.2.frequencyHz →
    s.1.totalPowerW = s.2.totalPowerW ∨ s.2.frequencyHz - s.1.frequencyHz = 1

/-- The power is between those of two points. -/
def Covers (table : List FrequencyWattPoint) (power : Rat) : Prop :=
  (∃ p ∈ table, p.totalPowerW ≤ power) ∧ ∃ p ∈ table, power ≤ p.totalPowerW

/-- What `get_watt_from_freq_table` returns once it has passed the point `p`. -/
def wattAfter (freq : Rat) (p : FrequencyWattPoint) (table : List FrequencyWattPoint) : Rat :=
  let (watt1, watt2, freq1) := freqTableLoop freq table p.totalPowerW p.totalPowerW p.frequencyHz
  watt1 + (freq - freq1) * (watt2 - watt1)

section Table

variable {freq : Rat} {p q : FrequencyWattPoint} {table : List FrequencyWattPoint}

/-- Above the frequency, no point has it behind. -/
theorem unscaled_of_lt (hs : (p :: table).Pairwise (·.frequencyHz < ·.frequencyHz))
    (hlt : freq < p.frequencyHz) : Unscaled freq (p :: table) := by
  intro s hmem hs₁
  have hle : p.frequencyHz ≤ s.1.frequencyHz := by
    rcases List.mem_cons.1 (List.of_mem_zip hmem).1 with heq | hin
    · rw [heq]
    · exact (List.rel_of_pairwise_cons hs hin).le
  exact absurd (hs₁.trans hlt) hle.not_gt

theorem unscaled_cons (hs : (p :: q :: table).Pairwise (·.frequencyHz < ·.frequencyHz)) :
    Unscaled freq (p :: q :: table) ↔
      (p.frequencyHz < freq → freq < q.frequencyHz →
        p.totalPowerW = q.totalPowerW ∨ q.frequencyHz - p.frequencyHz = 1) ∧
      (q.frequencyHz ≤ freq → Unscaled freq (q :: table)) := by
  refine List.forall_mem_cons.trans (and_congr_right' ⟨fun h _ => h, fun h => ?_⟩)
  rcases le_or_gt q.frequencyHz freq with hle | hlt
  · exact h hle
  · exact unscaled_of_lt (List.pairwise_cons.1 hs).2 hlt

theorem scaled_eq_iff {w w' x d : Rat} (hd : 0 < d) :
    w + x * (w' - w) = w + x / d * (w' - w) ↔ x = 0 ∨ w = w' ∨ d = 1 := by
  rw [add_right_inj, div_mul_eq_mul_div, eq_div_iff hd.ne', mul_right_eq_self₀, mul_eq_zero,
    sub_eq_zero, eq_comm (a := w'), or_comm, or_assoc]

theorem wattAfter_eq_iff (hs : (p :: table).Pairwise (·.frequencyHz < ·.frequencyHz))
    (hp : p.frequencyHz ≤ freq) :
    wattAfter freq p table = polyline freq (p :: table) ↔ Unscaled freq (p :: table) := by
  induction table generalizing p with
  | nil =>
    refine iff_of_true ?_ nofun
    simp [wattAfter, freqTableLoop, polyline]
  | cons q table ih =>
    have hpq : p.frequencyHz < q.frequencyHz := List.rel_of_pairwise_cons hs List.mem_cons_self
    rw [unscaled_cons hs, polyline, if_neg hp.not_gt]
    by_cases hq : freq < q.frequencyHz
    · rw [if_pos hq, wattAfter, freqTableLoop, if_pos hq]
      dsimp only
      rw [scaled_eq_iff (sub_pos.2 hpq), sub_eq_zero]
      constructor
      · exact fun h => ⟨fun hlt _ => h.resolve_left hlt.ne', fun hle => absurd hq hle.not_gt⟩
      · exact fun h => hp.eq_or_lt.imp Eq.symm fun hlt => h.1 hlt hq
    · have hq := not_lt.1 hq
      rw [if_neg hq.not_gt, wattAfter, freqTableLoop, if_neg hq.not_gt]
      refine (ih (List.pairwise_cons.1 hs).2 hq).trans ⟨fun h => ⟨fun _ hlt => ?_, fun _ => h⟩, ?_⟩
      · exact absurd hlt hq.not_gt
      · exact fun h => h.2 hq

/-- Between two points the power is between theirs. -/
theorem segment_covered {w w' r : Rat} (h₀ : 0 ≤ r) (h₁ : r ≤ 1) :
    (w ≤ w + r * (w' - w) ∨ w' ≤ w + r * (w' - w)) ∧
      (w + r * (w' - w) ≤ w ∨ w + r * (w' - w) ≤ w') := by
  rcases le_total w w' with h | h
  · have hge := mul_nonneg h₀ (sub_nonneg.2 h)
    have hle := mul_le_of_le_one_left (sub_nonneg.2 h) h₁
    exact ⟨.inl (by linarith), .inr (by linarith)⟩
  · have hge := mul_nonneg h₀ (sub_nonneg.2 h)
    have hle := mul_le_of_le_one_left (sub_nonneg.2 h) h₁
    exact ⟨.inr (by linarith), .inl (by linarith)⟩

theorem covers_polyline (hs : (p :: table).Pairwise (·.frequencyHz < ·.frequencyHz)) :
    Covers (p :: table) (polyline freq (p :: table)) := by
  induction table generalizing p with
  | nil => exact ⟨⟨p, List.mem_cons_self, le_rfl⟩, p, List.mem_cons_self, le_rfl⟩
  | cons q table ih =>
    have hq : q ∈ p :: q :: table := List.mem_cons_of_mem p List.mem_cons_self
    have hpq : p.frequencyHz < q.frequencyHz := List.rel_of_pairwise_cons hs List.mem_cons_self
    rw [polyline]
    split_ifs with hp hlt
    · exact ⟨⟨p, List.mem_cons_self, le_rfl⟩, p, List.mem_cons_self, le_rfl⟩
    · have hd := sub_pos.2 hpq
      obtain ⟨hlo, hhi⟩ := segment_covered (w := p.totalPowerW) (r := (freq - p.frequencyHz) /
        (q.frequencyHz - p.frequencyHz)) (div_nonneg (sub_nonneg.2 (not_lt.1 hp)) hd.le)
        ((div_le_one₀ hd).2 (sub_le_sub_right hlt.le _))
      exact ⟨hlo.elim (fun h => ⟨p, List.mem_cons_self, h⟩) fun h => ⟨q, hq, h⟩,
        hhi.elim (fun h => ⟨p, List.mem_cons_self, h⟩) fun h => ⟨q, hq, h⟩⟩
    · obtain ⟨⟨a, ha, hle⟩, b, hb, hge⟩ := ih (List.pairwise_cons.1 hs).2
      exact ⟨⟨a, List.mem_cons_of_mem p ha, hle⟩, b, List.mem_cons_of_mem p hb, hge⟩

end Table

/-- **The power is interpolated just when the points around the frequency are 1 Hz apart**, or have
the same power: `get_watt_from_freq_table` multiplies with the distance to the lower point and does
not divide by that of the two points. -/
theorem watt_interpolated_iff (table : List FrequencyWattPoint) (hlength : 2 ≤ table.length)
    (hs : table.Pairwise (·.frequencyHz < ·.frequencyHz)) (freq : Rat) :
    (getWattFromFreqTable table freq = polyline freq table ∧
        Covers table (getWattFromFreqTable table freq)) ↔ Unscaled freq table := by
  match table with
  | p :: q :: table =>
    have heq : getWattFromFreqTable (p :: q :: table) freq = polyline freq (p :: q :: table) ↔
        Unscaled freq (p :: q :: table) := by
      by_cases hp : freq < p.frequencyHz
      · refine iff_of_true ?_ (unscaled_of_lt hs hp)
        simp [getWattFromFreqTable, freqTableLoop, polyline, hp]
      · rw [← wattAfter_eq_iff hs (not_lt.1 hp)]
        simp [getWattFromFreqTable, wattAfter, freqTableLoop, hp]
    exact ⟨fun h => heq.1 h.1, fun h => ⟨heq.2 h, heq.2 h ▸ covers_polyline hs⟩⟩

theorem watt_interpolated_three_points :
    let table : List FrequencyWattPoint := [⟨49, -7000⟩, ⟨50, 0⟩, ⟨51, 7000⟩]
    polyline (99 / 2) table = -3500 ∧
      getWattFromFreqTable table (99 / 2) = polyline (99 / 2) table ∧
      Covers table (getWattFromFreqTable table (99 / 2)) := by
  refine ⟨by decide +kernel, ?_⟩
  refine (watt_interpolated_iff _ (by decide) (by decide +kernel) _).2 ?_
  unfold Unscaled
  decide +kernel

/-- With points 2 Hz apart the power leaves the table. -/
theorem watt_extrapolated :
    let table : List FrequencyWattPoint := [⟨49, -7000⟩, ⟨51, 7000⟩]
    getWattFromFreqTable table (101 / 2) = 14000 ∧ polyline (101 / 2) table = 3500 ∧
      ¬ Covers table (getWattFromFreqTable table (101 / 2)) := by
  unfold Covers
  decide +kernel

end EverestCore.Energy
