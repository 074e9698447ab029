import EverestCore.Energy.Market

/-!
# The fast charging broker (`Broker.cpp`, `BrokerFastCharging.cpp`)

A broker buys energy for one EVSE. In each time slot it decides once whether to import or to
export, first buys the minimal current where one is stated, and then slices, taking what is left
when that is less. A purchase is a pair of amounts, in ampere and in watt, with the direction as
their sign; both are only made when the offer has both limits.

`date::utc_clock::now()`, which the phase switching reads, is an argument.

Results:
* **`tradeSlot_spec`**: what a broker trades in a slot fits the offer, for both quantities.
-/

namespace EverestCore.Energy

open EverestCore.Lib.PathLedger LimitsRes Option

/-! ## Buying -/

/-- What one call of a `buy_` function puts into the trade: amperes with a number of phases,
watts, or both. -/
structure Purchase where
  ampere : Option (WithSource Rat × WithSource Int)
  watt : Option (WithSource Rat)

/-- `import ? +1 : -1`. -/
def directionSign (isImport : Bool) : Rat := if isImport then 1 else -1

/-- Ampere, and watt when the offer limits that too. -/
def ampereWithWatt (isImport : Bool) (ampere wattFactor : Rat) (source : String)
    (numberOfPhases : WithSource Int) : Purchase where
  ampere := some (⟨directionSign isImport * ampere, source⟩, numberOfPhases)
  watt := some ⟨directionSign isImport * ampere * wattFactor, source⟩

/-- `Broker::buy_ampere`; `none` is the answer `false`. -/
def buyAmpere (voltage : Rat) (offer : Limits) (ampere : Rat) (allowLess isImport : Bool)
    (numberOfPhases : WithSource Int) : Option Purchase :=
  let wattFactor : Rat := numberOfPhases.value * voltage
  match offer.acMaxCurrentA, offer.totalPowerW with
  | none, _ => none
  | some maxCurrent, none =>
    if maxCurrent.value ≥ ampere then
      some ⟨some (⟨directionSign isImport * ampere, maxCurrent.source⟩, numberOfPhases), none⟩
    else if allowLess && decide (maxCurrent.value > 0) then
      some ⟨some (⟨directionSign isImport * maxCurrent.value, maxCurrent.source⟩, numberOfPhases),
        none⟩
    else none
  | some maxCurrent, some totalPower =>
    if maxCurrent.value ≥ ampere ∧ totalPower.value ≥ ampere * wattFactor then
      some (ampereWithWatt isImport ampere wattFactor maxCurrent.source numberOfPhases)
    else if allowLess && decide (maxCurrent.value > 0) then
      if totalPower.value > 0 then
        if totalPower.value ≥ maxCurrent.value * wattFactor then
          some (ampereWithWatt isImport maxCurrent.value wattFactor maxCurrent.source
            numberOfPhases)
        else
          some (ampereWithWatt isImport (totalPower.value / numberOfPhases.value / voltage)
            wattFactor totalPower.source numberOfPhases)
      else none
    else none

def buyWatt (offer : Limits) (watt : Rat) (allowLess isImport : Bool) : Option Purchase :=
  match offer.totalPowerW with
  | none => none
  | some totalPower =>
    if totalPower.value ≥ watt then
      some ⟨none, some ⟨directionSign isImport * watt, totalPower.source⟩⟩
    else if allowLess && decide (totalPower.value > 0) then
      some ⟨none, some ⟨directionSign isImport * totalPower.value, totalPower.source⟩⟩
    else none

/-! ## The state of a broker -/

inductive SlotType
  | Import | Export | Undecided

/-- What a broker remembers of a slot between trades: `first_trade`, `slot_type`, `num_phases`. -/
structure BrokerSlot where
  firstTrade : Bool := true
  slotType : SlotType := .Undecided
  numPhases : WithSource Int := ⟨0, "empty"⟩

structure BrokerContext where
  number1ph3phCycles : Int
  lastAcNumberOfActivePhasesImport : Int
  ts1phOptimal : Int

/-- The time at which a slot begins. -/
def Globals.time (g : Globals) (k : Nat) : Int := g.timestamps.getD k 0

/-- The slot that `time_slot_active` finds. -/
def Globals.activeSlot (g : Globals) : Nat :=
  let last := g.timestamps.length - 1
  if g.startTime < g.time 0 then 0
  else if g.startTime > g.time last then last
  else ((List.range last).find? fun n =>
    decide (g.time n < g.startTime) && decide (g.startTime < g.time (n + 1))).getD 0

def timeSlotActive (g : Globals) (i : Nat) : Bool := decide (g.activeSlot = i)

/-- Nothing is offered in a direction when one of its limits is 0. -/
def canTrade (offer : Limits) : Bool :=
  !((offer.totalPowerW.any fun l => decide (l.value = 0)) ||
    (offer.acMaxCurrentA.any fun l => decide (l.value = 0)))

/-- Import when possible, else export, else wait. -/
def decideSlotType (imp exp : Limits) (slotType : SlotType) : SlotType :=
  match slotType with
  | .Undecided => if canTrade imp then .Import else if canTrade exp then .Export else .Undecided
  | t => t

/-- The fallback for an unstated phase count. -/
def threePhases : WithSource Int := ⟨3, "BrokerFastCharging_Fallback"⟩

variable (cfg : Config)

/-- The number of phases of a first trade, before the hystereses. -/
def optimalPhases (totalPower : WithSource Rat) (minPower3ph : Rat)
    (maxPhases minPhases : WithSource Int) (activePhases : Int) : WithSource Int :=
  if totalPower.value < minPower3ph then ⟨minPhases.value, totalPower.source⟩
  else if cfg.switch1ph3phMode = .Both ∧ totalPower.value > minPower3ph + cfg.powerHysteresisW then
    maxPhases
  else ⟨activePhases, "BrokerFastCharging_KeepNrOfPhases"⟩

/-- The number of phases once the allowed switching cycles are used up. -/
def stickyPhases (maxPhases minPhases : WithSource Int) (activePhases : Int) : WithSource Int :=
  match cfg.stickyness with
  | .SinglePhase => minPhases
  | .ThreePhase => maxPhases
  | .DontChange => ⟨activePhases, "BrokerFastCharging_KeepNrOfPhases"⟩

/-- The time based hysteresis: in the active slot more phases are used only after they have been
optimal for long enough. -/
def hysteresisPhases (g : Globals) (isActive : Bool) (ts : Int)
    (maxPhases minPhases phases : WithSource Int) : WithSource Int :=
  if cfg.timeHysteresisS > 0 ∧ isActive = true ∧
      (g.startTime - ts).tdiv 1000000000 < cfg.timeHysteresisS ∧ phases.value = maxPhases.value then
    minPhases
  else phases

variable (imp : Limits)

/-- The least power of a charge with all phases. -/
def minPower3ph : Rat :=
  match imp.acMinCurrentA with
  | some m => m.value * (imp.acMaxPhaseCount.getD threePhases).value * cfg.nominalAcVoltage
  | none => 0

/-- The choice of the number of phases: the phases, whether the number of switching cycles is
used up, and the time at which one phase was last optimal. -/
def choosePhases (g : Globals) (now : Int) (isActive : Bool) (imp : Limits)
    (firstTrade : Bool) (ctx : BrokerContext) : WithSource Int × Bool × Int :=
  let activePhases := imp.acNumberOfActivePhases.getD 3
  let maxPhases := imp.acMaxPhaseCount.getD threePhases
  let minPhases := imp.acMinPhaseCount.getD threePhases
  match firstTrade, imp.totalPowerW with
  | false, _ => (⟨activePhases, "BrokerFastCharging_Default"⟩, false, ctx.ts1phOptimal)
  | true, none => (maxPhases, false, ctx.ts1phOptimal)
  | true, some totalPower =>
    if cfg.switch1ph3phMode ≠ .Never ∧ minPower3ph cfg imp > 0 then
      let cyclesReached := decide (cfg.maxNrOfSwitches > 0) &&
        decide (ctx.number1ph3phCycles > cfg.maxNrOfSwitches)
      let phases := if cyclesReached then stickyPhases cfg maxPhases minPhases activePhases
        else optimalPhases cfg totalPower (minPower3ph cfg imp) maxPhases minPhases activePhases
      let ts := if phases.value = minPhases.value ∧ isActive = true then now else ctx.ts1phOptimal
      (hysteresisPhases cfg g isActive ts maxPhases minPhases phases, cyclesReached, ts)
    else (maxPhases, false, ctx.ts1phOptimal)

/-- The context after the choice: a change of the active phases is a switching cycle. -/
def BrokerContext.store (ctx : BrokerContext) (activePhases ts : Int) : BrokerContext where
  number1ph3phCycles := if activePhases ≠ ctx.lastAcNumberOfActivePhasesImport then
    ctx.number1ph3phCycles + 1 else ctx.number1ph3phCycles
  lastAcNumberOfActivePhasesImport := activePhases
  ts1phOptimal := ts

/-- The stated minimal current, if it is positive. -/
def minimalCurrent (offer : Limits) : Option Rat :=
  (offer.acMinCurrentA.map (·.value)).filter fun m => decide (0 < m)

/-- What importing buys in a slot with a current limit, and the number of phases remembered. -/
def importPurchase (firstTrade : Bool)
    (numPhases chosen : WithSource Int) (cyclesReached : Bool) : Option Purchase × WithSource Int :=
  match firstTrade, minimalCurrent imp with
  | true, some minimum =>
    match buyAmpere cfg.nominalAcVoltage imp minimum false true chosen with
    | some p => (some p, chosen)
    | none =>
      if cfg.switch1ph3phMode ≠ .Never ∧ cyclesReached = false then
        let single : WithSource Int := ⟨1, "BrokerFastCharging_Buy3phFailed"⟩
        (buyAmpere cfg.nominalAcVoltage imp minimum false true single, single)
      else (none, chosen)
  | _, _ => (buyAmpere cfg.nominalAcVoltage imp cfg.sliceAmpere true true numPhases, numPhases)

/-- What importing buys in a slot without a current limit. -/
def importWattPurchase : Option Purchase :=
  match imp.totalPowerW with
  | some _ => buyWatt imp cfg.sliceWatt true true
  | none => none

/-- What exporting buys in a slot. -/
def exportPurchase (exp : Limits) (firstTrade : Bool) : Option Purchase :=
  let fixed : WithSource Int := ⟨3, "BrokerFastCharging_FixedValue"⟩
  match exp.acMaxCurrentA with
  | some _ =>
    match firstTrade, minimalCurrent exp with
    | true, some minimum => buyAmpere cfg.nominalAcVoltage exp minimum false false fixed
    | _, _ => buyAmpere cfg.nominalAcVoltage exp cfg.sliceAmpere true false fixed
  | none =>
    match exp.totalPowerW with
    | some _ => buyWatt exp cfg.sliceWatt true false
    | none => none

/-- The trade of a slot before anything is bought: zero where the import offer has a limit. -/
def zeroTrade : LimitsRes where
  acMaxCurrentA := imp.acMaxCurrentA.map fun _ => ⟨0, ""⟩
  totalPowerW := imp.totalPowerW.map fun _ => ⟨0, ""⟩

/-- `buy_ampere_unchecked` and `buy_watt_unchecked`. -/
def LimitsRes.buy (t : LimitsRes) (p : Purchase) : LimitsRes where
  acMaxCurrentA := match p.ampere with
    | some a => some a.1
    | none => t.acMaxCurrentA
  acMaxPhaseCount := match p.ampere with
    | some a => some a.2
    | none => t.acMaxPhaseCount
  totalPowerW := match p.watt with
    | some w => some w
    | none => t.totalPowerW

/-- The trade, the remembered slot and whether anything was traded, after a purchase. -/
def recordPurchase (slot : BrokerSlot) (p : Option Purchase) : LimitsRes × BrokerSlot × Bool :=
  match p with
  | none => (zeroTrade imp, slot, false)
  | some p => ((zeroTrade imp).buy p,
      { slot with firstTrade := slot.firstTrade && p.ampere.isNone }, true)

/-- `BrokerFastCharging::tradeImpl` at one slot. -/
def tradeSlot (g : Globals) (now : Int) (isActive : Bool) (imp exp : Limits)
    (slot : BrokerSlot) (ctx : BrokerContext) : LimitsRes × BrokerSlot × Bool × BrokerContext :=
  let activePhases := imp.acNumberOfActivePhases.getD 3
  let slotType := decideSlotType imp exp slot.slotType
  let numPhases := if slot.numPhases.value = 0 then
    ⟨activePhases, "BrokerFastCharging_NumPhasesActive"⟩ else slot.numPhases
  let slot' : BrokerSlot := { slot with slotType := slotType, numPhases := numPhases }
  match slotType with
  | .Import =>
    match imp.acMaxCurrentA with
    | some _ =>
      let (chosen, cyclesReached, ts) := choosePhases cfg g now isActive imp slot.firstTrade ctx
      let (purchase, numPhases') :=
        importPurchase cfg imp slot.firstTrade numPhases chosen cyclesReached
      let (t, s, b) := recordPurchase imp { slot' with numPhases := numPhases' } purchase
      (t, s, b, ctx.store activePhases ts)
    | none =>
      let (t, s, b) := recordPurchase imp slot' (importWattPurchase cfg imp)
      (t, s, b, ctx)
  | .Export =>
    let (t, s, b) := recordPurchase imp slot' (exportPurchase cfg exp slot.firstTrade)
    (t, s, b, ctx)
  | .Undecided => (zeroTrade imp, slot', false, ctx)

/-! ## A purchase fits its offer -/

/-- The amount of a quantity in a purchase. -/
def Purchase.amount (p : Purchase) : Quantity → Rat
  | .Current => (p.ampere.map fun a => a.1.value).getD 0
  | .Power => (p.watt.map (·.value)).getD 0

/-- The purchase goes in one direction and by no more than the offer states. -/
def Purchase.Fits (p : Purchase) (offer : Limits) (isImport : Bool) : Prop :=
  ∀ q, ∃ y, p.amount q = directionSign isImport * y ∧ 0 ≤ y ∧ (y = 0 ∨ ∀ l ∈ offer.value q, y ≤ l)

variable {offer : Limits} {isImport : Bool} {y : Rat} {source : String} {n : WithSource Int}
    {p : Purchase} {cfg : Config} {exp imp : Limits}

theorem fits_ampereOnly (hy : 0 ≤ y) (hle : ∀ l ∈ offer.value .Current, y ≤ l) :
    Purchase.Fits ⟨some (⟨directionSign isImport * y, source⟩, n), none⟩ offer isImport
  | .Current => ⟨y, rfl, hy, Or.inr hle⟩
  | .Power => ⟨0, (mul_zero _).symm, le_rfl, Or.inl rfl⟩

theorem fits_wattOnly (hy : 0 ≤ y) (hle : ∀ l ∈ offer.value .Power, y ≤ l) :
    Purchase.Fits ⟨none, some ⟨directionSign isImport * y, source⟩⟩ offer isImport
  | .Current => ⟨0, (mul_zero _).symm, le_rfl, Or.inl rfl⟩
  | .Power => ⟨y, rfl, hy, Or.inr hle⟩

theorem fits_ampereWithWatt {factor : Rat} (hy : 0 ≤ y) (hf : 0 ≤ factor)
    (hc : ∀ l ∈ offer.value .Current, y ≤ l) (hp : ∀ l ∈ offer.value .Power, y * factor ≤ l) :
    (ampereWithWatt isImport y factor source n).Fits offer isImport
  | .Current => ⟨y, rfl, hy, Or.inr hc⟩
  | .Power => ⟨y * factor, mul_assoc _ _ _, mul_nonneg hy hf, Or.inr hp⟩

theorem value_current {c : WithSource Rat} (h : offer.acMaxCurrentA = some c) :
    offer.value .Current = some c.value := by
  simp [Limits.value, Limits.limit, h]

theorem value_power {w : WithSource Rat} (h : offer.totalPowerW = some w) :
    offer.value .Power = some w.value := by
  simp [Limits.value, Limits.limit, h]

/-- The current that uses up the power is below the current limit. -/
theorem reduced_ampere_spec {w c n v : Rat} (hw : 0 < w) (hc : 0 < c) (h : w < c * (n * v)) :
    0 ≤ w / n / v ∧ w / n / v ≤ c ∧ w / n / v * (n * v) = w := by
  have hpos : 0 < n * v := (mul_pos_iff_of_pos_left hc).mp (hw.trans h)
  rw [div_div]
  refine ⟨div_nonneg hw.le hpos.le, ?_, div_mul_cancel₀ w hpos.ne'⟩
  rw [div_le_iff₀ hpos]
  exact h.le

/-- **`buy_ampere` fits the offer.** -/
theorem buyAmpere_fits {voltage ampere : Rat} {allowLess : Bool} (hv : 0 ≤ voltage)
    (ha : 0 ≤ ampere) (hn : 0 ≤ n.value)
    (h : buyAmpere voltage offer ampere allowLess isImport n = some p) : p.Fits offer isImport := by
  have hn' : (0 : Rat) ≤ n.value := by exact_mod_cast hn
  have hf : (0 : Rat) ≤ n.value * voltage := mul_nonneg hn' hv
  unfold buyAmpere at h
  cases hc : offer.acMaxCurrentA with
  | none => simp [hc] at h
  | some c =>
    cases hw : offer.totalPowerW with
    | none =>
      simp only [hc, hw] at h
      split_ifs at h with h1 h2
      · obtain rfl := some.inj h
        exact fits_ampereOnly ha (by simp [value_current hc, h1])
      · obtain rfl := some.inj h
        simp only [Bool.and_eq_true, decide_eq_true_eq] at h2
        exact fits_ampereOnly h2.2.le (by simp [value_current hc])
    | some w =>
      simp only [hc, hw] at h
      split_ifs at h with h1 h2 h3 h4
      · obtain rfl := some.inj h
        exact fits_ampereWithWatt ha hf (by simp [value_current hc, h1.1])
          (by simp [value_power hw, h1.2])
      · obtain rfl := some.inj h
        simp only [Bool.and_eq_true, decide_eq_true_eq] at h2
        exact fits_ampereWithWatt h2.2.le hf (by simp [value_current hc])
          (by simp [value_power hw, h4])
      · obtain rfl := some.inj h
        simp only [Bool.and_eq_true, decide_eq_true_eq] at h2
        obtain ⟨hr0, hrc, hrw⟩ := reduced_ampere_spec h3 h2.2 (not_le.mp h4)
        exact fits_ampereWithWatt hr0 hf (by simpa [value_current hc] using hrc)
          (by simp [value_power hw, hrw])

/-- **`buy_watt` fits the offer.** -/
theorem buyWatt_fits {watt : Rat} {allowLess : Bool} (hw : 0 ≤ watt)
    (h : buyWatt offer watt allowLess isImport = some p) : p.Fits offer isImport := by
  unfold buyWatt at h
  cases ho : offer.totalPowerW with
  | none => simp [ho] at h
  | some w =>
    simp only [ho] at h
    split_ifs at h with h1 h2
    · obtain rfl := some.inj h
      exact fits_wattOnly hw (by simp [value_power ho, h1])
    · obtain rfl := some.inj h
      simp only [Bool.and_eq_true, decide_eq_true_eq] at h2
      exact fits_wattOnly h2.2.le (by simp [value_power ho])

theorem minimalCurrent_pos {m : Rat} (h : minimalCurrent offer = some m) : 0 < m := by
  have := (filter_eq_some_iff.mp h).2
  simpa using this

theorem exportPurchase_fits {firstTrade : Bool} (h : exportPurchase cfg exp firstTrade = some p) :
    p.Fits exp false := by
  unfold exportPurchase at h
  split at h
  · split at h
    · rename_i hm
      exact buyAmpere_fits cfg.voltage_nonneg (minimalCurrent_pos hm).le (by decide) h
    · exact buyAmpere_fits cfg.voltage_nonneg cfg.sliceAmpere_nonneg (by decide) h
  · split at h
    · exact buyWatt_fits cfg.sliceWatt_nonneg h
    · exact absurd h (by simp)

theorem importWattPurchase_fits (h : importWattPurchase cfg imp = some p) : p.Fits imp true := by
  unfold importWattPurchase at h
  split at h
  · exact buyWatt_fits cfg.sliceWatt_nonneg h
  · exact absurd h (by simp)

/-! ## The number of phases is never negative -/

theorem getD_phases_nonneg {o : Option (WithSource Int)} (h : ∀ p ∈ o, 0 ≤ p.value) :
    0 ≤ (o.getD threePhases).value := by
  cases o with
  | none => decide
  | some p => exact h p rfl

theorem active_phases_nonneg (h : imp.PhasesNonneg) : 0 ≤ imp.acNumberOfActivePhases.getD 3 := by
  cases ha : imp.acNumberOfActivePhases with
  | none => decide
  | some n => exact h.active n ha

theorem hysteresisPhases_mem {g : Globals} {isActive : Bool} {ts : Int}
    {maxPhases minPhases phases : WithSource Int} {activePhases : Int}
    (h : phases.value ∈ [maxPhases.value, minPhases.value, activePhases]) :
    (hysteresisPhases cfg g isActive ts maxPhases minPhases phases).value ∈
      [maxPhases.value, minPhases.value, activePhases] := by
  unfold hysteresisPhases
  split_ifs
  · simp
  · exact h

/-- The phases chosen are the most, the fewest or the active ones. -/
theorem choosePhases_mem (cfg : Config) (g : Globals) (now : Int) (isActive : Bool) (imp : Limits)
    (firstTrade : Bool) (ctx : BrokerContext) :
    (choosePhases cfg g now isActive imp firstTrade ctx).1.value ∈
      [(imp.acMaxPhaseCount.getD threePhases).value, (imp.acMinPhaseCount.getD threePhases).value,
        imp.acNumberOfActivePhases.getD 3] := by
  unfold choosePhases
  split
  · simp
  · simp
  · by_cases hs : cfg.switch1ph3phMode ≠ .Never ∧ minPower3ph cfg imp > 0
    · rw [if_pos hs]
      refine hysteresisPhases_mem ?_
      split_ifs
      · unfold stickyPhases
        cases cfg.stickyness <;> simp
      · unfold optimalPhases
        split_ifs <;> simp
    · rw [if_neg hs]
      simp

theorem choosePhases_nonneg (h : imp.PhasesNonneg) (cfg : Config) (g : Globals) (now : Int)
    (isActive firstTrade : Bool) (ctx : BrokerContext) :
    0 ≤ (choosePhases cfg g now isActive imp firstTrade ctx).1.value := by
  have hmem := choosePhases_mem cfg g now isActive imp firstTrade ctx
  simp only [List.mem_cons, List.not_mem_nil, or_false] at hmem
  rcases hmem with h1 | h1 | h1
  · rw [h1]; exact getD_phases_nonneg h.max
  · rw [h1]; exact getD_phases_nonneg h.min
  · rw [h1]; exact active_phases_nonneg h

theorem importPurchase_spec (cfg : Config) (imp : Limits) (firstTrade cyclesReached : Bool)
    {numPhases chosen : WithSource Int} (hnum : 0 ≤ numPhases.value) (hcho : 0 ≤ chosen.value) :
    (∀ p, (importPurchase cfg imp firstTrade numPhases chosen cyclesReached).1 = some p →
      p.Fits imp true) ∧
    0 ≤ (importPurchase cfg imp firstTrade numPhases chosen cyclesReached).2.value := by
  unfold importPurchase
  split
  · rename_i hm
    have hpos := (minimalCurrent_pos hm).le
    split
    · rename_i hbuy
      refine ⟨fun p hp => ?_, hcho⟩
      obtain rfl := some.inj hp
      exact buyAmpere_fits cfg.voltage_nonneg hpos hcho hbuy
    · split_ifs
      · exact ⟨fun p hp => buyAmpere_fits cfg.voltage_nonneg hpos Int.one_nonneg hp, Int.one_nonneg⟩
      · exact ⟨fun p hp => absurd hp (by simp), hcho⟩
  · exact ⟨fun p hp => buyAmpere_fits cfg.voltage_nonneg cfg.sliceAmpere_nonneg hnum hp, hnum⟩

/-! ## The trade of a slot -/

theorem amount_zeroTrade (imp : Limits) (q : Quantity) : (zeroTrade imp).amount q = 0 := by
  unfold amount
  cases q
  · cases h : imp.acMaxCurrentA <;> simp [zeroTrade, limit, h]
  · cases h : imp.totalPowerW <;> simp [zeroTrade, limit, h]

theorem amount_buy (imp : Limits) (p : Purchase) (q : Quantity) :
    ((zeroTrade imp).buy p).amount q = p.amount q := by
  cases q with
  | Current =>
    cases h : p.ampere with
    | none => simpa [buy, amount, limit, Purchase.amount, h] using
        amount_zeroTrade imp .Current
    | some a => simp [buy, amount, limit, Purchase.amount, h]
  | Power =>
    cases h : p.watt with
    | none => simpa [buy, amount, limit, Purchase.amount, h] using
        amount_zeroTrade imp .Power
    | some a => simp [buy, amount, limit, Purchase.amount, h]

/-- A trade of a slot that its offers admit, for both quantities. -/
def AdmissibleTrade (imp exp : Limits) (t : LimitsRes) : Prop :=
  ∀ q, Admissible (exp.value q) (imp.value q) (t.amount q)

theorem admissibleTrade_zero (imp exp : Limits) : AdmissibleTrade imp exp (zeroTrade imp) :=
  fun q => Or.inl (amount_zeroTrade imp q)

theorem Purchase.Fits.admissible_import (exp : Limits) (h : p.Fits imp true) :
    AdmissibleTrade imp exp ((zeroTrade imp).buy p) := fun q => by
  rw [amount_buy]
  obtain ⟨y, hy, h0, hle⟩ := h q
  rw [directionSign, if_pos rfl, one_mul] at hy
  rw [hy]
  exact hle.imp id fun hle => Or.inl ⟨h0, hle⟩

theorem Purchase.Fits.admissible_export (imp : Limits) (h : p.Fits exp false) :
    AdmissibleTrade imp exp ((zeroTrade imp).buy p) := fun q => by
  rw [amount_buy]
  obtain ⟨y, hy, h0, hle⟩ := h q
  rw [directionSign, if_neg Bool.false_ne_true, neg_one_mul] at hy
  rw [hy]
  refine hle.imp (fun h => by rw [h, neg_zero]) fun hle => Or.inr ⟨neg_nonpos.mpr h0, ?_⟩
  rw [neg_neg]
  exact hle

theorem recordPurchase_spec (slot : BrokerSlot) {p : Option Purchase}
    (hp : ∀ x, p = some x → AdmissibleTrade imp exp ((zeroTrade imp).buy x)) :
    AdmissibleTrade imp exp (recordPurchase imp slot p).1 ∧
      (recordPurchase imp slot p).2.1.numPhases = slot.numPhases := by
  cases p with
  | none => exact ⟨admissibleTrade_zero imp exp, rfl⟩
  | some x => exact ⟨hp x rfl, rfl⟩

/-- **The trade of a slot fits its offers**, and the phases it remembers are not negative. -/
theorem tradeSlot_spec (cfg : Config) (g : Globals) (now : Int) (isActive : Bool) (exp : Limits)
    {slot : BrokerSlot} (ctx : BrokerContext) (himp : imp.PhasesNonneg)
    (hs : 0 ≤ slot.numPhases.value) :
    AdmissibleTrade imp exp (tradeSlot cfg g now isActive imp exp slot ctx).1 ∧
      0 ≤ (tradeSlot cfg g now isActive imp exp slot ctx).2.1.numPhases.value := by
  have hnum : 0 ≤ (if slot.numPhases.value = 0 then
      (⟨imp.acNumberOfActivePhases.getD 3, "BrokerFastCharging_NumPhasesActive"⟩ : WithSource Int)
      else slot.numPhases).value := by
    split_ifs
    · exact active_phases_nonneg himp
    · exact hs
  unfold tradeSlot
  simp only
  split
  · split
    · have hcho := choosePhases_nonneg himp cfg g now isActive slot.firstTrade ctx
      obtain ⟨hfit, hph⟩ := importPurchase_spec cfg imp slot.firstTrade
        (choosePhases cfg g now isActive imp slot.firstTrade ctx).2.1 hnum hcho
      obtain ⟨hadm, hk⟩ := recordPurchase_spec _ fun p hp => (hfit p hp).admissible_import exp
      exact ⟨hadm, hk ▸ hph⟩
    · obtain ⟨hadm, hk⟩ := recordPurchase_spec _ fun p hp =>
        (importWattPurchase_fits hp).admissible_import exp
      exact ⟨hadm, hk ▸ hnum⟩
  · obtain ⟨hadm, hk⟩ := recordPurchase_spec _ fun p hp =>
      (exportPurchase_fits hp).admissible_export imp
    exact ⟨hadm, hk ▸ hnum⟩
  · exact ⟨admissibleTrade_zero imp exp, hnum⟩

end EverestCore.Energy
