import Mathlib.Data.List.Sort
import Mathlib.Data.List.Dedup
import Mathlib.Algebra.Order.Ring.Rat

/-!
# Energy flow requests (`types/energy.yaml`)

The request tree the energy manager gets from the energy nodes, as far as its optimizer reads it.
Numbers are `float` in the module and rationals here, timestamps are integers of nanoseconds
instead of RFC 3339 texts. The ranges the type descriptions promise (limits are positive numbers,
phase counts lie between 1 and 3, an efficiency between 0 and 1) are fields of the request types;
`Limits` is the record without them, which the markets and the offers are made of. An efficiency
of exactly 0, which divides a limit to infinity, is excluded as well. Prices, optimizer targets
and capabilities, which no modelled function looks at, are left out.
-/

namespace EverestCore.Energy

/-- `NumberWithSource` and `IntegerWithSource`. -/
structure WithSource (α : Type) where
  value : α
  source : String

/-- The two quantities that are traded: `ac_max_current_A` and `total_power_W`. -/
inductive Quantity
  | Current | Power

/-- `LimitsReq`, as a record. -/
structure Limits where
  totalPowerW : Option (WithSource Rat) := none
  acMaxCurrentA : Option (WithSource Rat) := none
  acMinCurrentA : Option (WithSource Rat) := none
  acMaxPhaseCount : Option (WithSource Int) := none
  acMinPhaseCount : Option (WithSource Int) := none
  acNumberOfActivePhases : Option Int := none

/-- The limit of a quantity. -/
def Limits.limit (l : Limits) : Quantity → Option (WithSource Rat)
  | .Current => l.acMaxCurrentA
  | .Power => l.totalPowerW

/-- No stated phase count is negative. -/
structure Limits.PhasesNonneg (l : Limits) : Prop where
  max : ∀ p ∈ l.acMaxPhaseCount, 0 ≤ p.value
  min : ∀ p ∈ l.acMinPhaseCount, 0 ≤ p.value
  active : ∀ n ∈ l.acNumberOfActivePhases, 0 ≤ n

/-- `LimitsReq`, with the ranges of its description. -/
structure LimitsReq extends Limits where
  limit_nonneg : ∀ q, ∀ l ∈ toLimits.limit q, 0 ≤ l.value
  maxPhases : ∀ p ∈ acMaxPhaseCount, 1 ≤ p.value ∧ p.value ≤ 3
  minPhases : ∀ p ∈ acMinPhaseCount, 1 ≤ p.value ∧ p.value ≤ 3
  activePhases : ∀ n ∈ acNumberOfActivePhases, 1 ≤ n ∧ n ≤ 3

structure ScheduleReqEntry where
  timestamp : Int
  limitsToRoot : LimitsReq
  limitsToLeaves : LimitsReq
  conversionEfficiency : Option Rat
  efficiency_pos : ∀ e ∈ conversionEfficiency, 0 < e ∧ e ≤ 1

structure FrequencyWattPoint where
  frequencyHz : Rat
  totalPowerW : Rat

structure SetpointType where
  acCurrentA : Option Rat
  totalPowerW : Option Rat
  frequencyTable : Option (List FrequencyWattPoint)
  source : String

structure ScheduleSetpointEntry where
  timestamp : Int
  setpoint : Option SetpointType

inductive NodeType
  | Undefined | Evse | Generic
  deriving DecidableEq

inductive EvseState
  | Unplugged | WaitForAuth | WaitForEnergy | PrepareCharging | PausedEV | PausedEVSE | Charging
  | Finished | Disabled

/-- A node's own part of `EnergyFlowRequest`. The frequencies are those of `energy_usage_root`
and `energy_usage_leaves`, phase L1. -/
structure NodeRequest where
  uuid : String
  nodeType : NodeType
  evseState : Option EvseState
  scheduleImport : List ScheduleReqEntry
  scheduleExport : List ScheduleReqEntry
  scheduleSetpoints : List ScheduleSetpointEntry
  frequencyRoot : Option Rat
  frequencyLeaves : Option Rat

inductive EnergyFlowRequest
  | node (request : NodeRequest) (children : List EnergyFlowRequest)

namespace EnergyFlowRequest

def request : EnergyFlowRequest → NodeRequest
  | node r _ => r

def children : EnergyFlowRequest → List EnergyFlowRequest
  | node _ cs => cs

/-- The node at a path, leaf first: `k :: p` is the `k`-th child of `p`. -/
def at? (r : EnergyFlowRequest) : List Nat → Option EnergyFlowRequest
  | [] => some r
  | k :: p => (r.at? p).bind fun parent => parent.children[k]?

mutual

/-- `get_list_of_evses`: the paths of the EVSE nodes below the node at `p`, parents first. -/
def evses : EnergyFlowRequest → List Nat → List (List Nat)
  | node r cs, p => (if r.nodeType = .Evse then [p] else []) ++ evsesOfChildren cs p 0

/-- The EVSE nodes of the children from the `k`-th on. -/
def evsesOfChildren : List EnergyFlowRequest → List Nat → Nat → List (List Nat)
  | [], _, _ => []
  | c :: cs, p, k => evses c (k :: p) ++ evsesOfChildren cs p (k + 1)

end

mutual

/-- `add_timestamps`: the timestamps of all schedules of the tree. -/
def timestamps : EnergyFlowRequest → List Int
  | node r cs => r.scheduleImport.map (·.timestamp) ++ r.scheduleExport.map (·.timestamp) ++
      r.scheduleSetpoints.map (·.timestamp) ++ timestampsOfChildren cs

def timestampsOfChildren : List EnergyFlowRequest → List Int
  | [] => []
  | c :: cs => timestamps c ++ timestampsOfChildren cs

end

end EnergyFlowRequest

end EverestCore.Energy
