import EverestCore.Lib.Machine
import EverestCore.Lib.OrderedMap
import Mathlib.Data.Prod.Lex
import Mathlib.Data.String.Basic

/-!
# Errors that prevent charging (`ErrorHandling.cpp`)

`ErrorHandling` watches the errors of the EVSE itself (`p_evse`) and of everything it requires, and
tells `Charger` to shut down while one of them prevents charging. It keeps one error of its own
active meanwhile, `evse_manager/Inoperative`, and remembers for which causes it raised it.

* `raiseError`, `clearError`, `isErrorActive`: `ErrorManagerImpl`, `ErrorManagerReq` and
  `ErrorStateMonitor` over one `ErrorDatabaseMap`. The database is ordered by the random handles of
  its errors, so where a new error stands among the others is an argument, `rank`.
* `errorsPreventCharging`: `errors_prevent_charging` with the lists `ignore_errors`.
* `generateDescription`, `raiseInoperativeError`, `clearInoperativeError`, `processError`.
* `Event`: an error is raised or cleared somewhere, or `process_error` runs. It runs under the
  monitor of `inoperative_causes`, and sees what happened since the last time at once. The public
  members `raise_*` and `clear_*` are an event on `p_evse` and a `process_error`.

Left out: origin, handle, timestamp and state of an error, and the check that a module only raises
the errors that its interface declares.
-/

namespace EverestCore.Evse.ErrorHandling

open EverestCore.Lib

/-! ## Errors -/

inductive Severity
  | Low | Medium | High
  deriving DecidableEq

structure Error where
  type : String
  subType : String
  message : String
  description : String
  vendorId : String
  severity : Severity
  deriving DecidableEq

/-- Where errors come from: `p_evse` and the requirements. -/
inductive Source
  | evse | bsp | connectorLock | acRcd | imd | powersupply | powermeter | slac | hlc
  | overVoltageMonitor
  deriving DecidableEq

def isErrorActive (type subType : String) (db : List Error) : Bool :=
  db.any fun e => e.type == type && e.subType == subType

/-- `raise_error`: an error that is active already is ignored. -/
def raiseError (rank : Nat) (e : Error) (db : List Error) : List Error :=
  if isErrorActive e.type e.subType db then db else db.take rank ++ e :: db.drop rank

def clearError (type subType : String) (db : List Error) : List Error :=
  db.filter fun e => !(e.type == type && e.subType == subType)

/-! ## The state -/

/-- `ErrorHandlingEvents`, as far as they are signalled. -/
inductive ErrorHandlingEvents
  | ForceErrorShutdown | ForceEmergencyShutdown | AllErrorsPreventingChargingCleared
  deriving DecidableEq

/-- What `ErrorHandling` signals. -/
inductive Signal
  | error (e : ErrorHandlingEvents)
  | allErrorsCleared
  deriving DecidableEq

/-- The key of `ErrorCauseLess`: type and sub-type, in this order. -/
def Error.key (e : Error) : String ×ₗ String := toLex (e.type, e.subType)

/-- `InoperativeCauses`: a `std::set` that compares by `ErrorCauseLess`. -/
abbrev InoperativeCauses := OrderedMap (String ×ₗ String) Error

/-- What is connected, and how the error is raised. -/
structure Config where
  connected : Source → Bool
  inoperativeErrorUseVendorId : Bool

variable (cfg : Config)

/-- `p_evse` and the BSP are always there. -/
def Config.present : Source → Bool
  | .evse | .bsp => true
  | src => cfg.connected src

/-- The active errors, the member `inoperative_causes` and the signals, newest first. -/
structure State where
  active : Source → List Error
  inoperativeCauses : InoperativeCauses
  signals : List Signal

def State.signal (x : Signal) (s : State) : State := { s with signals := x :: s.signals }

/-- Changes the errors of one source. -/
def State.update (src : Source) (f : List Error → List Error) (s : State) : State :=
  { s with active := fun src' => if src' = src then f (s.active src) else s.active src' }

/-! ## The check -/

def ignoreErrors : Source → List String
  | .evse => ["evse_manager/Inoperative"]
  | .bsp => ["evse_board_support/MREC3HighTemperature",
      "evse_board_support/MREC18CableOverTempDerate", "evse_board_support/VendorWarning"]
  | .connectorLock => ["connector_lock/VendorWarning"]
  | .acRcd => ["ac_rcd/VendorWarning"]
  | .imd => ["isolation_monitor/VendorWarning"]
  | .powersupply => ["power_supply_DC/VendorWarning"]
  | .powermeter => ["generic/VendorWarning"]
  | .slac => ["generic/VendorWarning"]
  | .hlc => ["generic/VendorWarning"]
  | .overVoltageMonitor => ["over_voltage_monitor/VendorWarning"]

/-- Whether an error of a source prevents charging. -/
def preventsCharging (src : Source) (e : Error) : Bool := !(ignoreErrors src).contains e.type

/-- The order in which `errors_prevent_charging` looks. -/
def collectOrder : List Source :=
  [.evse, .bsp, .connectorLock, .acRcd, .imd, .powersupply, .powermeter, .slac, .hlc,
    .overVoltageMonitor]

def errorsPreventCharging (s : State) : List Error :=
  collectOrder.flatMap fun src =>
    if cfg.present src then (s.active src).filter (preventsCharging src) else []

/-- The sources that `process_error` adds up in `error_count`. -/
def countedSources : List Source :=
  [.evse, .bsp, .connectorLock, .acRcd, .imd, .powersupply, .powermeter, .slac, .hlc]

def errorCount (s : State) : Nat :=
  (countedSources.map fun src => if cfg.present src then (s.active src).length else 0).sum

def generateDescription (e : Error) : String :=
  match e.type.toList.span (· ≠ '/') with
  | (_, []) => e.description
  | (before, _ :: after) =>
    let result := if after = [] then before
      else if after.getLast? = some '/' then after.dropLast else after
    String.ofList (if e.subType = "" then result else result ++ '/' :: e.subType.toList)

/-! ## The Inoperative error -/

/-- `evse_manager/Inoperative`. -/
def inoperative : String := "evse_manager/Inoperative"

/-- The Inoperative error is active. -/
def State.isInoperative (s : State) : Bool := isErrorActive inoperative "" (s.active .evse)

/-- `is_emergency`, over any container of errors. -/
def isEmergency (errors : List Error) : Bool := errors.any (·.severity == .High)

/-- The constructor of the set: the first of several equivalent errors stays. -/
def causesOf (errors : List Error) : InoperativeCauses :=
  errors.foldl (fun m e => if m.contains e.key then m else m.insert e.key e) ∅

/-- The errors of the set. -/
def causeErrors (causes : InoperativeCauses) : List Error := causes.entries.map (·.2)

/-- `same_causes`: equivalent under `ErrorCauseLess`, one by one. -/
def sameCauses (a b : InoperativeCauses) : Bool := a.keys == b.keys

/-- The error that is raised for `primary` and `others`. -/
def inoperativeError (primary : Error) (others : List Error) : Error where
  type := inoperative
  subType := ""
  message := primary.type
  description := others.foldl (fun text e => text ++ ", " ++ generateDescription e)
    (generateDescription primary)
  vendorId := if cfg.inoperativeErrorUseVendorId && primary.vendorId != "" then primary.vendorId
    else "EVerest"
  severity := .High

/-- The shutdown that errors ask for. -/
def shutdown (emergency : Bool) : ErrorHandlingEvents :=
  if emergency then .ForceEmergencyShutdown else .ForceErrorShutdown

def raiseInoperativeError (rank : Nat) (causes : List Error) (s : State) : State :=
  match causes with
  | [] => s
  | primary :: others =>
    let current := causesOf causes
    let alreadyRaised := s.isInoperative
    if alreadyRaised && sameCauses current s.inoperativeCauses then s
    else
      let wasEmergency := isEmergency (causeErrors s.inoperativeCauses)
      -- there is no update in place
      let s := if alreadyRaised then s.update .evse (clearError inoperative "") else s
      let s := s.update .evse (raiseError rank (inoperativeError cfg primary others))
      let s := { s with inoperativeCauses := current }
      let emergency := isEmergency causes
      if !alreadyRaised || emergency != wasEmergency then s.signal (.error (shutdown emergency))
      else s

def clearInoperativeError (s : State) : State :=
  if s.isInoperative then
    State.signal (.error .AllErrorsPreventingChargingCleared)
      { s.update .evse (clearError inoperative "") with inoperativeCauses := ∅ }
  else s

/-- `process_error`, before it counts. -/
def evaluateErrors (rank : Nat) (s : State) : State :=
  let fatal := errorsPreventCharging cfg s
  if fatal ≠ [] then raiseInoperativeError cfg rank fatal s else clearInoperativeError s

def processError (rank : Nat) (s : State) : State :=
  let s := evaluateErrors cfg rank s
  if errorCount cfg s = 0 then s.signal .allErrorsCleared else s

/-! ## Histories -/

/-- What happens to the errors. -/
inductive Event
  | raised (src : Source) (e : Error) (rank : Nat)
  | cleared (src : Source) (type subType : String)
  | process (rank : Nat)

def step (s : State) : Event → State
  | .raised src e rank => s.update src (raiseError rank e)
  | .cleared src type subType => s.update src (clearError type subType)
  | .process rank => processError cfg rank s

end EverestCore.Evse.ErrorHandling
