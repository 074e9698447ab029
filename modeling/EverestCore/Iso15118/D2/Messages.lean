import Mathlib.Data.Rat.Floor

/-!
# ISO 15118-2 messages, control events and signals (`message_2/`, `d20/control_event.hpp`)

What the SECC state machine reads of a request and decides in a response. A response keeps its
message type, its code, `EVSEProcessing` and which `EVSEStatus` it carries; a request keeps the
elements on which a transition or a response code depends.

* `toPhysicalValue`: `to_physical_value` followed by `from_physical_value`, over the rationals.
* `Response`, `Request`, `ControlEvent`, `Signal`, `TimeoutType`.

Left out: measured values, limits and status elements that are only displayed by the peer, the
feedback about them, and the EXI encoding. Certificates and EXI payloads are byte lists.
-/

namespace EverestCore.Iso15118.D2

/-! ## Data types -/

inductive ResponseCode
  | OK | OK_NewSessionEstablished | OK_OldSessionJoined | OK_CertificateExpiresSoon | FAILED
  | FAILED_SequenceError | FAILED_ServiceIDInvalid | FAILED_UnknownSession
  | FAILED_ServiceSelectionInvalid | FAILED_PaymentSelectionInvalid | FAILED_CertificateExpired
  | FAILED_SignatureError | FAILED_NoCertificateAvailable | FAILED_CertChainError
  | FAILED_ChallengeInvalid | FAILED_ContractCanceled | FAILED_WrongChargeParameter
  | FAILED_PowerDeliveryNotApplied | FAILED_TariffSelectionInvalid | FAILED_ChargingProfileInvalid
  | FAILED_MeteringSignatureNotValid | FAILED_NoChargeServiceSelected
  | FAILED_WrongEnergyTransferMode | FAILED_ContactorError | FAILED_CertificateNotAllowedAtThisEVSE
  | FAILED_CertificateRevoked
  deriving DecidableEq

/-- `response_code >= ResponseCode::FAILED`. -/
def ResponseCode.failed : ResponseCode → Bool
  | .OK | .OK_NewSessionEstablished | .OK_OldSessionJoined | .OK_CertificateExpiresSoon => false
  | _ => true

inductive EVSEProcessing
  | Finished | Ongoing | Ongoing_WaitingForCustomerInteraction
  deriving DecidableEq

inductive EnergyTransferMode
  | AC_single_phase_core | AC_three_phase_core | DC_core | DC_extended | DC_combo_core | DC_unique
  deriving DecidableEq

/-- `is_dc_mode`. -/
def EnergyTransferMode.isDc : EnergyTransferMode → Bool
  | .AC_single_phase_core | .AC_three_phase_core => false
  | .DC_core | .DC_extended | .DC_combo_core | .DC_unique => true

inductive PaymentOption
  | Contract | ExternalPayment
  deriving DecidableEq

inductive ChargingSession
  | Terminate | Pause
  deriving DecidableEq

inductive ChargeProgress
  | Start | Stop | Renegotiate
  deriving DecidableEq

inductive CpState
  | A | B | C | D | E | F
  deriving DecidableEq

inductive EvseErrorCode
  | None | Contactor | RCD | UtilityInterruptEvent | Malfunction | EmergencyShutdown
  deriving DecidableEq

inductive NoEnergyPauseMode
  | None | BeforeCableCheck | AfterCableCheckPreCharge | AllowEvToIgnorePause
  deriving DecidableEq

/-- `d20::TimeoutType`, in the order of the array in `Timeouts`. -/
inductive TimeoutType
  | SEQUENCE | PERFORMANCE | ONGOING | CONTACTOR | CPSTATE | STOP_CHARGING | EMERGENCY_SHUTDOWN
  deriving DecidableEq

inductive Signal
  | REQUIRE_AUTH_EIM | START_CABLE_CHECK | SETUP_FINISHED | PRE_CHARGE_STARTED | CHARGE_LOOP_STARTED
  | CHARGE_LOOP_FINISHED | DC_OPEN_CONTACTOR | DC_RENEGOTIATION_STARTED | AC_CLOSE_CONTACTOR
  | AC_OPEN_CONTACTOR | DLINK_TERMINATE | DLINK_ERROR | DLINK_PAUSE | PAUSE_NOTIFIED
  deriving DecidableEq

inductive SessionStopAction
  | Terminate | Pause | FailedTermination

/-- The eight bytes of a session id; zero stands for no session. -/
abbrev SessionId := BitVec 64

/-- The sixteen bytes of a challenge. -/
abbrev GenChallenge := BitVec 128

abbrev Bytes := List UInt8

/-- `to_physical_value`, its multiplier: three digits of precision, between -3 and 3. -/
def physicalMultiplier (value : Rat) : Int :=
  if |value| < 10 then -3
  else if |value| < 100 then -2
  else if |value| < 1000 then -1
  else if |value| < 10000 then 0
  else if |value| < 100000 then 1
  else if |value| < 1000000 then 2
  else 3

/-- The cast of a floating point number to an integer. -/
def truncate (value : Rat) : Int := if 0 ≤ value then ⌊value⌋ else -⌊-value⌋

/-- The value that the peer reads: sixteen bits scaled by a power of ten. -/
def toPhysicalValue (value : Rat) : Rat :=
  let scale : Rat := 10 ^ physicalMultiplier value
  truncate (max (-32768) (min 32767 (value / scale))) * scale

/-! ## Requests -/

structure SelectedService where
  serviceId : Nat
  parameterSetId : Option Int
  deriving DecidableEq

structure AcEvChargeParameter where
  departureTime : Option Nat
  eAmount : Rat
  evMaxVoltage : Rat
  evMaxCurrent : Rat
  evMinCurrent : Rat
  deriving DecidableEq

structure DcEvChargeParameter where
  departureTime : Option Nat
  evMaximumCurrentLimit : Rat
  evMaximumPowerLimit : Option Rat
  evMaximumVoltageLimit : Rat
  deriving DecidableEq

structure ChargeParameterDiscoveryRequest where
  requestedEnergyTransferMode : EnergyTransferMode
  acEvChargeParameter : Option AcEvChargeParameter
  dcEvChargeParameter : Option DcEvChargeParameter
  deriving DecidableEq

structure ProfileEntry where
  start : Nat
  maxPower : Rat
  deriving DecidableEq

structure PowerDeliveryRequest where
  chargeProgress : ChargeProgress
  saScheduleTupleId : Nat
  chargingProfile : Option (List ProfileEntry)
  deriving DecidableEq

/-- The body of a request. `exi` is the raw payload of the signed and of the relayed requests. -/
inductive RequestBody
  | sessionSetup
  | serviceDiscovery
  | serviceDetail (serviceId : Nat)
  | paymentServiceSelection (option : PaymentOption) (services : List SelectedService)
  | paymentDetails (emaid : String) (contractCertificate : Bytes) (subCertificates : List Bytes)
  | authorization (genChallenge : Option GenChallenge) (exi : Bytes)
  | chargeParameterDiscovery (req : ChargeParameterDiscoveryRequest)
  | powerDelivery (req : PowerDeliveryRequest)
  | chargingStatus
  | meteringReceipt (sessionId : SessionId) (exi : Bytes)
  | cableCheck
  | preCharge
  | currentDemand
  | weldingDetection
  | sessionStop (chargingSession : ChargingSession)
  | certificateInstallation (exi : Bytes)
  | certificateUpdate (exi : Bytes)
  -- anything that is not a request, undecodable payloads included
  | other
  deriving DecidableEq

/-- `message_2::Variant`: the session id of the header and the body. -/
structure Request where
  sessionId : SessionId
  body : RequestBody

/-! ## Responses -/

/-- `message_2::Type` of a response. -/
inductive ResponseType
  | SessionSetupRes | ServiceDiscoveryRes | ServiceDetailRes | PaymentServiceSelectionRes
  | PaymentDetailsRes | AuthorizationRes | ChargeParameterDiscoveryRes | PowerDeliveryRes
  | ChargingStatusRes | MeteringReceiptRes | CableCheckRes | PreChargeRes | CurrentDemandRes
  | WeldingDetectionRes | CertificateInstallationRes | CertificateUpdateRes | SessionStopRes
  deriving DecidableEq

/-- A response: `evseProcessing` is absent where the message has no such element. -/
structure Response where
  type : ResponseType
  responseCode : ResponseCode
  evseProcessing : Option EVSEProcessing := none
  dcEvseStatus : Bool := false   -- carries `DC_EVSEStatus`, not `AC_EVSEStatus`
  deriving DecidableEq

/-! ## Control events -/

structure MeterInfo where
  meterId : String
  meterReadingWh : Nat
  deriving DecidableEq

/-- `d20::DcTransferLimits`, the part a transition depends on. -/
structure DcTransferLimits where
  powerMax : Rat
  currentMin : Rat
  voltageMin : Rat
  deriving DecidableEq

inductive ControlEvent
  | cableCheckFinished (success : Bool)
  | presentVoltageCurrent
  | meterInfo (info : MeterInfo)
  | authorizationResponse (authorized certificateRevoked : Bool)
  | stopCharging (stop : Bool)
  | pauseCharging (pause : Bool)
  | dcTransferLimits
  | acTransferLimits (chargePowerMax : Rat)
  | closedContactor (closed : Bool)
  -- `raw` is the decoded payload, empty when there is none or when it does not decode
  | certificateResponse (statusAccepted : Bool) (raw : Bytes)
  | evseError (code : EvseErrorCode)
  | cpStateChanged (state : CpState)
  | updateAcMaxCurrent
  | physicalValues (acNominalVoltage : Option Rat)
  | noEnergyPause (mode : NoEnergyPauseMode)
  | updateIsolationStatus
  | updatePowersupplyLimits (limits : DcTransferLimits)
  -- the events of the other protocols
  | other
  deriving DecidableEq

end EverestCore.Iso15118.D2
