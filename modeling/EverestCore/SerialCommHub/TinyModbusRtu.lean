import EverestCore.Lib.WireWords

/-!
# The Modbus RTU client

`tiny_modbus` sends a request over a serial line, waits for the reply and decodes its payload into
16-bit words, whatever the payload is made of. Reads that do not fit into a packet are made in
chunks.

The line is a parameter: what comes in after a request was written, echo included, or that writing
failed. Bytes that come in later than the timeouts allow are not among them.

* `calculateModbusCrc16`, `appendChecksum`, `validateChecksum`: the checksum.
* `makeSingleWriteRequest`, `makeGenericRequest`, `decodeReply`: the packets.
* `txrxImpl`: one request. `txrx`: a request in chunks.

The texts of the exceptions only go to the log; `Failure` keeps what they tell.
-/

namespace EverestCore.SerialCommHub

open Lib.WireWords

variable {σ : Type}

def MODBUS_MAX_REPLY_SIZE : Nat := 255 + 6
def MODBUS_MIN_REPLY_SIZE : Nat := 5

inductive FunctionCode
  | readCoils | readDiscreteInputs | readMultipleHoldingRegisters | readInputRegisters
  | writeSingleCoil | writeSingleHoldingRegister | writeMultipleCoils
  | writeMultipleHoldingRegisters
  deriving DecidableEq

def FunctionCode.toByte : FunctionCode → UInt8
  | .readCoils => 0x01
  | .readDiscreteInputs => 0x02
  | .readMultipleHoldingRegisters => 0x03
  | .readInputRegisters => 0x04
  | .writeSingleCoil => 0x05
  | .writeSingleHoldingRegister => 0x06
  | .writeMultipleCoils => 0x0F
  | .writeMultipleHoldingRegisters => 0x10

/-- The exceptions. -/
inductive Failure
  | timeout
  | shortPacket (len : Nat)
  | addressMismatch (expected received : UInt8)
  | functionCodeMismatch (expected received : UInt8)
  | checksumError
  | incompletePacket
  | oddByteCount (function : FunctionCode)
  | modbus (errCode : UInt8)
  | logicError
  | systemError
  deriving DecidableEq

/-! ## The checksum -/

/-- One bit of `calculate_modbus_crc16`. -/
def crcShift (crc : UInt16) : UInt16 :=
  if crc &&& 1 ≠ 0 then (crc >>> 1) ^^^ 0xA001 else crc >>> 1

variable (buf : List UInt8)

def calculateModbusCrc16 : UInt16 :=
  buf.foldl (fun crc byte => Nat.repeat crcShift 8 (crc ^^^ byte.toUInt16)) 0xFFFF

/-- `append_checksum`; the last two bytes of a message are set aside for it. -/
def appendChecksum (msg : List UInt8) : List UInt8 :=
  msg ++ if msg.length + 2 < 5 then [0, 0] else littleEndian (calculateModbusCrc16 msg)

def validateChecksum (msg : List UInt8) : Bool :=
  if msg.length < 5 then false
  else
    word (msg.getD (msg.length - 1) 0) (msg.getD (msg.length - 2) 0) =
      calculateModbusCrc16 (msg.take (msg.length - 2))

/-! ## Packets -/

def makeSingleWriteRequest (deviceAddress : UInt8) (function : FunctionCode)
    (registerAddress data : UInt16) : List UInt8 :=
  appendChecksum ([deviceAddress, function.toByte] ++ bigEndian registerAddress ++ bigEndian data)

/-- `_make_generic_request`; there is room for the request data of any function, but it is only
written for one. -/
def makeGenericRequest (deviceAddress : UInt8) (function : FunctionCode)
    (firstRegisterAddress registerQuantity : UInt16) (request : List UInt16) : List UInt8 :=
  appendChecksum ([deviceAddress, function.toByte] ++ bigEndian firstRegisterAddress ++
    bigEndian registerQuantity ++
      if request.isEmpty then []
      else if function = .writeMultipleHoldingRegisters then
        .ofNat (request.length * 2) :: request.flatMap bigEndian
      else List.replicate (2 * request.length + 1) 0)

/-- The bytes of the payload are even in number. -/
def FunctionCode.evenByteCntExpected : FunctionCode → Bool
  | .readMultipleHoldingRegisters | .readInputRegisters => true
  | _ => false

/-- Where the payload of a reply starts and how many bytes it has. -/
def payloadOf : FunctionCode → Nat × Nat
  | .writeSingleCoil | .writeSingleHoldingRegister | .writeMultipleCoils
  | .writeMultipleHoldingRegisters => (2, 4)
  | .readMultipleHoldingRegisters | .readInputRegisters | .readCoils | .readDiscreteInputs =>
    (3, (buf.getD 2 0).toNat)

/-- The word at `i`; the last byte of the buffer stands alone. -/
def wordAt (i : Nat) : UInt16 :=
  word (buf.getD i 0) (if i < buf.length - 1 then buf.getD (i + 1) 0 else 0)

def decodeReply (expectedDeviceAddress : UInt8) (function : FunctionCode) :
    Except Failure (List UInt16) :=
  let deviceAddress := buf.getD 0 0
  let received := buf.getD 1 0
  -- the highest bit marks an exception
  let functionCode := received &&& 0x7F
  let payload := payloadOf buf function
  if buf.length = 0 then .error .timeout
  else if buf.length < MODBUS_MIN_REPLY_SIZE then .error (.shortPacket buf.length)
  else if expectedDeviceAddress ≠ deviceAddress then
    .error (.addressMismatch expectedDeviceAddress deviceAddress)
  else if function.toByte ≠ functionCode then
    .error (.functionCodeMismatch function.toByte functionCode)
  else if !validateChecksum buf then .error .checksumError
  else if received &&& 0x80 ≠ 0 then .error (.modbus (buf.getD 2 0))
  else if buf.length < payload.1 + payload.2 then .error .incompletePacket
  else if function.evenByteCntExpected && payload.2 % 2 = 1 then .error (.oddByteCount function)
  else .ok ((List.range ((payload.2 + 1) / 2)).map fun k => wordAt buf (payload.1 + 2 * k))

/-! ## Requests -/

/-- What comes in after the bytes that are written, or nothing where writing fails. -/
structure Line (σ : Type) where
  write : List UInt8 → σ → Option (List UInt8) × σ

structure TinyModbusRTU where
  opened : Bool
  ignoreEcho : Bool

/-- `read_reply`: as many bytes as the buffer takes, and what is left on the line. -/
def readReply (rx : List UInt8) (rxbufLen : Nat) : List UInt8 × List UInt8 :=
  (rx.take rxbufLen, rx.drop rxbufLen)

/-- The packet of a request; a single write needs its value. -/
def makeRequest (deviceAddress : UInt8) (function : FunctionCode)
    (firstRegisterAddress registerQuantity : UInt16) (request : List UInt16) :
    Except Failure (List UInt8) :=
  if function = .writeSingleHoldingRegister ∨ function = .writeSingleCoil then
    match request with
    | [] => .error .logicError
    | data :: _ => .ok (makeSingleWriteRequest deviceAddress function firstRegisterAddress data)
  else
    .ok (makeGenericRequest deviceAddress function firstRegisterAddress registerQuantity request)

namespace TinyModbusRTU

variable (m : TinyModbusRTU) (line : Line σ) (deviceAddress : UInt8) (function : FunctionCode)

def txrxImpl (firstRegisterAddress registerQuantity : UInt16) (waitForReply : Bool)
    (request : List UInt16) (s : σ) : Except Failure (List UInt16) × σ :=
  if !m.opened then (.ok [], s)
  else
    match makeRequest deviceAddress function firstRegisterAddress registerQuantity request with
    | .error failure => (.error failure, s)
    | .ok req =>
      match line.write req s with
      | (none, s) => (.error .systemError, s)
      | (some rx, s) =>
        let rx := if m.ignoreEcho then (readReply rx req.length).2 else rx
        if waitForReply then
          (decodeReply (readReply rx MODBUS_MAX_REPLY_SIZE).1 deviceAddress function, s)
        else (.ok [], s)

/-- The loop of `txrx`. -/
def txrxLoop (registerChunk : UInt16) (waitForReply : Bool) (request : List UInt16) :
    (rounds : Nat) → (firstRegisterAddress registerQuantity : UInt16) → (writtenElements : Nat) →
    (out : List UInt16) → σ → Except Failure (List UInt16) × σ
  | 0, _, _, _, out, s => (.ok out, s)
  | rounds + 1, firstRegisterAddress, registerQuantity, writtenElements, out, s =>
    if registerQuantity = 0 then (.ok out, s)
    else
      let currentRegisterQuantity := min registerQuantity registerChunk
      let last := writtenElements + currentRegisterQuantity.toNat
      let currentRequest :=
        if last < request.length then (request.take last).drop writtenElements
        else request.drop writtenElements
      let writtenElements := if last < request.length then last else request.length
      match m.txrxImpl line deviceAddress function firstRegisterAddress currentRegisterQuantity
        waitForReply currentRequest s with
      | (.error failure, s) => (.error failure, s)
      -- failed to read or write
      | (.ok [], s) => (.ok [], s)
      | (.ok res, s) =>
        txrxLoop registerChunk waitForReply request rounds
          (firstRegisterAddress + currentRegisterQuantity)
          (registerQuantity - currentRegisterQuantity) writtenElements (out ++ res) s

/-- `txrx`; every round takes at least one register, so there are no more rounds than registers. -/
def txrx (firstRegisterAddress registerQuantity maxPacketSize : UInt16) (waitForReply : Bool)
    (request : List UInt16) (s : σ) : Except Failure (List UInt16) × σ :=
  if maxPacketSize.toNat < MODBUS_MIN_REPLY_SIZE + 2 then (.ok [], s)
  else
    m.txrxLoop line deviceAddress function
      (.ofNat ((maxPacketSize.toNat - MODBUS_MIN_REPLY_SIZE) / 2)) waitForReply request
      registerQuantity.toNat firstRegisterAddress registerQuantity 0 [] s

end TinyModbusRTU

end EverestCore.SerialCommHub
