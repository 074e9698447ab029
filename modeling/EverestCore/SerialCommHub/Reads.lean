import EverestCore.SerialCommHub.TinyModbusRtu

/-!
# Reads through the serial communication hub

The hub passes a read to the Modbus client, tries again when it fails, and unpacks the words of a
coil reply into bits. Registers and coils are read in the same chunks. A chunk of coils, however, is
padded to whole bytes on the wire and to whole words by the decoder, and the padding stays between
the chunks: only chunks of whole words, or a single one, come out as they are. The quantity is also
a 16-bit number for the client, so that a read of all 65536 addresses asks for none.

Results:
* **`reads_return_values`**: exactly when reads return the values of every device.
* `coils_misaligned`: the padding is taken for coils; all registers at once are not read.
-/

namespace EverestCore.SerialCommHub

open Lib.WireWords List Nat UInt16 TinyModbusRTU

variable {σ : Type}

/-! ## The hub -/

inductive StatusCodeEnum
  | success | error | timeout
  deriving DecidableEq

structure Result where
  statusCode : StatusCodeEnum
  value : Option (List Int) := none
  deriving DecidableEq

structure ResultBool where
  statusCode : StatusCodeEnum
  value : Option (List Bool) := none
  deriving DecidableEq

def vectorToInt (response : List UInt16) : List Int := response.map fun r => (r.toNat : Int)

/-- One bit is added, unless there are enough. -/
def pushBit (numberOfCoils : Nat) (resultBool : List Bool) (bit : Bool) : List Bool :=
  if numberOfCoils ≤ resultBool.length then resultBool else resultBool ++ [bit]

/-- The bits of a word, its first byte first. -/
def wordBits (packedBytes : UInt16) : List Bool :=
  byteBits (hi packedBytes) ++ byteBits (lo packedBytes)

def convertReadCoilsResult (result : Result) (numberOfCoils : Nat) : ResultBool where
  statusCode := result.statusCode
  value := result.value.map fun values =>
    values.foldl (fun resultBool v =>
      (wordBits (.ofInt v)).foldl (pushBit numberOfCoils) resultBool) []

structure Hub where
  modbus : TinyModbusRTU
  maxPacketSize : Nat
  retries : Nat

namespace Hub

variable (hub : Hub) (line : Line σ)

/-- The trials of `perform_modbus_request`. -/
def trials (txrx : σ → Except Failure (List UInt16) × σ) :
    (retryCounter : Nat) → (lastErrorWasTimeout : Bool) → σ → Result × σ
  | 0, lastErrorWasTimeout, s =>
    ({ statusCode := if lastErrorWasTimeout then .timeout else .error }, s)
  | retryCounter + 1, _, s =>
    match txrx s with
    | (.ok [], s) => trials txrx retryCounter false s
    | (.ok response, s) => ({ statusCode := .success, value := some (vectorToInt response) }, s)
    | (.error failure, s) => trials txrx retryCounter (failure = .timeout) s

def performModbusRequest (deviceAddress : UInt8) (function : FunctionCode)
    (firstRegisterAddress registerQuantity : UInt16) (waitForReply : Bool)
    (request : List UInt16) (s : σ) : Result × σ :=
  trials (hub.modbus.txrx line deviceAddress function firstRegisterAddress registerQuantity
    (.ofNat hub.maxPacketSize) waitForReply request) (hub.retries + 1) false s

def handleModbusReadHoldingRegisters (targetDeviceId firstRegisterAddress numRegistersToRead : Int)
    (s : σ) : Result × σ :=
  hub.performModbusRequest line (.ofInt targetDeviceId) .readMultipleHoldingRegisters
    (.ofInt firstRegisterAddress) (.ofInt numRegistersToRead) true [] s

def handleModbusReadInputRegisters (targetDeviceId firstRegisterAddress numRegistersToRead : Int)
    (s : σ) : Result × σ :=
  hub.performModbusRequest line (.ofInt targetDeviceId) .readInputRegisters
    (.ofInt firstRegisterAddress) (.ofInt numRegistersToRead) true [] s

def handleModbusReadCoils (targetDeviceId firstCoilAddress numCoilsToRead : Int) (s : σ) :
    ResultBool × σ :=
  let (result, s) := hub.performModbusRequest line (.ofInt targetDeviceId) .readCoils
    (.ofInt firstCoilAddress) (.ofInt numCoilsToRead) true [] s
  (convertReadCoilsResult result numCoilsToRead.toNat, s)

end Hub

/-! ## The device -/

/-- The values of a device. -/
structure Device where
  address : UInt8
  holdingRegisters : Nat → UInt16
  inputRegisters : Nat → UInt16
  coils : Nat → Bool

/-- A frame of the specification. -/
def frame (payload : List UInt8) : List UInt8 :=
  payload ++ littleEndian (calculateModbusCrc16 payload)

/-- How many values a read may ask for. -/
def FunctionCode.readLimit : FunctionCode → Option Nat
  | .readCoils => some 2000
  | .readMultipleHoldingRegisters | .readInputRegisters => some 125
  | _ => none

def readRequest (address : UInt8) (function : FunctionCode) (first quantity : Nat) : List UInt8 :=
  frame ([address, function.toByte] ++ bigEndian (.ofNat first) ++ bigEndian (.ofNat quantity))

namespace Device

variable (d : Device)

/-- The data of a reply; coils are padded with zeros. -/
def data (first quantity : Nat) : FunctionCode → List UInt8
  | .readCoils => pack ((quantity + 7) / 8) fun i => i < quantity && d.coils (first + i)
  | .readMultipleHoldingRegisters =>
    (range' first quantity).flatMap fun a => bigEndian (d.holdingRegisters a)
  | .readInputRegisters =>
    (range' first quantity).flatMap fun a => bigEndian (d.inputRegisters a)
  | _ => []

def response (function : FunctionCode) (first quantity : Nat) : List UInt8 :=
  frame ([d.address, function.toByte, .ofNat (d.data first quantity function).length] ++
    d.data first quantity function)

end Device

/-- The device is on the line, which may echo: every read that the specification allows is
answered. -/
def Line.Connects (line : Line σ) (echoes : Bool) (d : Device) : Prop :=
  ∀ (function : FunctionCode) (limit first quantity : Nat) (s : σ),
    function.readLimit = some limit → 1 ≤ quantity → quantity ≤ limit → first + quantity ≤ 65536 →
      (line.write (readRequest d.address function first quantity) s).1 =
        some ((if echoes then readRequest d.address function first quantity else []) ++
          d.response function first quantity)

/-! ## Replies -/

theorem appendChecksum_eq_frame {msg : List UInt8} (h : 3 ≤ msg.length) :
    appendChecksum msg = frame msg := by
  rw [appendChecksum, if_neg (by omega), frame]

theorem makeRequest_read {function : FunctionCode} {limit : Nat}
    (hr : function.readLimit = some limit) (address : UInt8) (first quantity : Nat) :
    makeRequest address function (.ofNat first) (.ofNat quantity) [] =
      .ok (readRequest address function first quantity) := by
  have hs : ¬ (function = .writeSingleHoldingRegister ∨ function = .writeSingleCoil) := by
    rintro (rfl | rfl) <;> cases hr
  rw [makeRequest, if_neg hs, makeGenericRequest, isEmpty_nil, if_pos rfl, append_nil]
  exact congrArg _ (appendChecksum_eq_frame (le_add_left 3 3))

theorem length_frame (payload : List UInt8) : (frame payload).length = payload.length + 2 := by
  rw [frame, length_append]
  rfl

theorem validateChecksum_frame {payload : List UInt8} (h : 3 ≤ payload.length) :
    validateChecksum (frame payload) := by
  have hl : (frame payload).getD (payload.length + 1) 0 = hi (calculateModbusCrc16 payload) := by
    simp [frame, littleEndian]
  have hlow : (frame payload).getD payload.length 0 = lo (calculateModbusCrc16 payload) := by
    simp [frame, littleEndian]
  have ht : (frame payload).take payload.length = payload := take_left
  rw [validateChecksum, length_frame, if_neg (by omega), Nat.add_sub_cancel,
    Nat.add_sub_assoc (by omega), hl, hlow, ht, word_hi_lo, decide_eq_true rfl]

/-- The words that start at every second byte. -/
def wordsOf (bytes : List UInt8) (count : Nat) : List UInt16 :=
  (range count).map fun k => word (bytes.getD (2 * k) 0) (bytes.getD (2 * k + 1) 0)

theorem wordsOf_cons (first second : UInt8) (bytes : List UInt8) (count : Nat) :
    wordsOf (first :: second :: bytes) (count + 1) = word first second :: wordsOf bytes count := by
  rw [wordsOf, range_succ_eq_map, map_cons, map_map]
  rfl

/-- **The words of a correct reply**: those of its data; an odd last byte is followed by the
checksum. -/
theorem decodeReply_frame {function : FunctionCode} {limit : Nat}
    (hr : function.readLimit = some limit) (address : UInt8) {data : List UInt8}
    (hl : data.length < 256) (hev : function.evenByteCntExpected → data.length % 2 = 0) :
    ∃ checksum : UInt16,
      decodeReply (frame ([address, function.toByte, .ofNat data.length] ++ data)) address
        function = .ok (wordsOf (data ++ littleEndian checksum) ((data.length + 1) / 2)) := by
  refine ⟨calculateModbusCrc16 ([address, function.toByte, .ofNat data.length] ++ data), ?_⟩
  generalize hbuf : frame ([address, function.toByte, .ofNat data.length] ++ data) = buf
  have hlen : buf.length = data.length + 5 := by
    rw [← hbuf, length_frame, length_append]
    exact (congrArg (· + 2) (add_comm 3 data.length))
  have hadd : buf.getD 0 0 = address := hbuf ▸ rfl
  have hf : buf.getD 1 0 = function.toByte := hbuf ▸ rfl
  have hco : (buf.getD 2 0).toNat = data.length := hbuf ▸ mod_eq_of_lt hl
  have hp : payloadOf buf function = (3, data.length) := by
    rw [← hco]
    cases function <;> first | rfl | cases hr
  have hcd : function.toByte &&& 0x7F = function.toByte := by cases function <;> rfl
  have he : function.toByte &&& 0x80 = 0 := by cases function <;> rfl
  have hc : validateChecksum buf :=
    hbuf ▸ validateChecksum_frame (le_add_left 3 data.length)
  have hodd : ¬ (function.evenByteCntExpected && decide (data.length % 2 = 1)) := by
    intro h
    obtain ⟨hexp, hone⟩ := Bool.and_eq_true_iff.1 h
    rw [hev hexp] at hone
    cases hone
  have hmin : ¬ data.length + 5 < MODBUS_MIN_REPLY_SIZE := not_lt.2 (le_add_left 5 _)
  unfold decodeReply
  simp only [hadd, hf, hcd, hp, he, hc, hlen]
  rw [if_neg (succ_ne_zero _), if_neg hmin,
    if_neg (not_not_intro rfl), if_neg (not_not_intro rfl), if_neg nofun,
    if_neg (not_not_intro rfl), if_neg (by omega), if_neg hodd]
  refine congrArg Except.ok (map_congr_left fun k hk => ?_)
  have hk : k < (data.length + 1) / 2 := mem_range.1 hk
  rw [wordAt, if_pos (by omega), ← hbuf, add_comm 3]
  rfl

theorem wordsOf_bigEndian (vs : List UInt16) (bytes : List UInt8) :
    wordsOf (vs.flatMap bigEndian ++ bytes) vs.length = vs := by
  induction vs with
  | nil => rfl
  | cons v vs ih =>
    show wordsOf (hi v :: lo v :: (vs.flatMap bigEndian ++ bytes)) (vs.length + 1) = v :: vs
    rw [wordsOf_cons, ih, word_hi_lo]

theorem wordsOf_bits {count : Nat} {bytes : List UInt8} (h : 2 * count ≤ bytes.length) :
    (wordsOf bytes count).flatMap wordBits = (bytes.take (2 * count)).flatMap byteBits := by
  induction count generalizing bytes with
  | zero => rfl
  | succ count ih =>
    match bytes, h with
    | first :: second :: bytes, h =>
      have hr : 2 * count ≤ bytes.length := by
        simp only [length_cons] at h
        omega
      rw [wordsOf_cons, flatMap_cons, ih hr, wordBits, hi_word, lo_word, append_assoc]
      rfl
    | [_], h =>
      simp only [length_singleton] at h
      omega

theorem length_wordBits (w : UInt16) : (wordBits w).length = 16 := rfl

theorem length_flatMap_bigEndian (vs : List UInt16) :
    (vs.flatMap bigEndian).length = 2 * vs.length := by
  induction vs with
  | nil => rfl
  | cons v vs ih =>
    rw [flatMap_cons, length_append, ih, length_cons, mul_succ, add_comm]
    rfl

section Replies

variable {d : Device} {function : FunctionCode} {first quantity : Nat}

/-- The words that are read off the reply of the device. -/
def Device.words (d : Device) (function : FunctionCode) (first quantity : Nat) : List UInt16 :=
  (decodeReply (d.response function first quantity) d.address function).toOption.getD []

theorem decodeReply_registers {v : Nat → UInt16} (hr : function.readLimit = some 125)
    (hl : quantity ≤ 125)
    (hd : d.data first quantity function = ((range' first quantity).map v).flatMap bigEndian) :
    decodeReply (d.response function first quantity) d.address function =
      .ok ((range' first quantity).map v) := by
  have hval : ((range' first quantity).map v).length = quantity := by
    rw [length_map, length_range']
  have hlen : (d.data first quantity function).length = 2 * quantity := by
    rw [hd, length_flatMap_bigEndian, hval]
  have hc : (2 * quantity + 1) / 2 = quantity := by omega
  have hb : (d.data first quantity function).length < 256 := by omega
  obtain ⟨checksum, hrp⟩ := decodeReply_frame hr d.address hb fun _ => by omega
  have hw := wordsOf_bigEndian ((range' first quantity).map v) (littleEndian checksum)
  rw [hval] at hw
  rw [Device.response, hrp, hlen, hc, hd, hw]

theorem decodeReply_coils (d : Device) (first : Nat) (hl : quantity ≤ 2000) :
    decodeReply (d.response .readCoils first quantity) d.address .readCoils =
        .ok (d.words .readCoils first quantity) ∧
      ((d.words .readCoils first quantity).flatMap wordBits).take quantity =
        (range' first quantity).map d.coils ∧
      ((d.words .readCoils first quantity).flatMap wordBits).length =
        16 * (((quantity + 7) / 8 + 1) / 2) := by
  have hlen : (d.data first quantity .readCoils).length = (quantity + 7) / 8 := by
    rw [Device.data, length_pack]
  have hb : (d.data first quantity .readCoils).length < 256 := by omega
  have hr : FunctionCode.readCoils.readLimit = some 2000 := rfl
  obtain ⟨checksum, hrp⟩ := decodeReply_frame hr d.address hb nofun
  -- the bytes of the words are those of the data, and at most one of the checksum
  have hcrc : (littleEndian checksum).length = 2 := rfl
  have hbi : (wordsOf (d.data first quantity .readCoils ++ littleEndian checksum)
      (((quantity + 7) / 8 + 1) / 2)).flatMap wordBits =
      (range (8 * ((quantity + 7) / 8))).map (fun i => i < quantity && d.coils (first + i)) ++
        ((littleEndian checksum).take
          (2 * (((quantity + 7) / 8 + 1) / 2) - (quantity + 7) / 8)).flatMap byteBits := by
    rw [wordsOf_bits (by rw [length_append, hlen, hcrc]; omega), take_append, hlen,
      take_of_length_le (by omega), flatMap_append, Device.data, pack_bits]
  have hw : d.words .readCoils first quantity = wordsOf _ _ :=
    congrArg (fun e => e.toOption.getD []) hrp
  rw [hw]
  refine ⟨hrp, ?_, ?_⟩
  · rw [hlen, hbi, take_append_of_le_length (by rw [length_map, length_range]; omega),
      ← map_take, take_range, Nat.min_eq_left (by omega), range'_eq_map_range,
      map_map]
    refine map_congr_left fun i hi => ?_
    rw [decide_eq_true (mem_range.1 hi)]
    rfl
  · rw [length_flatMap, map_eq_replicate_iff.2 fun w _ => length_wordBits w,
      sum_replicate_nat, hlen, wordsOf, length_map, length_range, mul_comm]

theorem length_response {limit : Nat} (hr : function.readLimit = some limit)
    (hl : quantity ≤ limit) :
    (d.response function first quantity).length ≤ MODBUS_MAX_REPLY_SIZE := by
  have hreg : ∀ v : Nat → UInt16,
      ((range' first quantity).flatMap fun a => bigEndian (v a)).length = 2 * quantity := by
    intro v
    rw [← flatMap_map, length_flatMap_bigEndian, length_map, length_range']
  have hd : (d.data first quantity function).length ≤ 250 := by
    cases function with
    | readCoils =>
      cases hr
      rw [Device.data, length_pack]
      omega
    | readMultipleHoldingRegisters | readInputRegisters =>
      cases hr
      rw [Device.data, hreg]
      omega
    | _ => cases hr
  rw [Device.response, length_frame, length_append, MODBUS_MAX_REPLY_SIZE]
  exact Nat.add_le_add (Nat.add_le_add (le_refl 3) hd) (le_refl 2) |>.trans (by decide)

end Replies

/-! ## Chunks -/

/-- A result, whatever the line is then. -/
theorem exists_eq_mk {α : Type} {p : α × σ} {a : α} (h : p.1 = a) : ∃ s, p = (a, s) :=
  ⟨p.2, Prod.fst_eq_iff.1 h⟩

section Chunks

variable {m : TinyModbusRTU} {line : Line σ} {d : Device} {function : FunctionCode}
  {first quantity : Nat} {R : Nat → Nat → List UInt16} {chunk : Nat}

theorem txrxImpl_read {limit : Nat} (hopened : m.opened)
    (hline : line.Connects m.ignoreEcho d) (hr : function.readLimit = some limit)
    (hpos : 1 ≤ quantity) (hl : quantity ≤ limit) (hend : first + quantity ≤ 65536) (s : σ) :
    (m.txrxImpl line d.address function (.ofNat first) (.ofNat quantity) true [] s).1 =
      decodeReply (d.response function first quantity) d.address function := by
  have hwr := hline function limit first quantity s hr hpos hl hend
  obtain ⟨s', hw⟩ := exists_eq_mk hwr
  have hrx : (if m.ignoreEcho then
      (readReply ((if m.ignoreEcho then readRequest d.address function first quantity else []) ++
        d.response function first quantity)
        (readRequest d.address function first quantity).length).2
      else (if m.ignoreEcho then readRequest d.address function first quantity else []) ++
        d.response function first quantity) = d.response function first quantity := by
    cases m.ignoreEcho with
    | true => exact drop_left
    | false => rfl
  simp only [txrxImpl, hopened, makeRequest_read hr, hw, hrx]
  rw [if_neg nofun, if_pos trivial, readReply, take_of_length_le (length_response hr hl)]

/-- What is read in chunks of `chunk`: `R` gives the words of each. -/
inductive Chunked (R : Nat → Nat → List UInt16) (chunk : Nat) : Nat → Nat → List UInt16 → Prop
  | nil (first : Nat) : Chunked R chunk first 0 []
  | cons {first quantity : Nat} {ws : List UInt16} (hpos : 1 ≤ quantity)
    (h : Chunked R chunk (first + min quantity chunk) (quantity - min quantity chunk) ws) :
    Chunked R chunk first quantity (R first (min quantity chunk) ++ ws)

theorem ofNat_min {a b : Nat} (ha : a < 65536) (hb : b < 65536) :
    min (ofNat a) (ofNat b) = .ofNat (min a b) := by
  have hle : ofNat a ≤ ofNat b ↔ a ≤ b := ofNat_le_iff_le ha hb
  rcases le_total a b with h | h
  · rw [Nat.min_eq_left h]
    exact if_pos (hle.2 h)
  · rw [Nat.min_eq_right h]
    by_cases heq : a ≤ b
    · rw [le_antisymm heq h]
      exact ite_self _
    · exact if_neg (mt hle.1 heq)

theorem txrxLoop_read (hch : 1 ≤ chunk) (hs : chunk < 65536)
    (hne : ∀ first quantity, 1 ≤ quantity → quantity ≤ chunk → R first quantity ≠ [])
    (hro : ∀ first quantity s, 1 ≤ quantity → quantity ≤ chunk → first + quantity ≤ 65536 →
      (m.txrxImpl line d.address function (.ofNat first) (.ofNat quantity) true [] s).1 =
        .ok (R first quantity)) :
    ∀ (rounds first quantity written : Nat) (out : List UInt16) (s : σ), quantity ≤ rounds →
      quantity < 65536 → first + quantity ≤ 65536 →
      ∃ ws, Chunked R chunk first quantity ws ∧
        (m.txrxLoop line d.address function (.ofNat chunk) true [] rounds (.ofNat first)
          (.ofNat quantity) written out s).1 = .ok (out ++ ws) := by
  intro rounds
  induction rounds with
  | zero =>
    intro first quantity written out s hr _ _
    cases le_zero.1 hr
    exact ⟨[], .nil first, by rw [append_nil]; rfl⟩
  | succ rounds ih =>
    intro first quantity written out s hr hlt hend
    by_cases hz : quantity = 0
    · subst hz
      refine ⟨[], .nil first, ?_⟩
      have hno : ofNat 0 = 0 := rfl
      rw [append_nil, txrxLoop, if_pos hno]
    · have hpos : 1 ≤ quantity := Nat.one_le_iff_ne_zero.2 hz
      have hmin : 1 ≤ min quantity chunk := Nat.le_min.2 ⟨hpos, hch⟩
      have hq : min quantity chunk ≤ quantity := Nat.min_le_left _ _
      have hres := hro first (min quantity chunk) s hmin (Nat.min_le_right _ _) (by omega)
      obtain ⟨s', him⟩ := exists_eq_mk hres
      obtain ⟨w, ws', hc⟩ := exists_cons_of_ne_nil (hne first _ hmin (Nat.min_le_right _ _))
      have hqua : ofNat quantity ≠ 0 := by
        intro h
        have hmod : quantity % 65536 = 0 := congrArg toNat h
        omega
      obtain ⟨ws, hws, hl⟩ := ih (first + min quantity chunk) (quantity - min quantity chunk)
        0 (out ++ R first (min quantity chunk)) s' (by omega) (by omega) (by omega)
      refine ⟨R first (min quantity chunk) ++ ws, .cons hpos hws, ?_⟩
      rw [txrxLoop, if_neg hqua, ← append_assoc]
      simp only [ofNat_min hlt hs, length_nil, Nat.not_lt_zero, if_false, drop_nil, him, hc]
      rw [hc, ofNat_add, ofNat_sub hq] at hl
      exact hl

theorem Chunked.registers {v : Nat → UInt16} {ws : List UInt16}
    (h : Chunked R chunk first quantity ws)
    (hR : ∀ first quantity, R first quantity = (range' first quantity).map v) :
    ws = (range' first quantity).map v := by
  induction h with
  | nil first => rfl
  | @cons first quantity ws hpos h ih =>
    rw [ih, hR, ← map_append, range'_append_1, Nat.add_sub_cancel' (Nat.min_le_left quantity chunk)]

/-- Coils come out in a row if there is no padding before the last chunk. -/
theorem Chunked.coils {v : Nat → Bool} {ws : List UInt16} (h : Chunked R chunk first quantity ws)
    (hR : ∀ first quantity, quantity ≤ chunk →
      ((R first quantity).flatMap wordBits).take quantity = (range' first quantity).map v ∧
      ((R first quantity).flatMap wordBits).length = 16 * (((quantity + 7) / 8 + 1) / 2))
    (ha : quantity ≤ chunk ∨ 16 ∣ chunk) :
    (ws.flatMap wordBits).take quantity = (range' first quantity).map v := by
  induction h with
  | nil first => rfl
  | @cons first quantity ws hpos h ih =>
    obtain ⟨hb, hlen⟩ := hR first (min quantity chunk) (Nat.min_le_right _ _)
    rw [flatMap_append]
    by_cases hle : quantity ≤ chunk
    · -- the last chunk
      rw [Nat.min_eq_left hle, Nat.sub_self] at h
      cases h with
      | nil =>
        rw [Nat.min_eq_left hle] at hb
        rw [Nat.min_eq_left hle, flatMap_nil, append_nil, hb]
      | cons hpos => exact absurd hpos (not_succ_le_zero 0)
    · -- a chunk of whole words, and what follows it
      have hw : 16 ∣ chunk := ha.resolve_left hle
      have hmin : min quantity chunk = chunk := Nat.min_eq_right (Nat.le_of_not_le hle)
      rw [hmin] at hb hlen ih
      have hf : (R first chunk).flatMap wordBits = (range' first chunk).map v := by
        rw [← hb, take_of_length_le (by omega)]
      rw [hmin, hf, take_append, length_map, length_range', ih (.inr hw),
        take_of_length_le, ← map_append, range'_append_1,
        Nat.add_sub_cancel' (Nat.le_of_not_le hle)]
      rw [length_map, length_range']
      exact Nat.le_of_not_le hle

end Chunks

/-! ## Reads -/

section Values

variable {hub : Hub} {line : Line σ} {d : Device} {function : FunctionCode} {first n : Nat}

/-- How many registers or coils are read at once. -/
def Hub.registerChunk (hub : Hub) : Nat := (hub.maxPacketSize - MODBUS_MIN_REPLY_SIZE) / 2

theorem registerChunk_bounds (hmin : MODBUS_MIN_REPLY_SIZE + 2 ≤ hub.maxPacketSize)
    (hmax : hub.maxPacketSize ≤ 256) : 1 ≤ hub.registerChunk ∧ hub.registerChunk ≤ 125 := by
  unfold Hub.registerChunk
  unfold MODBUS_MIN_REPLY_SIZE at *
  omega

theorem ofInt_natCast (k : Nat) : UInt16.ofInt (k : Int) = .ofNat k := by
  have hmod : ((k : Int) % 2 ^ 16).toNat = k % 65536 := by omega
  rw [UInt16.ofInt, hmod, ← UInt16.toNat_inj]
  exact mod_mod k 65536

theorem ofInt_toNat (w : UInt16) : UInt16.ofInt (w.toNat : Int) = w := by
  rw [ofInt_natCast, UInt16.ofNat_toNat]

theorem ofInt_address (address : UInt8) : UInt8.ofInt (address.toNat : Int) = address := by
  have hlt : address.toNat < 256 := address.toNat_lt
  have hmod : ((address.toNat : Int) % 2 ^ 8).toNat = address.toNat := by omega
  rw [UInt8.ofInt, hmod, UInt8.ofNat_toNat]

theorem performModbusRequest_read {R : Nat → Nat → List UInt16} {limit : Nat}
    (hopened : hub.modbus.opened) (hline : line.Connects hub.modbus.ignoreEcho d)
    (hr : function.readLimit = some limit) (hli : 125 ≤ limit)
    (hmin : MODBUS_MIN_REPLY_SIZE + 2 ≤ hub.maxPacketSize) (hmax : hub.maxPacketSize ≤ 256)
    (hR : ∀ first quantity, quantity ≤ 125 →
      decodeReply (d.response function first quantity) d.address function = .ok (R first quantity))
    (hne : ∀ first quantity, 1 ≤ quantity → quantity ≤ 125 → R first quantity ≠ [])
    (hn : 1 ≤ n) (hend : first + n ≤ 65536) (hwidth : n < 65536) (s : σ) :
    ∃ ws, Chunked R hub.registerChunk first n ws ∧
      (hub.performModbusRequest line d.address function (.ofNat first) (.ofNat n) true [] s).1 =
        { statusCode := .success, value := some (vectorToInt ws) } := by
  have hs : (ofNat hub.maxPacketSize).toNat = hub.maxPacketSize :=
    mod_eq_of_lt (lt_of_le_of_lt hmax (by decide))
  have hco : (ofNat n).toNat = n := mod_eq_of_lt hwidth
  have hc := registerChunk_bounds hmin hmax
  obtain ⟨ws, hws, hl⟩ := txrxLoop_read hc.1 (by omega)
    (fun first quantity hpos hle => hne first quantity hpos (by omega))
    (fun first quantity s hpos hle hend =>
      (txrxImpl_read hopened hline hr hpos (by omega) hend s).trans (hR _ _ (by omega)))
    n first n 0 [] s (le_refl n) hwidth hend
  have htx : (hub.modbus.txrx line d.address function (.ofNat first) (.ofNat n)
      (.ofNat hub.maxPacketSize) true [] s).1 = .ok ws := by
    rw [txrx, hs, hco, if_neg (not_lt.2 hmin)]
    exact hl
  have hws' : ws ≠ [] := by
    cases hws with
    | nil => cases hn
    | cons hpos h =>
      have hpos' : 1 ≤ min n hub.registerChunk := Nat.le_min.2 ⟨hpos, hc.1⟩
      have hle : min n hub.registerChunk ≤ 125 := (Nat.min_le_right _ _).trans hc.2
      exact append_ne_nil_of_left_ne_nil (hne first _ hpos' hle) _
  obtain ⟨s', hp⟩ := exists_eq_mk htx
  refine ⟨_, hws, ?_⟩
  simp only [Hub.performModbusRequest, Hub.trials, hp]

theorem foldl_pushBit (numberOfCoils : Nat) (bits acc : List Bool) :
    bits.foldl (pushBit numberOfCoils) acc = acc ++ bits.take (numberOfCoils - acc.length) := by
  induction bits generalizing acc with
  | nil => rw [take_nil, append_nil]; rfl
  | cons bit bits ih =>
    rw [foldl_cons, ih, pushBit]
    split
    · rename_i hle
      rw [Nat.sub_eq_zero_of_le hle, take_zero, take_zero]
    · obtain ⟨k, hk⟩ : ∃ k, numberOfCoils - acc.length = k + 1 :=
        Nat.exists_eq_add_one.2 (by omega)
      have hk' : numberOfCoils - (acc ++ [bit]).length = k := by
        rw [length_append, length_singleton]
        omega
      rw [hk, hk', take_succ_cons, append_assoc]
      rfl

theorem convertReadCoilsResult_success (ws : List UInt16) (numberOfCoils : Nat) :
    convertReadCoilsResult { statusCode := .success, value := some (vectorToInt ws) }
      numberOfCoils =
    { statusCode := .success, value := some ((ws.flatMap wordBits).take numberOfCoils) } := by
  have hf := foldl_pushBit numberOfCoils (ws.flatMap wordBits) []
  rw [foldl_flatMap] at hf
  simp only [convertReadCoilsResult, vectorToInt, Option.map_some, foldl_map, ofInt_toNat]
  rw [hf]
  rfl

section Connected

variable (hopened : hub.modbus.opened = true) (hline : line.Connects hub.modbus.ignoreEcho d)
  (hmin : MODBUS_MIN_REPLY_SIZE + 2 ≤ hub.maxPacketSize) (hmax : hub.maxPacketSize ≤ 256)
  (hn : 1 ≤ n) (hend : first + n ≤ 65536) (hwidth : n < 65536)

include hopened hline hmin hmax hn hend hwidth

theorem read_registers {v : Nat → UInt16} (hr : function.readLimit = some 125)
    (hd : ∀ first quantity, d.data first quantity function =
      (range' first quantity).flatMap fun a => bigEndian (v a)) (s : σ) :
    (hub.performModbusRequest line (.ofInt d.address.toNat) function (.ofInt first) (.ofInt n) true
      [] s).1 =
      { statusCode := .success,
        value := some ((range' first n).map fun a => ((v a).toNat : Int)) } := by
  have hR : ∀ first quantity, quantity ≤ 125 →
      decodeReply (d.response function first quantity) d.address function =
        .ok ((range' first quantity).map v) := by
    intro first quantity hle
    refine decodeReply_registers hr hle ?_
    rw [hd, flatMap_map]
  have hne : ∀ first quantity, 1 ≤ quantity → quantity ≤ 125 →
      (range' first quantity).map v ≠ [] := by
    intro first quantity hpos _ hnil
    have hlen := congrArg length hnil
    rw [length_map, length_range'] at hlen
    exact absurd hlen (ne_of_gt hpos)
  obtain ⟨ws, hws, hres⟩ := performModbusRequest_read hopened hline hr (le_refl _) hmin
    hmax hR hne hn hend hwidth s
  have hval : vectorToInt ws = (range' first n).map fun a => ((v a).toNat : Int) := by
    rw [hws.registers fun _ _ => rfl, vectorToInt, map_map]
    rfl
  rw [ofInt_address, ofInt_natCast, ofInt_natCast, hres, hval]

/-- The words of a coil reply, chunk by chunk, and what becomes of them. -/
theorem read_coils_words (s : σ) : ∃ ws, Chunked (d.words .readCoils) hub.registerChunk first n ws ∧
    (hub.handleModbusReadCoils line d.address.toNat first n s).1 =
      { statusCode := .success, value := some ((ws.flatMap wordBits).take n) } := by
  have hne : ∀ first quantity, 1 ≤ quantity → quantity ≤ 125 →
      d.words .readCoils first quantity ≠ [] := by
    intro first quantity hpos hle hnil
    have hlen := congrArg length (decodeReply_coils d first (hle.trans (by decide))).2.1
    rw [hnil, flatMap_nil, take_nil, length_map, length_range'] at hlen
    exact absurd hlen (Nat.ne_of_lt hpos)
  have hr : FunctionCode.readCoils.readLimit = some 2000 := rfl
  obtain ⟨ws, hws, hres⟩ := performModbusRequest_read hopened hline hr (by decide) hmin hmax
    (fun first _ hle => (decodeReply_coils d first (hle.trans (by decide))).1) hne hn hend hwidth s
  have hh : (hub.handleModbusReadCoils line d.address.toNat first n s).1 =
      convertReadCoilsResult (hub.performModbusRequest line (.ofInt d.address.toNat) .readCoils
        (.ofInt first) (.ofInt n) true [] s).1 n := rfl
  refine ⟨ws, hws, ?_⟩
  rw [hh, ofInt_address, ofInt_natCast, ofInt_natCast, hres, convertReadCoilsResult_success]

theorem read_coils (ha : n ≤ hub.registerChunk ∨ 16 ∣ hub.registerChunk) (s : σ) :
    (hub.handleModbusReadCoils line d.address.toNat first n s).1 =
      { statusCode := .success, value := some ((range' first n).map d.coils) } := by
  obtain ⟨ws, hws, hres⟩ := read_coils_words hopened hline hmin hmax hn hend hwidth s
  have hc := (registerChunk_bounds hmin hmax).2
  rw [hres, hws.coils (fun first _ hle => (decodeReply_coils d first (by omega)).2) ha]

/-- Coils that are read with padding: the first of it is taken for the first coil of the second
chunk. -/
theorem read_coils_padded (hl : hub.registerChunk < n) (hp : ¬ 16 ∣ hub.registerChunk) (s : σ) :
    ∃ values bit, (hub.handleModbusReadCoils line d.address.toNat first n s).1 =
        { statusCode := .success, value := some values } ∧
      ((d.words .readCoils first hub.registerChunk).flatMap wordBits)[hub.registerChunk]? =
        some bit ∧
      values[hub.registerChunk]? = some bit := by
  obtain ⟨ws, hws, hres⟩ := read_coils_words hopened hline hmin hmax hn hend hwidth s
  have hc := (registerChunk_bounds hmin hmax).2
  have hlen := (decodeReply_coils d first (hc.trans (by decide : 125 ≤ 2000))).2.2
  have hlt : hub.registerChunk <
      ((d.words .readCoils first hub.registerChunk).flatMap wordBits).length := by omega
  refine ⟨_, _, hres, getElem?_eq_getElem hlt, ?_⟩
  cases hws with
  | nil => exact absurd hl (Nat.not_lt_zero _)
  | cons hpos h =>
    rw [getElem?_take_of_lt hl, Nat.min_eq_right (le_of_lt hl),
      flatMap_append, getElem?_append_left hlt, getElem?_eq_getElem hlt]

end Connected

end Values

/-! ## A device -/

namespace Device

/-- A device that answers reads and nothing else. -/
def answer (d : Device) (request : List UInt8) : List UInt8 :=
  let first := (word (request.getD 2 0) (request.getD 3 0)).toNat
  let quantity := (word (request.getD 4 0) (request.getD 5 0)).toNat
  match [.readCoils, .readMultipleHoldingRegisters, .readInputRegisters].find?
      fun function => function.toByte = request.getD 1 0 with
  | none => []
  | some function =>
    if request = readRequest d.address function first quantity then
      d.response function first quantity
    else []

def line (d : Device) (echoes : Bool) : Line Unit where
  write request s := (some ((if echoes then request else []) ++ d.answer request), s)

theorem line_connects (d : Device) (echoes : Bool) : (d.line echoes).Connects echoes d := by
  intro function limit first quantity s hr hpos hl hend
  have hf : [FunctionCode.readCoils, .readMultipleHoldingRegisters, .readInputRegisters].find?
      (fun f => f.toByte = function.toByte) = some function := by
    cases function <;> first | rfl | cases hr
  have hmax : limit ≤ 2000 := by
    cases function <;> cases hr <;> decide
  have hfr : (ofNat first).toNat = first := mod_eq_of_lt (by omega)
  have hq : (ofNat quantity).toNat = quantity := mod_eq_of_lt (by omega)
  have hans : d.answer (readRequest d.address function first quantity) =
      d.response function first quantity := by
    generalize hreq : readRequest d.address function first quantity = request
    have hc : request.getD 1 0 = function.toByte := hreq ▸ rfl
    have hword₁ : word (request.getD 2 0) (request.getD 3 0) = .ofNat first :=
      hreq ▸ word_hi_lo _
    have hword₂ : word (request.getD 4 0) (request.getD 5 0) = .ofNat quantity :=
      hreq ▸ word_hi_lo _
    simp only [answer, hc, hword₁, hword₂, hfr, hq, hf, hreq, if_true]
  rw [← hans]
  rfl

end Device

/-! ## The values -/

/-- All coils are on. -/
def allOn : Device where
  address := 1
  holdingRegisters := fun _ => 0
  inputRegisters := fun _ => 0
  coils := fun _ => true

/-- The coils are on up to `last`. -/
def onUpTo (last : Nat) (beyond : Bool) : Device :=
  { allOn with coils := fun a => decide (a < last) || beyond }

namespace Hub

/-- The registers of every device are read. -/
def ReadsRegisters (hub : Hub) (first n : Nat) : Prop :=
  ∀ (σ : Type) (line : Line σ) (d : Device) (s : σ), line.Connects hub.modbus.ignoreEcho d →
    (hub.handleModbusReadHoldingRegisters line d.address.toNat first n s).1 =
        { statusCode := .success,
          value := some ((range' first n).map fun a => (d.holdingRegisters a).toNat) } ∧
      (hub.handleModbusReadInputRegisters line d.address.toNat first n s).1 =
        { statusCode := .success,
          value := some ((range' first n).map fun a => (d.inputRegisters a).toNat) }

/-- The coils of every device are read. -/
def ReadsCoils (hub : Hub) (first n : Nat) : Prop :=
  ∀ (σ : Type) (line : Line σ) (d : Device) (s : σ), line.Connects hub.modbus.ignoreEcho d →
    (hub.handleModbusReadCoils line d.address.toNat first n s).1 =
      { statusCode := .success, value := some ((range' first n).map d.coils) }

end Hub

theorem trials_nothing {txrx : σ → Except Failure (List UInt16) × σ}
    (h : ∀ s, (txrx s).1 = .ok []) :
    ∀ (retryCounter : Nat) (s : σ), (Hub.trials txrx retryCounter false s).1 =
      { statusCode := .error }
  | 0, _ => rfl
  | retryCounter + 1, s => by
    obtain ⟨s', hs⟩ := exists_eq_mk (h s)
    rw [Hub.trials, hs]
    exact trials_nothing h retryCounter s'

/-- All addresses at once are none. -/
theorem performModbusRequest_all (hub : Hub) (line : Line σ) (address : UInt8)
    (function : FunctionCode) (first : UInt16) (s : σ) :
    (hub.performModbusRequest line address function first (.ofInt (65536 : Nat)) true [] s).1 =
      { statusCode := .error } := by
  refine trials_nothing (fun s => ?_) _ s
  rw [ofInt_natCast, txrx]
  split
  · rfl
  · rfl

theorem width_of_readsRegisters {hub : Hub} {first n : Nat} (hend : first + n ≤ 65536)
    (h : hub.ReadsRegisters first n) : n < 65536 := by
  by_contra hwidth
  obtain rfl : n = 65536 := by omega
  have hr := (h Unit _ allOn () (allOn.line_connects _)).1
  rw [Hub.handleModbusReadHoldingRegisters, performModbusRequest_all] at hr
  cases hr

theorem width_of_readsCoils {hub : Hub} {first n : Nat} (hend : first + n ≤ 65536)
    (h : hub.ReadsCoils first n) : n < 65536 := by
  by_contra hwidth
  obtain rfl : n = 65536 := by omega
  have hr := congrArg ResultBool.statusCode (h Unit _ allOn () (allOn.line_connects _))
  rw [Hub.handleModbusReadCoils] at hr
  dsimp only [convertReadCoilsResult] at hr
  rw [performModbusRequest_all] at hr
  cases hr

theorem words_onUpTo (first quantity : Nat) (beyond : Bool) :
    (onUpTo (first + quantity) beyond).words .readCoils first quantity =
      allOn.words .readCoils first quantity := by
  have hd : (onUpTo (first + quantity) beyond).data first quantity .readCoils =
      allOn.data first quantity .readCoils := by
    rw [Device.data, Device.data]
    refine congrArg _ (funext fun i => ?_)
    by_cases hi : i < quantity
    · have hon : (onUpTo (first + quantity) beyond).coils (first + i) := by
        simp [onUpTo, hi]
      rw [hon]
      rfl
    · rw [decide_eq_false hi, Bool.false_and, Bool.false_and]
  have hadd : (onUpTo (first + quantity) beyond).address = allOn.address := rfl
  rw [Device.words, Device.words, Device.response, Device.response, hd, hadd]

/-- What is read in several chunks is padded unless they are whole words: the coil after the first
chunk can differ from the padding. -/
theorem aligned_of_readsCoils {hub : Hub} {first n : Nat} (hopened : hub.modbus.opened)
    (hmin : MODBUS_MIN_REPLY_SIZE + 2 ≤ hub.maxPacketSize) (hmax : hub.maxPacketSize ≤ 256)
    (hn : 1 ≤ n) (hend : first + n ≤ 65536) (hwidth : n < 65536) (h : hub.ReadsCoils first n) :
    n ≤ hub.registerChunk ∨ 16 ∣ hub.registerChunk := by
  by_contra hm
  obtain ⟨hl, hp⟩ := not_or.1 hm
  have hl : hub.registerChunk < n := Nat.lt_of_not_le hl
  -- whatever the coil after the first chunk is, the padding comes out in its place
  have hpd : ∀ beyond, ((allOn.words .readCoils first hub.registerChunk).flatMap
      wordBits)[hub.registerChunk]? = some beyond := by
    intro beyond
    have hcon := (onUpTo (first + hub.registerChunk) beyond).line_connects hub.modbus.ignoreEcho
    obtain ⟨values, bit, hrd, hbit, hv⟩ := read_coils_padded hopened hcon hmin hmax hn
      hend hwidth hl hp ()
    have hri := h Unit _ _ () hcon
    rw [hrd] at hri
    cases hri
    rw [← words_onUpTo first hub.registerChunk beyond, hbit, ← hv, getElem?_map, getElem?_range' hl]
    simp [onUpTo]
  have hb := (hpd true).symm.trans (hpd false)
  cases hb

/-- **Reads return the values of the device**, in whatever chunks they are made: registers exactly
if their number is a 16-bit one, coils if in addition they fit into one chunk or the chunks are
whole words. -/
theorem reads_return_values (hub : Hub) (first n : Nat) (hopened : hub.modbus.opened = true)
    (hmin : MODBUS_MIN_REPLY_SIZE + 2 ≤ hub.maxPacketSize) (hmax : hub.maxPacketSize ≤ 256)
    (hn : 1 ≤ n) (hend : first + n ≤ 65536) :
    (hub.ReadsRegisters first n ↔ n < 65536) ∧
      (hub.ReadsCoils first n ↔ n < 65536 ∧ (n ≤ hub.registerChunk ∨ 16 ∣ hub.registerChunk)) := by
  refine ⟨⟨fun h => ?_, fun hwidth σ line d s hline => ⟨?_, ?_⟩⟩, ⟨fun h => ?_, ?_⟩⟩
  · exact width_of_readsRegisters hend h
  · exact read_registers hopened hline hmin hmax hn hend hwidth rfl (fun _ _ => rfl) s
  · exact read_registers hopened hline hmin hmax hn hend hwidth rfl (fun _ _ => rfl) s
  · have hwidth := width_of_readsCoils hend h
    exact ⟨hwidth, aligned_of_readsCoils hopened hmin hmax hn hend hwidth h⟩
  · rintro ⟨hwidth, ha⟩ σ line d s hline
    exact read_coils hopened hline hmin hmax hn hend hwidth ha s

/-- A hub that reads two bytes of coils at once. -/
def wholeWords : Hub where
  modbus := { opened := true, ignoreEcho := false }
  maxPacketSize := 37
  retries := 2

theorem reads_return_values_whole_words :
    wholeWords.ReadsRegisters 3 40 ∧ wholeWords.ReadsCoils 3 40 := by
  have h := reads_return_values wholeWords 3 40 rfl (by decide) (by decide) (by decide) (by decide)
  exact ⟨h.1.2 (by decide), h.2.2 ⟨by decide, .inr (by decide)⟩⟩

/-- A hub with the smallest packets. -/
def smallPackets : Hub where
  modbus := { opened := true, ignoreEcho := false }
  maxPacketSize := 7
  retries := 0

/-- The padding of the first chunk is taken for the second coil. A read of all registers asks for
none of them and fails. -/
theorem coils_misaligned :
    (allOn.line false).Connects smallPackets.modbus.ignoreEcho allOn ∧
      (smallPackets.handleModbusReadCoils (allOn.line false) 1 0 2 ()).1 =
        { statusCode := .success, value := some [true, false] } ∧
      (smallPackets.handleModbusReadHoldingRegisters (allOn.line false) 1 0 65536 ()).1 =
        { statusCode := .error } := by
  refine ⟨allOn.line_connects false, ?_, ?_⟩
  · decide +kernel
  · decide +kernel

end EverestCore.SerialCommHub
