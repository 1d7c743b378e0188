import Mathlib.Data.UInt
import ModbusGateway.Modbus

/-!
# Modbus frames, byte by byte

A `Modbus` library over plain bytes, so that the runs of the gateway can be
evaluated.  A TCP frame is a transaction id, a protocol id of zero, the length of
what follows, the unit id and the PDU; an RTU frame is the unit id, the PDU and a
CRC; an ASCII frame is the same with an LRC, in hexadecimal digits between a colon
and a line end.

* `Frame.library` — the library.
* `Frame.library_lawful`, `Frame.library_reframes` — it is what the gateway relies on.
* `Frame.readRequest`, `Frame.readReply` — frames for concrete runs.
-/

namespace ModbusGateway

/-- A buffer: its frame type and the bytes of its ADU. -/
structure Frame where
  frameType : FrameType
  bytes : List UInt8
  deriving DecidableEq, Repr

namespace Frame

/-- The sizes an ADU of a frame type can have. -/
def aduSizes : FrameType → ℕ × ℕ
  | .TCP => (8, 260)
  | .RTU => (4, 256)
  | .ASCII => (9, 513)

/-! ### Checksums and digits -/

/-- One byte of the CRC of an RTU frame. -/
def crcByte (crc : UInt16) (byte : UInt8) : UInt16 :=
  (List.range 8).foldl (fun c _ => if c &&& 1 = 1 then (c >>> 1) ^^^ 0xA001 else c >>> 1)
    (crc ^^^ byte.toUInt16)

/-- The CRC of an RTU frame, low byte first. -/
def crc (bytes : List UInt8) : List UInt8 :=
  let c := bytes.foldl crcByte 0xFFFF
  [c.toUInt8, (c >>> 8).toUInt8]

/-- The LRC of an ASCII frame. -/
def lrc (bytes : List UInt8) : UInt8 := 0 - bytes.sum

/-- A hexadecimal digit. -/
def digit (n : UInt8) : UInt8 := if n < 10 then 48 + n else 55 + n

/-- The value of a hexadecimal digit. -/
def digitValue (c : UInt8) : UInt8 := if c < 65 then c - 48 else c - 55

/-- The value of two digits, as `digit` writes them. -/
def byteValue (hi lo : UInt8) : UInt8 := digitValue hi * 16 + digitValue lo

/-- Bytes as pairs of digits. -/
def encode (bytes : List UInt8) : List UInt8 :=
  bytes.flatMap fun b => [digit (b / 16), digit (b % 16)]

/-- Pairs of digits as bytes. -/
def decode : List UInt8 → List UInt8
  | hi :: lo :: rest => byteValue hi lo :: decode rest
  | _ => []

theorem byteValue_digit (b : UInt8) : byteValue (digit (b / 16)) (digit (b % 16)) = b := by
  have h : ∀ n : Fin 256, byteValue (digit (UInt8.ofNat n / 16)) (digit (UInt8.ofNat n % 16)) =
      UInt8.ofNat n := by decide +kernel
  have hb := h ⟨b.toNat, b.toNat_lt⟩
  rwa [UInt8.ofNat_toNat] at hb

theorem decode_encode (bytes : List UInt8) : decode (encode bytes) = bytes := by
  induction bytes with
  | nil => rfl
  | cons b bytes ih =>
    rw [encode, List.flatMap_cons, List.cons_append, List.cons_append, List.nil_append, decode,
      byteValue_digit, ← encode, ih]

/-! ### The parts of a frame -/

/-- The unit id and the PDU behind it, with what checks them. -/
def body (f : Frame) : List UInt8 :=
  match f.frameType with
  | .TCP => f.bytes.drop 6
  | .RTU => f.bytes.dropLast.dropLast
  | .ASCII => (decode (f.bytes.drop 1).dropLast.dropLast).dropLast

/-- `GetUnitId()`. -/
def unitId (f : Frame) : UnitId := f.body.headD 0

/-- The PDU. -/
def pdu (f : Frame) : List UInt8 := f.body.tail

/-- A frame of the given type around a body, its length field and checksums unset. -/
def frame (body : List UInt8) : FrameType → Frame
  | .TCP => ⟨.TCP, [0, 0, 0, 0, 0, 0] ++ body⟩
  | .RTU => ⟨.RTU, body ++ [0, 0]⟩
  | .ASCII => ⟨.ASCII, 58 :: encode (body ++ [0]) ++ [13, 10]⟩

/-- `ConvertTo(frameType)`. -/
def convertTo (t : FrameType) (f : Frame) : Frame :=
  if f.frameType = t then f else frame f.body t

/-- The length field of a TCP frame. -/
def lengthField (bytes : List UInt8) : List UInt8 :=
  [(bytes.length / 256).toUInt8, bytes.length.toUInt8]

/-- `ModbusBufferTcpWrapper::Update()`. -/
def tcpUpdate (f : Frame) : Frame :=
  { f with bytes := f.bytes.take 2 ++ [0, 0] ++ lengthField (f.bytes.drop 6) ++ f.bytes.drop 6 }

/-- `ModbusBufferTcpWrapper::Check()`. -/
def tcpCheck (f : Frame) : CheckFrameResult :=
  if (f.bytes.drop 2).take 4 = [0, 0] ++ lengthField (f.bytes.drop 6) then .NoError else .Error 1

/-- `ModbusBufferTcpWrapper::SetTransactionId(id)`. -/
def setTransactionId (f : Frame) (id : TransactionId) : Frame :=
  { f with bytes := (id / 256).toUInt8 :: id.toUInt8 :: f.bytes.drop 2 }

/-- `ModbusBufferTcpWrapper::GetTransactionId()`. -/
def transactionId (f : Frame) : TransactionId :=
  match f.bytes with
  | hi :: lo :: _ => hi.toUInt16 * 256 + lo.toUInt16
  | _ => 0

/-- `MakeModbusBufferWrapper(buffer)->Update()`. -/
def update (f : Frame) : Frame :=
  match f.frameType with
  | .TCP => f.tcpUpdate
  | .RTU => { f with bytes := f.body ++ crc f.body }
  | .ASCII => { f with bytes := 58 :: encode (f.body ++ [lrc f.body]) ++ [13, 10] }

/-- `MakeModbusBufferWrapper(buffer)->Check()`. -/
def check (f : Frame) : CheckFrameResult :=
  match f.frameType with
  | .TCP => f.tcpCheck
  | .RTU => if f.update = f then .NoError else .Error 2
  | .ASCII => if f.update = f then .NoError else .Error 3

/-- The library. -/
def library : Modbus Frame where
  modbusBuffer t := ⟨t, List.replicate (aduSizes t).2 0⟩
  fill f data := { f with bytes := data ++ f.bytes.drop data.length }
  setAduSize f size :=
    if (aduSizes f.frameType).1 ≤ size ∧ size ≤ (aduSizes f.frameType).2 then
      some { f with bytes := f.bytes.take size }
    else none
  adu := bytes
  getType := frameType
  getUnitId := unitId
  pdu := pdu
  convertTo := convertTo
  tcpUpdate := tcpUpdate
  tcpCheck := tcpCheck
  setTransactionId := setTransactionId
  getTransactionId := transactionId
  update := update
  check := check

/-! ### The library is lawful -/

theorem body_frame (body : List UInt8) (t : FrameType) : (frame body t).body = body := by
  cases t with
  | TCP => rfl
  | RTU => simp [frame, Frame.body, List.dropLast_append_of_ne_nil]
  | ASCII =>
    simp only [frame, Frame.body, List.cons_append, List.drop_succ_cons, List.drop_zero]
    rw [show encode (body ++ [0]) ++ [13, 10] = encode (body ++ [0]) ++ [13] ++ [10] by simp,
      List.dropLast_concat, List.dropLast_concat, decode_encode, List.dropLast_concat]

theorem body_convertTo (t : FrameType) (f : Frame) : (convertTo t f).body = f.body := by
  unfold convertTo
  split
  · rfl
  · exact body_frame _ _

theorem body_tcpUpdate {f : Frame} (h : f.frameType = .TCP) : f.tcpUpdate.body = f.body := by
  simp only [body, tcpUpdate, h]
  by_cases hlen : 2 ≤ f.bytes.length
  · -- the header is six bytes long again
    have htake : (f.bytes.take 2).length = 2 := List.length_take_of_le hlen
    rw [List.drop_left']
    simp [htake, lengthField]
  · have hnil : f.bytes.drop 6 = [] := List.drop_eq_nil_of_le (by omega)
    rw [hnil, List.append_nil, List.drop_eq_nil_of_le]
    simp only [lengthField, List.length_append, List.length_take, List.length_cons, List.length_nil]
    omega

theorem body_setTransactionId {f : Frame} (h : f.frameType = .TCP) (id : TransactionId) :
    (f.setTransactionId id).body = f.body := by
  simp [body, setTransactionId, h]

theorem transactionId_setTransactionId (f : Frame) (id : TransactionId) :
    (f.setTransactionId id).transactionId = id := by
  rw [← UInt16.toNat_inj]
  simp only [transactionId, setTransactionId, UInt16.toNat_add, UInt16.toNat_mul,
    UInt8.toNat_toUInt16, UInt16.toNat_toUInt8, UInt16.toNat_div, UInt16.reduceToNat]
  have := id.toNat_lt
  omega

/-- **The library keeps what the gateway relies on.** -/
theorem library_lawful : library.Lawful where
  getType_convertTo t f := by
    change (convertTo t f).frameType = t
    unfold convertTo
    split
    · assumption
    · cases t <;> rfl
  getUnitId_convertTo t f := congrArg (List.headD · 0) (body_convertTo t f)
  pdu_convertTo t f := congrArg List.tail (body_convertTo t f)
  getType_tcpUpdate _ := rfl
  getUnitId_tcpUpdate _ h := congrArg (List.headD · 0) (body_tcpUpdate h)
  pdu_tcpUpdate _ h := congrArg List.tail (body_tcpUpdate h)
  getUnitId_setTransactionId _ id h := congrArg (List.headD · 0) (body_setTransactionId h id)
  pdu_setTransactionId _ id h := congrArg List.tail (body_setTransactionId h id)
  getTransactionId_setTransactionId f id _ := transactionId_setTransactionId f id

theorem body_ascii (body : List UInt8) (check : UInt8) :
    (⟨.ASCII, 58 :: encode (body ++ [check]) ++ [13, 10]⟩ : Frame).body = body := by
  simp only [Frame.body, List.cons_append, List.drop_succ_cons, List.drop_zero]
  rw [show encode (body ++ [check]) ++ [13, 10] = encode (body ++ [check]) ++ [13] ++ [10] by simp,
    List.dropLast_concat, List.dropLast_concat, decode_encode, List.dropLast_concat]

theorem body_update (f : Frame) : f.update.body = f.body := by
  unfold update
  cases hf : f.frameType with
  | TCP => exact body_tcpUpdate hf
  | RTU => simp [Frame.body, hf, crc, List.dropLast_append_of_ne_nil]
  | ASCII => exact body_ascii f.body (lrc f.body)

theorem frameType_update (f : Frame) : f.update.frameType = f.frameType := by
  unfold update
  split <;> rfl

/-- **The library re-frames buffers of every type.** -/
theorem library_reframes : library.Reframes where
  toLawful := library_lawful
  getType_setTransactionId _ _ := rfl
  getType_update := frameType_update
  getUnitId_update f := congrArg (List.headD · 0) (body_update f)
  pdu_update f := congrArg List.tail (body_update f)

/-- The library reads a frame as it is. -/
theorem library_readsBack : library.ReadsBack := by
  intro t data f h
  obtain ⟨-, h⟩ := Option.ite_none_right_eq_some.mp h
  obtain rfl := Option.some.inj h
  exact List.take_left

/-! ### Frames of the runs evaluated below -/

/-- A well-formed TCP frame. -/
def tcp (id : TransactionId) (unitId : UnitId) (pdu : List UInt8) : Frame :=
  library.toTcp (frame (unitId :: pdu) .TCP) id

/-- A well-formed RTU frame. -/
def rtu (unitId : UnitId) (pdu : List UInt8) : Frame := update (frame (unitId :: pdu) .RTU)

/-- A request to read one register of a unit, as an actor sends it at clock reading zero. -/
def readRequest (sourceId : ActorId) (id : TransactionId) (unitId : UnitId) : ModbusMessage Frame :=
  ⟨.new 0 sourceId id, tcp id unitId [3, 0, 0, 0, 1]⟩

/-- The bytes of a reply to it. -/
def readReply (id : TransactionId) (unitId : UnitId) (value : UInt8) : List UInt8 :=
  (tcp id unitId [3, 2, 0, value]).bytes

example : (⟨.RTU, [0x1, 0x6, 0xDF, 0x62, 0x38]⟩ : Frame).check = .NoError := by decide +kernel

end Frame

end ModbusGateway
