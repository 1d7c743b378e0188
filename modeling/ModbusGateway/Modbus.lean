import ModbusGateway.Message.ModbusMessage

/-!
# The modbus library

The frames themselves are the business of the modbus library, which is not part
of the repository: `Modbus β` is what the transports call of it, over a type `β`
of buffers.  A buffer is changed in place in the source; here every operation
returns the changed buffer.

`Modbus.Lawful` collects what the gateway relies on: re-framing a buffer keeps its
unit id and its PDU, and a transaction id that has been set is read back.
`Modbus.Reframes` adds what it relies on where frames of other types are written.
-/

namespace ModbusGateway

/-- `modbus::FrameType`. -/
inductive FrameType
  | TCP
  | RTU
  | ASCII
  deriving DecidableEq, Repr

/-- `modbus::CheckFrameResult`: whether a check has found a fault. -/
inductive CheckFrameResult
  | NoError
  | Error (code : ℕ)
  deriving DecidableEq, Repr

/-- What the transports use of the modbus library. -/
structure Modbus (β : Type) where
  /-- `ModbusBuffer(frameType)`: a buffer of the largest ADU size. -/
  modbusBuffer : FrameType → β
  /-- The buffer after the system has put bytes at its `begin()`. -/
  fill : β → List UInt8 → β
  /-- `SetAduSize(size)`, `none` when it returns false. -/
  setAduSize : β → ℕ → Option β
  /-- The bytes from `begin()` on, `GetAduSize()` of them. -/
  adu : β → List UInt8
  /-- `GetType()`. -/
  getType : β → FrameType
  /-- `GetUnitId()`. -/
  getUnitId : β → UnitId
  /-- The PDU of the frame, which no transport reads. -/
  pdu : β → List UInt8
  /-- `ConvertTo(frameType)`. -/
  convertTo : FrameType → β → β
  /-- `ModbusBufferTcpWrapper::Update()`. -/
  tcpUpdate : β → β
  /-- `ModbusBufferTcpWrapper::Check()`. -/
  tcpCheck : β → CheckFrameResult
  /-- `ModbusBufferTcpWrapper::SetTransactionId(id)`. -/
  setTransactionId : β → TransactionId → β
  /-- `ModbusBufferTcpWrapper::GetTransactionId()`. -/
  getTransactionId : β → TransactionId
  /-- `MakeModbusBufferWrapper(buffer)->Update()`. -/
  update : β → β
  /-- `MakeModbusBufferWrapper(buffer)->Check()`. -/
  check : β → CheckFrameResult

namespace Modbus

variable {β : Type} (mb : Modbus β)

/-- What a read of `data` leaves in a fresh buffer of the given frame type, cut to
the size read; `none` when `SetAduSize` refuses that size. -/
def read (frameType : FrameType) (data : List UInt8) : Option β :=
  mb.setAduSize (mb.fill (mb.modbusBuffer frameType) data) data.length

/-- A frame of the given type that has been read and that the given check finds well formed. -/
def accept (check : β → CheckFrameResult) (frameType : FrameType) (data : List UInt8) : Option β :=
  (mb.read frameType data).filter fun buffer => decide (check buffer = .NoError)

/-- The bytes that have been read into a buffer are its ADU. -/
def ReadsBack : Prop :=
  ∀ frameType data buffer, mb.read frameType data = some buffer → mb.adu buffer = data

/-- Framing a message for a TCP peer, as the TCP client does with requests and the
TCP connection with responses. -/
def toTcp (buffer : β) (id : TransactionId) : β :=
  mb.setTransactionId (mb.tcpUpdate (mb.convertTo .TCP buffer)) id

/-- The documented behaviour of the modbus library that the gateway relies on. -/
structure Lawful : Prop where
  getType_convertTo : ∀ t b, mb.getType (mb.convertTo t b) = t
  getUnitId_convertTo : ∀ t b, mb.getUnitId (mb.convertTo t b) = mb.getUnitId b
  pdu_convertTo : ∀ t b, mb.pdu (mb.convertTo t b) = mb.pdu b
  getType_tcpUpdate : ∀ b, mb.getType (mb.tcpUpdate b) = mb.getType b
  getUnitId_tcpUpdate : ∀ b, mb.getType b = .TCP → mb.getUnitId (mb.tcpUpdate b) = mb.getUnitId b
  pdu_tcpUpdate : ∀ b, mb.getType b = .TCP → mb.pdu (mb.tcpUpdate b) = mb.pdu b
  getUnitId_setTransactionId : ∀ b id, mb.getType b = .TCP →
    mb.getUnitId (mb.setTransactionId b id) = mb.getUnitId b
  pdu_setTransactionId : ∀ b id, mb.getType b = .TCP →
    mb.pdu (mb.setTransactionId b id) = mb.pdu b
  getTransactionId_setTransactionId : ∀ b id, mb.getType b = .TCP →
    mb.getTransactionId (mb.setTransactionId b id) = id

/-- The same of the operations on frames of any type. -/
structure Reframes : Prop extends mb.Lawful where
  getType_setTransactionId : ∀ b id, mb.getType (mb.setTransactionId b id) = mb.getType b
  getType_update : ∀ b, mb.getType (mb.update b) = mb.getType b
  getUnitId_update : ∀ b, mb.getUnitId (mb.update b) = mb.getUnitId b
  pdu_update : ∀ b, mb.pdu (mb.update b) = mb.pdu b

variable {mb}

/-- A frame that is accepted has been read. -/
theorem read_of_accept {check : β → CheckFrameResult} {frameType : FrameType} {data : List UInt8}
    {buffer : β} (h : mb.accept check frameType data = some buffer) :
    mb.read frameType data = some buffer ∧ check buffer = .NoError := by
  obtain ⟨hread, hcheck⟩ := Option.filter_eq_some_iff.mp h
  exact ⟨hread, of_decide_eq_true hcheck⟩

/-- The frames that are accepted are the blocks that are well formed, byte by byte. -/
theorem ReadsBack.map_adu (h : mb.ReadsBack) (check : β → CheckFrameResult)
    (frameType : FrameType) (blocks : List (List UInt8)) :
    (blocks.filterMap (mb.accept check frameType)).map mb.adu =
      blocks.filter fun data => (mb.accept check frameType data).isSome := by
  induction blocks with
  | nil => rfl
  | cons data blocks ih =>
    cases haccept : mb.accept check frameType data with
    | none => rw [List.filterMap_cons_none haccept, ih, List.filter_cons_of_neg (by simp [haccept])]
    | some buffer =>
      rw [List.filterMap_cons_some haccept, List.filter_cons_of_pos (by simp [haccept]),
        List.map_cons, ih, h frameType data buffer (read_of_accept haccept).1]

theorem Lawful.getType_update (h : mb.Lawful) (buffer : β) :
    mb.getType (mb.tcpUpdate (mb.convertTo .TCP buffer)) = .TCP := by
  rw [h.getType_tcpUpdate, h.getType_convertTo]

/-- Framing for a TCP peer keeps the unit id. -/
theorem Lawful.getUnitId_toTcp (h : mb.Lawful) (buffer : β) (id : TransactionId) :
    mb.getUnitId (mb.toTcp buffer id) = mb.getUnitId buffer := by
  rw [toTcp, h.getUnitId_setTransactionId _ _ (h.getType_update buffer),
    h.getUnitId_tcpUpdate _ (h.getType_convertTo _ _), h.getUnitId_convertTo]

/-- Framing for a TCP peer keeps the PDU. -/
theorem Lawful.pdu_toTcp (h : mb.Lawful) (buffer : β) (id : TransactionId) :
    mb.pdu (mb.toTcp buffer id) = mb.pdu buffer := by
  rw [toTcp, h.pdu_setTransactionId _ _ (h.getType_update buffer),
    h.pdu_tcpUpdate _ (h.getType_convertTo _ _), h.pdu_convertTo]

/-- Framing for a TCP peer writes the transaction id. -/
theorem Lawful.getTransactionId_toTcp (h : mb.Lawful) (buffer : β) (id : TransactionId) :
    mb.getTransactionId (mb.toTcp buffer id) = id :=
  h.getTransactionId_setTransactionId _ _ (h.getType_update buffer)

/-- The frame is of the given type, with the unit id and the PDU of the given buffer. -/
structure Carries (mb : Modbus β) (frameType : FrameType) (buffer frame : β) : Prop where
  getType : mb.getType frame = frameType
  getUnitId : mb.getUnitId frame = mb.getUnitId buffer
  pdu : mb.pdu frame = mb.pdu buffer

/-- Framing for a TCP peer carries a buffer over. -/
theorem Reframes.toTcp (h : mb.Reframes) (buffer : β) (id : TransactionId) :
    mb.Carries .TCP buffer (mb.toTcp buffer id) where
  getType := by
    rw [Modbus.toTcp, h.getType_setTransactionId]
    exact h.toLawful.getType_update buffer
  getUnitId := h.toLawful.getUnitId_toTcp buffer id
  pdu := h.toLawful.pdu_toTcp buffer id

/-- So does framing for a serial line. -/
theorem Reframes.update_convertTo (h : mb.Reframes) (frameType : FrameType) (buffer : β) :
    mb.Carries frameType buffer (mb.update (mb.convertTo frameType buffer)) where
  getType := by rw [h.getType_update, h.getType_convertTo]
  getUnitId := by rw [h.getUnitId_update, h.getUnitId_convertTo]
  pdu := by rw [h.pdu_update, h.pdu_convertTo]

end Modbus

end ModbusGateway
