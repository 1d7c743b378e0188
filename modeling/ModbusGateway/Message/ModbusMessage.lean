import Mathlib.Logic.Basic
import Mathlib.Data.Nat.Notation

/-!
# Messages between the actors

The messages of `src/message` and the identifiers they carry.  A clock reading is
a number of nanoseconds of the steady clock, a 64-bit signed integer; the reading
a function makes is an argument of its definition.

* `ModbusMessageInfo` — who sent a request, under which transaction id, and when.
* `ModbusMessage π` — a message info with a buffer.  `π` is the type of the buffer
  pointer: a buffer type where the pointer is never null, `Option` of one where
  the receiver has to check.
* `ModbusMessage.response_cases` — how a slave checks the messages it is sent.
* `ClientDisconnectMessage` — the notice a TCP connection sends to its server.
-/

namespace ModbusGateway

/-- `exchange::ActorId`. -/
abbrev ActorId := ℕ

/-- `modbus::TransactionId`. -/
abbrev TransactionId := UInt16

/-- `modbus::UnitId`. -/
abbrev UnitId := UInt8

/-- `std::chrono::nanoseconds`. -/
abbrev Nanoseconds := Int64

/-- `std::chrono::milliseconds`. -/
abbrev Milliseconds := Int64

/-- The implicit conversion of `std::chrono::milliseconds` to nanoseconds. -/
def toNanoseconds (timeout : Milliseconds) : Nanoseconds := timeout * 1000000

/-- `ModbusMessageInfo`. -/
structure ModbusMessageInfo where
  createTimeStamp : Nanoseconds
  timeoutReached : Bool
  sourceId : ActorId
  transactionId : TransactionId
  deriving DecidableEq, Repr

namespace ModbusMessageInfo

/-- The constructor, at clock reading `now`. -/
def new (now : Nanoseconds) (sourceId : ActorId) (transactionId : TransactionId) :
    ModbusMessageInfo :=
  ⟨now, false, sourceId, transactionId⟩

/-- `TimeoutReached(timeout)`, at clock reading `now`.  The source also records a
positive answer in `timeoutReached_`; its callers throw the message away then. -/
def TimeoutReached (info : ModbusMessageInfo) (timeout now : Nanoseconds) : Bool :=
  info.timeoutReached || decide (now ≥ info.createTimeStamp + timeout)

end ModbusMessageInfo

/-- `ModbusMessage`. -/
structure ModbusMessage (π : Type) where
  modbusMessageInfo : ModbusMessageInfo
  modbusBuffer : π
  deriving DecidableEq, Repr

/-- The checks that a slave makes of a message: it is refused, unless it comes under the slave's
own id and the transaction id of the request in the slot; and then it may have no buffer. -/
theorem ModbusMessage.response_cases {β γ : Type} (id : ActorId) (slot : Option ModbusMessageInfo)
    (message : ModbusMessage (Option β)) (refused dropped : γ) (answered : β → γ) :
    let response :=
      if id ≠ message.modbusMessageInfo.sourceId then refused
      else
        match slot with
        | none => refused
        | some lastInfo =>
          if lastInfo.transactionId ≠ message.modbusMessageInfo.transactionId then refused
          else
            match message.modbusBuffer with
            | none => dropped
            | some modbusBuffer => answered modbusBuffer
    (response = refused ∧ ∀ lastInfo, slot = some lastInfo →
      ¬ (message.modbusMessageInfo.sourceId = id ∧
        message.modbusMessageInfo.transactionId = lastInfo.transactionId)) ∨
    ∃ lastInfo, message.modbusMessageInfo.sourceId = id ∧ slot = some lastInfo ∧
      message.modbusMessageInfo.transactionId = lastInfo.transactionId ∧
      ((message.modbusBuffer = none ∧ response = dropped) ∨
        ∃ modbusBuffer, message.modbusBuffer = some modbusBuffer ∧
          response = answered modbusBuffer) := by
  intro response
  by_cases hid : id ≠ message.modbusMessageInfo.sourceId
  · refine Or.inl ⟨if_pos hid, ?_⟩
    rintro _ - ⟨hid', -⟩
    exact hid hid'.symm
  have hown : response = _ := if_neg hid
  rw [hown]
  cases slot with
  | none => exact Or.inl ⟨rfl, fun lastInfo h => by cases h⟩
  | some lastInfo =>
    by_cases htid : lastInfo.transactionId ≠ message.modbusMessageInfo.transactionId
    · refine Or.inl ⟨if_pos htid, ?_⟩
      rintro _ ⟨⟩ ⟨-, htid'⟩
      exact htid htid'.symm
    · refine Or.inr ⟨lastInfo, (not_not.mp hid).symm, rfl, (not_not.mp htid).symm, ?_⟩
      simp only [if_neg htid]
      cases message.modbusBuffer with
      | none => exact Or.inl ⟨rfl, rfl⟩
      | some modbusBuffer => exact Or.inr ⟨modbusBuffer, rfl, rfl⟩

/-- `ClientDisconnectMessage`. -/
structure ClientDisconnectMessage where
  clientId : ActorId
  deriving DecidableEq, Repr

end ModbusGateway
