import ModbusGateway.Asio
import ModbusGateway.Library.Execution
import ModbusGateway.Transport.Master

/-!
# The RTU master

`ModbusRtuMaster` of `transport/modbus_rtu_master.cpp`, function by function, in the
way of `ModbusTcpClient`: its handlers are definitions of their own, each is one
step, and the events of a run come in any order.  The serial port is opened by the
constructor and there is no connection to be set up, so that `currentMessage_` is
all there is to say whether a request is in process.

## Main definitions

* `ModbusRtuMaster` — the members the functions use, and the history.
* `ModbusRtuMaster.Event`, `ModbusRtuMaster.step` — the events and their effect.
-/

namespace ModbusGateway

open Proactor Execution

/-- The operations of the serial port.  The number of the request is ours. -/
inductive RtuOp (β : Type)
  | write (request : ℕ) (modbusBuffer : β)
  | read (request : ℕ)
  deriving DecidableEq, Repr

/-- `ModbusRtuMaster`. -/
structure ModbusRtuMaster (β : Type) where
  /-- Whether `exchange_` can still be locked. -/
  exchange : Bool
  serialPort : Stream (RtuOp β)
  timeout : Milliseconds
  frameType : FrameType
  /-- The waits, each with the number of the request it was armed for. -/
  timer : Timer ℕ
  messageQueue : LimitQueue (ModbusMessage β)
  currentMessage : Option (ModbusCurrentMessage β)
  transactionIdGenerator : TransactionId
  /-- The history. -/
  effects : List (MasterEffect β)
  deriving DecidableEq, Repr

namespace ModbusRtuMaster

variable {β : Type}

/-- The constructor, which opens the serial port. -/
def new (timeout : Milliseconds) (frameType : FrameType) : ModbusRtuMaster β where
  exchange := true
  serialPort := .opened
  timeout := timeout
  frameType := frameType
  timer := ⟨[]⟩
  messageQueue := .new
  currentMessage := none
  transactionIdGenerator := 0
  effects := []

/-- The number of the request written last. -/
def request (m : ModbusRtuMaster β) : ℕ := started m.effects

/-- Add to the history. -/
def note (m : ModbusRtuMaster β) (es : List (MasterEffect β)) : ModbusRtuMaster β :=
  { m with effects := m.effects ++ es }

/-- The master with the outstanding operations of the serial port replaced. -/
def withOps (m : ModbusRtuMaster β) (ops : Pool (RtuOp β) Completion) : ModbusRtuMaster β :=
  { m with serialPort := { m.serialPort with ops } }

/-- `StartMessageTaskUnsafe()`, for the request at the front of the queue: it becomes
the current one, its buffer is framed in place and written. -/
def startMessageTaskUnsafe (mb : Modbus β) (m : ModbusRtuMaster β) (message : ModbusMessage β) :
    ModbusRtuMaster β :=
  let id := m.transactionIdGenerator + 1
  let modbusBuffer := mb.update (mb.convertTo m.frameType message.modbusBuffer)
  let m := { m with
    currentMessage := some ⟨{ message with modbusBuffer }, id⟩
    transactionIdGenerator := id
    messageQueue := m.messageQueue.pop }.note [.write message id modbusBuffer]
  { m with serialPort := m.serialPort.start (.write m.request modbusBuffer) }

/-- The loop of `QueueProcessUnsafe()` over the expired requests. -/
def popExpired (m : ModbusRtuMaster β) (now : Nanoseconds) : ModbusRtuMaster β :=
  { m with messageQueue := m.messageQueue.popWhile (expired m.timeout now) }.note
    ((m.messageQueue.queue.takeWhile (expired m.timeout now)).map .expire)

/-- `QueueProcessUnsafe()`. -/
def queueProcessUnsafe (mb : Modbus β) (m : ModbusRtuMaster β) (now : Nanoseconds) :
    ModbusRtuMaster β :=
  if m.messageQueue.empty then m
  else if m.currentMessage.isSome then m
  else
    let m := m.popExpired now
    match m.messageQueue.front? with
    | none => m
    | some message => m.startMessageTaskUnsafe mb message

/-- The first half of `MessageProcess(message)`. -/
def pushMessage (m : ModbusRtuMaster β) (message : ModbusMessage β) : ModbusRtuMaster β :=
  { m with messageQueue := m.messageQueue.push message }.note [.receive message]

/-- `MessageProcess(message)`, which is what `Receive` does with a `ModbusMessage`;
any other message is ignored. -/
def messageProcess (mb : Modbus β) (m : ModbusRtuMaster β) (message : ModbusMessage β)
    (now : Nanoseconds) : ModbusRtuMaster β :=
  (m.pushMessage message).queueProcessUnsafe mb now

/-- `StartWaitTask()`. -/
def startWaitTask (m : ModbusRtuMaster β) : ModbusRtuMaster β :=
  { m with timer := m.timer.expiresAfter.asyncWait m.request }

/-- `StartReadTask()`. -/
def startReadTask (m : ModbusRtuMaster β) : ModbusRtuMaster β :=
  { m with serialPort := m.serialPort.start (.read m.request) }

/-- The handler of `async_write_some`. -/
def writeHandler (m : ModbusRtuMaster β) (ec : ErrorCode) : ModbusRtuMaster β :=
  if ec.failed then { m with currentMessage := none } else m.startWaitTask.startReadTask

/-- The handler of `async_wait`, armed for the request of number `request`. -/
def waitHandler (m : ModbusRtuMaster β) (request : ℕ) (ec : ErrorCode) : ModbusRtuMaster β :=
  if ec.failed then m else { m with serialPort := m.serialPort.cancel }.note [.timeout request]

/-- `MakeResponse(modbusBuffer, size)`, where `modbusBuffer` is a fresh buffer into
which `data` has been read. -/
def makeResponse (mb : Modbus β) (m : ModbusRtuMaster β) (data : List UInt8) :
    Option (ModbusMessage β) × ModbusRtuMaster β :=
  match m.currentMessage with
  | none => (none, m)
  | some current =>
    match mb.read m.frameType data with
    | none => (none, m)
    | some modbusBuffer =>
      let m := { m with currentMessage := none }
      if mb.check modbusBuffer ≠ .NoError then (none, m)
      else (some ⟨current.modbusMessage.modbusMessageInfo, modbusBuffer⟩, m)

/-- What the read handler does with the result of `MakeResponse`. -/
def sendResponse (m : ModbusRtuMaster β) : Option (ModbusMessage β) → ModbusRtuMaster β
  | none => m
  | some message => m.note [.send message.modbusMessageInfo.sourceId message]

/-- The handler of `async_read_some`. -/
def readHandler (mb : Modbus β) (m : ModbusRtuMaster β) (ec : ErrorCode) (data : List UInt8)
    (now : Nanoseconds) : ModbusRtuMaster β :=
  if !m.exchange then m
  else
    let m := { m with timer := m.timer.cancel }
    if ec.failed then { m with currentMessage := none }
    else
      let (modbusMessage, m) := m.makeResponse mb data
      (m.sendResponse modbusMessage).queueProcessUnsafe mb now

/-- The events of a run. -/
inductive Event (β : Type)
  /-- The exchange calls `Receive` with a `ModbusMessage`. -/
  | receive (message : ModbusMessage β) (now : Nanoseconds)
  /-- The system completes an operation of the serial port. -/
  | complete (i : ℕ) (result : Completion)
  /-- The `io_context` runs the handler of an operation of the serial port. -/
  | handle (i : ℕ) (now : Nanoseconds)
  /-- A wait completes. -/
  | expire (i : ℕ) (ec : ErrorCode)
  /-- The `io_context` runs the handler of a wait. -/
  | handleWait (i : ℕ)
  deriving DecidableEq, Repr

/-- The handler of an operation of the serial port that has completed. -/
def handler (mb : Modbus β) (m : ModbusRtuMaster β) (op : RtuOp β) (result : Completion)
    (now : Nanoseconds) : ModbusRtuMaster β :=
  match op with
  | .write _ _ => m.writeHandler result.ec
  | .read _ => m.readHandler mb result.ec result.data now

/-- The master's step function. -/
def step (mb : Modbus β) (m : ModbusRtuMaster β) : Event β → Option (ModbusRtuMaster β)
  | .receive message now => some (m.messageProcess mb message now)
  | .complete i result => (m.serialPort.ops.complete i result).map m.withOps
  | .handle i now =>
    match m.serialPort.ops.take i with
    | none => none
    | some (op, result, ops) => some ((m.withOps ops).handler mb op result now)
  | .expire i ec => (m.timer.waits.complete i ec).map fun waits => { m with timer := ⟨waits⟩ }
  | .handleWait i =>
    match m.timer.waits.take i with
    | none => none
    | some (request, ec, waits) => some ({ m with timer := ⟨waits⟩ }.waitHandler request ec)

end ModbusRtuMaster

end ModbusGateway
