import ModbusGateway.Asio
import ModbusGateway.Library.Execution
import ModbusGateway.Transport.Master

/-!
# The TCP client

`ModbusTcpClient` of `transport/modbus_tcp_client.cpp`, function by function.  Its
completion handlers are definitions of their own; what a handler captures is part
of the operation it belongs to.  A handler runs with the mutex held, so that it is
one step.

The events of a run are calls of `Receive`, completions of socket operations and
waits by the system, and runs of their handlers by the `io_context`, in any order.
The clock is read once in an event: a later reading in the expiry loop could only
expire more of the requests that the same event with that reading expires.

A handler from which an exception escapes has no next state, since the exception
leaves `io_context::run()`.  Only the connect handler can throw: it asks the
socket for its remote endpoint, which fails when the peer is gone again.

## Main definitions

* `ModbusTcpClient` — the members the functions use, and the history.
* `ModbusTcpClient.Event`, `ModbusTcpClient.step` — the events and their effect.
-/

namespace ModbusGateway

open Proactor Execution

/-- `ModbusTcpClient::State`. -/
inductive ClientState
  | Idle
  | WaitConnect
  | Connected
  | MessageProcess
  deriving DecidableEq, Repr

/-- The operations of the client's socket.  The number of the request is ours. -/
inductive ClientOp (β : Type)
  | connect
  | send (request : ℕ) (modbusBuffer : β)
  | receive (request : ℕ)
  deriving DecidableEq, Repr

/-- `ModbusTcpClient`. -/
structure ModbusTcpClient (β : Type) where
  /-- Whether `exchange_` can still be locked. -/
  exchange : Bool
  socket : Stream (ClientOp β)
  timeout : Milliseconds
  /-- The waits, each with the number of the request it was armed for. -/
  timer : Timer ℕ
  messageQueue : LimitQueue (ModbusMessage β)
  currentMessage : Option (ModbusCurrentMessage β)
  transactionIdGenerator : TransactionId
  state : ClientState
  /-- The history. -/
  effects : List (MasterEffect β)
  deriving DecidableEq, Repr

namespace ModbusTcpClient

variable {β : Type}

/-- The constructor. -/
def new (timeout : Milliseconds) : ModbusTcpClient β where
  exchange := true
  socket := .closed
  timeout := timeout
  timer := ⟨[]⟩
  messageQueue := .new
  currentMessage := none
  transactionIdGenerator := 0
  state := .Idle
  effects := []

/-- The number of the request written last. -/
def request (c : ModbusTcpClient β) : ℕ := started c.effects

/-- Add to the history. -/
def note (c : ModbusTcpClient β) (es : List (MasterEffect β)) : ModbusTcpClient β :=
  { c with effects := c.effects ++ es }

/-- The client with the outstanding socket operations replaced. -/
def withOps (c : ModbusTcpClient β) (ops : Pool (ClientOp β) Completion) : ModbusTcpClient β :=
  { c with socket := { c.socket with ops } }

/-- `CloseSocket()`. -/
def closeSocket (c : ModbusTcpClient β) : ModbusTcpClient β :=
  if c.socket.isOpen then { c with socket := c.socket.close } else c

/-- `StartConnectTaskUnsafe()`. -/
def startConnectTaskUnsafe (c : ModbusTcpClient β) : ModbusTcpClient β :=
  { c with socket := c.socket.asyncConnect .connect }.note [.connect]

/-- The loop of `StartMessageTaskUnsafe()` over the expired requests. -/
def popExpired (c : ModbusTcpClient β) (now : Nanoseconds) : ModbusTcpClient β :=
  { c with messageQueue := c.messageQueue.popWhile (expired c.timeout now) }.note
    ((c.messageQueue.queue.takeWhile (expired c.timeout now)).map .expire)

/-- The rest of `StartMessageTaskUnsafe()`, for the request at the front of the
queue: it becomes the current one, its buffer is framed in place and sent. -/
def startMessage (mb : Modbus β) (c : ModbusTcpClient β) (message : ModbusMessage β) :
    ModbusTcpClient β :=
  let id := c.transactionIdGenerator + 1
  let modbusBuffer := mb.toTcp message.modbusBuffer id
  let c := { c with
    state := .MessageProcess
    currentMessage := some ⟨{ message with modbusBuffer }, id⟩
    transactionIdGenerator := id
    messageQueue := c.messageQueue.pop }.note [.write message id modbusBuffer]
  { c with socket := c.socket.start (.send c.request modbusBuffer) }

/-- `StartMessageTaskUnsafe()`. -/
def startMessageTaskUnsafe (mb : Modbus β) (c : ModbusTcpClient β) (now : Nanoseconds) :
    ModbusTcpClient β :=
  if c.currentMessage.isSome then c
  else
    let c := c.popExpired now
    match c.messageQueue.front? with
    | none => c
    | some message => c.startMessage mb message

/-- `QueueProcessUnsafe()`. -/
def queueProcessUnsafe (mb : Modbus β) (c : ModbusTcpClient β) (now : Nanoseconds) :
    ModbusTcpClient β :=
  if c.messageQueue.empty then c
  else
    match c.state with
    | .Idle => c.startConnectTaskUnsafe
    | .WaitConnect => c
    | .Connected => c.startMessageTaskUnsafe mb now
    | .MessageProcess => c

/-- The first half of `MessageProcess(message)`. -/
def pushMessage (c : ModbusTcpClient β) (message : ModbusMessage β) : ModbusTcpClient β :=
  { c with messageQueue := c.messageQueue.push message }.note [.receive message]

/-- `MessageProcess(message)`, which is what `Receive` does with a `ModbusMessage`;
any other message is ignored. -/
def messageProcess (mb : Modbus β) (c : ModbusTcpClient β) (message : ModbusMessage β)
    (now : Nanoseconds) : ModbusTcpClient β :=
  (c.pushMessage message).queueProcessUnsafe mb now

/-- The handler of `async_connect`; `peerGone` says that the remote endpoint cannot
be had any more, and `none` that an exception leaves the handler. -/
def connectHandler (mb : Modbus β) (c : ModbusTcpClient β) (ec : ErrorCode) (peerGone : Bool)
    (now : Nanoseconds) : Option (ModbusTcpClient β) :=
  if ec.failed then some { c with state := .Idle }
  else
    let c := { c with state := .Connected }
    if peerGone then none else some (c.queueProcessUnsafe mb now)

/-- `StartWaitTask()`. -/
def startWaitTask (c : ModbusTcpClient β) : ModbusTcpClient β :=
  { c with timer := c.timer.expiresAfter.asyncWait c.request }

/-- `StartReceiveTask()`. -/
def startReceiveTask (c : ModbusTcpClient β) : ModbusTcpClient β :=
  { c with socket := c.socket.start (.receive c.request) }

/-- What the send and the receive handler do with an error. -/
def dropCurrent (c : ModbusTcpClient β) (ec : ErrorCode) : ModbusTcpClient β :=
  let c := { c with currentMessage := none, state := .Connected }
  if ec ≠ .operationAborted then { c with state := .Idle }.closeSocket else c

/-- The handler of `async_send`. -/
def sendHandler (c : ModbusTcpClient β) (ec : ErrorCode) : ModbusTcpClient β :=
  if ec.failed then c.dropCurrent ec else c.startWaitTask.startReceiveTask

/-- The handler of `async_wait`, armed for the request of number `request`. -/
def waitHandler (c : ModbusTcpClient β) (request : ℕ) (ec : ErrorCode) : ModbusTcpClient β :=
  if ec.failed then c else { c with socket := c.socket.cancel }.note [.timeout request]

/-- `MakeResponse(modbusBuffer, size)`, where `modbusBuffer` is a fresh buffer into
which `data` has been received. -/
def makeResponse (mb : Modbus β) (c : ModbusTcpClient β) (data : List UInt8) :
    Option (ModbusMessage β) × ModbusTcpClient β :=
  match c.currentMessage with
  | none => (none, c)
  | some current =>
    match mb.read .TCP data with
    | none => (none, c)
    | some modbusBuffer =>
      let c := { c with currentMessage := none }
      if mb.tcpCheck modbusBuffer ≠ .NoError then (none, c)
      else if mb.getTransactionId modbusBuffer ≠ current.id then (none, c)
      else (some ⟨current.modbusMessage.modbusMessageInfo, modbusBuffer⟩, c)

/-- What the receive handler does with the result of `MakeResponse`. -/
def sendResponse (c : ModbusTcpClient β) : Option (ModbusMessage β) → ModbusTcpClient β
  | none => c
  | some message => c.note [.send message.modbusMessageInfo.sourceId message]

/-- The handler of `async_receive`. -/
def receiveHandler (mb : Modbus β) (c : ModbusTcpClient β) (ec : ErrorCode) (data : List UInt8)
    (now : Nanoseconds) : ModbusTcpClient β :=
  if !c.exchange then c
  else
    let c := { c with timer := c.timer.cancel }
    if ec.failed then c.dropCurrent ec
    else
      let (modbusMessage, c) := c.makeResponse mb data
      let c := c.sendResponse modbusMessage
      { c with state := .Connected }.queueProcessUnsafe mb now

/-- The events of a run. -/
inductive Event (β : Type)
  /-- The exchange calls `Receive` with a `ModbusMessage`. -/
  | receive (message : ModbusMessage β) (now : Nanoseconds)
  /-- The system completes a socket operation. -/
  | complete (i : ℕ) (result : Completion)
  /-- The `io_context` runs the handler of a socket operation. -/
  | handle (i : ℕ) (peerGone : Bool) (now : Nanoseconds)
  /-- A wait completes. -/
  | expire (i : ℕ) (ec : ErrorCode)
  /-- The `io_context` runs the handler of a wait. -/
  | handleWait (i : ℕ)
  deriving DecidableEq, Repr

/-- The message an event hands to the client. -/
def Event.message : Event β → Option (ModbusMessage β)
  | .receive message _ => some message
  | _ => none

/-- The handler of a socket operation that has completed. -/
def handler (mb : Modbus β) (c : ModbusTcpClient β) (op : ClientOp β) (result : Completion)
    (peerGone : Bool) (now : Nanoseconds) : Option (ModbusTcpClient β) :=
  match op with
  | .connect => c.connectHandler mb result.ec peerGone now
  | .send _ _ => some (c.sendHandler result.ec)
  | .receive _ => some (c.receiveHandler mb result.ec result.data now)

/-- The client's step function. -/
def step (mb : Modbus β) (c : ModbusTcpClient β) : Event β → Option (ModbusTcpClient β)
  | .receive message now => some (c.messageProcess mb message now)
  | .complete i result =>
    (c.socket.ops.complete i result).map c.withOps
  | .handle i peerGone now =>
    match c.socket.ops.take i with
    | none => none
    | some (op, result, ops) => (c.withOps ops).handler mb op result peerGone now
  | .expire i ec => (c.timer.waits.complete i ec).map fun waits => { c with timer := ⟨waits⟩ }
  | .handleWait i =>
    match c.timer.waits.take i with
    | none => none
    | some (request, ec, waits) => some ({ c with timer := ⟨waits⟩ }.waitHandler request ec)

end ModbusTcpClient

end ModbusGateway
