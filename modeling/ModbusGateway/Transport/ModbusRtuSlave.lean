import ModbusGateway.Asio
import ModbusGateway.Modbus
import ModbusGateway.Transport.Router

/-!
# The RTU slave

`ModbusRtuSlave` of `transport/modbus_rtu_slave.cpp`, function by function, in the way
of `ModbusTcpConnection`.  A serial frame has no transaction id, so that the slave
numbers its requests itself; and it goes on reading after most errors, and tells nobody
when the port is gone.

## Main definitions

* `ModbusRtuSlave` — the members the functions use, and the history.
* `ModbusRtuSlave.Event`, `ModbusRtuSlave.step` — the events of a slave.

## Main results

* `startWriteTask_cases` — what becomes of a message that is sent to a slave.
* `readHandler_cases` — what the read handler can do.
* `step_branch` — what a step of a slave can do.
-/

namespace ModbusGateway

open Proactor

/-- The operations of the slave's serial port. -/
inductive SlaveOp (β : Type)
  | read
  | write (modbusBuffer : β)
  deriving DecidableEq, Repr

/-- What a slave does. -/
inductive SlaveEffect (β : Type)
  /-- `exchange->Send(actorId, message)` of a request. -/
  | send (actorId : ActorId) (message : ModbusMessage β)
  /-- The write of a response is started. -/
  | write (modbusBuffer : β)
  deriving DecidableEq, Repr

/-- `ModbusRtuSlave`. -/
structure ModbusRtuSlave (β : Type) where
  /-- Whether `exchange_` can still be locked. -/
  exchange : Bool
  id : ActorId
  serialPort : Stream (SlaveOp β)
  frameType : FrameType
  idGenerator : TransactionId
  syncRequestInfo : Option ModbusMessageInfo
  /-- The history. -/
  effects : List (SlaveEffect β)
  deriving DecidableEq, Repr

namespace ModbusRtuSlave

variable {β : Type}

/-- The constructor, which opens the serial port; `id` is set by `exchange->Add`. -/
def new (id : ActorId) (frameType : FrameType) : ModbusRtuSlave β where
  exchange := true
  id := id
  serialPort := .opened
  frameType := frameType
  idGenerator := 0
  syncRequestInfo := none
  effects := []

/-- Add to the history. -/
def note (s : ModbusRtuSlave β) (es : List (SlaveEffect β)) : ModbusRtuSlave β :=
  { s with effects := s.effects ++ es }

/-- The slave with the outstanding operations replaced. -/
def withOps (s : ModbusRtuSlave β) (ops : Pool (SlaveOp β) Completion) : ModbusRtuSlave β :=
  { s with serialPort := { s.serialPort with ops } }

/-- `StartReadTask()`. -/
def startReadTask (s : ModbusRtuSlave β) : ModbusRtuSlave β :=
  { s with serialPort := s.serialPort.start .read }

/-- `Start()`. -/
def start (s : ModbusRtuSlave β) : ModbusRtuSlave β := s.startReadTask

/-- `Stop()`. -/
def stop (s : ModbusRtuSlave β) : ModbusRtuSlave β := { s with serialPort := s.serialPort.cancel }

/-- `MakeRequest(modbusBuffer, size)`, where `modbusBuffer` is a fresh buffer into which
`data` has been read; a request that is accepted takes the next id. -/
def makeRequest (mb : Modbus β) (s : ModbusRtuSlave β) (data : List UInt8) (now : Nanoseconds) :
    Option (ModbusMessage β) × ModbusRtuSlave β :=
  match mb.read s.frameType data with
  | none => (none, s)
  | some modbusBuffer =>
    if mb.check modbusBuffer ≠ .NoError then (none, s)
    else
      let transactionId := s.idGenerator + 1
      (some ⟨.new now s.id transactionId, modbusBuffer⟩, { s with idGenerator := transactionId })

/-- The errors after which the slave stops reading. -/
def cancelled (ec : ErrorCode) : Bool :=
  decide (ec = .eof) || decide (ec = .connectionReset) || decide (ec = .operationAborted)

/-- The handler of `async_read_some`, with the router's answer as a function. -/
def readHandler (mb : Modbus β) (route : UnitId → ActorId) (s : ModbusRtuSlave β) (ec : ErrorCode)
    (data : List UInt8) (now : Nanoseconds) : ModbusRtuSlave β :=
  if !s.exchange then s
  else if ec.failed then
    if cancelled ec then s else s.startReadTask
  else
    match s.makeRequest mb data now with
    | (none, s) => s.startReadTask
    | (some message, s) =>
      let s := { s with syncRequestInfo := some message.modbusMessageInfo }
      let actorId := route (mb.getUnitId message.modbusBuffer)
      (s.note [.send actorId message]).startReadTask

/-- `MakeResponse(modbusMessage)`; the buffer pointer may be null. -/
def makeResponse (mb : Modbus β) (s : ModbusRtuSlave β) (message : ModbusMessage (Option β)) :
    Option β × ModbusRtuSlave β :=
  if s.id ≠ message.modbusMessageInfo.sourceId then (none, s)
  else
    match s.syncRequestInfo with
    | none => (none, s)
    | some lastInfo =>
      if lastInfo.transactionId ≠ message.modbusMessageInfo.transactionId then (none, s)
      else
        let s := { s with syncRequestInfo := none }
        match message.modbusBuffer with
        | none => (none, s)
        | some modbusBuffer => (some (mb.update (mb.convertTo s.frameType modbusBuffer)), s)

/-- `StartWriteTask(modbusMessage)`, which is what `Receive` does with a `ModbusMessage`;
any other message is ignored. -/
def startWriteTask (mb : Modbus β) (s : ModbusRtuSlave β) (message : ModbusMessage (Option β)) :
    ModbusRtuSlave β :=
  match s.makeResponse mb message with
  | (none, s) => s
  | (some modbusBuffer, s) =>
    { s with serialPort := s.serialPort.start (.write modbusBuffer) }.note [.write modbusBuffer]

/-- The events of a slave. -/
inductive Event
  /-- The system completes an operation of the serial port. -/
  | complete (i : ℕ) (result : Completion)
  /-- The `io_context` runs the handler of an operation of the serial port; `pastEnd` is
  what a read past the end of the router's table yields. -/
  | handle (i : ℕ) (now : Nanoseconds) (pastEnd : ActorId)
  deriving DecidableEq, Repr

/-- The slave's step function; the handler of `async_write_some` only logs. -/
def step (mb : Modbus β) (router : Router) (s : ModbusRtuSlave β) :
    Event → Option (ModbusRtuSlave β)
  | .complete i result => (s.serialPort.ops.complete i result).map s.withOps
  | .handle i now pastEnd =>
    match s.serialPort.ops.take i with
    | none => none
    | some (.write _, _, ops) => some (s.withOps ops)
    | some (.read, result, ops) =>
      some ((s.withOps ops).readHandler mb (router.route · pastEnd) result.ec result.data now)

/-! ### What the functions can do -/

variable {mb : Modbus β} {s s' : ModbusRtuSlave β}

/-- A request is refused, which changes nothing, or it is a well-formed frame under the
slave's id and the next transaction id. -/
theorem makeRequest_cases (mb : Modbus β) (s : ModbusRtuSlave β) (data : List UInt8)
    (now : Nanoseconds) :
    s.makeRequest mb data now = (none, s) ∨
    ∃ modbusBuffer, mb.read s.frameType data = some modbusBuffer ∧
      mb.check modbusBuffer = .NoError ∧
      s.makeRequest mb data now = (some ⟨.new now s.id (s.idGenerator + 1), modbusBuffer⟩,
        { s with idGenerator := s.idGenerator + 1 }) := by
  unfold makeRequest
  cases mb.read s.frameType data with
  | none => exact Or.inl rfl
  | some modbusBuffer =>
    by_cases hcheck : mb.check modbusBuffer = .NoError
    · exact Or.inr ⟨modbusBuffer, rfl, hcheck, by simp only [hcheck, ne_eq, not_true, if_false]⟩
    · exact Or.inl (by simp only [ne_eq, hcheck, not_false_eq_true, if_true])

/-- What `makeResponse` makes of a message: it refuses it; or it empties the slot, and answers
the request if the message has a buffer. -/
theorem makeResponse_cases (mb : Modbus β) (s : ModbusRtuSlave β)
    (message : ModbusMessage (Option β)) :
    (s.makeResponse mb message = (none, s) ∧ ∀ lastInfo, s.syncRequestInfo = some lastInfo →
      ¬ (message.modbusMessageInfo.sourceId = s.id ∧
        message.modbusMessageInfo.transactionId = lastInfo.transactionId)) ∨
    ∃ lastInfo, message.modbusMessageInfo.sourceId = s.id ∧
      s.syncRequestInfo = some lastInfo ∧
      message.modbusMessageInfo.transactionId = lastInfo.transactionId ∧
      ((message.modbusBuffer = none ∧
        s.makeResponse mb message = (none, { s with syncRequestInfo := none })) ∨
      ∃ modbusBuffer, message.modbusBuffer = some modbusBuffer ∧
        s.makeResponse mb message = (some (mb.update (mb.convertTo s.frameType modbusBuffer)),
          { s with syncRequestInfo := none })) :=
  message.response_cases s.id s.syncRequestInfo (none, s)
    (none, { s with syncRequestInfo := none }) (fun modbusBuffer =>
      (some (mb.update (mb.convertTo s.frameType modbusBuffer)),
        { s with syncRequestInfo := none }))

/-- What becomes of a message that is sent to a slave: it is refused; it answers the last
request without a buffer; or it answers it with one. -/
theorem startWriteTask_cases (mb : Modbus β) (s : ModbusRtuSlave β)
    (message : ModbusMessage (Option β)) :
    (s.startWriteTask mb message = s ∧ ∀ lastInfo, s.syncRequestInfo = some lastInfo →
      ¬ (message.modbusMessageInfo.sourceId = s.id ∧
        message.modbusMessageInfo.transactionId = lastInfo.transactionId)) ∨
    (∃ lastInfo, message.modbusMessageInfo.sourceId = s.id ∧
      s.syncRequestInfo = some lastInfo ∧
      message.modbusMessageInfo.transactionId = lastInfo.transactionId ∧
      message.modbusBuffer = none ∧
      s.startWriteTask mb message = { s with syncRequestInfo := none }) ∨
    (∃ lastInfo modbusBuffer, message.modbusMessageInfo.sourceId = s.id ∧
      s.syncRequestInfo = some lastInfo ∧
      message.modbusMessageInfo.transactionId = lastInfo.transactionId ∧
      message.modbusBuffer = some modbusBuffer ∧
      s.startWriteTask mb message = { s with
        syncRequestInfo := none
        serialPort := s.serialPort.start
          (.write (mb.update (mb.convertTo s.frameType modbusBuffer))) }.note
        [.write (mb.update (mb.convertTo s.frameType modbusBuffer))]) := by
  rcases makeResponse_cases mb s message with
    ⟨heq, hrefused⟩ | ⟨lastInfo, hid, hinfo, htid, ⟨hbuffer, heq⟩ | ⟨modbusBuffer, hbuffer, heq⟩⟩
    <;> rw [startWriteTask, heq]
  · exact Or.inl ⟨rfl, hrefused⟩
  · exact Or.inr (Or.inl ⟨lastInfo, hid, hinfo, htid, hbuffer, rfl⟩)
  · exact Or.inr (Or.inr ⟨lastInfo, modbusBuffer, hid, hinfo, htid, hbuffer, rfl⟩)

/-- What the read handler can do: nothing, without an exchange or after an error; read again,
after an error or a block it refuses; or send a request on and read again. -/
theorem readHandler_cases (mb : Modbus β) (route : UnitId → ActorId) (s : ModbusRtuSlave β)
    (ec : ErrorCode) (data : List UInt8) (now : Nanoseconds) :
    (s.exchange = false ∧ s.readHandler mb route ec data now = s) ∨
    (ec ≠ .success ∧ s.readHandler mb route ec data now = s) ∨
    ((ec = .success → (s.makeRequest mb data now).1 = none) ∧
      s.readHandler mb route ec data now = s.startReadTask) ∨
    ∃ message, ec = .success ∧ (s.makeRequest mb data now).1 = some message ∧
      s.readHandler mb route ec data now =
        ({ s with
            idGenerator := message.modbusMessageInfo.transactionId
            syncRequestInfo := some message.modbusMessageInfo }.note
          [.send (route (mb.getUnitId message.modbusBuffer)) message]).startReadTask := by
  unfold readHandler
  split
  next hx => exact Or.inl ⟨by simpa using hx, rfl⟩
  split
  next hec =>
    rw [ErrorCode.failed_eq_true] at hec
    split
    · exact Or.inr (Or.inl ⟨hec, rfl⟩)
    · exact Or.inr (Or.inr (Or.inl ⟨fun heq => absurd heq hec, rfl⟩))
  next hec =>
  rw [Bool.not_eq_true, ErrorCode.failed_eq_false] at hec
  rcases makeRequest_cases mb s data now with heq | ⟨modbusBuffer, -, -, heq⟩
  · exact Or.inr (Or.inr (Or.inl ⟨fun _ => by rw [heq], by rw [heq]⟩))
  · exact Or.inr (Or.inr (Or.inr ⟨_, hec, by rw [heq], by rw [heq]; rfl⟩))

/-! ### The branches of a step -/

/-- The branches an event can take, each with the slave after it. -/
inductive Branch (mb : Modbus β) (router : Router) (s : ModbusRtuSlave β) :
    Event → ModbusRtuSlave β → Prop
  | complete {i : ℕ} {result : Completion} {ops : Pool (SlaveOp β) Completion}
      (hops : s.serialPort.ops.complete i result = some ops) :
    Branch mb router s (.complete i result) (s.withOps ops)
  | written {i : ℕ} {modbusBuffer : β} {result : Completion} {ops : Pool (SlaveOp β) Completion}
      (ht : s.serialPort.ops.take i = some (.write modbusBuffer, result, ops))
      (now : Nanoseconds) (pastEnd : ActorId) :
    Branch mb router s (.handle i now pastEnd) (s.withOps ops)
  | detached {i : ℕ} {result : Completion} {ops : Pool (SlaveOp β) Completion}
      (ht : s.serialPort.ops.take i = some (.read, result, ops)) (hx : s.exchange = false)
      (now : Nanoseconds) (pastEnd : ActorId) :
    Branch mb router s (.handle i now pastEnd) (s.withOps ops)
  | gone {i : ℕ} {result : Completion} {ops : Pool (SlaveOp β) Completion}
      (ht : s.serialPort.ops.take i = some (.read, result, ops)) (hec : result.ec ≠ .success)
      (now : Nanoseconds) (pastEnd : ActorId) :
    Branch mb router s (.handle i now pastEnd) (s.withOps ops)
  | readFailed {i : ℕ} {result : Completion} {ops : Pool (SlaveOp β) Completion}
      (ht : s.serialPort.ops.take i = some (.read, result, ops)) (hec : result.ec ≠ .success)
      (now : Nanoseconds) (pastEnd : ActorId) :
    Branch mb router s (.handle i now pastEnd) (s.withOps ops).startReadTask
  | refused {i : ℕ} {data : List UInt8} {ops : Pool (SlaveOp β) Completion} {now : Nanoseconds}
      (ht : s.serialPort.ops.take i = some (.read, ⟨.success, data⟩, ops))
      (hreq : ((s.withOps ops).makeRequest mb data now).1 = none) (pastEnd : ActorId) :
    Branch mb router s (.handle i now pastEnd) (s.withOps ops).startReadTask
  | accepted {i : ℕ} {data : List UInt8} {ops : Pool (SlaveOp β) Completion} {now : Nanoseconds}
      {message : ModbusMessage β}
      (ht : s.serialPort.ops.take i = some (.read, ⟨.success, data⟩, ops))
      (hreq : ((s.withOps ops).makeRequest mb data now).1 = some message) (pastEnd : ActorId) :
    Branch mb router s (.handle i now pastEnd)
      ({ s.withOps ops with
          idGenerator := message.modbusMessageInfo.transactionId
          syncRequestInfo := some message.modbusMessageInfo }.note
        [.send (router.route (mb.getUnitId message.modbusBuffer) pastEnd) message]).startReadTask

/-- **What a step can do.** -/
theorem step_branch {router : Router} {e : Event} (h : s.step mb router e = some s') :
    Branch mb router s e s' := by
  cases e with
  | complete i result =>
    obtain ⟨ops, hops, rfl⟩ := Option.map_eq_some_iff.mp h
    exact .complete hops
  | handle i now pastEnd =>
    simp only [step] at h
    split at h
    · cases h
    next ht =>
      cases h
      exact .written ht now pastEnd
    next result ops ht =>
      simp only [Option.some.injEq] at h
      subst h
      obtain ⟨ec, data⟩ := result
      rcases readHandler_cases mb (router.route · pastEnd) (s.withOps ops) ec data now with
        ⟨hx, heq⟩ | ⟨hec, heq⟩ | ⟨hreq, heq⟩ | ⟨message, rfl, hreq, heq⟩ <;> rw [heq]
      · exact .detached ht hx now pastEnd
      · exact .gone ht hec now pastEnd
      · by_cases hec : ec = .success
        · obtain rfl := hec
          exact .refused ht (hreq rfl) pastEnd
        · exact .readFailed ht hec now pastEnd
      · exact .accepted ht hreq pastEnd

end ModbusRtuSlave

end ModbusGateway
