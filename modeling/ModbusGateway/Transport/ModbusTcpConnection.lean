import ModbusGateway.Asio
import ModbusGateway.Modbus
import ModbusGateway.Transport.Router

/-!
# A connection of the TCP server

`ModbusTcpConnection` of `transport/modbus_tcp_connection.cpp`, function by function.
It reads requests from its socket, sends them to the actor the router names, and
writes the responses that are sent back to it.  What it hands to the exchange and
what it writes is added to its history, oldest first.

## Main definitions

* `ModbusTcpConnection` — the members the functions use, and the history.
* `ModbusTcpConnection.Event`, `ModbusTcpConnection.step` — the events of a connection.

## Main results

* `startSendTask_cases` — what becomes of a message that is sent to a connection.
* `step_branch`, `step_cases` — what a step of a connection can do.
-/

namespace ModbusGateway

open Proactor

/-- The operations of a connection's socket. -/
inductive ConnectionOp (β : Type)
  | receive
  | send (modbusBuffer : β)
  deriving DecidableEq, Repr

/-- What a connection does. -/
inductive ConnectionEffect (β : Type)
  /-- `exchange->Send(actorId, message)` of a request. -/
  | send (actorId : ActorId) (message : ModbusMessage β)
  /-- `exchange->Send(actorId, message)` of the notice that the client is gone. -/
  | disconnect (actorId : ActorId) (message : ClientDisconnectMessage)
  /-- The write of a response is started. -/
  | write (modbusBuffer : β)
  deriving DecidableEq, Repr

/-- `ModbusTcpConnection`. -/
structure ModbusTcpConnection (β : Type) where
  /-- Whether `exchange_` can still be locked. -/
  exchange : Bool
  id : ActorId
  serverId : ActorId
  socket : Stream (ConnectionOp β)
  syncRequestInfo : Option ModbusMessageInfo
  /-- The history. -/
  effects : List (ConnectionEffect β)
  deriving DecidableEq, Repr

namespace ModbusTcpConnection

variable {β : Type}

/-- The constructor, for a socket that has been accepted; `id` is set by `exchange->Add`. -/
def new (serverId id : ActorId) : ModbusTcpConnection β where
  exchange := true
  id := id
  serverId := serverId
  socket := .opened
  syncRequestInfo := none
  effects := []

/-- Add to the history. -/
def note (c : ModbusTcpConnection β) (es : List (ConnectionEffect β)) : ModbusTcpConnection β :=
  { c with effects := c.effects ++ es }

/-- The connection with the outstanding operations replaced. -/
def withOps (c : ModbusTcpConnection β) (ops : Pool (ConnectionOp β) Completion) :
    ModbusTcpConnection β :=
  { c with socket := { c.socket with ops } }

/-- `StartReceiveTask()`. -/
def startReceiveTask (c : ModbusTcpConnection β) : ModbusTcpConnection β :=
  { c with socket := c.socket.start .receive }

/-- `Start()`; `none` when `remote_endpoint()` throws, since the peer is gone. -/
def start (c : ModbusTcpConnection β) (peerGone : Bool) : Option (ModbusTcpConnection β) :=
  if peerGone then none else some c.startReceiveTask

/-- `Stop()`. -/
def stop (c : ModbusTcpConnection β) : ModbusTcpConnection β := { c with socket := c.socket.cancel }

/-- `MakeRequest(modbusBuffer, size, masterId)`, where `modbusBuffer` is a fresh buffer
into which `data` has been received. -/
def makeRequest (mb : Modbus β) (data : List UInt8) (masterId : ActorId) (now : Nanoseconds) :
    Option (ModbusMessage β) :=
  match mb.read .TCP data with
  | none => none
  | some modbusBuffer =>
    if mb.tcpCheck modbusBuffer ≠ .NoError then none
    else some ⟨.new now masterId (mb.getTransactionId modbusBuffer), modbusBuffer⟩

/-- The errors after which the server is told that the client is gone. -/
def disconnects (ec : ErrorCode) : Bool :=
  decide (ec = .eof) || decide (ec = .connectionReset) || decide (ec = .operationAborted)

/-- The handler of `async_receive`, with the router's answer as a function. -/
def receiveHandler (mb : Modbus β) (route : UnitId → ActorId) (c : ModbusTcpConnection β)
    (ec : ErrorCode) (data : List UInt8) (now : Nanoseconds) : ModbusTcpConnection β :=
  if !c.exchange then c
  else if ec.failed then
    if disconnects ec then c.note [.disconnect c.serverId ⟨c.id⟩] else c.startReceiveTask
  else
    match makeRequest mb data c.id now with
    | none => c.startReceiveTask
    | some message =>
      let c := { c with syncRequestInfo := some message.modbusMessageInfo }
      let actorId := route (mb.getUnitId message.modbusBuffer)
      (c.note [.send actorId message]).startReceiveTask

/-- `MakeResponse(modbusMessage)`; the buffer pointer may be null. -/
def makeResponse (mb : Modbus β) (c : ModbusTcpConnection β) (message : ModbusMessage (Option β)) :
    Option β × ModbusTcpConnection β :=
  if c.id ≠ message.modbusMessageInfo.sourceId then (none, c)
  else
    match c.syncRequestInfo with
    | none => (none, c)
    | some lastInfo =>
      if lastInfo.transactionId ≠ message.modbusMessageInfo.transactionId then (none, c)
      else
        let c := { c with syncRequestInfo := none }
        match message.modbusBuffer with
        | none => (none, c)
        | some modbusBuffer =>
          (some (mb.toTcp modbusBuffer message.modbusMessageInfo.transactionId), c)

/-- `StartSendTask(modbusMessage)`, which is what `Receive` does with a `ModbusMessage`;
any other message is ignored. -/
def startSendTask (mb : Modbus β) (c : ModbusTcpConnection β)
    (message : ModbusMessage (Option β)) : ModbusTcpConnection β :=
  match c.makeResponse mb message with
  | (none, c) => c
  | (some modbusBuffer, c) =>
    { c with socket := c.socket.start (.send modbusBuffer) }.note [.write modbusBuffer]

/-- The events of a connection. -/
inductive Event
  /-- The system completes an operation of the socket. -/
  | complete (i : ℕ) (result : Completion)
  /-- The `io_context` runs the handler of an operation of the socket; `pastEnd` is what
  a read past the end of the router's table yields. -/
  | handle (i : ℕ) (now : Nanoseconds) (pastEnd : ActorId)
  deriving DecidableEq, Repr

/-- The connection's step function; the handler of `async_send` only logs. -/
def step (mb : Modbus β) (router : Router) (c : ModbusTcpConnection β) :
    Event → Option (ModbusTcpConnection β)
  | .complete i result => (c.socket.ops.complete i result).map c.withOps
  | .handle i now pastEnd =>
    match c.socket.ops.take i with
    | none => none
    | some (.send _, _, ops) => some (c.withOps ops)
    | some (.receive, result, ops) =>
      some ((c.withOps ops).receiveHandler mb (router.route · pastEnd) result.ec result.data now)

/-! ### What the functions can do -/

variable {mb : Modbus β} {c c' : ModbusTcpConnection β}

/-- A request is a well-formed frame under the connection's id and its transaction id. -/
theorem makeRequest_some {data : List UInt8} {masterId : ActorId} {now : Nanoseconds}
    {message : ModbusMessage β} (h : makeRequest mb data masterId now = some message) :
    mb.read .TCP data = some message.modbusBuffer ∧
      mb.tcpCheck message.modbusBuffer = .NoError ∧
      message.modbusMessageInfo = .new now masterId (mb.getTransactionId message.modbusBuffer) := by
  unfold makeRequest at h
  cases hread : mb.read .TCP data with
  | none => rw [hread] at h; cases h
  | some modbusBuffer =>
    rw [hread] at h
    simp only at h
    split at h
    · cases h
    next hcheck =>
    cases h
    exact ⟨rfl, not_not.mp hcheck, rfl⟩

/-- What `makeResponse` makes of a message: it refuses it; or it empties the slot, and answers
the request if the message has a buffer. -/
theorem makeResponse_cases (mb : Modbus β) (c : ModbusTcpConnection β)
    (message : ModbusMessage (Option β)) :
    (c.makeResponse mb message = (none, c) ∧ ∀ lastInfo, c.syncRequestInfo = some lastInfo →
      ¬ (message.modbusMessageInfo.sourceId = c.id ∧
        message.modbusMessageInfo.transactionId = lastInfo.transactionId)) ∨
    ∃ lastInfo, message.modbusMessageInfo.sourceId = c.id ∧
      c.syncRequestInfo = some lastInfo ∧
      message.modbusMessageInfo.transactionId = lastInfo.transactionId ∧
      ((message.modbusBuffer = none ∧
        c.makeResponse mb message = (none, { c with syncRequestInfo := none })) ∨
      ∃ modbusBuffer, message.modbusBuffer = some modbusBuffer ∧
        c.makeResponse mb message =
          (some (mb.toTcp modbusBuffer message.modbusMessageInfo.transactionId),
            { c with syncRequestInfo := none })) :=
  message.response_cases c.id c.syncRequestInfo (none, c)
    (none, { c with syncRequestInfo := none }) (fun modbusBuffer =>
      (some (mb.toTcp modbusBuffer message.modbusMessageInfo.transactionId),
        { c with syncRequestInfo := none }))

/-- What becomes of a message that is sent to a connection: it is refused; it answers the
last request without a buffer; or it answers it with one. -/
theorem startSendTask_cases (mb : Modbus β) (c : ModbusTcpConnection β)
    (message : ModbusMessage (Option β)) :
    (c.startSendTask mb message = c ∧ ∀ lastInfo, c.syncRequestInfo = some lastInfo →
      ¬ (message.modbusMessageInfo.sourceId = c.id ∧
        message.modbusMessageInfo.transactionId = lastInfo.transactionId)) ∨
    (∃ lastInfo, message.modbusMessageInfo.sourceId = c.id ∧
      c.syncRequestInfo = some lastInfo ∧
      message.modbusMessageInfo.transactionId = lastInfo.transactionId ∧
      message.modbusBuffer = none ∧
      c.startSendTask mb message = { c with syncRequestInfo := none }) ∨
    (∃ lastInfo modbusBuffer, message.modbusMessageInfo.sourceId = c.id ∧
      c.syncRequestInfo = some lastInfo ∧
      message.modbusMessageInfo.transactionId = lastInfo.transactionId ∧
      message.modbusBuffer = some modbusBuffer ∧
      c.startSendTask mb message = { c with
        syncRequestInfo := none
        socket := c.socket.start
          (.send (mb.toTcp modbusBuffer message.modbusMessageInfo.transactionId)) }.note
        [.write (mb.toTcp modbusBuffer message.modbusMessageInfo.transactionId)]) := by
  rcases makeResponse_cases mb c message with
    ⟨heq, hrefused⟩ | ⟨lastInfo, hid, hinfo, htid, ⟨hbuffer, heq⟩ | ⟨modbusBuffer, hbuffer, heq⟩⟩
    <;> rw [startSendTask, heq]
  · exact Or.inl ⟨rfl, hrefused⟩
  · exact Or.inr (Or.inl ⟨lastInfo, hid, hinfo, htid, hbuffer, rfl⟩)
  · exact Or.inr (Or.inr ⟨lastInfo, modbusBuffer, hid, hinfo, htid, hbuffer, rfl⟩)

/-- What the receive handler can do: nothing, without an exchange; say that the client is gone;
receive again, after an error or a block it refuses; or send a request on and receive again. -/
theorem receiveHandler_cases (mb : Modbus β) (route : UnitId → ActorId)
    (c : ModbusTcpConnection β) (ec : ErrorCode) (data : List UInt8) (now : Nanoseconds) :
    (c.exchange = false ∧ c.receiveHandler mb route ec data now = c) ∨
    (ec ≠ .success ∧
      c.receiveHandler mb route ec data now = c.note [.disconnect c.serverId ⟨c.id⟩]) ∨
    ((ec = .success → makeRequest mb data c.id now = none) ∧
      c.receiveHandler mb route ec data now = c.startReceiveTask) ∨
    ∃ message, ec = .success ∧ makeRequest mb data c.id now = some message ∧
      c.receiveHandler mb route ec data now =
        ({ c with syncRequestInfo := some message.modbusMessageInfo }.note
          [.send (route (mb.getUnitId message.modbusBuffer)) message]).startReceiveTask := by
  unfold receiveHandler
  split
  next hx => exact Or.inl ⟨by simpa using hx, rfl⟩
  split
  next hec =>
    rw [ErrorCode.failed_eq_true] at hec
    split
    · exact Or.inr (Or.inl ⟨hec, rfl⟩)
    · exact Or.inr (Or.inr (Or.inl ⟨fun heq => absurd heq hec, rfl⟩))
  next hec =>
  rw [Bool.not_eq_true, ErrorCode.failed_eq_false] at hec
  cases hreq : makeRequest mb data c.id now with
  | none => exact Or.inr (Or.inr (Or.inl ⟨fun _ => rfl, rfl⟩))
  | some message => exact Or.inr (Or.inr (Or.inr ⟨message, hec, rfl, rfl⟩))

/-! ### The branches of a step -/

/-- The branches an event can take, each with the connection after it. -/
inductive Branch (mb : Modbus β) (router : Router) (c : ModbusTcpConnection β) :
    Event → ModbusTcpConnection β → Prop
  | complete {i : ℕ} {result : Completion} {ops : Pool (ConnectionOp β) Completion}
      (hops : c.socket.ops.complete i result = some ops) :
    Branch mb router c (.complete i result) (c.withOps ops)
  | sent {i : ℕ} {modbusBuffer : β} {result : Completion} {ops : Pool (ConnectionOp β) Completion}
      (ht : c.socket.ops.take i = some (.send modbusBuffer, result, ops)) (now : Nanoseconds)
      (pastEnd : ActorId) :
    Branch mb router c (.handle i now pastEnd) (c.withOps ops)
  | detached {i : ℕ} {result : Completion} {ops : Pool (ConnectionOp β) Completion}
      (ht : c.socket.ops.take i = some (.receive, result, ops)) (hx : c.exchange = false)
      (now : Nanoseconds) (pastEnd : ActorId) :
    Branch mb router c (.handle i now pastEnd) (c.withOps ops)
  | gone {i : ℕ} {result : Completion} {ops : Pool (ConnectionOp β) Completion}
      (ht : c.socket.ops.take i = some (.receive, result, ops)) (hec : result.ec ≠ .success)
      (now : Nanoseconds) (pastEnd : ActorId) :
    Branch mb router c (.handle i now pastEnd)
      ((c.withOps ops).note [.disconnect c.serverId ⟨c.id⟩])
  | receiveFailed {i : ℕ} {result : Completion} {ops : Pool (ConnectionOp β) Completion}
      (ht : c.socket.ops.take i = some (.receive, result, ops)) (hec : result.ec ≠ .success)
      (now : Nanoseconds) (pastEnd : ActorId) :
    Branch mb router c (.handle i now pastEnd) (c.withOps ops).startReceiveTask
  | refused {i : ℕ} {data : List UInt8} {ops : Pool (ConnectionOp β) Completion}
      {now : Nanoseconds} (ht : c.socket.ops.take i = some (.receive, ⟨.success, data⟩, ops))
      (hreq : makeRequest mb data c.id now = none) (pastEnd : ActorId) :
    Branch mb router c (.handle i now pastEnd) (c.withOps ops).startReceiveTask
  | accepted {i : ℕ} {data : List UInt8} {ops : Pool (ConnectionOp β) Completion}
      {now : Nanoseconds} {message : ModbusMessage β}
      (ht : c.socket.ops.take i = some (.receive, ⟨.success, data⟩, ops))
      (hreq : makeRequest mb data c.id now = some message) (pastEnd : ActorId) :
    Branch mb router c (.handle i now pastEnd)
      ({ c.withOps ops with syncRequestInfo := some message.modbusMessageInfo }.note
        [.send (router.route (mb.getUnitId message.modbusBuffer) pastEnd)
          message]).startReceiveTask

/-- **What a step can do.** -/
theorem step_branch {router : Router} {e : Event} (h : c.step mb router e = some c') :
    Branch mb router c e c' := by
  cases e with
  | complete i result =>
    obtain ⟨ops, hops, rfl⟩ := Option.map_eq_some_iff.mp h
    exact .complete hops
  | handle i now pastEnd =>
    simp only [step] at h
    split at h
    · cases h
    next ht =>
      cases h
      exact .sent ht now pastEnd
    next result ops ht =>
      simp only [Option.some.injEq] at h
      subst h
      obtain ⟨ec, data⟩ := result
      rcases receiveHandler_cases mb (router.route · pastEnd) (c.withOps ops) ec data now with
        ⟨hx, heq⟩ | ⟨hec, heq⟩ | ⟨hreq, heq⟩ | ⟨message, rfl, hreq, heq⟩ <;> rw [heq]
      · exact .detached ht hx now pastEnd
      · exact .gone ht hec now pastEnd
      · by_cases hec : ec = .success
        · obtain rfl := hec
          exact .refused ht (hreq rfl) pastEnd
        · exact .receiveFailed ht hec now pastEnd
      · exact .accepted ht hreq pastEnd

/-- What a step of a connection can do: hand nothing to the exchange; say that the client is
gone; or accept a request and send it on. -/
theorem step_cases {router : Router} {e : Event} (h : c.step mb router e = some c') :
    c'.id = c.id ∧
    ((c'.effects = c.effects ∧ c'.syncRequestInfo = c.syncRequestInfo) ∨
    (c'.effects = c.effects ++ [.disconnect c.serverId ⟨c.id⟩] ∧
      c'.syncRequestInfo = c.syncRequestInfo) ∨
    ∃ i now pastEnd data ops message, e = .handle i now pastEnd ∧
      c.socket.ops.take i = some (.receive, ⟨.success, data⟩, ops) ∧
      makeRequest mb data c.id now = some message ∧
      c'.syncRequestInfo = some message.modbusMessageInfo ∧
      c'.effects = c.effects ++
        [.send (router.route (mb.getUnitId message.modbusBuffer) pastEnd) message]) := by
  cases step_branch h with
  | complete hops => exact ⟨rfl, Or.inl ⟨rfl, rfl⟩⟩
  | sent ht => exact ⟨rfl, Or.inl ⟨rfl, rfl⟩⟩
  | detached ht => exact ⟨rfl, Or.inl ⟨rfl, rfl⟩⟩
  | gone ht hec => exact ⟨rfl, Or.inr (Or.inl ⟨rfl, rfl⟩)⟩
  | receiveFailed ht hec => exact ⟨rfl, Or.inl ⟨rfl, rfl⟩⟩
  | refused ht hreq => exact ⟨rfl, Or.inl ⟨rfl, rfl⟩⟩
  | @accepted i data ops now message ht hreq pastEnd =>
    exact ⟨rfl, Or.inr (Or.inr ⟨i, now, pastEnd, data, ops, message, rfl, ht, hreq, rfl, rfl⟩)⟩

end ModbusTcpConnection

end ModbusGateway
