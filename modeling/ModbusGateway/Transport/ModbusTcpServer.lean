import ModbusGateway.Library.Execution
import ModbusGateway.Transport.ModbusTcpConnection

/-!
# The TCP server and its connections

`ModbusTcpServer` of `transport/modbus_tcp_server.cpp`, with the connections it has
accepted, the exchange that addresses them, and the masters, of which only the
requests they have yet to answer are kept.

The exchange delivers a message to the actor registered under an id at that moment.
`Add` registers a connection under any id not in use, which may be one that an
earlier `Delete` has freed.  A connection whose shared pointers are gone is
destroyed: its handlers find `weak.lock()` empty and return.

An exception that leaves the accept handler leaves `io_context::run()` and ends the
program.

## Main definitions

* `ModbusTcpServer` — the server's members and what is around it.
* `ModbusTcpServer.acceptHandler`, `clientDisconnect`, `stop` — the source's functions.
* `ModbusTcpServer.Event`, `ModbusTcpServer.step` — the events of a run.

## Main results

* `ModbusTcpServer.step_branch` — what a step can do.
-/

namespace ModbusGateway

open Proactor Execution

/-- A request that a master has received and has not answered, with the number of the
connection it was read on. -/
structure Pending (β : Type) where
  connection : ℕ
  message : ModbusMessage β
  deriving DecidableEq, Repr

/-- `ModbusTcpServer` with its surroundings.  Connections are numbered in the order in which
they were accepted. -/
structure ModbusTcpServer (β : Type) where
  /-- Whether `exchange_` can still be locked. -/
  exchange : Bool
  id : ActorId
  /-- The outstanding accepts of `acceptor_`. -/
  acceptor : Pool Unit ErrorCode
  router : Router
  clientDb : List (ActorId × ℕ)
  /-- Every connection accepted so far. -/
  connections : List (ModbusTcpConnection β)
  /-- The connections registered with the exchange. -/
  actors : List (ActorId × ℕ)
  /-- The masters registered with the exchange. -/
  masters : List ActorId
  pending : List (Pending β)
  /-- An exception has left `io_context::run()`. -/
  terminated : Bool
  /-- The replies of masters that were written: the number of the connection the request was
  read on, and that of the connection the reply was written to. -/
  replies : List (ℕ × ℕ)

namespace ModbusTcpServer

variable {β : Type}

/-- The constructor, with the masters already registered; `id` is set by `exchange->Add`. -/
def new (id : ActorId) (router : Router) (masters : List ActorId) : ModbusTcpServer β where
  exchange := true
  id := id
  acceptor := []
  router := router
  clientDb := []
  connections := []
  actors := []
  masters := masters
  pending := []
  terminated := false
  replies := []

/-! ### The exchange -/

/-- The connection registered under an id. -/
def lookup (s : ModbusTcpServer β) (id : ActorId) : Option ℕ :=
  (s.actors.find? fun a => a.1 == id).map Prod.snd

/-- The ids that `Add` may return. -/
def idFree (s : ModbusTcpServer β) (id : ActorId) : Bool :=
  decide (id ≠ s.id) && decide (id ∉ s.masters) && decide (id ∉ s.actors.map Prod.fst)

/-- A shared pointer to the connection is left, with the exchange or in `clientDb_`. -/
def alive (s : ModbusTcpServer β) (k : ℕ) : Bool :=
  decide (k ∈ s.actors.map Prod.snd) || decide (k ∈ s.clientDb.map Prod.snd)

/-- Replace a connection. -/
def setConnection (s : ModbusTcpServer β) (k : ℕ) (c : ModbusTcpConnection β) :
    ModbusTcpServer β :=
  { s with connections := s.connections.set k c }

/-- `exchange->Send(actorId, message)` of a request read on connection `k`.  A master takes
it in; another connection takes it for a response; the server ignores it. -/
def send (mb : Modbus β) (k : ℕ) (s : ModbusTcpServer β) (actorId : ActorId)
    (message : ModbusMessage β) : ModbusTcpServer β :=
  if actorId ∈ s.masters then { s with pending := s.pending ++ [⟨k, message⟩] }
  else
    match s.lookup actorId with
    | none => s
    | some j =>
      match s.connections[j]? with
      | none => s
      | some c => s.setConnection j
          (c.startSendTask mb ⟨message.modbusMessageInfo, some message.modbusBuffer⟩)

/-- `exchange->Send(actorId, message)` of a master's reply to a request: `actorId` is the source
of the request. -/
def reply (mb : Modbus β) (s : ModbusTcpServer β) (request : Pending β)
    (modbusBuffer : Option β) : ModbusTcpServer β :=
  let info := request.message.modbusMessageInfo
  match s.lookup info.sourceId with
  | none => s
  | some j =>
    match s.connections[j]? with
    | none => s
    | some c =>
      let c' := c.startSendTask mb ⟨info, modbusBuffer⟩
      { s.setConnection j c' with
        replies := s.replies ++
          (c'.effects.drop c.effects.length).map fun _ => (request.connection, j) }

/-! ### The server -/

/-- `AcceptTask()`. -/
def acceptTask (s : ModbusTcpServer β) : ModbusTcpServer β :=
  { s with acceptor := s.acceptor.start () }

/-- `Start()`. -/
def start (s : ModbusTcpServer β) : ModbusTcpServer β := s.acceptTask

/-- `ClientDisconnect(clientId)`, which is what `Receive` does with a
`ClientDisconnectMessage`. -/
def clientDisconnect (s : ModbusTcpServer β) (clientId : ActorId) : ModbusTcpServer β :=
  { s with
    actors := if s.exchange then s.actors.filter fun a => a.1 ≠ clientId else s.actors
    clientDb := s.clientDb.filter fun a => a.1 ≠ clientId }

/-- `Stop()`. -/
def stop (s : ModbusTcpServer β) : ModbusTcpServer β :=
  { s with
    acceptor := s.acceptor.cancel .operationAborted
    connections := s.connections.mapIdx fun k c =>
      if k ∈ s.clientDb.map Prod.snd then c.stop else c
    actors :=
      if s.exchange then s.actors.filter fun a => a.1 ∉ s.clientDb.map Prod.fst else s.actors
    clientDb := [] }

/-- The handler of `async_accept`.  `id` is what `exchange->Add` returns; `peerGone` says that
`remote_endpoint()` throws in the handler's own message, and `startPeerGone` that it throws in
`Start()` of the new connection. -/
def acceptHandler (s : ModbusTcpServer β) (ec : ErrorCode) (id : ActorId)
    (peerGone startPeerGone : Bool) : ModbusTcpServer β :=
  if !s.exchange then s
  else if ec.failed then
    if ec = .operationAborted then s else s.acceptTask
  else if peerGone then { s with terminated := true }
  else
    let k := s.connections.length
    let tcpClient : ModbusTcpConnection β := .new s.id id
    let s := { s with
      connections := s.connections ++ [tcpClient]
      actors := (id, k) :: s.actors
      clientDb := (id, k) :: s.clientDb.filter fun a => a.1 ≠ id }
    match tcpClient.start startPeerGone with
    | none => { s with terminated := true }
    | some tcpClient => (s.setConnection k tcpClient).acceptTask

/-- What comes of what connection `k` hands to the exchange. -/
def perform (mb : Modbus β) (k : ℕ) (s : ModbusTcpServer β) :
    ConnectionEffect β → ModbusTcpServer β
  | .send actorId message => s.send mb k actorId message
  | .disconnect actorId message =>
    if actorId = s.id then s.clientDisconnect message.clientId else s
  | .write _ => s

/-- The events of a run. -/
inductive Event (β : Type)
  /-- The system completes an accept. -/
  | accept (i : ℕ) (ec : ErrorCode)
  /-- The `io_context` runs the handler of an accept. -/
  | handleAccept (i : ℕ) (id : ActorId) (peerGone startPeerGone : Bool)
  /-- An event of a connection. -/
  | connection (k : ℕ) (e : ModbusTcpConnection.Event)
  /-- A master answers a request. -/
  | reply (i : ℕ) (modbusBuffer : Option β)
  /-- A master gives a request up. -/
  | drop (i : ℕ)
  /-- `Stop()` is called. -/
  | stop
  deriving DecidableEq

/-- The system's step function. -/
def step (mb : Modbus β) (s : ModbusTcpServer β) (e : Event β) : Option (ModbusTcpServer β) :=
  if s.terminated then none
  else
    match e with
    | .accept i ec => (s.acceptor.complete i ec).map fun acceptor => { s with acceptor }
    | .handleAccept i id peerGone startPeerGone =>
      match s.acceptor.take i with
      | none => none
      | some (_, ec, acceptor) =>
        if s.idFree id then some ({ s with acceptor }.acceptHandler ec id peerGone startPeerGone)
        else none
    | .connection k e =>
      match s.connections[k]? with
      | none => none
      | some c =>
        if s.alive k then
          (c.step mb s.router e).map fun c' =>
            (c'.effects.drop c.effects.length).foldl (perform mb k) (s.setConnection k c')
        else some s
    | .reply i modbusBuffer =>
      (s.pending[i]?).map fun request =>
        { s with pending := s.pending.eraseIdx i }.reply mb request modbusBuffer
    | .drop i =>
      if i < s.pending.length then some { s with pending := s.pending.eraseIdx i } else none
    | .stop => some s.stop

/-! ### The branches of a step -/

variable {mb : Modbus β} {s s' : ModbusTcpServer β} {e : Event β}

/-- The branches an event can take, each with the server after it. -/
inductive Branch (mb : Modbus β) (s : ModbusTcpServer β) : Event β → ModbusTcpServer β → Prop
  | accept {i : ℕ} {ec : ErrorCode} {acceptor : Pool Unit ErrorCode}
      (hacc : s.acceptor.complete i ec = some acceptor) :
    Branch mb s (.accept i ec) { s with acceptor }
  | handleAccept {i : ℕ} {id : ActorId} {ec : ErrorCode} {acceptor : Pool Unit ErrorCode}
      (htake : s.acceptor.take i = some ((), ec, acceptor)) (hfree : s.idFree id = true)
      (peerGone startPeerGone : Bool) :
    Branch mb s (.handleAccept i id peerGone startPeerGone)
      ({ s with acceptor }.acceptHandler ec id peerGone startPeerGone)
  | dead {k : ℕ} {c : ModbusTcpConnection β} (hc : s.connections[k]? = some c)
      (hdead : s.alive k = false) (e : ModbusTcpConnection.Event) :
    Branch mb s (.connection k e) s
  | connection {k : ℕ} {c c' : ModbusTcpConnection β} {e : ModbusTcpConnection.Event}
      (hc : s.connections[k]? = some c) (halive : s.alive k = true)
      (hstep : c.step mb s.router e = some c') :
    Branch mb s (.connection k e)
      ((c'.effects.drop c.effects.length).foldl (perform mb k) (s.setConnection k c'))
  | reply {i : ℕ} {request : Pending β} (hi : s.pending[i]? = some request)
      (modbusBuffer : Option β) :
    Branch mb s (.reply i modbusBuffer)
      ({ s with pending := s.pending.eraseIdx i }.reply mb request modbusBuffer)
  | drop {i : ℕ} (hi : i < s.pending.length) :
    Branch mb s (.drop i) { s with pending := s.pending.eraseIdx i }
  | stop : Branch mb s .stop s.stop

/-- A server that has terminated does nothing. -/
theorem running_of_step (hs : step mb s e = some s') : s.terminated = false := by
  unfold step at hs
  split at hs
  · cases hs
  next hrunning => exact Bool.not_eq_true _ ▸ hrunning

/-- **What a step can do.** -/
theorem step_branch (hs : step mb s e = some s') : Branch mb s e s' := by
  have hrunning := running_of_step hs
  unfold step at hs
  rw [if_neg (by simp [hrunning])] at hs
  cases e with
  | accept i ec =>
    obtain ⟨acceptor, hacc, rfl⟩ := Option.map_eq_some_iff.mp hs
    exact .accept hacc
  | handleAccept i id peerGone startPeerGone =>
    dsimp only at hs
    split at hs
    · cases hs
    next ec acceptor htake =>
    split at hs
    · next hfree =>
      cases hs
      exact .handleAccept htake hfree peerGone startPeerGone
    · cases hs
  | connection k e =>
    dsimp only at hs
    split at hs
    · cases hs
    next c hc =>
    split at hs
    · next halive =>
      obtain ⟨c', hstep, rfl⟩ := Option.map_eq_some_iff.mp hs
      exact .connection hc halive hstep
    next hdead =>
    cases hs
    exact .dead hc (Bool.not_eq_true _ ▸ hdead) e
  | reply i modbusBuffer =>
    obtain ⟨request, hi, rfl⟩ := Option.map_eq_some_iff.mp hs
    exact .reply hi modbusBuffer
  | drop i =>
    dsimp only at hs
    split at hs
    · next hi =>
      cases hs
      exact .drop hi
    · cases hs
  | stop =>
    cases hs
    exact .stop

end ModbusTcpServer

end ModbusGateway
