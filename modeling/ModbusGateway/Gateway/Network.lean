import ModbusGateway.Library.Journal
import ModbusGateway.Transport.ModbusRtuMaster
import ModbusGateway.Transport.ModbusRtuSlave
import ModbusGateway.Transport.ModbusTcpClient
import ModbusGateway.Transport.ModbusTcpConnection

/-!
# The actors of the gateway

The gateway of `modbus_gateway.cpp` with every kind of actor it has: TCP clients and RTU
masters on the side of the devices, TCP servers with their connections and RTU slaves on the
side of the clients.  `exchange->Send` calls `Receive` of the actor registered under an id,
inside the handler that sends, and nothing comes of a message to an id that nobody is
registered under.

The `io_context` is run by a single thread, so that a handler is one step.  A connection
that has been deleted has no shared pointer left but the one its handler holds: its other
handlers find `weak.lock()` empty, and it is no actor any more.

The journal is the record of what the actors have done, all in one order; no code reads it.

## Main definitions

* `Participant` — the actors, each with its own events and its reaction to a message.
* `Deed` — what an actor does.
* `Network`, `Network.Event`, `Network.step` — the gateway and the events of its runs.
-/

namespace ModbusGateway

open Proactor Execution

variable {β : Type}

/-! ### What the actors do -/

/-- What an actor does. -/
inductive Deed (β : Type)
  | master (e : MasterEffect β)
  | connection (e : ConnectionEffect β)
  | rtuSlave (e : SlaveEffect β)
  deriving DecidableEq, Repr

namespace Deed

/-- The message that is handed to `exchange->Send`, and the actor it is for. -/
def sent : Deed β → Option (ActorId × ModbusMessage β)
  | .master (.send actorId message) => some (actorId, message)
  | .connection (.send actorId message) => some (actorId, message)
  | .rtuSlave (.send actorId message) => some (actorId, message)
  | _ => none

/-- The notice that is handed to `exchange->Send`, and the server it is for. -/
def notice : Deed β → Option (ActorId × ClientDisconnectMessage)
  | .connection (.disconnect actorId message) => some (actorId, message)
  | _ => none

/-- The effect of a master. -/
def effect : Deed β → Option (MasterEffect β)
  | .master e => some e
  | _ => none

/-- The frame that is written to a client. -/
def answer : Deed β → Option β
  | .connection (.write modbusBuffer) => some modbusBuffer
  | .rtuSlave (.write modbusBuffer) => some modbusBuffer
  | _ => none

end Deed

/-! ### The actors -/

/-- `ModbusTcpServer`, whose connections are actors of their own; `clientDb` are the keys of
`clientDb_`. -/
structure TcpServer where
  /-- The outstanding accepts of `acceptor_`. -/
  acceptor : Pool Unit ErrorCode
  clientDb : List ActorId
  deriving DecidableEq, Repr

namespace TcpServer

/-- The constructor. -/
def new : TcpServer := ⟨[], []⟩

/-- `AcceptTask()`. -/
def acceptTask (s : TcpServer) : TcpServer := { s with acceptor := s.acceptor.start () }

/-- `Start()`. -/
def start (s : TcpServer) : TcpServer := s.acceptTask

/-- `clientDb_[clientId] = tcpClient`. -/
def addClient (s : TcpServer) (clientId : ActorId) : TcpServer :=
  { s with clientDb := s.clientDb.insert clientId }

/-- `clientDb_.erase(clientId)`. -/
def eraseClient (s : TcpServer) (clientId : ActorId) : TcpServer :=
  { s with clientDb := s.clientDb.filter fun id => id ≠ clientId }

end TcpServer

/-- An actor registered with the exchange. -/
inductive Participant (β : Type)
  | tcpClient (c : ModbusTcpClient β)
  | rtuMaster (m : ModbusRtuMaster β)
  | tcpServer (s : TcpServer)
  | connection (c : ModbusTcpConnection β)
  | rtuSlave (s : ModbusRtuSlave β)

namespace Participant

/-- What the actor has done since it was made. -/
def deeds : Participant β → List (Deed β)
  | .tcpClient c => c.effects.map .master
  | .rtuMaster m => m.effects.map .master
  | .tcpServer _ => []
  | .connection c => c.effects.map .connection
  | .rtuSlave s => s.effects.map .rtuSlave

/-- `Receive(message)` of a `ModbusMessage`, at clock reading `now`. -/
def receive (mb : Modbus β) (now : Nanoseconds) (message : ModbusMessage β) :
    Participant β → Participant β
  | .tcpClient c => .tcpClient (c.messageProcess mb message now)
  | .rtuMaster m => .rtuMaster (m.messageProcess mb message now)
  | .tcpServer s => .tcpServer s
  | .connection c => .connection
    (c.startSendTask mb ⟨message.modbusMessageInfo, some message.modbusBuffer⟩)
  | .rtuSlave s => .rtuSlave
    (s.startWriteTask mb ⟨message.modbusMessageInfo, some message.modbusBuffer⟩)

/-- What happens to an actor by itself. -/
inductive Event (β : Type)
  | tcpClient (e : ModbusTcpClient.Event β)
  | rtuMaster (e : ModbusRtuMaster.Event β)
  /-- The system completes an accept. -/
  | accept (i : ℕ) (ec : ErrorCode)
  | connection (e : ModbusTcpConnection.Event)
  | rtuSlave (e : ModbusRtuSlave.Event)

/-- A master's `Receive` is called by the exchange only. -/
def Event.byItself : Event β → Bool
  | .tcpClient (.receive _ _) => false
  | .rtuMaster (.receive _ _) => false
  | _ => true

/-- The actor's step function, for an event of its kind. -/
def step (mb : Modbus β) (router : Router) : Participant β → Event β → Option (Participant β)
  | .tcpClient c, .tcpClient e => (ModbusTcpClient.step mb c e).map .tcpClient
  | .rtuMaster m, .rtuMaster e => (ModbusRtuMaster.step mb m e).map .rtuMaster
  | .tcpServer s, .accept i ec =>
    (s.acceptor.complete i ec).map fun acceptor => .tcpServer { s with acceptor }
  | .connection c, .connection e => (c.step mb router e).map .connection
  | .rtuSlave s, .rtuSlave e => (s.step mb router e).map .rtuSlave
  | _, _ => none

end Participant

/-! ### The gateway -/

/-- The gateway. -/
structure Network (β : Type) where
  /-- `exchange::defaultId`, which no actor is ever registered under. -/
  defaultId : ActorId
  router : Router
  /-- The actors registered with the exchange. -/
  actors : ActorId → Option (Participant β)
  journal : Journal ActorId (Deed β)

namespace Network

/-- Put an actor in place. -/
def setActor (s : Network β) (id : ActorId) (p : Participant β) : Network β :=
  { s with actors := Function.update s.actors id (some p) }

/-- The actor `p` has become `p'`: what it has done meanwhile goes into the journal. -/
def update (s : Network β) (id : ActorId) (p p' : Participant β) : Network β :=
  { s.setActor id p' with journal := s.journal.enter id (p'.deeds.drop p.deeds.length) }

/-- The ids that `Add` may return. -/
def idFree (s : Network β) (id : ActorId) : Bool :=
  (s.actors id).isNone && decide (id ≠ s.defaultId)

/-- `exchange->Send(actorId, message)` of a `ModbusMessage`, at clock reading `now`. -/
def send (mb : Modbus β) (now : Nanoseconds) (s : Network β) (actorId : ActorId)
    (message : ModbusMessage β) : Network β :=
  match s.actors actorId with
  | none => s
  | some p => s.update actorId p (p.receive mb now message)

/-- `exchange->Send(actorId, message)` of a `ClientDisconnectMessage`: a server deletes the
client from the exchange and from `clientDb_`, the other actors ignore it. -/
def disconnect (s : Network β) (actorId : ActorId) (message : ClientDisconnectMessage) :
    Network β :=
  match s.actors actorId with
  | some (.tcpServer server) =>
    { s with actors := Function.update s.actors message.clientId none }.setActor actorId
      (.tcpServer (server.eraseClient message.clientId))
  | _ => s

/-- What comes of a deed. -/
def perform (mb : Modbus β) (now : Nanoseconds) (s : Network β) (d : Deed β) : Network β :=
  match d.sent, d.notice with
  | some (actorId, message), _ => s.send mb now actorId message
  | none, some (actorId, message) => s.disconnect actorId message
  | none, none => s

/-- The handler of `async_accept`.  `clientId` is what `exchange->Add` returns; `peerGone` says
that `remote_endpoint()` throws in the handler's own message, and `startPeerGone` that it throws
in `Start()` of the new connection.  There is no next state when an exception leaves the
handler. -/
def acceptHandler (s : Network β) (serverId : ActorId) (server : TcpServer) (ec : ErrorCode)
    (clientId : ActorId) (peerGone startPeerGone : Bool) : Option (Network β) :=
  if ec.failed then
    if ec = .operationAborted then some (s.setActor serverId (.tcpServer server))
    else some (s.setActor serverId (.tcpServer server.acceptTask))
  else if peerGone then none
  else
    match (ModbusTcpConnection.new serverId clientId).start startPeerGone with
    | none => none
    | some tcpClient =>
      some ((s.setActor clientId (.connection tcpClient)).setActor serverId
        (.tcpServer (server.addClient clientId).acceptTask))

/-- The events of a run. -/
inductive Event (β : Type)
  /-- Something happens to an actor; `now` is the clock reading of the actor that a message is
  sent to. -/
  | actor (id : ActorId) (e : Participant.Event β) (now : Nanoseconds)
  /-- The `io_context` runs the handler of an accept of a server. -/
  | handleAccept (serverId : ActorId) (i : ℕ) (clientId : ActorId) (peerGone startPeerGone : Bool)

/-- The gateway's step function. -/
def step (mb : Modbus β) (s : Network β) : Event β → Option (Network β)
  | .actor id e now =>
    match s.actors id with
    | none => none
    | some p =>
      if e.byItself then
        (p.step mb s.router e).map fun p' =>
          (p'.deeds.drop p.deeds.length).foldl (perform mb now) (s.update id p p')
      else none
  | .handleAccept serverId i clientId peerGone startPeerGone =>
    match s.actors serverId with
    | some (.tcpServer server) =>
      match server.acceptor.take i with
      | none => none
      | some (_, ec, acceptor) =>
        if s.idFree clientId then
          s.acceptHandler serverId { server with acceptor } ec clientId peerGone startPeerGone
        else none
    | _ => none

/-! ### The branches of a step -/

variable {mb : Modbus β} {s s' : Network β}

/-- The branches an event can take, each with the gateway after it. -/
inductive Branch (mb : Modbus β) (s : Network β) : Event β → Network β → Prop
  | actor {id : ActorId} {e : Participant.Event β} {p p' : Participant β}
      (hp : s.actors id = some p) (hself : e.byItself = true)
      (hstep : p.step mb s.router e = some p') (now : Nanoseconds) :
    Branch mb s (.actor id e now)
      ((p'.deeds.drop p.deeds.length).foldl (perform mb now) (s.update id p p'))
  | acceptAborted {serverId : ActorId} {i : ℕ} {server : TcpServer} {acceptor : Pool Unit ErrorCode}
      (hserver : s.actors serverId = some (.tcpServer server))
      (htake : server.acceptor.take i = some ((), .operationAborted, acceptor))
      (clientId : ActorId) (peerGone startPeerGone : Bool) :
    Branch mb s (.handleAccept serverId i clientId peerGone startPeerGone)
      (s.setActor serverId (.tcpServer { server with acceptor }))
  | acceptFailed {serverId : ActorId} {i : ℕ} {server : TcpServer} {ec : ErrorCode}
      {acceptor : Pool Unit ErrorCode} (hserver : s.actors serverId = some (.tcpServer server))
      (htake : server.acceptor.take i = some ((), ec, acceptor)) (hec : ec.failed = true)
      (hne : ec ≠ .operationAborted) (clientId : ActorId) (peerGone startPeerGone : Bool) :
    Branch mb s (.handleAccept serverId i clientId peerGone startPeerGone)
      (s.setActor serverId (.tcpServer { server with acceptor }.acceptTask))
  | accepted {serverId clientId : ActorId} {i : ℕ} {server : TcpServer}
      {acceptor : Pool Unit ErrorCode} (hserver : s.actors serverId = some (.tcpServer server))
      (htake : server.acceptor.take i = some ((), .success, acceptor))
      (hfree : s.idFree clientId = true) :
    Branch mb s (.handleAccept serverId i clientId false false)
      ((s.setActor clientId
        (.connection (ModbusTcpConnection.new serverId clientId).startReceiveTask)).setActor
          serverId (.tcpServer ({ server with acceptor }.addClient clientId).acceptTask))

/-- **What a step can do.** -/
theorem step_branch {e : Event β} (hs : step mb s e = some s') : Branch mb s e s' := by
  cases e with
  | actor id e now =>
    simp only [step] at hs
    split at hs
    · cases hs
    next p hp =>
    split at hs
    · next hself =>
      obtain ⟨p', hstep, rfl⟩ := Option.map_eq_some_iff.mp hs
      exact .actor hp hself hstep now
    · cases hs
  | handleAccept serverId i clientId peerGone startPeerGone =>
    simp only [step] at hs
    split at hs
    case h_2 => cases hs
    next server hserver =>
    split at hs
    · cases hs
    next ec acceptor htake =>
    split at hs
    case isFalse => cases hs
    next hfree =>
    unfold acceptHandler at hs
    split at hs
    · next hec =>
      split at hs <;> cases hs
      · next haborted =>
        subst haborted
        exact .acceptAborted hserver htake clientId peerGone startPeerGone
      · next hne => exact .acceptFailed hserver htake hec hne clientId peerGone startPeerGone
    next hec =>
    rw [Bool.not_eq_true, ErrorCode.failed_eq_false] at hec
    subst hec
    split at hs
    · cases hs
    next hgone =>
    rw [Bool.not_eq_true] at hgone
    subst hgone
    cases startPeerGone with
    | true => cases hs
    | false =>
      cases hs
      exact .accepted hserver htake hfree

@[simp] theorem setActor_self (s : Network β) (id : ActorId) (p : Participant β) :
    (s.setActor id p).actors id = some p :=
  Function.update_self ..

@[simp] theorem setActor_of_ne {id k : ActorId} (h : k ≠ id) (s : Network β)
    (p : Participant β) : (s.setActor id p).actors k = s.actors k :=
  Function.update_of_ne h ..

end Network

end ModbusGateway
