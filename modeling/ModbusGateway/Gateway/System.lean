import ModbusGateway.Transport.ModbusTcpClient
import ModbusGateway.Transport.ModbusTcpConnection

/-!
# TCP clients, the router and TCP masters

The gateway of `modbus_gateway.cpp` with TCP connections on one side and
`ModbusTcpClient` masters on the other.  The exchange is the table of the actors it
has registered; `exchange->Send` calls `Receive` of the actor registered under an id,
inside the handler that sends.

Connections are accepted at any moment, under an id not in use.  None of them is closed:
the notice that a client is gone has no effect in these runs.

## Main definitions

* `Gateway` — the actors and the router.
* `Gateway.send` — `exchange->Send`.
* `Gateway.Event`, `Gateway.step` — the events of a run.
-/

namespace ModbusGateway

open Execution

/-- An actor of the gateway. -/
inductive Actor (β : Type)
  | master (m : ModbusTcpClient β)
  | connection (c : ModbusTcpConnection β)

/-- The gateway. -/
structure Gateway (β : Type) where
  /-- `exchange::defaultId`, which no actor is ever registered under. -/
  defaultId : ActorId
  serverId : ActorId
  router : Router
  /-- The actors registered with the exchange. -/
  actors : ActorId → Option (Actor β)

namespace Gateway

variable {β : Type}

/-- The gateway before the first client connects: its masters, each with its id and its
timeout, and the router built for them. -/
def new {defaultId : ActorId} (serverId : ActorId) (masters : List (ActorId × Milliseconds))
    (routes : Routes defaultId (masters.map Prod.fst)) : Gateway β where
  defaultId := defaultId
  serverId := serverId
  router := routes.router
  actors := fun id => (masters.find? fun p => p.1 == id).map fun p => .master (.new p.2)

/-- Replace or add an actor. -/
def setActor (s : Gateway β) (id : ActorId) (a : Actor β) : Gateway β :=
  { s with actors := Function.update s.actors id (some a) }

/-- The ids that `Add` may return. -/
def idFree (s : Gateway β) (id : ActorId) : Bool :=
  (s.actors id).isNone && decide (id ≠ s.serverId) && decide (id ≠ s.defaultId)

/-- `exchange->Send(actorId, message)`, at clock reading `now`. -/
def send (mb : Modbus β) (now : Nanoseconds) (s : Gateway β) (actorId : ActorId)
    (message : ModbusMessage β) : Gateway β :=
  match s.actors actorId with
  | none => s
  | some (.master m) => s.setActor actorId (.master (m.messageProcess mb message now))
  | some (.connection c) => s.setActor actorId (.connection
      (c.startSendTask mb ⟨message.modbusMessageInfo, some message.modbusBuffer⟩))

/-- What comes of an effect of a connection. -/
def ofConnection (mb : Modbus β) (now : Nanoseconds) (s : Gateway β) :
    ConnectionEffect β → Gateway β
  | .send actorId message => s.send mb now actorId message
  | _ => s

/-- What comes of an effect of a master. -/
def ofMaster (mb : Modbus β) (now : Nanoseconds) (s : Gateway β) : MasterEffect β → Gateway β
  | .send actorId message => s.send mb now actorId message
  | _ => s

/-- The events of a run; `now` is the clock reading of the actor that a message is sent to. -/
inductive Event (β : Type)
  /-- A client connects. -/
  | accept (id : ActorId)
  /-- An event of a connection. -/
  | connection (id : ActorId) (e : ModbusTcpConnection.Event) (now : Nanoseconds)
  /-- An event of a master, other than a call of `Receive`. -/
  | master (id : ActorId) (e : ModbusTcpClient.Event β) (now : Nanoseconds)

/-- A master's `Receive` is called by the exchange only. -/
def masterAllowed : ModbusTcpClient.Event β → Bool
  | .receive _ _ => false
  | _ => true

/-- The gateway's step function. -/
def step (mb : Modbus β) (s : Gateway β) : Event β → Option (Gateway β)
  | .accept id =>
    if s.idFree id then
      some (s.setActor id
        (.connection (ModbusTcpConnection.new s.serverId id).startReceiveTask))
    else none
  | .connection id e now =>
    match s.actors id with
    | some (.connection c) =>
      (c.step mb s.router e).map fun c' =>
        (c'.effects.drop c.effects.length).foldl (ofConnection mb now)
          (s.setActor id (.connection c'))
    | _ => none
  | .master id e now =>
    match s.actors id with
    | some (.master m) =>
      if masterAllowed e then
        (ModbusTcpClient.step mb m e).map fun m' =>
          (m'.effects.drop m.effects.length).foldl (ofMaster mb now) (s.setActor id (.master m'))
      else none
    | _ => none

end Gateway

end ModbusGateway
