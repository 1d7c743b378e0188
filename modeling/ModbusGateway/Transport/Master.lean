import ModbusGateway.Common.LimitQueue
import ModbusGateway.Library.Transaction
import ModbusGateway.Modbus

/-!
# What the two masters share

`ModbusTcpClient` and `ModbusRtuMaster` both keep a queue of requests and one
request in process, `currentMessage_`.  Both throw the expired requests at the
front of the queue away before they start one.

The history of a master is the list of its effects, oldest first.  Requests are
numbered from one in the order in which they are written; the numbers and the
history are ours, no code reads them.

* `ModbusCurrentMessage` — the request in process.
* `MasterEffect` — what a master does, as it appears in its history.
* `started` — the number of the request written last.
* `requests`, `responses` — the requests written, and the numbered answers handed
  to `exchange->Send`.
-/

namespace ModbusGateway

open Transaction

/-- `ModbusCurrentMessage`, a member of both masters. -/
structure ModbusCurrentMessage (β : Type) where
  modbusMessage : ModbusMessage β
  id : TransactionId
  deriving DecidableEq, Repr

/-- What a master does. -/
inductive MasterEffect (β : Type)
  /-- A request is put into the queue. -/
  | receive (message : ModbusMessage β)
  /-- An expired request is taken out of the queue. -/
  | expire (message : ModbusMessage β)
  /-- A connect is started. -/
  | connect
  /-- A request becomes the current one, and the write of its frame is started. -/
  | write (message : ModbusMessage β) (id : TransactionId) (buffer : β)
  /-- The wait armed for a request runs out. -/
  | timeout (request : ℕ)
  /-- `exchange->Send(actorId, message)`. -/
  | send (actorId : ActorId) (message : ModbusMessage β)
  deriving DecidableEq, Repr

variable {β : Type}

/-- A request as a master writes it: the message received and its wire id. -/
abbrev Request (β : Type) := ModbusMessage β × TransactionId

/-- An answer of a master: the actor it is sent to and the message. -/
abbrev Response (β : Type) := ActorId × ModbusMessage β

/-- The transactions of a history: only writes and answers matter. -/
def MasterEffect.act : MasterEffect β → Option (Act (Request β) (Response β))
  | .write message id _ => some (.start (message, id))
  | .send actorId message => some (.answer (actorId, message))
  | _ => none

/-- The transactions of a history. -/
def acts (effects : List (MasterEffect β)) : List (Act (Request β) (Response β)) :=
  effects.filterMap MasterEffect.act

/-- The requests written, oldest first. -/
def requests (effects : List (MasterEffect β)) : List (Request β) := starts (acts effects)

/-- The answers sent, each with the number of the latest request written before it. -/
def responses (effects : List (MasterEffect β)) : List (ℕ × Response β) :=
  answers 0 (acts effects)

/-- How many requests have been written, which is the number of the latest one. -/
def started (effects : List (MasterEffect β)) : ℕ := (requests effects).length

theorem acts_append (as bs : List (MasterEffect β)) : acts (as ++ bs) = acts as ++ acts bs :=
  List.filterMap_append

/-- An effect that is neither a write nor an answer. -/
def MasterEffect.silent (e : MasterEffect β) : Bool := e.act.isNone

theorem acts_eq_nil {es : List (MasterEffect β)} (h : ∀ e ∈ es, e.silent = true) :
    acts es = [] := by
  rw [acts, List.filterMap_eq_nil_iff]
  intro e he
  exact Option.isNone_iff_eq_none.mp (h e he)

theorem silent_singleton {e : MasterEffect β} (h : e.act = none) :
    ∀ e' ∈ [e], e'.silent = true := by
  intro e' he
  rw [List.mem_singleton.mp he, MasterEffect.silent, h]
  rfl

/-- Silent effects change nothing of the transactions. -/
theorem acts_append_silent {as bs : List (MasterEffect β)} (h : ∀ e ∈ bs, e.silent = true) :
    acts (as ++ bs) = acts as := by
  rw [acts_append, acts_eq_nil h, List.append_nil]

/-- The front of the queue has expired, at clock reading `now`. -/
def expired (timeout : Milliseconds) (now : Nanoseconds) (message : ModbusMessage β) : Bool :=
  message.modbusMessageInfo.TimeoutReached (toNanoseconds timeout) now

end ModbusGateway
