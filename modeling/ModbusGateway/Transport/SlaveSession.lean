import ModbusGateway.Library.Execution
import ModbusGateway.Library.Slot
import ModbusGateway.ModbusFrame
import ModbusGateway.Transport.ModbusRtuSlave
import ModbusGateway.Transport.ModbusTcpConnection

/-!
# Answers follow requests on the slave side

A TCP connection and an RTU slave are parties with one slot, `syncRequestInfo_`: a
request that is accepted goes into the slot, and a message with the actor's own source
id and the transaction id of the request in the slot empties it and is written.  A
session is a connection or a slave with what it has been given, the blocks it has read
and the messages it has been sent, and with a log of the requests it has accepted and
the frames it has written.

## Main definitions

* `SlaveActor` — what an actor makes of blocks and messages, and its slot.
* `AnswersRequests` — what a log must be for its answers to follow its requests.
* `ModbusTcpConnection.Session`, `ModbusRtuSlave.Session` — the sessions.

## Main results

* `ModbusTcpConnection.Session.follows_step`, `ModbusRtuSlave.Session.follows_step` —
  **every step of a session is a step of its slot.**
* `answersRequests_exec` — **the answers of every session follow its requests.**
-/

namespace ModbusGateway

open Proactor Execution Transaction Slot

variable {β : Type}

/-- What an actor on the slave side is given. -/
inductive SlaveInput (β : Type)
  /-- A block of bytes has been read without an error, and is handled at clock reading `now`. -/
  | block (data : List UInt8) (now : Nanoseconds)
  /-- The exchange calls `Receive` with a `ModbusMessage`. -/
  | message (message : ModbusMessage (Option β))
  deriving DecidableEq, Repr

/-- The message that is given. -/
def SlaveInput.received : SlaveInput β → Option (ModbusMessage (Option β))
  | .block _ _ => none
  | .message m => some m

/-- What an actor on the slave side does: it accepts a request, or writes a frame while it
handles the given message, if it handles one. -/
abbrev SlaveAct (β : Type) := Act ModbusMessageInfo (Option (ModbusMessage (Option β)) × β)

/-- An actor on the slave side. -/
structure SlaveActor (β : Type) where
  id : ActorId
  /-- The info of the request that the actor makes of a block when the latest request has
  the given transaction id; `none` when it refuses the block. -/
  makeInfo : TransactionId → List UInt8 → Nanoseconds → Option ModbusMessageInfo
  /-- The frame in which the actor writes a message. -/
  frame : ModbusMessage (Option β) → Option β
  /-- Whether a block is refused does not depend on the requests before. -/
  isSome_makeInfo : ∀ last data now,
    (makeInfo last data now).isSome = (makeInfo 0 data now).isSome

namespace SlaveActor

variable (a : SlaveActor β)

/-- The messages the actor takes for the answer to a request, and their frames. -/
def protocol : Protocol ModbusMessageInfo (ModbusMessage (Option β)) β where
  accepts info message := decide (message.modbusMessageInfo.sourceId = a.id ∧
    message.modbusMessageInfo.transactionId = info.transactionId)
  frame := a.frame

/-- The input is no block that is refused. -/
def accepts : SlaveInput β → Bool
  | .block data now => (a.makeInfo 0 data now).isSome
  | .message _ => true

/-- The latest transaction id after an input. -/
def nextId (last : TransactionId) : SlaveInput β → TransactionId
  | .block data now => ((a.makeInfo last data now).map (·.transactionId)).getD last
  | .message _ => last

/-- The latest transaction id after a list of inputs. -/
def lastId (given : List (SlaveInput β)) : TransactionId := given.foldl a.nextId 0

/-- What an input is to the slot. -/
def input (last : TransactionId) :
    SlaveInput β → Input ModbusMessageInfo (ModbusMessage (Option β))
  | .block data now => .block (a.makeInfo last data now)
  | .message message => .message message

/-- What a list of inputs is to the slot, from the given transaction id on. -/
def inputsFrom : TransactionId → List (SlaveInput β) →
    List (Input ModbusMessageInfo (ModbusMessage (Option β)))
  | _, [] => []
  | last, i :: is => a.input last i :: inputsFrom (a.nextId last i) is

/-- What a list of inputs is to the slot. -/
def inputs (given : List (SlaveInput β)) :
    List (Input ModbusMessageInfo (ModbusMessage (Option β))) :=
  a.inputsFrom 0 given

/-- An act of the slot in the log. -/
def logged : Act ModbusMessageInfo (ModbusMessage (Option β) × β) → SlaveAct β :=
  Act.map fun answer => (some answer.1, answer.2)

/-- What the slot does to a list of inputs. -/
def acts (given : List (SlaveInput β)) : List (SlaveAct β) :=
  (a.protocol.acts (a.inputs given)).map logged

/-- The slot after a list of inputs. -/
def slot (given : List (SlaveInput β)) : Option ModbusMessageInfo :=
  a.protocol.slot (a.inputs given)

/-- A frame answers a request: it is that of a message which has the actor's own source id and
the request's transaction id. -/
def Answers (info : ModbusMessageInfo) (answer : Option (ModbusMessage (Option β)) × β) : Prop :=
  ∃ message, answer.1 = some message ∧ message.modbusMessageInfo.sourceId = a.id ∧
    message.modbusMessageInfo.transactionId = info.transactionId ∧ a.frame message = some answer.2

variable {a}

@[simp] theorem accepts_protocol {info : ModbusMessageInfo}
    {message : ModbusMessage (Option β)} :
    a.protocol.accepts info message = true ↔ message.modbusMessageInfo.sourceId = a.id ∧
      message.modbusMessageInfo.transactionId = info.transactionId :=
  decide_eq_true_iff

theorem inputsFrom_concat (is : List (SlaveInput β)) (i : SlaveInput β) :
    ∀ last, a.inputsFrom last (is ++ [i]) =
      a.inputsFrom last is ++ [a.input (is.foldl a.nextId last) i] := by
  induction is with
  | nil => intro last; rfl
  | cons j is ih =>
    intro last
    rw [List.cons_append, inputsFrom, inputsFrom, ih, List.foldl_cons, List.cons_append]

@[simp] theorem inputs_concat (is : List (SlaveInput β)) (i : SlaveInput β) :
    a.inputs (is ++ [i]) = a.inputs is ++ [a.input (a.lastId is) i] :=
  inputsFrom_concat is i 0

@[simp] theorem lastId_concat (is : List (SlaveInput β)) (i : SlaveInput β) :
    a.lastId (is ++ [i]) = a.nextId (a.lastId is) i := by
  rw [lastId, List.foldl_append]
  rfl

theorem slot_concat (is : List (SlaveInput β)) (i : SlaveInput β) :
    a.slot (is ++ [i]) = a.protocol.next (a.slot is) (a.input (a.lastId is) i) := by
  rw [slot, inputs_concat, Protocol.slot_concat]
  rfl

theorem acts_concat (is : List (SlaveInput β)) (i : SlaveInput β) :
    a.acts (is ++ [i]) = a.acts is ++
      (a.protocol.act (a.slot is) (a.input (a.lastId is) i)).toList.map logged := by
  rw [acts, inputs_concat, Protocol.acts_concat, List.map_append]
  rfl

/-- What the slot accepts is what the actor accepts. -/
theorem accepted_input (last : TransactionId) (i : SlaveInput β) :
    (a.input last i).accepted = a.accepts i := by
  cases i with
  | block data now => exact a.isSome_makeInfo last data now
  | message message => rfl

/-- A block that is refused takes no transaction id. -/
theorem nextId_of_not_accepts {last : TransactionId} {i : SlaveInput β}
    (h : ¬ a.accepts i = true) : a.nextId last i = last := by
  cases i with
  | block data now =>
    have hnone : a.makeInfo last data now = none := by
      rw [← Option.not_isSome_iff_eq_none, a.isSome_makeInfo]
      exact h
    rw [nextId, hnone]
    rfl
  | message message => rfl

theorem inputsFrom_filter (is : List (SlaveInput β)) :
    ∀ last, a.inputsFrom last (is.filter a.accepts) =
      (a.inputsFrom last is).filter Input.accepted := by
  induction is with
  | nil => intro last; rfl
  | cons i is ih =>
    intro last
    rw [inputsFrom]
    by_cases hi : a.accepts i = true
    · have hi' : (a.input last i).accepted = true := by rw [accepted_input, hi]
      rw [List.filter_cons_of_pos hi, List.filter_cons_of_pos hi', inputsFrom, ih]
    · have hi' : ¬ (a.input last i).accepted = true := by rw [accepted_input]; exact hi
      rw [List.filter_cons_of_neg hi, List.filter_cons_of_neg hi', ih, nextId_of_not_accepts hi]

/-- **A block that is refused leaves the slot as it is, then and later.** -/
theorem slot_filter (is : List (SlaveInput β)) : a.slot (is.filter a.accepts) = a.slot is := by
  rw [slot, inputs, inputsFrom_filter, Protocol.slot_filter]
  rfl

/-- **A block that is refused does nothing, then or later.** -/
theorem acts_filter (is : List (SlaveInput β)) : a.acts (is.filter a.accepts) = a.acts is := by
  rw [acts, inputs, inputsFrom_filter, Protocol.acts_filter]
  rfl

/-- What has been given and accepted decides the slot and the actions. -/
theorem slot_acts_congr {is is' : List (SlaveInput β)}
    (h : is.filter a.accepts = is'.filter a.accepts) :
    a.slot is = a.slot is' ∧ a.acts is = a.acts is' := by
  constructor
  · rw [← slot_filter, h, slot_filter]
  · rw [← acts_filter, h, acts_filter]

/-- The latest request is the last one that has been accepted. -/
theorem getLast?_starts (is : List (SlaveInput β)) :
    (starts (a.acts is)).getLast? = (latest (a.inputs is)).map Prod.fst := by
  have hstarts : starts (a.acts is) = starts (a.protocol.acts (a.inputs is)) := starts_map _ _
  rw [hstarts, Protocol.getLast?_starts]

/-- What is written answers the request in the slot, and empties it. -/
theorem paired (is : List (SlaveInput β)) : Paired a.Answers (a.acts is) (a.slot is) := by
  refine (Protocol.paired (p := a.protocol) (a.inputs is)).map _ ?_
  rintro info ⟨message, f⟩ ⟨haccepts, hframe⟩
  obtain ⟨hsource, htransaction⟩ := accepts_protocol.mp haccepts
  exact ⟨message, rfl, hsource, htransaction, hframe⟩

/-- What a step of an actor can do to its slot and to the log, when the latest transaction id
is `last`. -/
inductive Moves (a : SlaveActor β) (last : TransactionId) : Option ModbusMessageInfo →
    Option (SlaveInput β) → Option ModbusMessageInfo → List (SlaveAct β) → Prop
  | idle {slot} : Moves a last slot none slot []
  | refuse {slot data now} (h : a.makeInfo last data now = none) :
      Moves a last slot (some (.block data now)) slot []
  | accept {slot data now info} (h : a.makeInfo last data now = some info) :
      Moves a last slot (some (.block data now)) (some info) [.start info]
  | ignore {slot message} (h : ∀ info, slot = some info →
        ¬ (message.modbusMessageInfo.sourceId = a.id ∧
          message.modbusMessageInfo.transactionId = info.transactionId)) :
      Moves a last slot (some (.message message)) slot []
  | drop {info message} (hsource : message.modbusMessageInfo.sourceId = a.id)
      (htransaction : message.modbusMessageInfo.transactionId = info.transactionId)
      (hframe : a.frame message = none) :
      Moves a last (some info) (some (.message message)) none []
  | answer {info message f} (hsource : message.modbusMessageInfo.sourceId = a.id)
      (htransaction : message.modbusMessageInfo.transactionId = info.transactionId)
      (hframe : a.frame message = some f) :
      Moves a last (some info) (some (.message message)) none [.answer (some message, f)]

/-- Such a step accepts what the actor makes of a block. -/
theorem Moves.starts {last : TransactionId} {slot slot' : Option ModbusMessageInfo}
    {i : Option (SlaveInput β)} {new : List (SlaveAct β)} (h : a.Moves last slot i slot' new)
    {info : ModbusMessageInfo} (hinfo : info ∈ starts new) :
    ∃ data now, a.makeInfo last data now = some info := by
  cases h with
  | @accept _ data now info' h =>
    obtain rfl : info = info' := List.mem_singleton.mp hinfo
    exact ⟨data, now, h⟩
  | idle => cases hinfo
  | refuse _ => cases hinfo
  | ignore _ => cases hinfo
  | drop _ _ _ => cases hinfo
  | answer _ _ _ => cases hinfo

/-- Such a step writes the frame of a message exactly if the message matches the slot. -/
theorem Moves.answers {last : TransactionId} {slot slot' : Option ModbusMessageInfo}
    {i : Option (SlaveInput β)} {new : List (SlaveAct β)} (h : a.Moves last slot i slot' new) :
    (answers 0 new = [] ∧ ∀ info message f, slot = some info → i = some (.message message) →
      message.modbusMessageInfo.sourceId = a.id →
      message.modbusMessageInfo.transactionId = info.transactionId → a.frame message ≠ some f) ∨
    ∃ info message f, slot = some info ∧ i = some (.message message) ∧
      message.modbusMessageInfo.transactionId = info.transactionId ∧ a.frame message = some f ∧
      answers 0 new = [(0, some message, f)] := by
  cases h with
  | idle => exact Or.inl ⟨rfl, fun _ _ _ _ hi => by cases hi⟩
  | refuse _ => exact Or.inl ⟨rfl, fun _ _ _ _ hi => by cases hi⟩
  | accept _ => exact Or.inl ⟨rfl, fun _ _ _ _ hi => by cases hi⟩
  | ignore h =>
    refine Or.inl ⟨rfl, ?_⟩
    rintro info _ f hslot ⟨⟩ hsource htransaction
    exact absurd ⟨hsource, htransaction⟩ (h info hslot)
  | drop _ _ hframe =>
    refine Or.inl ⟨rfl, ?_⟩
    rintro _ _ f - ⟨⟩ - - hsome
    rw [hframe] at hsome
    cases hsome
  | @answer info message f _ htransaction hframe =>
    exact Or.inr ⟨info, message, f, rfl, rfl, htransaction, hframe, rfl⟩

/-- **Such a step is what the slot does.** -/
theorem Moves.slot_acts {given : List (SlaveInput β)} {i : Option (SlaveInput β)}
    {slot : Option ModbusMessageInfo} {new : List (SlaveAct β)}
    (h : a.Moves (a.lastId given) (a.slot given) i slot new) :
    slot = a.slot (given ++ i.toList) ∧ a.acts given ++ new = a.acts (given ++ i.toList) := by
  generalize hold : a.slot given = old at h
  cases h with
  | idle => simp [hold]
  | refuse h => simp [slot_concat, acts_concat, hold, input, h, Protocol.next, Protocol.act]
  | accept h =>
    simp [slot_concat, acts_concat, input, h, Protocol.next, Protocol.act, logged, Act.map]
  | @ignore _ message h =>
    have hmatch : slot.any (a.protocol.accepts · message) = false := by
      rw [Option.any_eq_false]
      intro info hinfo
      exact Bool.eq_false_iff.mpr fun haccepts => h info hinfo (accepts_protocol.mp haccepts)
    simp [slot_concat, acts_concat, hold, input, Protocol.next, Protocol.act, Protocol.output,
      hmatch]
  | drop hsource htransaction hframe =>
    have hframe' : a.protocol.frame _ = none := hframe
    simp [slot_concat, acts_concat, hold, input, Protocol.next, Protocol.act, Protocol.output,
      accepts_protocol, hsource, htransaction, hframe']
  | answer hsource htransaction hframe =>
    have hframe' : a.protocol.frame _ = some _ := hframe
    simp [slot_concat, acts_concat, hold, input, Protocol.next, Protocol.act, Protocol.output,
      accepts_protocol, hsource, htransaction, hframe', logged, Act.map]

end SlaveActor

/-- The answers of a log follow its requests. -/
structure AnswersRequests (a : SlaveActor β) (log : List (SlaveAct β)) : Prop where
  /-- Every frame answers the latest request accepted before it. -/
  follows : ∀ p ∈ answers 0 log, ∃ k info, p.1 = k + 1 ∧ (starts log)[k]? = some info ∧
    a.Answers info p.2
  /-- Each request is answered at most once. -/
  once : ((answers 0 log).map Prod.fst).Pairwise (· < ·)
  /-- The frames never outnumber the requests. -/
  bounded : (answers 0 log).length ≤ (starts log).length

/-- The answers of a slot follow its requests. -/
theorem SlaveActor.answersRequests (a : SlaveActor β) (is : List (SlaveInput β)) :
    AnswersRequests a (a.acts is) where
  follows := (a.paired is).answer_spec
  once := (a.paired is).answers_pairwise
  bounded := Nat.le_of_add_right_le (a.paired is).length_answers

/-! ### The TCP connection -/

/-- What an effect is in the log, if it happens while `message` is handled. -/
def ConnectionEffect.act (message : Option (ModbusMessage (Option β))) :
    ConnectionEffect β → Option (SlaveAct β)
  | .send _ request => some (.start request.modbusMessageInfo)
  | .disconnect _ _ => none
  | .write modbusBuffer => some (.answer (message, modbusBuffer))

namespace ModbusTcpConnection

variable {mb : Modbus β} {router : Router}

/-- A connection as an actor on the slave side. -/
def actor (mb : Modbus β) (id : ActorId) : SlaveActor β where
  id := id
  makeInfo _ data now := (makeRequest mb data id now).map (·.modbusMessageInfo)
  frame message := message.modbusBuffer.map (mb.toTcp · message.modbusMessageInfo.transactionId)
  isSome_makeInfo _ _ _ := rfl

/-- The events of a session. -/
inductive SessionEvent (β : Type)
  /-- An event of the connection's socket. -/
  | io (e : Event)
  /-- The exchange calls `Receive` with a `ModbusMessage`. -/
  | receive (message : ModbusMessage (Option β))
  /-- `Stop()`. -/
  | stop
  deriving DecidableEq, Repr

/-- The message that is handled in an event. -/
def SessionEvent.message : SessionEvent β → Option (ModbusMessage (Option β))
  | .receive message => some message
  | _ => none

/-- A connection after an event of its session. -/
def fire (mb : Modbus β) (router : Router) (c : ModbusTcpConnection β) :
    SessionEvent β → Option (ModbusTcpConnection β)
  | .io e => c.step mb router e
  | .receive message => some (c.startSendTask mb message)
  | .stop => some c.stop

/-- What an event gives to a connection. -/
def given (c : ModbusTcpConnection β) : SessionEvent β → Option (SlaveInput β)
  | .io (.complete _ _) => none
  | .io (.handle i now _) =>
    match c.socket.ops.take i with
    | some (.receive, result, _) => if result.ec.failed then none else some (.block result.data now)
    | _ => none
  | .receive message => some (.message message)
  | .stop => none

section Given

variable {c : ModbusTcpConnection β} {i : ℕ} {ops : Pool (ConnectionOp β) Completion}
  {now : Nanoseconds} {pastEnd : ActorId}

theorem given_sent {modbusBuffer : β} {result : Completion}
    (ht : c.socket.ops.take i = some (.send modbusBuffer, result, ops)) :
    c.given (.io (.handle i now pastEnd)) = none := by
  simp only [given, ht]

theorem given_failed {result : Completion}
    (ht : c.socket.ops.take i = some (.receive, result, ops)) (hec : result.ec ≠ .success) :
    c.given (.io (.handle i now pastEnd)) = none := by
  simp only [given, ht, ErrorCode.failed_eq_true.mpr hec, if_true]

theorem given_block {data : List UInt8}
    (ht : c.socket.ops.take i = some (.receive, ⟨.success, data⟩, ops)) :
    c.given (.io (.handle i now pastEnd)) = some (.block data now) := by
  simp only [given, ht, ErrorCode.failed_success, Bool.false_eq_true, if_false]

end Given

/-- A connection, what it has been given, and its log. -/
structure Session (β : Type) where
  connection : ModbusTcpConnection β
  given : List (SlaveInput β)
  log : List (SlaveAct β)

/-- A connection that has been started. -/
def Session.new (serverId id : ActorId) : Session β :=
  ⟨(ModbusTcpConnection.new serverId id).startReceiveTask, [], []⟩

/-- The step function of a session. -/
def Session.step (mb : Modbus β) (router : Router) (s : Session β) (e : SessionEvent β) :
    Option (Session β) :=
  (s.connection.fire mb router e).map fun c =>
    { connection := c
      given := s.given ++ (s.connection.given e).toList
      log := s.log ++
        (c.effects.drop s.connection.effects.length).filterMap (ConnectionEffect.act e.message) }

/-- **What a step of a connection does is what an actor on the slave side does.** -/
theorem fire_moves {c c' : ModbusTcpConnection β} {e : SessionEvent β}
    (hx : c.exchange = true) (h : c.fire mb router e = some c') (last : TransactionId) :
    c'.exchange = true ∧ c'.id = c.id ∧ ∃ new, c'.effects = c.effects ++ new ∧
      (actor mb c.id).Moves last c.syncRequestInfo (c.given e) c'.syncRequestInfo
        (new.filterMap (ConnectionEffect.act e.message)) := by
  cases e with
  | stop =>
    obtain rfl := Option.some.inj h
    exact ⟨hx, rfl, [], (List.append_nil _).symm, .idle⟩
  | receive message =>
    obtain rfl := Option.some.inj h
    rcases startSendTask_cases mb c message with ⟨heq, hrefused⟩ |
      ⟨lastInfo, hid, hinfo, htid, hbuffer, heq⟩ |
      ⟨lastInfo, modbusBuffer, hid, hinfo, htid, hbuffer, heq⟩ <;> rw [heq]
    · exact ⟨hx, rfl, [], (List.append_nil _).symm, .ignore hrefused⟩
    · refine ⟨hx, rfl, [], (List.append_nil _).symm, ?_⟩
      rw [hinfo]
      exact .drop hid htid (by simp [actor, hbuffer])
    · refine ⟨hx, rfl, _, rfl, ?_⟩
      rw [hinfo]
      exact .answer hid htid (by simp [actor, hbuffer])
  | io e =>
    cases step_branch h with
    | complete hops => exact ⟨hx, rfl, [], (List.append_nil _).symm, .idle⟩
    | sent ht =>
      rw [given_sent ht]
      exact ⟨hx, rfl, [], (List.append_nil _).symm, .idle⟩
    | detached ht hx' => exact absurd (hx'.symm.trans hx) Bool.false_ne_true
    | gone ht hec =>
      rw [given_failed ht hec]
      exact ⟨hx, rfl, _, rfl, .idle⟩
    | receiveFailed ht hec =>
      rw [given_failed ht hec]
      exact ⟨hx, rfl, [], (List.append_nil _).symm, .idle⟩
    | refused ht hreq =>
      rw [given_block ht]
      exact ⟨hx, rfl, [], (List.append_nil _).symm, .refuse (congrArg (Option.map _) hreq)⟩
    | accepted ht hreq =>
      rw [given_block ht]
      exact ⟨hx, rfl, _, rfl, .accept (congrArg (Option.map _) hreq)⟩

namespace Session

/-- A session has done what its slot has. -/
structure Follows (mb : Modbus β) (id : ActorId) (s : Session β) : Prop where
  exchange : s.connection.exchange = true
  connection_id : s.connection.id = id
  slot : s.connection.syncRequestInfo = (actor mb id).slot s.given
  log : s.log = (actor mb id).acts s.given

theorem follows_new (serverId id : ActorId) : (new serverId id : Session β).Follows mb id :=
  ⟨rfl, rfl, rfl, rfl⟩

/-- What a step of a session adds to its log is what its actor does. -/
theorem step_moves {id : ActorId} {s s' : Session β} {e : SessionEvent β}
    (h : s.Follows mb id) (hs : s.step mb router e = some s') :
    ∃ new, s'.log = s.log ++ new ∧ (actor mb id).Moves ((actor mb id).lastId s.given)
      s.connection.syncRequestInfo (s.connection.given e) s'.connection.syncRequestInfo new := by
  obtain ⟨c', hfire, rfl⟩ := Option.map_eq_some_iff.mp hs
  obtain ⟨-, -, new, heffects, hmoves⟩ :=
    fire_moves h.exchange hfire ((actor mb id).lastId s.given)
  rw [h.connection_id] at hmoves
  refine ⟨_, ?_, hmoves⟩
  rw [heffects, List.drop_left]

theorem follows_step {id : ActorId} {s s' : Session β} {e : SessionEvent β}
    (h : s.Follows mb id) (hs : s.step mb router e = some s') : s'.Follows mb id := by
  obtain ⟨new, hlog, hmoves⟩ := step_moves h hs
  obtain ⟨c', hfire, rfl⟩ := Option.map_eq_some_iff.mp hs
  obtain ⟨hx, hid, -⟩ := fire_moves h.exchange hfire 0
  rw [h.slot] at hmoves
  obtain ⟨hslot, hacts⟩ := hmoves.slot_acts
  refine ⟨hx, hid.trans h.connection_id, hslot, ?_⟩
  rw [hlog, h.log, hacts]

theorem follows_exec {serverId id : ActorId} {es : List (SessionEvent β)} {s : Session β}
    (h : exec (step mb router) (new serverId id) es = some s) : s.Follows mb id :=
  invariant (fun _ _ _ hs => follows_step hs) es _ s (follows_new serverId id) h

end Session

end ModbusTcpConnection

/-! ### The RTU slave -/

/-- What an effect is in the log, if it happens while `message` is handled. -/
def SlaveEffect.act (message : Option (ModbusMessage (Option β))) :
    SlaveEffect β → Option (SlaveAct β)
  | .send _ request => some (.start request.modbusMessageInfo)
  | .write modbusBuffer => some (.answer (message, modbusBuffer))

namespace ModbusRtuSlave

variable {mb : Modbus β} {router : Router}

/-- A slave as an actor. -/
def actor (mb : Modbus β) (id : ActorId) (frameType : FrameType) : SlaveActor β where
  id := id
  makeInfo last data now :=
    (makeRequest mb { new id frameType with idGenerator := last } data now).1.map
      (·.modbusMessageInfo)
  frame message := message.modbusBuffer.map fun modbusBuffer =>
    mb.update (mb.convertTo frameType modbusBuffer)
  isSome_makeInfo last data now := by
    unfold makeRequest
    cases mb.read (new id frameType : ModbusRtuSlave β).frameType data with
    | none => rfl
    | some modbusBuffer =>
      by_cases hcheck : mb.check modbusBuffer ≠ .NoError
      · simp only [if_pos hcheck]
      · simp only [if_neg hcheck, Option.map_some, Option.isSome_some]

/-- The request a slave makes of a block is that of the actor. -/
theorem makeInfo_actor (mb : Modbus β) (s : ModbusRtuSlave β) (data : List UInt8)
    (now : Nanoseconds) :
    (actor mb s.id s.frameType).makeInfo s.idGenerator data now =
      (s.makeRequest mb data now).1.map (·.modbusMessageInfo) := by
  unfold actor makeRequest
  cases hread : mb.read s.frameType data with
  | none => simp [new, hread]
  | some modbusBuffer =>
    by_cases hcheck : mb.check modbusBuffer ≠ .NoError
    · simp [new, hread, hcheck]
    · simp [new, hread, hcheck]

/-- The events of a session. -/
inductive SessionEvent (β : Type)
  /-- An event of the slave's serial port. -/
  | io (e : Event)
  /-- The exchange calls `Receive` with a `ModbusMessage`. -/
  | receive (message : ModbusMessage (Option β))
  /-- `Stop()`. -/
  | stop
  deriving DecidableEq, Repr

/-- The message that is handled in an event. -/
def SessionEvent.message : SessionEvent β → Option (ModbusMessage (Option β))
  | .receive message => some message
  | _ => none

/-- A slave after an event of its session. -/
def fire (mb : Modbus β) (router : Router) (s : ModbusRtuSlave β) :
    SessionEvent β → Option (ModbusRtuSlave β)
  | .io e => s.step mb router e
  | .receive message => some (s.startWriteTask mb message)
  | .stop => some s.stop

/-- What an event gives to a slave. -/
def given (s : ModbusRtuSlave β) : SessionEvent β → Option (SlaveInput β)
  | .io (.complete _ _) => none
  | .io (.handle i now _) =>
    match s.serialPort.ops.take i with
    | some (.read, result, _) => if result.ec.failed then none else some (.block result.data now)
    | _ => none
  | .receive message => some (.message message)
  | .stop => none

section Given

variable {s : ModbusRtuSlave β} {i : ℕ} {ops : Pool (SlaveOp β) Completion}
  {now : Nanoseconds} {pastEnd : ActorId}

theorem given_written {modbusBuffer : β} {result : Completion}
    (ht : s.serialPort.ops.take i = some (.write modbusBuffer, result, ops)) :
    s.given (.io (.handle i now pastEnd)) = none := by
  simp only [given, ht]

theorem given_failed {result : Completion}
    (ht : s.serialPort.ops.take i = some (.read, result, ops)) (hec : result.ec ≠ .success) :
    s.given (.io (.handle i now pastEnd)) = none := by
  simp only [given, ht, ErrorCode.failed_eq_true.mpr hec, if_true]

theorem given_block {data : List UInt8}
    (ht : s.serialPort.ops.take i = some (.read, ⟨.success, data⟩, ops)) :
    s.given (.io (.handle i now pastEnd)) = some (.block data now) := by
  simp only [given, ht, ErrorCode.failed_success, Bool.false_eq_true, if_false]

end Given

/-- A slave, what it has been given, and its log. -/
structure Session (β : Type) where
  slave : ModbusRtuSlave β
  given : List (SlaveInput β)
  log : List (SlaveAct β)

/-- A slave that has been started. -/
def Session.new (id : ActorId) (frameType : FrameType) : Session β :=
  ⟨(ModbusRtuSlave.new id frameType).start, [], []⟩

/-- The step function of a session. -/
def Session.step (mb : Modbus β) (router : Router) (s : Session β) (e : SessionEvent β) :
    Option (Session β) :=
  (s.slave.fire mb router e).map fun slave =>
    { slave := slave
      given := s.given ++ (s.slave.given e).toList
      log := s.log ++
        (slave.effects.drop s.slave.effects.length).filterMap (SlaveEffect.act e.message) }

/-- **What a step of a slave does is what an actor on the slave side does.** -/
theorem fire_moves {s s' : ModbusRtuSlave β} {e : SessionEvent β}
    (hx : s.exchange = true) (h : s.fire mb router e = some s') :
    s'.exchange = true ∧ s'.id = s.id ∧ s'.frameType = s.frameType ∧
      s'.idGenerator = ((s.given e).map ((actor mb s.id s.frameType).nextId s.idGenerator)).getD
        s.idGenerator ∧
      ∃ new, s'.effects = s.effects ++ new ∧
        (actor mb s.id s.frameType).Moves s.idGenerator s.syncRequestInfo (s.given e)
          s'.syncRequestInfo (new.filterMap (SlaveEffect.act e.message)) := by
  cases e with
  | stop =>
    obtain rfl := Option.some.inj h
    exact ⟨hx, rfl, rfl, rfl, [], (List.append_nil _).symm, .idle⟩
  | receive message =>
    obtain rfl := Option.some.inj h
    rcases startWriteTask_cases mb s message with ⟨heq, hrefused⟩ |
      ⟨lastInfo, hid, hinfo, htid, hbuffer, heq⟩ |
      ⟨lastInfo, modbusBuffer, hid, hinfo, htid, hbuffer, heq⟩ <;> rw [heq]
    · exact ⟨hx, rfl, rfl, rfl, [], (List.append_nil _).symm, .ignore hrefused⟩
    · refine ⟨hx, rfl, rfl, rfl, [], (List.append_nil _).symm, ?_⟩
      rw [hinfo]
      exact .drop hid htid (by simp [actor, hbuffer])
    · refine ⟨hx, rfl, rfl, rfl, _, rfl, ?_⟩
      rw [hinfo]
      exact .answer hid htid (by simp [actor, hbuffer])
  | io e =>
    cases step_branch h with
    | complete hops => exact ⟨hx, rfl, rfl, rfl, [], (List.append_nil _).symm, .idle⟩
    | written ht =>
      rw [given_written ht]
      exact ⟨hx, rfl, rfl, rfl, [], (List.append_nil _).symm, .idle⟩
    | detached ht hx' => exact absurd (hx'.symm.trans hx) Bool.false_ne_true
    | gone ht hec =>
      rw [given_failed ht hec]
      exact ⟨hx, rfl, rfl, rfl, [], (List.append_nil _).symm, .idle⟩
    | readFailed ht hec =>
      rw [given_failed ht hec]
      exact ⟨hx, rfl, rfl, rfl, [], (List.append_nil _).symm, .idle⟩
    | @refused i data ops now ht hreq pastEnd =>
      have hmake : (actor mb s.id s.frameType).makeInfo s.idGenerator data now = none :=
        (makeInfo_actor mb (s.withOps ops) data now).trans (congrArg (Option.map _) hreq)
      rw [given_block ht]
      refine ⟨hx, rfl, rfl, ?_, [], (List.append_nil _).symm, .refuse hmake⟩
      simp [SlaveActor.nextId, hmake, startReadTask, withOps]
    | @accepted i data ops now message ht hreq pastEnd =>
      have hmake : (actor mb s.id s.frameType).makeInfo s.idGenerator data now =
          some message.modbusMessageInfo :=
        (makeInfo_actor mb (s.withOps ops) data now).trans (congrArg (Option.map _) hreq)
      rw [given_block ht]
      refine ⟨hx, rfl, rfl, ?_, _, rfl, .accept hmake⟩
      simp [SlaveActor.nextId, hmake, startReadTask, note]

namespace Session

/-- A session has done what its slot has. -/
structure Follows (mb : Modbus β) (id : ActorId) (frameType : FrameType) (s : Session β) :
    Prop where
  exchange : s.slave.exchange = true
  slave_id : s.slave.id = id
  slave_frameType : s.slave.frameType = frameType
  idGenerator : s.slave.idGenerator = (actor mb id frameType).lastId s.given
  slot : s.slave.syncRequestInfo = (actor mb id frameType).slot s.given
  log : s.log = (actor mb id frameType).acts s.given

variable {id : ActorId} {frameType : FrameType}

theorem follows_new (id : ActorId) (frameType : FrameType) :
    (new id frameType : Session β).Follows mb id frameType :=
  ⟨rfl, rfl, rfl, rfl, rfl, rfl⟩

theorem follows_step {s s' : Session β} {e : SessionEvent β} (h : s.Follows mb id frameType)
    (hs : s.step mb router e = some s') : s'.Follows mb id frameType := by
  obtain ⟨slave, hfire, rfl⟩ := Option.map_eq_some_iff.mp hs
  obtain ⟨hx, hid, htype, hlast, new, heffects, hmoves⟩ := fire_moves h.exchange hfire
  rw [h.slave_id, h.slave_frameType, h.idGenerator] at hlast
  rw [h.slave_id, h.slave_frameType, h.idGenerator, h.slot] at hmoves
  obtain ⟨hslot, hlog⟩ := hmoves.slot_acts
  refine ⟨hx, hid.trans h.slave_id, htype.trans h.slave_frameType, ?_, hslot, ?_⟩
  · rw [hlast]
    cases s.slave.given e <;> simp
  · rw [heffects, List.drop_left, h.log, hlog]

theorem follows_exec {es : List (SessionEvent β)} {s : Session β}
    (h : exec (step mb router) (new id frameType) es = some s) : s.Follows mb id frameType :=
  invariant (fun _ _ _ hs => follows_step hs) es _ s (follows_new id frameType) h

end Session

end ModbusRtuSlave

/-! ### The sessions of both -/

/-- What is written in a log of a connection bears the transaction id it answers. -/
theorem ModbusTcpConnection.getTransactionId_of_answers {mb : Modbus β} (hmb : mb.Lawful)
    {id : ActorId} {info : ModbusMessageInfo}
    {answer : Option (ModbusMessage (Option β)) × β} (h : (actor mb id).Answers info answer) :
    mb.getTransactionId answer.2 = info.transactionId := by
  obtain ⟨message, -, -, htransaction, hframe⟩ := h
  obtain ⟨modbusBuffer, -, hbuffer⟩ := Option.map_eq_some_iff.mp hframe
  rw [← hbuffer, hmb.getTransactionId_toTcp, htransaction]

/-- **Answers follow requests on the slave side.**  In every session each frame written
answers a message with the actor's own source id and the transaction id of the latest
request accepted, no request is answered twice, and what the actor does depends on the
messages and the blocks it accepts, so that a block it refuses changes nothing.  A frame
that a connection writes bears that transaction id. -/
theorem answersRequests_exec {β : Type} (mb : Modbus β) (router : Router) (id : ActorId) :
    (∀ serverId es s,
      exec (ModbusTcpConnection.Session.step mb router) (.new serverId id) es = some s →
      AnswersRequests (ModbusTcpConnection.actor mb id) s.log ∧
      (mb.Lawful → ∀ p ∈ answers 0 s.log, ∃ k info, p.1 = k + 1 ∧ (starts s.log)[k]? = some info ∧
        mb.getTransactionId p.2.2 = info.transactionId) ∧
      ∀ es' s', exec (ModbusTcpConnection.Session.step mb router) (.new serverId id) es' = some s' →
        s.given.filter (ModbusTcpConnection.actor mb id).accepts =
          s'.given.filter (ModbusTcpConnection.actor mb id).accepts →
        s.connection.syncRequestInfo = s'.connection.syncRequestInfo ∧ s.log = s'.log) ∧
    (∀ frameType es s,
      exec (ModbusRtuSlave.Session.step mb router) (.new id frameType) es = some s →
      AnswersRequests (ModbusRtuSlave.actor mb id frameType) s.log ∧
      ∀ es' s', exec (ModbusRtuSlave.Session.step mb router) (.new id frameType) es' = some s' →
        s.given.filter (ModbusRtuSlave.actor mb id frameType).accepts =
          s'.given.filter (ModbusRtuSlave.actor mb id frameType).accepts →
        s.slave.syncRequestInfo = s'.slave.syncRequestInfo ∧ s.log = s'.log) := by
  constructor
  · intro serverId es s hrun
    have h := ModbusTcpConnection.Session.follows_exec hrun
    have hanswers := (ModbusTcpConnection.actor mb id).answersRequests s.given
    rw [← h.log] at hanswers
    refine ⟨hanswers, ?_, ?_⟩
    · intro hmb p hp
      obtain ⟨k, info, hk, hget, hframe⟩ := hanswers.follows p hp
      exact ⟨k, info, hk, hget, ModbusTcpConnection.getTransactionId_of_answers hmb hframe⟩
    · intro es' s' hrun' hgiven
      have h' := ModbusTcpConnection.Session.follows_exec hrun'
      rw [h.slot, h'.slot, h.log, h'.log]
      exact SlaveActor.slot_acts_congr hgiven
  · intro frameType es s hrun
    have h := ModbusRtuSlave.Session.follows_exec hrun
    have hanswers := (ModbusRtuSlave.actor mb id frameType).answersRequests s.given
    rw [← h.log] at hanswers
    refine ⟨hanswers, ?_⟩
    intro es' s' hrun' hgiven
    have h' := ModbusRtuSlave.Session.follows_exec hrun'
    rw [h.slot, h'.slot, h.log, h'.log]
    exact SlaveActor.slot_acts_congr hgiven

/-- A session of a connection: a request, the given blocks, and the answer. -/
def ModbusTcpConnection.answered (blocks : List (List UInt8)) :
    Option (ModbusTcpConnection.Session Frame) :=
  exec (ModbusTcpConnection.Session.step Frame.library (.new 2)) (.new 1 5) <|
    ((Frame.tcp 9 1 [3, 0, 0, 0, 1]).bytes :: blocks).flatMap (fun data =>
      [.io (.complete 0 ⟨.success, data⟩), .io (.handle 0 0 0)]) ++
    [.receive ⟨.new 0 5 9, some (Frame.rtu 1 [3, 2, 0, 7])⟩]

/-- A session of a slave: a request, the given blocks, and the answer. -/
def ModbusRtuSlave.answered (blocks : List (List UInt8)) : Option (ModbusRtuSlave.Session Frame) :=
  exec (ModbusRtuSlave.Session.step Frame.library (.new 2)) (.new 5 .RTU) <|
    ((Frame.rtu 1 [3, 0, 0, 0, 1]).bytes :: blocks).flatMap (fun data =>
      [.io (.complete 0 ⟨.success, data⟩), .io (.handle 0 0 0)]) ++
    [.receive ⟨.new 0 5 1, some (Frame.tcp 9 1 [3, 2, 0, 7])⟩]

/-- A request and its answer, with and without a block in between that is refused. -/
theorem answersRequests_refused :
    ∃ c c' m m',
      ModbusTcpConnection.answered [[1, 2, 3]] = some c ∧
      ModbusTcpConnection.answered [] = some c' ∧
      ModbusRtuSlave.answered [[1, 2, 3]] = some m ∧ ModbusRtuSlave.answered [] = some m' ∧
      AnswersRequests (ModbusTcpConnection.actor Frame.library 5) c.log ∧ c.log = c'.log ∧
      AnswersRequests (ModbusRtuSlave.actor Frame.library 5 .RTU) m.log ∧ m.log = m'.log ∧
      (answers 0 c.log).length = 1 ∧ (answers 0 m.log).length = 1 := by
  have hc : (ModbusTcpConnection.answered [[1, 2, 3]]).isSome = true := by decide +kernel
  have hm : (ModbusRtuSlave.answered [[1, 2, 3]]).isSome = true := by decide +kernel
  have hc' : (ModbusTcpConnection.answered [[1, 2, 3]]).map (fun c => (c.given.filter
      (ModbusTcpConnection.actor Frame.library 5).accepts, (answers 0 c.log).length)) =
      (ModbusTcpConnection.answered []).map (fun c => (c.given.filter
        (ModbusTcpConnection.actor Frame.library 5).accepts, 1)) := by decide +kernel
  have hm' : (ModbusRtuSlave.answered [[1, 2, 3]]).map (fun m => (m.given.filter
      (ModbusRtuSlave.actor Frame.library 5 .RTU).accepts, (answers 0 m.log).length)) =
      (ModbusRtuSlave.answered []).map (fun m => (m.given.filter
        (ModbusRtuSlave.actor Frame.library 5 .RTU).accepts, 1)) := by decide +kernel
  obtain ⟨c, hc⟩ := Option.isSome_iff_exists.mp hc
  obtain ⟨m, hm⟩ := Option.isSome_iff_exists.mp hm
  obtain ⟨c', hc'', hgiven⟩ := Option.map_eq_some_iff.mp (hc'.symm.trans (by rw [hc]; rfl))
  obtain ⟨m', hm'', hgiven'⟩ := Option.map_eq_some_iff.mp (hm'.symm.trans (by rw [hm]; rfl))
  obtain ⟨hfilter, hlength⟩ := Prod.mk.inj hgiven
  obtain ⟨hfilter', hlength'⟩ := Prod.mk.inj hgiven'
  obtain ⟨htcp, hrtu⟩ := answersRequests_exec Frame.library (.new 2) 5
  obtain ⟨hanswers, -, hsame⟩ := htcp 1 _ c hc
  obtain ⟨hanswers', hsame'⟩ := hrtu .RTU _ m hm
  exact ⟨c, c', m, m', hc, hc'', hm, hm'', hanswers, (hsame _ c' hc'' hfilter.symm).2,
    hanswers', (hsame' _ m' hm'' hfilter'.symm).2, hlength.symm, hlength'.symm⟩

end ModbusGateway
