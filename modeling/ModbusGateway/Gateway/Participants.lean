import ModbusGateway.Gateway.Network
import ModbusGateway.Transport.MasterHistory

/-!
# What the actors do with what they are given

An actor keeps its kind, its id and its invariant whatever happens to it, and only ever adds
to what it has done.  A master takes in every request it is sent; a slave writes at most
one frame for a message it is sent, its own re-framing of it, and only for a request it has
accepted before.

## Main definitions

* `Role` — the kind of an actor, with the frames it reads and writes.
* `Participant.Sound` — the invariant of an actor under an id.
* `Routed`, `Deed.Fits` — what an actor of a role may do.
* `Reaction` — what an actor makes of some messages.

## Main results

* `Participant.reaction_step` — **what an actor does by itself.**
* `Participant.reaction_receive` — **what an actor does with a message it is sent**, none of
  which it hands to the exchange.
-/

namespace ModbusGateway

open Proactor Execution Transaction

variable {β : Type}

/-! ### Roles -/

/-- The kind of an actor. -/
inductive Role
  | tcpClient
  | rtuMaster (frameType : FrameType)
  | tcpServer
  | connection
  | rtuSlave (frameType : FrameType)
  deriving DecidableEq, Repr

namespace Role

/-- The actors on the side of the devices. -/
def isMaster : Role → Bool
  | .tcpClient => true
  | .rtuMaster _ => true
  | _ => false

/-- A master is no connection. -/
theorem ne_connection {role : Role} (hrole : role.isMaster = true) : role ≠ .connection := by
  rintro rfl
  cases hrole

/-- The type of the frames that an actor reads and writes. -/
def frameType : Role → FrameType
  | .rtuMaster t => t
  | .rtuSlave t => t
  | _ => .TCP

/-- The blocks that an actor accepts. -/
def accept (mb : Modbus β) : Role → List UInt8 → Option β
  | .rtuMaster t => mb.accept mb.check t
  | .rtuSlave t => mb.accept mb.check t
  | _ => mb.accept mb.tcpCheck .TCP

/-- The frame in which a master writes a request. -/
def requestFrame (mb : Modbus β) : Role → ModbusMessage β → TransactionId → β
  | .rtuMaster t => ModbusRtuMaster.frame mb t
  | _ => ModbusTcpClient.frame mb

/-- The frame in which a slave writes a reply. -/
def replyFrame (mb : Modbus β) (role : Role) (message : ModbusMessage β) : β :=
  match role with
  | .rtuSlave t => mb.update (mb.convertTo t message.modbusBuffer)
  | _ => mb.toTcp message.modbusBuffer message.modbusMessageInfo.transactionId

/-- A request is carried over to the device. -/
theorem carries_requestFrame {mb : Modbus β} (hmb : mb.Reframes) {role : Role}
    (hrole : role.isMaster = true) (message : ModbusMessage β) (id : TransactionId) :
    mb.Carries role.frameType message.modbusBuffer (role.requestFrame mb message id) := by
  cases role with
  | tcpClient => exact hmb.toTcp _ _
  | rtuMaster t => exact hmb.update_convertTo t _
  | _ => cases hrole

/-- A reply is carried over to the client. -/
theorem carries_replyFrame {mb : Modbus β} (hmb : mb.Reframes) {role : Role}
    (hrole : role.isMaster = false) (message : ModbusMessage β) :
    mb.Carries role.frameType message.modbusBuffer (role.replyFrame mb message) := by
  cases role with
  | rtuSlave t => exact hmb.update_convertTo t _
  | connection => exact hmb.toTcp _ _
  | tcpServer => exact hmb.toTcp _ _
  | _ => cases hrole

end Role

/-- A request as an actor of the given role sends it on: under the actor's own id, to the actor
that the router names; a connection keeps the transaction id of its client. -/
structure Routed (mb : Modbus β) (router : Router) (role : Role) (id actorId : ActorId)
    (message : ModbusMessage β) : Prop where
  slave : role.isMaster = false
  source : message.modbusMessageInfo.sourceId = id
  routed : ∃ pastEnd, actorId = router.route (mb.getUnitId message.modbusBuffer) pastEnd
  transaction : role = .connection →
    message.modbusMessageInfo.transactionId = mb.getTransactionId message.modbusBuffer

/-- What an actor of the given role and id may do: only a master has effects of one, and they
are in order; a slave sends on requests as it should; and only a connection says that its client
is gone. -/
def Deed.Fits (mb : Modbus β) (router : Router) (role : Role) (id : ActorId) : Deed β → Prop
  | .master e => role.isMaster = true ∧ e.InOrder (role.requestFrame mb) (role.accept mb)
  | .connection (.send actorId message) | .rtuSlave (.send actorId message) =>
    Routed mb router role id actorId message
  | .connection (.disconnect _ message) => role = .connection ∧ message.clientId = id
  | _ => role.isMaster = false

/-- What a slave sends is a request that it sends on. -/
theorem Deed.Fits.routed {mb : Modbus β} {router : Router} {role : Role} {id actorId : ActorId}
    {d : Deed β} {message : ModbusMessage β} (h : d.Fits mb router role id)
    (hslave : role.isMaster = false) (hsent : d.sent = some (actorId, message)) :
    Routed mb router role id actorId message := by
  cases d with
  | master e =>
    rw [h.1] at hslave
    cases hslave
  | connection e =>
    cases e with
    | send _ _ =>
      obtain ⟨rfl, rfl⟩ := Prod.mk.inj (Option.some.inj hsent)
      exact h
    | _ => cases hsent
  | rtuSlave e =>
    cases e with
    | send _ _ =>
      obtain ⟨rfl, rfl⟩ := Prod.mk.inj (Option.some.inj hsent)
      exact h
    | _ => cases hsent

namespace Participant

/-- The kind of an actor. -/
def role : Participant β → Role
  | .tcpClient _ => .tcpClient
  | .rtuMaster m => .rtuMaster m.frameType
  | .tcpServer _ => .tcpServer
  | .connection _ => .connection
  | .rtuSlave s => .rtuSlave s.frameType

/-- What an actor shares with the others of its side: the queue of a master. -/
def view : Participant β → Option (MasterView β)
  | .tcpClient c => some c.view
  | .rtuMaster m => some m.view
  | _ => none

/-- How many of the requests it has accepted an actor would still answer. -/
def unanswered : Participant β → ℕ
  | .connection c => c.syncRequestInfo.toList.length
  | .rtuSlave s => s.syncRequestInfo.toList.length
  | _ => 0

/-- The invariant of an actor registered under an id. -/
def Sound (mb : Modbus β) (id : ActorId) : Participant β → Prop
  | .tcpClient c => c.Control ∧ c.History mb ∧
    c.view.Kept (ModbusTcpClient.frame mb) c.timeout
  | .rtuMaster m => m.Control ∧ m.Paired ∧
    m.view.Kept (ModbusRtuMaster.frame mb m.frameType) m.timeout
  | .tcpServer _ => True
  | .connection c => c.exchange = true ∧ c.id = id
  | .rtuSlave s => s.exchange = true ∧ s.id = id

end Participant

/-! ### Reactions -/

/-- What has been made of the messages received: a master takes every one of them in; a slave
writes some of them, in their order and in its own frame. -/
def Role.Digests (mb : Modbus β) (role : Role) (received : List (ModbusMessage β))
    (deeds : List (Deed β)) : Prop :=
  if role.isMaster then
    (deeds.filterMap Deed.effect).filterMap MasterEffect.arrival = received
  else (deeds.filterMap Deed.answer).Sublist (received.map (role.replyFrame mb))

namespace Role

variable {mb : Modbus β} {role : Role} {received received' : List (ModbusMessage β)}
  {deeds deeds' : List (Deed β)}

theorem digests_master (hrole : role.isMaster = true) : role.Digests mb received deeds ↔
    (deeds.filterMap Deed.effect).filterMap MasterEffect.arrival = received := by
  rw [Digests, if_pos hrole]

theorem digests_slave (hrole : role.isMaster = false) : role.Digests mb received deeds ↔
    (deeds.filterMap Deed.answer).Sublist (received.map (role.replyFrame mb)) := by
  rw [Digests, if_neg (by simp [hrole])]

theorem digests_nil (role : Role) : role.Digests mb [] ([] : List (Deed β)) := by
  unfold Digests
  split
  · rfl
  · exact List.Sublist.refl _

/-- What has been made of messages, and then of more of them. -/
theorem Digests.append (h : role.Digests mb received deeds)
    (h' : role.Digests mb received' deeds') :
    role.Digests mb (received ++ received') (deeds ++ deeds') := by
  cases hrole : role.isMaster with
  | true =>
    rw [digests_master hrole] at h h' ⊢
    rw [List.filterMap_append, List.filterMap_append, h, h']
  | false =>
    rw [digests_slave hrole] at h h' ⊢
    rw [List.filterMap_append, List.map_append]
    exact h.append h'

/-- A slave need not write what it receives. -/
theorem digests_ignored (hrole : role.isMaster = false) (received : List (ModbusMessage β)) :
    role.Digests mb received ([] : List (Deed β)) :=
  (digests_slave hrole).mpr (List.nil_sublist _)

end Role

/-- What an actor makes of the messages it has received, with what it does. -/
structure Reaction (mb : Modbus β) (router : Router) (id : ActorId) (p p' : Participant β)
    (new : List (Deed β)) (received : List (ModbusMessage β)) : Prop where
  sound : p'.Sound mb id
  role : p'.role = p.role
  deeds : p'.deeds = p.deeds ++ new
  fits : ∀ d ∈ new, d.Fits mb router p.role id
  digests : p.role.Digests mb received new
  /-- It answers what it has accepted at most. -/
  answers : (new.filterMap Deed.answer).length + p'.unanswered ≤
    (new.filterMap Deed.sent).length + p.unanswered

namespace Participant

variable {mb : Modbus β} {router : Router} {id : ActorId} {p p' : Participant β}

/-- A reaction that does nothing but change the state. -/
theorem reaction_silent (hsound : p'.Sound mb id) (hrole : p'.role = p.role)
    (hslave : p.role.isMaster = false) (hdeeds : p'.deeds = p.deeds)
    (hunanswered : p'.unanswered ≤ p.unanswered) (received : List (ModbusMessage β)) :
    Reaction mb router id p p' [] received where
  sound := hsound
  role := hrole
  deeds := by rw [hdeeds, List.append_nil]
  fits := List.forall_mem_nil _
  digests := Role.digests_ignored hslave received
  answers := by
    simp only [List.filterMap_nil, List.length_nil, Nat.zero_add]
    exact hunanswered

/-! ### The masters -/

/-- What a master adds to its history is its reaction. -/
theorem reaction_master {effects effects' : List (MasterEffect β)}
    {input : List (ModbusMessage β)} {accept : List UInt8 → Option β}
    (hsound : p'.Sound mb id) (hrole : p'.role = p.role) (hmaster : p.role.isMaster = true)
    (hdeeds : p.deeds = effects.map .master) (hdeeds' : p'.deeds = effects'.map .master)
    (hunanswered : p'.unanswered = 0)
    (haccept : ∀ data buffer, accept data = some buffer → p.role.accept mb data = some buffer)
    (hadds : Adds (p.role.requestFrame mb) accept effects effects' input) :
    ∃ new : List (MasterEffect β), Reaction mb router id p p' (new.map .master) input ∧
      ∀ e ∈ new, e.InOrder (p.role.requestFrame mb) accept := by
  obtain ⟨new, heq, horder, harrival⟩ := hadds
  have hanswer : (new.map Deed.master).filterMap Deed.answer = [] := by
    rw [List.filterMap_map]
    exact List.filterMap_eq_nil_iff.mpr fun _ _ => rfl
  have heffect : (new.map Deed.master).filterMap Deed.effect = new := by
    rw [List.filterMap_map]
    exact List.filterMap_some
  refine ⟨new, ⟨hsound, hrole, ?_, ?_, ?_, ?_⟩, horder⟩
  · rw [hdeeds', heq, List.map_append, ← hdeeds]
  · intro d hd
    obtain ⟨e, he, rfl⟩ := List.mem_map.mp hd
    exact ⟨hmaster, (horder e he).mono haccept⟩
  · rw [Role.digests_master hmaster, heffect, harrival]
  · rw [hanswer, hunanswered]
    exact Nat.zero_le _

theorem reaction_tcpClient (router : Router) {c c' : ModbusTcpClient β}
    {input : List (ModbusMessage β)} {accept : List UInt8 → Option β}
    (hsound : (tcpClient c').Sound mb id)
    (haccept : ∀ data buffer, accept data = some buffer →
      mb.accept mb.tcpCheck .TCP data = some buffer)
    (hadds : Adds (ModbusTcpClient.frame mb) accept c.effects c'.effects input) :
    ∃ new : List (MasterEffect β),
      Reaction mb router id (tcpClient c) (tcpClient c') (new.map .master) input ∧
      ∀ e ∈ new, e.InOrder (ModbusTcpClient.frame mb) accept := by
  refine reaction_master hsound ?_ ?_ ?_ ?_ ?_ haccept hadds <;> rfl

theorem reaction_rtuMaster (router : Router) {m m' : ModbusRtuMaster β}
    {input : List (ModbusMessage β)} {accept : List UInt8 → Option β}
    (hsound : (rtuMaster m').Sound mb id) (htype : m'.frameType = m.frameType)
    (haccept : ∀ data buffer, accept data = some buffer →
      mb.accept mb.check m.frameType data = some buffer)
    (hadds : Adds (ModbusRtuMaster.frame mb m.frameType) accept m.effects m'.effects input) :
    ∃ new : List (MasterEffect β),
      Reaction mb router id (rtuMaster m) (rtuMaster m') (new.map .master) input ∧
      ∀ e ∈ new, e.InOrder (ModbusRtuMaster.frame mb m.frameType) accept := by
  have hrole : (rtuMaster m').role = (rtuMaster m).role := congrArg Role.rtuMaster htype
  refine reaction_master hsound hrole ?_ ?_ ?_ ?_ haccept hadds <;> rfl

/-- An event of a master keeps its invariant. -/
theorem sound_tcpClient {c c' : ModbusTcpClient β} {e : ModbusTcpClient.Event β}
    (h : (tcpClient c).Sound mb id) (hs : ModbusTcpClient.step mb c e = some c') :
    (tcpClient c').Sound mb id := by
  obtain ⟨hctl, hhistory, hkept⟩ := h
  have hview := MasterView.kept_step hkept (ModbusTcpClient.view_step hctl hs)
  have htimeout : c'.timeout = c.timeout := hview.timeout
  rw [← htimeout] at hview
  exact ⟨ModbusTcpClient.control_step hctl hs,
    ModbusTcpClient.history_step hctl hhistory hs, hview⟩

theorem sound_rtuMaster {m m' : ModbusRtuMaster β} {e : ModbusRtuMaster.Event β}
    (h : (rtuMaster m).Sound mb id) (hs : ModbusRtuMaster.step mb m e = some m') :
    (rtuMaster m').Sound mb id := by
  obtain ⟨hctl, hpaired, hkept⟩ := h
  have hview := MasterView.kept_step hkept (ModbusRtuMaster.view_step hctl hs)
  have htimeout : m'.timeout = m.timeout := hview.timeout
  rw [← htimeout, ← ModbusRtuMaster.frameType_step hctl hs] at hview
  exact ⟨ModbusRtuMaster.control_step hctl hs, ModbusRtuMaster.paired_step hctl hpaired hs, hview⟩

/-- What a master hands to the exchange are its answers. -/
theorem filterMap_sent (effects : List (MasterEffect β)) :
    (effects.map Deed.master).filterMap Deed.sent = (answers 0 (acts effects)).map Prod.snd := by
  rw [map_snd_answers, acts, List.filterMap_filterMap, List.filterMap_map]
  refine List.filterMap_congr fun e _ => ?_
  cases e <;> rfl

/-- The history of a master: its answers are given to requests it has written, and it has
written requests that it has received, in their order. -/
theorem Sound.history (h : p.Sound mb id) (hmaster : p.role.isMaster = true) :
    ∃ effects : List (MasterEffect β), p.deeds = effects.map .master ∧
      (∃ o, Transaction.Paired AnswersTo (acts effects) o) ∧
      ((requests effects).map Prod.fst).Sublist (effects.filterMap MasterEffect.arrival) := by
  cases p with
  | tcpClient c =>
    obtain ⟨-, hhistory, hkept⟩ := h
    refine ⟨c.effects, rfl, hhistory.answersTo, ?_⟩
    have hserved := hkept.sound.orderly.served
    rw [MasterView.served_desk] at hserved
    exact hserved
  | rtuMaster m =>
    obtain ⟨-, hpaired, hkept⟩ := h
    refine ⟨m.effects, rfl, hpaired.answersTo, ?_⟩
    have hserved := hkept.sound.orderly.served
    rw [MasterView.served_desk] at hserved
    exact hserved
  | _ => cases hmaster

/-! ### The slaves -/

theorem silent_tcpServer (s s' : TcpServer) (received : List (ModbusMessage β)) :
    Reaction mb router id (tcpServer s) (tcpServer s') [] received := by
  apply reaction_silent
  · exact trivial
  · rfl
  · rfl
  · rfl
  · exact Nat.le_refl _

theorem silent_connection {c c' : ModbusTcpConnection β} (hsound : (connection c').Sound mb id)
    (heffects : c'.effects = c.effects) (hslot : c'.syncRequestInfo = c.syncRequestInfo)
    (received : List (ModbusMessage β)) :
    Reaction mb router id (connection c) (connection c') [] received := by
  refine reaction_silent hsound ?_ ?_ ?_ ?_ received
  · rfl
  · rfl
  · exact congrArg (List.map Deed.connection) heffects
  · rw [unanswered, hslot]
    exact Nat.le_refl _

/-- A connection by itself: nothing, the notice that its client is gone, or a request that it
has accepted. -/
theorem reaction_connection {c c' : ModbusTcpConnection β} {e : ModbusTcpConnection.Event}
    (h : (connection c).Sound mb id) (hs : c.step mb router e = some c') :
    ∃ new, Reaction mb router id (connection c) (connection c') new [] := by
  obtain ⟨hx, hid⟩ := h
  cases ModbusTcpConnection.step_branch hs with
  | gone ht hec =>
    refine ⟨[.connection (.disconnect c.serverId ⟨c.id⟩)], ⟨hx, hid⟩, rfl,
      List.map_append, ?_, (Role.digests_slave rfl).mpr (List.Sublist.refl _), Nat.le_refl _⟩
    intro d hd
    obtain rfl := List.mem_singleton.mp hd
    exact ⟨rfl, hid⟩
  | @accepted i data ops now message ht hreq pastEnd =>
    obtain ⟨-, -, hinfo⟩ := ModbusTcpConnection.makeRequest_some hreq
    refine ⟨[.connection (.send
        (router.route (mb.getUnitId message.modbusBuffer) pastEnd) message)], ⟨hx, hid⟩, rfl,
      List.map_append, ?_, (Role.digests_slave rfl).mpr (List.Sublist.refl _),
      Nat.le_add_right 1 _⟩
    intro d hd
    obtain rfl := List.mem_singleton.mp hd
    refine ⟨rfl, ?_, ⟨pastEnd, rfl⟩, fun _ => ?_⟩
    · rw [hinfo, ← hid]
      rfl
    · rw [hinfo]
      rfl
  | _ =>
    refine ⟨[], ?_⟩
    apply silent_connection
    · exact ⟨hx, hid⟩
    · rfl
    · rfl

/-- A message for a connection is written, if it answers the last request, or it is refused. -/
theorem reaction_startSendTask {c : ModbusTcpConnection β} (h : (connection c).Sound mb id)
    (message : ModbusMessage β) :
    ∃ new, Reaction mb router id (connection c)
        (connection
          (c.startSendTask mb ⟨message.modbusMessageInfo, some message.modbusBuffer⟩))
        new [message] ∧
      ∀ d ∈ new, d.sent = none ∧ d.notice = none := by
  rcases ModbusTcpConnection.startSendTask_cases mb c
      ⟨message.modbusMessageInfo, some message.modbusBuffer⟩ with
    ⟨heq, -⟩ | ⟨lastInfo, -, -, -, hnull, -⟩ | ⟨lastInfo, buffer, -, hslot, -, hbuffer, heq⟩
  · rw [heq]
    exact ⟨[], silent_connection h rfl rfl _, List.forall_mem_nil _⟩
  · cases hnull
  · obtain rfl := Option.some.inj hbuffer
    rw [heq]
    refine ⟨[.connection (.write (Role.connection.replyFrame mb message))],
      ⟨h, rfl, List.map_append, ?_, (Role.digests_slave rfl).mpr (List.Sublist.refl _), ?_⟩, ?_⟩
    · intro d hd
      obtain rfl := List.mem_singleton.mp hd
      exact rfl
    · -- the slot held the request that is answered
      change 1 ≤ 0 + c.syncRequestInfo.toList.length
      rw [hslot]
      exact Nat.le_refl _
    · intro d hd
      obtain rfl := List.mem_singleton.mp hd
      exact ⟨rfl, rfl⟩

theorem silent_rtuSlave {s s' : ModbusRtuSlave β} (hsound : (rtuSlave s').Sound mb id)
    (heffects : s'.effects = s.effects) (htype : s'.frameType = s.frameType)
    (hslot : s'.syncRequestInfo = s.syncRequestInfo) (received : List (ModbusMessage β)) :
    Reaction mb router id (rtuSlave s) (rtuSlave s') [] received := by
  refine reaction_silent hsound ?_ ?_ ?_ ?_ received
  · exact congrArg Role.rtuSlave htype
  · rfl
  · exact congrArg (List.map Deed.rtuSlave) heffects
  · rw [unanswered, hslot]
    exact Nat.le_refl _

/-- An RTU slave by itself: nothing, or a request that it has accepted. -/
theorem reaction_rtuSlave {s s' : ModbusRtuSlave β} {e : ModbusRtuSlave.Event}
    (h : (rtuSlave s).Sound mb id) (hs : s.step mb router e = some s') :
    ∃ new, Reaction mb router id (rtuSlave s) (rtuSlave s') new [] := by
  obtain ⟨hx, hid⟩ := h
  cases ModbusRtuSlave.step_branch hs with
  | @accepted i data ops now message ht hreq pastEnd =>
    rcases ModbusRtuSlave.makeRequest_cases mb (s.withOps ops) data now with
      heq | ⟨buffer, -, -, heq⟩
    · rw [heq] at hreq
      cases hreq
    rw [heq] at hreq
    obtain rfl := Option.some.inj hreq
    refine ⟨[.rtuSlave (.send (router.route (mb.getUnitId buffer) pastEnd)
        ⟨.new now s.id (s.idGenerator + 1), buffer⟩)], ⟨hx, hid⟩, rfl,
      List.map_append, ?_, (Role.digests_slave rfl).mpr (List.Sublist.refl _),
      Nat.le_add_right 1 _⟩
    intro d hd
    obtain rfl := List.mem_singleton.mp hd
    exact ⟨rfl, hid, ⟨pastEnd, rfl⟩, fun hrole => by cases hrole⟩
  | _ =>
    refine ⟨[], ?_⟩
    apply silent_rtuSlave
    · exact ⟨hx, hid⟩
    · rfl
    · rfl
    · rfl

/-- A message for an RTU slave is written, if it answers the last request, or it is refused. -/
theorem reaction_startWriteTask {s : ModbusRtuSlave β} (h : (rtuSlave s).Sound mb id)
    (message : ModbusMessage β) :
    ∃ new, Reaction mb router id (rtuSlave s)
        (rtuSlave (s.startWriteTask mb ⟨message.modbusMessageInfo, some message.modbusBuffer⟩))
        new [message] ∧
      ∀ d ∈ new, d.sent = none ∧ d.notice = none := by
  rcases ModbusRtuSlave.startWriteTask_cases mb s
      ⟨message.modbusMessageInfo, some message.modbusBuffer⟩ with
    ⟨heq, -⟩ | ⟨lastInfo, -, -, -, hnull, -⟩ | ⟨lastInfo, buffer, -, hslot, -, hbuffer, heq⟩
  · rw [heq]
    exact ⟨[], silent_rtuSlave h rfl rfl rfl _, List.forall_mem_nil _⟩
  · cases hnull
  · obtain rfl := Option.some.inj hbuffer
    rw [heq]
    refine ⟨[.rtuSlave (.write ((Role.rtuSlave s.frameType).replyFrame mb message))],
      ⟨h, rfl, List.map_append, ?_, (Role.digests_slave rfl).mpr (List.Sublist.refl _), ?_⟩, ?_⟩
    · intro d hd
      obtain rfl := List.mem_singleton.mp hd
      exact rfl
    · -- the slot held the request that is answered
      change 1 ≤ 0 + s.syncRequestInfo.toList.length
      rw [hslot]
      exact Nat.le_refl _
    · intro d hd
      obtain rfl := List.mem_singleton.mp hd
      exact ⟨rfl, rfl⟩

/-! ### All actors -/

/-- **What an actor does by itself.** -/
theorem reaction_step {e : Event β} (h : p.Sound mb id) (hself : e.byItself = true)
    (hs : p.step mb router e = some p') : ∃ new, Reaction mb router id p p' new [] := by
  cases p with
  | tcpClient c =>
    cases e with
    | tcpClient e =>
      obtain ⟨c', hc, rfl⟩ := Option.map_eq_some_iff.mp hs
      have hadds := ModbusTcpClient.adds_step h.1 hc
      have hnone : e.message = none := by
        cases e with
        | receive message now => cases hself
        | _ => rfl
      rw [hnone] at hadds
      have hsound := sound_tcpClient h hc
      obtain ⟨new, hreaction, -⟩ := reaction_tcpClient router hsound (fun _ _ h => h) hadds
      exact ⟨_, hreaction⟩
    | _ => cases hs
  | rtuMaster m =>
    cases e with
    | rtuMaster e =>
      obtain ⟨m', hm, rfl⟩ := Option.map_eq_some_iff.mp hs
      have hadds := ModbusRtuMaster.adds_step h.1 hm
      have hnone : e.message = none := by
        cases e with
        | receive message now => cases hself
        | _ => rfl
      rw [hnone] at hadds
      have hsound := sound_rtuMaster h hm
      have htype := ModbusRtuMaster.frameType_step h.1 hm
      obtain ⟨new, hreaction, -⟩ :=
        reaction_rtuMaster router hsound htype (fun _ _ h => h) hadds
      exact ⟨_, hreaction⟩
    | _ => cases hs
  | tcpServer s =>
    cases e with
    | accept i ec =>
      obtain ⟨acceptor, -, rfl⟩ := Option.map_eq_some_iff.mp hs
      exact ⟨[], silent_tcpServer s { s with acceptor } []⟩
    | _ => cases hs
  | connection c =>
    cases e with
    | connection e =>
      obtain ⟨c', hc, rfl⟩ := Option.map_eq_some_iff.mp hs
      exact reaction_connection h hc
    | _ => cases hs
  | rtuSlave s =>
    cases e with
    | rtuSlave e =>
      obtain ⟨s', hs', rfl⟩ := Option.map_eq_some_iff.mp hs
      exact reaction_rtuSlave h hs'
    | _ => cases hs

/-- Receiving a request hands nothing to the exchange. -/
theorem silent_of_inOrder {frame : ModbusMessage β → TransactionId → β}
    {new : List (MasterEffect β)} (h : ∀ e ∈ new, e.InOrder frame fun _ => none) :
    ∀ d ∈ new.map Deed.master, d.sent = none ∧ d.notice = none := by
  intro d hd
  obtain ⟨e, he, rfl⟩ := List.mem_map.mp hd
  refine ⟨?_, rfl⟩
  cases e with
  | send actorId message =>
    obtain ⟨-, data, hdata⟩ := h _ he
    cases hdata
  | _ => rfl

/-- **What an actor does with a message it is sent**; it hands none of it to the exchange. -/
theorem reaction_receive (router : Router) (h : p.Sound mb id) (now : Nanoseconds)
    (message : ModbusMessage β) :
    ∃ new, Reaction mb router id p (p.receive mb now message) new [message] ∧
      ∀ d ∈ new, d.sent = none ∧ d.notice = none := by
  cases p with
  | tcpClient c =>
    have hsound : (tcpClient (c.messageProcess mb message now)).Sound mb id :=
      sound_tcpClient (e := .receive message now) h rfl
    obtain ⟨new, hreaction, hsilent⟩ := reaction_tcpClient router hsound
      (fun _ _ hnone => by cases hnone)
      (ModbusTcpClient.adds_messageProcess mb (fun _ => none) c message now)
    exact ⟨_, hreaction, silent_of_inOrder hsilent⟩
  | rtuMaster m =>
    have hsound : (rtuMaster (m.messageProcess mb message now)).Sound mb id :=
      sound_rtuMaster (e := .receive message now) h rfl
    have hs : ModbusRtuMaster.step mb m (.receive message now) =
        some (m.messageProcess mb message now) := rfl
    have htype := ModbusRtuMaster.frameType_step h.1 hs
    obtain ⟨new, hreaction, hsilent⟩ := reaction_rtuMaster router hsound htype
      (fun _ _ hnone => by cases hnone)
      (ModbusRtuMaster.adds_messageProcess mb (fun _ => none) m message now)
    exact ⟨_, hreaction, silent_of_inOrder hsilent⟩
  | tcpServer s =>
    exact ⟨[], silent_tcpServer s s _, List.forall_mem_nil _⟩
  | connection c => exact reaction_startSendTask h message
  | rtuSlave s => exact reaction_startWriteTask h message

end Participant

end ModbusGateway
