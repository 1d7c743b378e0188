import ModbusGateway.Transport.MasterFraming
import ModbusGateway.Transport.MasterQueue

/-!
# What a step adds to the history of a master

Both masters only ever add to their history, and whatever they add is in order: a request
is written in the frame of the master, and an answer is a frame that the master accepts, sent to
the source of its message info.  Which block it is is said in `MasterFraming`.

## Main definitions

* `MasterEffect.InOrder` — a write or an answer as it should be.
* `AnswersTo` — what either master keeps of a request in its answer.
* `Adds` — what a step adds to a history.

## Main results

* `ModbusTcpClient.adds_step`, `ModbusRtuMaster.adds_step` — **what a step of either master
  adds is in order, and receives the request of its event only.**
-/

namespace ModbusGateway

open Proactor Execution Transaction

variable {β : Type}

/-- A write is one of the frame of its request; an answer goes to the source of its info, and
its buffer is one that is accepted. -/
def MasterEffect.InOrder (frame : ModbusMessage β → TransactionId → β)
    (accept : List UInt8 → Option β) : MasterEffect β → Prop
  | .write message id buffer => buffer = frame message id
  | .send actorId message =>
    actorId = message.modbusMessageInfo.sourceId ∧
      ∃ data, accept data = some message.modbusBuffer
  | _ => True

/-- What is in order stays so when more blocks are accepted. -/
theorem MasterEffect.InOrder.mono {frame : ModbusMessage β → TransactionId → β}
    {accept accept' : List UInt8 → Option β} {e : MasterEffect β} (h : e.InOrder frame accept)
    (haccept : ∀ data buffer, accept data = some buffer → accept' data = some buffer) :
    e.InOrder frame accept' := by
  cases e with
  | send actorId message =>
    obtain ⟨hid, data, hdata⟩ := h
    exact ⟨hid, data, haccept data _ hdata⟩
  | write message id buffer => exact h
  | _ => exact trivial

/-- An answer is given to the source of a request, under its message info. -/
def AnswersTo (r : Request β) (a : Response β) : Prop :=
  a.1 = r.1.modbusMessageInfo.sourceId ∧ a.2.modbusMessageInfo = r.1.modbusMessageInfo

/-- A step adds effects that are in order, and receives `input` only. -/
def Adds (frame : ModbusMessage β → TransactionId → β) (accept : List UInt8 → Option β)
    (effects effects' : List (MasterEffect β)) (input : List (ModbusMessage β)) : Prop :=
  ∃ new, effects' = effects ++ new ∧ (∀ e ∈ new, e.InOrder frame accept) ∧
    new.filterMap MasterEffect.arrival = input

section

variable {frame : ModbusMessage β → TransactionId → β} {accept : List UInt8 → Option β}
  {effects effects' effects'' : List (MasterEffect β)} {input : List (ModbusMessage β)}

theorem Adds.of_eq (h : effects' = effects) : Adds frame accept effects effects' [] := by
  refine ⟨[], ?_, List.forall_mem_nil _, rfl⟩
  rw [h, List.append_nil]

/-- A single effect that receives nothing. -/
theorem Adds.note {e : MasterEffect β} (horder : e.InOrder frame accept)
    (harrival : e.arrival = none) : Adds frame accept effects (effects ++ [e]) [] := by
  refine ⟨[e], rfl, fun e' he => ?_, List.filterMap_cons_none harrival⟩
  rw [List.mem_singleton.mp he]
  exact horder

theorem Adds.receive (message : ModbusMessage β) :
    Adds frame accept effects (effects ++ [.receive message]) [message] := by
  refine ⟨_, rfl, fun e he => ?_, rfl⟩
  rw [List.mem_singleton.mp he]
  exact trivial

theorem Adds.expire (messages : List (ModbusMessage β)) :
    Adds frame accept effects (effects ++ messages.map .expire) [] := by
  refine ⟨_, rfl, fun e he => ?_, ?_⟩
  · obtain ⟨message, -, rfl⟩ := List.mem_map.mp he
    exact trivial
  · rw [List.filterMap_map]
    exact List.filterMap_eq_nil_iff.mpr fun _ _ => rfl

/-- One step after another. -/
theorem Adds.trans (h : Adds frame accept effects effects' input)
    (h' : Adds frame accept effects' effects'' []) :
    Adds frame accept effects effects'' input := by
  obtain ⟨new, heq, horder, hinput⟩ := h
  obtain ⟨new', heq', horder', hinput'⟩ := h'
  refine ⟨new ++ new', by rw [heq', heq, List.append_assoc], fun e he => ?_, ?_⟩
  · rcases List.mem_append.mp he with he | he
    · exact horder e he
    · exact horder' e he
  · rw [List.filterMap_append, hinput, hinput', List.append_nil]

end

/-! ### The TCP client -/

namespace ModbusTcpClient

variable {mb : Modbus β} {c c' : ModbusTcpClient β}

theorem adds_queueProcessUnsafe (mb : Modbus β) (accept : List UInt8 → Option β)
    (c : ModbusTcpClient β) (now : Nanoseconds) :
    Adds (frame mb) accept c.effects (c.queueProcessUnsafe mb now).effects [] := by
  rcases queueProcessUnsafe_cases mb c now with
    ⟨heq, -⟩ | ⟨heq, -, -⟩ | ⟨heq, -, -, -⟩ | ⟨message, heq, -, -, -⟩ <;> rw [heq]
  · exact .of_eq rfl
  · exact .note trivial rfl
  · exact .expire _
  · have hpop : Adds (frame mb) accept c.effects (c.popExpired now).effects [] := .expire _
    exact hpop.trans (.note rfl rfl)

/-- A request that is received is answered later, if at all. -/
theorem adds_messageProcess (mb : Modbus β) (accept : List UInt8 → Option β)
    (c : ModbusTcpClient β) (message : ModbusMessage β) (now : Nanoseconds) :
    Adds (frame mb) accept c.effects (c.messageProcess mb message now).effects [message] :=
  (Adds.receive message).trans (adds_queueProcessUnsafe mb accept (c.pushMessage message) now)

theorem adds_dropCurrent (mb : Modbus β) (c : ModbusTcpClient β) (ec : ErrorCode) :
    Adds (frame mb) (mb.accept mb.tcpCheck .TCP) c.effects (c.dropCurrent ec).effects [] := by
  obtain ⟨state, socket, heq, -⟩ := dropCurrent_eq c ec
  have heffects : (c.dropCurrent ec).effects = c.effects := by rw [heq]
  exact .of_eq heffects

theorem adds_received (mb : Modbus β) (c : ModbusTcpClient β) (data : List UInt8) :
    Adds (frame mb) (mb.accept mb.tcpCheck .TCP) c.effects (c.received mb data).effects [] := by
  rcases received_cases mb c data with
    ⟨heq, -⟩ | ⟨current, buffer, -, -, heq, -⟩ |
    ⟨current, buffer, -, hread, heq, hcheck, -⟩ <;> rw [heq]
  · exact .of_eq rfl
  · exact .of_eq rfl
  · have haccept : mb.accept mb.tcpCheck .TCP data = some buffer := by
      rw [Modbus.accept, hread]
      simp [hcheck]
    exact .note ⟨rfl, data, haccept⟩ rfl

/-- **What a step of the client adds is in order**, and receives the request of its event
only. -/
theorem adds_step {e : Event β} (hctl : Control c) (hs : step mb c e = some c') :
    Adds (frame mb) (mb.accept mb.tcpCheck .TCP) c.effects c'.effects e.message.toList := by
  cases step_branch hctl.exchange hs with
  | receive message now => exact adds_messageProcess mb _ c message now
  | connected ht hec now =>
    exact adds_queueProcessUnsafe mb _ { c.withOps _ with state := .Connected } now
  | @sendFailed i n buffer result ops ht hec => exact adds_dropCurrent mb (c.withOps ops) result.ec
  | @receiveFailed i n result ops ht hec =>
    exact adds_dropCurrent mb { c.withOps ops with timer := c.timer.cancel } result.ec
  | @received i n result ops ht hec peerGone now =>
    exact (adds_received mb (c.withOps ops) result.data).trans (adds_queueProcessUnsafe mb _ _ now)
  | timeout ht => exact .note trivial rfl
  | _ => exact .of_eq rfl

theorem History.answersTo (h : History mb c) : ∃ o, Paired AnswersTo (acts c.effects) o := by
  obtain ⟨o, hpaired, -⟩ := h.paired
  exact ⟨o, hpaired.mono fun r a hra => ⟨hra.1, hra.2.1⟩⟩

end ModbusTcpClient

/-! ### The RTU master -/

namespace ModbusRtuMaster

variable {mb : Modbus β} {m m' : ModbusRtuMaster β}

theorem adds_queueProcessUnsafe (mb : Modbus β) (accept : List UInt8 → Option β)
    (m : ModbusRtuMaster β) (now : Nanoseconds) :
    Adds (frame mb m.frameType) accept m.effects (m.queueProcessUnsafe mb now).effects [] := by
  rcases queueProcessUnsafe_cases mb m now with
    ⟨heq, -⟩ | ⟨heq, -, -⟩ | ⟨message, heq, -, -⟩ <;> rw [heq]
  · exact .of_eq rfl
  · exact .expire _
  · have hpop : Adds (frame mb m.frameType) accept m.effects (m.popExpired now).effects [] :=
      .expire _
    exact hpop.trans (.note rfl rfl)

/-- A request that is received is answered later, if at all. -/
theorem adds_messageProcess (mb : Modbus β) (accept : List UInt8 → Option β)
    (m : ModbusRtuMaster β) (message : ModbusMessage β) (now : Nanoseconds) :
    Adds (frame mb m.frameType) accept m.effects (m.messageProcess mb message now).effects
      [message] :=
  (Adds.receive message).trans (adds_queueProcessUnsafe mb accept (m.pushMessage message) now)

theorem adds_answered (mb : Modbus β) (m : ModbusRtuMaster β) (data : List UInt8) :
    Adds (frame mb m.frameType) (mb.accept mb.check m.frameType) m.effects
      (m.answered mb data).effects [] := by
  rcases answered_cases mb m data with
    ⟨heq, -⟩ | ⟨current, buffer, -, -, heq, -⟩ |
    ⟨current, buffer, -, hread, heq, hcheck⟩ <;> rw [heq]
  · exact .of_eq rfl
  · exact .of_eq rfl
  · have haccept : mb.accept mb.check m.frameType data = some buffer := by
      rw [Modbus.accept, hread]
      simp [hcheck]
    exact .note ⟨rfl, data, haccept⟩ rfl

/-- **What a step of the master adds is in order**, and receives the request of its event
only. -/
theorem adds_step {e : Event β} (hctl : Control m) (hs : step mb m e = some m') :
    Adds (frame mb m.frameType) (mb.accept mb.check m.frameType) m.effects m'.effects
      e.message.toList := by
  cases step_branch hctl.exchange hs with
  | receive message now => exact adds_messageProcess mb _ m message now
  | @read i n result ops ht hec now =>
    have hqueue := adds_queueProcessUnsafe mb (mb.accept mb.check m.frameType)
      ((m.withOps ops).answered mb result.data) now
    rw [answered_frameType] at hqueue
    exact (adds_answered mb (m.withOps ops) result.data).trans hqueue
  | timeout ht => exact .note trivial rfl
  | _ => exact .of_eq rfl

theorem Paired.answersTo (h : m.Paired) :
    ∃ o, Transaction.Paired AnswersTo (acts m.effects) o := by
  obtain ⟨o, hpaired, -⟩ := h
  exact ⟨o, hpaired⟩

end ModbusRtuMaster

end ModbusGateway
