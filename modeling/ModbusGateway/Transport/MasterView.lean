import ModbusGateway.Transport.RtuMasterProgress
import ModbusGateway.Transport.TcpClientProgress

/-!
# What both masters do with their queue

`ModbusTcpClient` and `ModbusRtuMaster` differ in how they connect, in what they frame
and in what they do with an error, but not in what they do with `messageQueue_` and
`currentMessage_`.  A `MasterView` is what they have in common, and `MasterView.Step` is
what either does to it in a step.  What is proved of these steps holds of both.

## Main definitions

* `MasterView`, `MasterView.Quiet`, `MasterView.Processed`, `MasterView.Step`.
* `MasterView.Alive` — the request being written is the one in process.

## Main results

* `oneTransaction_exec` — **one data operation at a time, and while it is a send or a write,
  the message whose buffer it uses is the current one.**
* `ModbusTcpClient.view_step`, `ModbusRtuMaster.view_step` — **every step of the masters
  is a step of their view.**
* `MasterView.alive_step` — every step of a view keeps `Alive`.
-/

namespace ModbusGateway

open Proactor Execution Transaction

variable {β : Type}

/-- The request that an effect receives. -/
def MasterEffect.arrival : MasterEffect β → Option (ModbusMessage β)
  | .receive message => some message
  | _ => none

/-- The request that an effect takes out of the queue, and whether it is written. -/
def MasterEffect.departure : MasterEffect β → Option (Bool × ModbusMessage β)
  | .expire message => some (false, message)
  | .write message _ _ => some (true, message)
  | _ => none

/-- An effect that moves no request into or out of the queue. -/
def MasterEffect.still (e : MasterEffect β) : Bool := e.arrival.isNone && e.departure.isNone

/-- The request written last. -/
def lastRequest (effects : List (MasterEffect β)) : Option (Request β) :=
  (requests effects).getLast?

section

variable {effects es : List (MasterEffect β)}

theorem requests_append (as bs : List (MasterEffect β)) :
    requests (as ++ bs) = requests as ++ requests bs := by
  rw [requests, acts_append, starts_append]
  rfl

/-- Only a departure can be a write. -/
theorem requests_of_still (h : ∀ e ∈ es, e.still = true) : requests es = [] := by
  induction es with
  | nil => rfl
  | cons e es ih =>
    rw [← List.singleton_append, requests_append, ih fun e he => h e (List.mem_cons_of_mem _ he)]
    have he := h e List.mem_cons_self
    cases e with
    | write message id buffer => cases he
    | _ => rfl

theorem requests_still (h : ∀ e ∈ es, e.still = true) :
    requests (effects ++ es) = requests effects := by
  rw [requests_append, requests_of_still h, List.append_nil]

theorem requests_receive (message : ModbusMessage β) :
    requests (effects ++ [.receive message]) = requests effects := by
  rw [requests_append]
  exact List.append_nil _

theorem requests_expire (messages : List (ModbusMessage β)) :
    requests (effects ++ messages.map .expire) = requests effects := by
  have hnil : requests (messages.map MasterEffect.expire) = [] := by
    rw [requests, acts_eq_nil, starts_nil]
    intro e he
    obtain ⟨message, -, rfl⟩ := List.mem_map.mp he
    rfl
  rw [requests_append, hnil, List.append_nil]

theorem requests_write (message : ModbusMessage β) (id : TransactionId) (buffer : β) :
    requests (effects ++ [.write message id buffer]) = requests effects ++ [(message, id)] :=
  requests_append _ _

theorem started_write (message : ModbusMessage β) (id : TransactionId) (buffer : β) :
    started (effects ++ [.write message id buffer]) = started effects + 1 := by
  rw [started, requests_write, List.length_append]
  rfl

end

/-- What the two masters have in common; `writes` are the outstanding sends or writes,
each with the number of its request and the buffer handed to it. -/
structure MasterView (β : Type) where
  timeout : Milliseconds
  messageQueue : LimitQueue (ModbusMessage β)
  currentMessage : Option (ModbusCurrentMessage β)
  effects : List (MasterEffect β)
  writes : List (ℕ × β)

namespace MasterView

variable {frame : ModbusMessage β → TransactionId → β} {clock : Option Nanoseconds}
  {now : Nanoseconds} {v v' v'' : MasterView β}

/-- The requests that have expired leave the queue. -/
def popExpired (v : MasterView β) (now : Nanoseconds) : MasterView β :=
  { v with
    messageQueue := v.messageQueue.popWhile (expired v.timeout now)
    effects := v.effects ++
      (v.messageQueue.queue.takeWhile (expired v.timeout now)).map .expire }

/-- The request at the front of the queue becomes the current one and is written. -/
def start (frame : ModbusMessage β → TransactionId → β) (v : MasterView β)
    (message : ModbusMessage β) (id : TransactionId) : MasterView β :=
  let modbusBuffer := frame message id
  { v with
    messageQueue := v.messageQueue.pop
    currentMessage := some ⟨{ message with modbusBuffer }, id⟩
    effects := v.effects ++ [.write message id modbusBuffer]
    writes := v.writes ++ [(started v.effects + 1, modbusBuffer)] }

/-- A request is put into the queue. -/
def push (v : MasterView β) (message : ModbusMessage β) : MasterView β :=
  { v with
    messageQueue := v.messageQueue.push message
    effects := v.effects ++ [.receive message] }

/-- A change that moves no request into or out of the queue: the request in process may
be given up, but not while it is being written. -/
structure Quiet (v v' : MasterView β) : Prop where
  timeout : v'.timeout = v.timeout
  messageQueue : v'.messageQueue = v.messageQueue
  currentMessage : v'.currentMessage = v.currentMessage ∨ v'.currentMessage = none
  effects : ∃ es, v'.effects = v.effects ++ es ∧ ∀ e ∈ es, e.still = true
  writes : ∀ w ∈ v'.writes, w ∈ v.writes ∧ v'.currentMessage = v.currentMessage

/-- What processing the queue does: nothing to it; find that it has expired altogether; or
start the first request that has not. -/
inductive Processed (frame : ModbusMessage β → TransactionId → β) (now : Nanoseconds)
    (v : MasterView β) : MasterView β → Prop
  | quiet {v' : MasterView β} (hquiet : Quiet v v') : Processed frame now v v'
  | expired : Processed frame now v (v.popExpired now)
  | started {message : ModbusMessage β} (id : TransactionId) (hcur : v.currentMessage = none)
      (hfront : (v.popExpired now).messageQueue.front? = some message) :
    Processed frame now v ((v.popExpired now).start frame message id)

/-- What a step of a master does, whose event has the given clock reading and receives
the given request. -/
inductive Step (frame : ModbusMessage β → TransactionId → β) (clock : Option Nanoseconds)
    (v : MasterView β) : Option (ModbusMessage β) → MasterView β → Prop
  | quiet {v' : MasterView β} (hquiet : Quiet v v') : Step frame clock v none v'
  | process {v₁ v' : MasterView β} {now : Nanoseconds} (hclock : clock = some now)
      (hquiet : Quiet v v₁) (hprocessed : Processed frame now v₁ v') : Step frame clock v none v'
  | receive {v' : MasterView β} {now : Nanoseconds} (message : ModbusMessage β)
      (hclock : clock = some now) (hprocessed : Processed frame now (v.push message) v') :
    Step frame clock v (some message) v'

/-! ### Quiet changes -/

namespace Quiet

/-- Effects that move no request may be noted. -/
theorem of_effects {es : List (MasterEffect β)} (ht : v'.timeout = v.timeout)
    (hq : v'.messageQueue = v.messageQueue) (hm : v'.currentMessage = v.currentMessage)
    (he : v'.effects = v.effects ++ es) (hstill : ∀ e ∈ es, e.still = true)
    (hw : ∀ w ∈ v'.writes, w ∈ v.writes) : Quiet v v' where
  timeout := ht
  messageQueue := hq
  currentMessage := Or.inl hm
  effects := ⟨es, he, hstill⟩
  writes w h := ⟨hw w h, hm⟩

theorem of_eq (ht : v'.timeout = v.timeout) (hq : v'.messageQueue = v.messageQueue)
    (hm : v'.currentMessage = v.currentMessage) (he : v'.effects = v.effects)
    (hw : ∀ w ∈ v'.writes, w ∈ v.writes) : Quiet v v' :=
  of_effects ht hq hm (he.trans (List.append_nil _).symm) (fun e h => by cases h) hw

theorem refl (v : MasterView β) : Quiet v v := of_eq rfl rfl rfl rfl fun _ h => h

/-- An effect that moves no request may be noted. -/
theorem of_note {e : MasterEffect β} (ht : v'.timeout = v.timeout)
    (hq : v'.messageQueue = v.messageQueue) (hm : v'.currentMessage = v.currentMessage)
    (he : v'.effects = v.effects ++ [e]) (hstill : e.still = true)
    (hw : ∀ w ∈ v'.writes, w ∈ v.writes) : Quiet v v' :=
  of_effects ht hq hm he (fun e' he' => by rw [List.mem_singleton.mp he', hstill]) hw

/-- Whatever is not being written may be given up, and its end noted. -/
theorem of_writes_nil {es : List (MasterEffect β)} (ht : v'.timeout = v.timeout)
    (hq : v'.messageQueue = v.messageQueue) (hm : v'.currentMessage = none)
    (he : v'.effects = v.effects ++ es) (hstill : ∀ e ∈ es, e.still = true)
    (hw : v'.writes = []) : Quiet v v' where
  timeout := ht
  messageQueue := hq
  currentMessage := Or.inr hm
  effects := ⟨es, he, hstill⟩
  writes w h := by
    rw [hw] at h
    cases h

/-- Whatever is not being written may be given up in silence. -/
theorem of_givenUp (ht : v'.timeout = v.timeout) (hq : v'.messageQueue = v.messageQueue)
    (hm : v'.currentMessage = none) (he : v'.effects = v.effects) (hw : v'.writes = []) :
    Quiet v v' :=
  of_writes_nil ht hq hm (he.trans (List.append_nil _).symm) (fun e h => by cases h) hw

theorem trans (h : Quiet v v') (h' : Quiet v' v'') : Quiet v v'' where
  timeout := h'.timeout.trans h.timeout
  messageQueue := h'.messageQueue.trans h.messageQueue
  currentMessage := by
    rcases h'.currentMessage with hsame | hnone
    · rw [hsame]
      exact h.currentMessage
    · exact Or.inr hnone
  effects := by
    obtain ⟨es, heq, hstill⟩ := h.effects
    obtain ⟨es', heq', hstill'⟩ := h'.effects
    refine ⟨es ++ es', by rw [heq', heq, List.append_assoc], fun e he => ?_⟩
    rcases List.mem_append.mp he with he | he
    · exact hstill e he
    · exact hstill' e he
  writes w hw := by
    obtain ⟨hmem', hsame'⟩ := h'.writes w hw
    obtain ⟨hmem, hsame⟩ := h.writes w hmem'
    exact ⟨hmem, hsame'.trans hsame⟩

theorem requests (h : Quiet v v') :
    ModbusGateway.requests v'.effects = ModbusGateway.requests v.effects := by
  obtain ⟨es, heq, hstill⟩ := h.effects
  rw [heq, requests_still hstill]

end Quiet

/-! ### The request in process -/

/-- The request in process is the one written last, as it has been framed, and a write that
is outstanding is that of its buffer. -/
structure Alive (frame : ModbusMessage β → TransactionId → β) (v : MasterView β) : Prop where
  current : ∀ current, v.currentMessage = some current → ∃ message,
    lastRequest v.effects = some (message, current.id) ∧
    current.modbusMessage = ⟨message.modbusMessageInfo, frame message current.id⟩
  writes : ∀ w ∈ v.writes, w.1 = started v.effects ∧
    ∃ current, v.currentMessage = some current ∧ current.modbusMessage.modbusBuffer = w.2

/-- Nothing is in process, and nothing is being written. -/
theorem Alive.of_idle (hcur : v.currentMessage = none) (hw : v.writes = []) : Alive frame v where
  current current hsome := by
    rw [hcur] at hsome
    cases hsome
  writes w h := by
    rw [hw] at h
    cases h

theorem alive_quiet (h : Alive frame v) (hq : Quiet v v') : Alive frame v' where
  current current hcur := by
    rw [lastRequest, hq.requests]
    rcases hq.currentMessage with hsame | hnone
    · exact h.current current (hsame ▸ hcur)
    · rw [hnone] at hcur
      cases hcur
  writes w hw := by
    obtain ⟨hmem, hsame⟩ := hq.writes w hw
    rw [started, hq.requests, hsame]
    exact h.writes w hmem

/-- Nothing is being written while no request is in process. -/
theorem Alive.writes_nil (h : Alive frame v) (hcur : v.currentMessage = none) : v.writes = [] := by
  refine List.eq_nil_iff_forall_not_mem.mpr fun w hw => ?_
  obtain ⟨-, current, hsome, -⟩ := h.writes w hw
  rw [hcur] at hsome
  cases hsome

theorem alive_popExpired (h : Alive frame v) (now : Nanoseconds) :
    Alive frame (v.popExpired now) where
  current := by
    rw [lastRequest, popExpired, requests_expire]
    exact h.current
  writes := by
    rw [started, popExpired, requests_expire]
    exact h.writes

theorem alive_push (h : Alive frame v) (message : ModbusMessage β) :
    Alive frame (v.push message) where
  current := by
    rw [lastRequest, push, requests_receive]
    exact h.current
  writes := by
    rw [started, push, requests_receive]
    exact h.writes

theorem alive_start (h : Alive frame v) (hcur : v.currentMessage = none)
    (message : ModbusMessage β) (id : TransactionId) : Alive frame (v.start frame message id) where
  current current hsome := by
    obtain rfl := Option.some.inj hsome
    refine ⟨message, ?_, rfl⟩
    rw [lastRequest, start, requests_write, List.getLast?_concat]
  writes w hw := by
    -- its write is the only one
    simp only [start, h.writes_nil hcur, List.nil_append, List.mem_singleton] at hw
    subst hw
    exact ⟨(started_write _ _ _).symm, _, rfl, rfl⟩

theorem alive_processed (h : Alive frame v) (hp : Processed frame now v v') : Alive frame v' := by
  cases hp with
  | quiet hquiet => exact alive_quiet h hquiet
  | expired => exact alive_popExpired h now
  | started id hcur hfront => exact alive_start (alive_popExpired h now) hcur _ id

/-- **Every step keeps the request in process as long as it is being written.** -/
theorem alive_step {input : Option (ModbusMessage β)} (h : Alive frame v)
    (hs : Step frame clock v input v') : Alive frame v' := by
  cases hs with
  | quiet hquiet => exact alive_quiet h hquiet
  | process hclock hquiet hprocessed => exact alive_processed (alive_quiet h hquiet) hprocessed
  | receive message hclock hprocessed => exact alive_processed (alive_push h message) hprocessed

end MasterView

/-! ### The TCP client -/

/-- What has been handed to a send: the number of its request, and the buffer. -/
def ClientOp.handed : ClientOp β → Option (ℕ × β)
  | .send request modbusBuffer => some (request, modbusBuffer)
  | _ => none

namespace ModbusTcpClient

variable {mb : Modbus β} {c c' : ModbusTcpClient β}

/-- What the client has in common with the other master. -/
def view (c : ModbusTcpClient β) : MasterView β where
  timeout := c.timeout
  messageQueue := c.messageQueue
  currentMessage := c.currentMessage
  effects := c.effects
  writes := c.socket.ops.kinds.filterMap ClientOp.handed

/-- The frame in which the client sends a request. -/
def frame (mb : Modbus β) (message : ModbusMessage β) (id : TransactionId) : β :=
  mb.toTcp message.modbusBuffer id

/-- The clock reading of an event. -/
def Event.clock : Event β → Option Nanoseconds
  | .receive _ now => some now
  | .handle _ _ now => some now
  | _ => none

/-- Only a data operation can be a send. -/
theorem view_writes_of_dataOps_nil (h : c.dataOps = []) : c.view.writes = [] := by
  refine List.eq_nil_iff_forall_not_mem.mpr fun w hw => ?_
  obtain ⟨op, hop, hwrite⟩ := List.mem_filterMap.mp hw
  have hmem : w.1 ∈ c.dataOps := by
    refine List.mem_filterMap.mpr ⟨op, hop, ?_⟩
    cases op with
    | send request buffer => cases hwrite; rfl
    | connect => cases hwrite
    | receive request => cases hwrite
  rw [h] at hmem
  cases hmem

/-- Taking a handler up removes an operation. -/
theorem quiet_take {i : ℕ} {op : ClientOp β} {result : Completion}
    {ops : Pool (ClientOp β) Completion} (ht : c.socket.ops.take i = some (op, result, ops)) :
    c.view.Quiet (c.withOps ops).view :=
  .of_eq rfl rfl rfl rfl fun _ h =>
    List.filterMap_subset _ (fun _ => Pool.mem_kinds_of_mem_take ht) h

theorem quiet_dropCurrent (hd : c.dataOps = []) (ec : ErrorCode) :
    c.view.Quiet (c.dropCurrent ec).view := by
  obtain ⟨state, socket, heq, hkinds⟩ := dropCurrent_eq c ec
  have hnil : (c.dropCurrent ec).view.writes = [] := by
    refine view_writes_of_dataOps_nil ?_
    rw [heq, dataOps, hkinds]
    exact hd
  rw [heq] at hnil ⊢
  exact .of_givenUp rfl rfl rfl rfl hnil

theorem quiet_received (mb : Modbus β) (hd : c.dataOps = []) (data : List UInt8) :
    c.view.Quiet (c.received mb data).view := by
  have hnil := view_writes_of_dataOps_nil hd
  rcases received_cases mb c data with
    ⟨heq, -⟩ | ⟨current, buffer, -, -, heq, -⟩ | ⟨current, buffer, -, -, heq, -⟩ <;> rw [heq]
  · exact .of_eq rfl rfl rfl rfl fun _ h => h
  · exact .of_givenUp rfl rfl rfl rfl hnil
  · refine .of_writes_nil rfl rfl rfl rfl (fun e he => ?_) hnil
    rw [List.mem_singleton.mp he]
    rfl

theorem processed_queueProcessUnsafe (mb : Modbus β) (c : ModbusTcpClient β) (now : Nanoseconds) :
    c.view.Processed (frame mb) now (c.queueProcessUnsafe mb now).view := by
  rcases queueProcessUnsafe_cases mb c now with
    ⟨heq, -⟩ | ⟨heq, -, -⟩ | ⟨heq, -, -, -⟩ | ⟨message, heq, -, hnone, hfront⟩ <;> rw [heq]
  · exact .quiet (.refl _)
  · refine .quiet (.of_note rfl rfl rfl rfl rfl fun w hw => ?_)
    -- a connect is no write
    simp only [view, startConnectTaskUnsafe, note_socket, Stream.asyncConnect_kinds,
      List.filterMap_append, List.mem_append] at hw
    rcases hw with hold | hconnect
    · exact hold
    · cases hconnect
  · exact .expired
  · have hview : ((c.popExpired now).startMessage mb message).view =
        (c.view.popExpired now).start (frame mb) message (c.transactionIdGenerator + 1) := by
      have hwrites : ((c.popExpired now).startMessage mb message).view.writes =
          c.view.writes ++ [(started (c.popExpired now).effects + 1,
            frame mb message (c.transactionIdGenerator + 1))] := by
        simp only [view, startMessage, note_socket, Stream.start_kinds, List.filterMap_append]
        exact congrArg (fun n => _ ++ [(n, _)]) (started_write _ _ _)
      exact congrArg (MasterView.mk _ _ _ _) hwrites
    rw [hview]
    exact .started _ hnone hfront

/-- **Every step of the client is a step of its view.** -/
theorem view_step {e : Event β} (hctl : Control c) (hs : step mb c e = some c') :
    c.view.Step (frame mb) e.clock e.message c'.view := by
  cases step_branch hctl.exchange hs with
  | receive message now =>
    exact .receive message rfl (processed_queueProcessUnsafe mb (c.pushMessage message) now)
  | complete hops =>
    refine .quiet (.of_eq rfl rfl rfl rfl fun w hw => ?_)
    simp only [view, withOps, Pool.kinds_complete hops] at hw
    exact hw
  | connectFailed ht hec =>
    exact .quiet ((quiet_take ht).trans (.of_eq rfl rfl rfl rfl fun _ h => h))
  | connected ht hec now =>
    refine .process rfl ((quiet_take ht).trans ?_) (processed_queueProcessUnsafe mb _ now)
    exact .of_eq rfl rfl rfl rfl fun _ h => h
  | @sendFailed i n buffer result ops ht hec =>
    obtain ⟨-, -, -, hd⟩ := (take_data hctl ht).2.2 n rfl
    exact .quiet ((quiet_take ht).trans (quiet_dropCurrent hd _))
  | sent ht hec =>
    refine .quiet ((quiet_take ht).trans (.of_eq rfl rfl rfl rfl fun w hw => ?_))
    -- what is started is a receive
    simpa [view, startReceiveTask, startWaitTask, ClientOp.handed] using hw
  | @receiveFailed i n result ops ht hec =>
    obtain ⟨-, -, -, hd⟩ := (take_data hctl ht).2.2 n rfl
    have htimer : (c.withOps ops).view.Quiet
        ({ c.withOps ops with timer := c.timer.cancel } : ModbusTcpClient β).view :=
      .of_eq rfl rfl rfl rfl fun _ h => h
    exact .quiet ((quiet_take ht).trans (htimer.trans (quiet_dropCurrent
      (c := { c.withOps ops with timer := c.timer.cancel }) hd _)))
  | @received i n result ops ht hec peerGone now =>
    obtain ⟨-, -, -, hd⟩ := (take_data hctl ht).2.2 n rfl
    exact .process rfl ((quiet_take ht).trans (quiet_received mb hd result.data))
      (processed_queueProcessUnsafe mb _ now)
  | expire hw => exact .quiet (.of_eq rfl rfl rfl rfl fun _ h => h)
  | waitFailed ht hec => exact .quiet (.of_eq rfl rfl rfl rfl fun _ h => h)
  | @timeout i request waits ht =>
    refine .quiet (.of_note rfl rfl rfl rfl rfl fun w hw => ?_)
    simp only [view, note_socket, Stream.cancel_kinds] at hw
    exact hw

end ModbusTcpClient

/-! ### The RTU master -/

/-- What has been handed to a write: the number of its request, and the buffer. -/
def RtuOp.handed : RtuOp β → Option (ℕ × β)
  | .write request modbusBuffer => some (request, modbusBuffer)
  | .read _ => none

namespace ModbusRtuMaster

variable {mb : Modbus β} {m m' : ModbusRtuMaster β}

/-- What the master has in common with the other one. -/
def view (m : ModbusRtuMaster β) : MasterView β where
  timeout := m.timeout
  messageQueue := m.messageQueue
  currentMessage := m.currentMessage
  effects := m.effects
  writes := m.serialPort.ops.kinds.filterMap RtuOp.handed

/-- The frame in which a master of this frame type writes a request. -/
def frame (mb : Modbus β) (frameType : FrameType) (message : ModbusMessage β)
    (_ : TransactionId) : β :=
  mb.update (mb.convertTo frameType message.modbusBuffer)

/-- The clock reading of an event. -/
def Event.clock : Event β → Option Nanoseconds
  | .receive _ now => some now
  | .handle _ now => some now
  | _ => none

/-- The request that an event receives. -/
def Event.message : Event β → Option (ModbusMessage β)
  | .receive message _ => some message
  | _ => none

theorem quiet_answered (mb : Modbus β) (ho : m.serialPort.ops = []) (data : List UInt8) :
    m.view.Quiet (m.answered mb data).view := by
  have hnil : m.view.writes = [] := by
    rw [view, ho]
    rfl
  rcases answered_cases mb m data with
    ⟨heq, -⟩ | ⟨current, buffer, -, -, heq, -⟩ | ⟨current, buffer, -, -, heq, -⟩ <;> rw [heq]
  · exact .of_eq rfl rfl rfl rfl fun _ h => h
  · exact .of_givenUp rfl rfl rfl rfl hnil
  · refine .of_writes_nil rfl rfl rfl rfl (fun e he => ?_) hnil
    rw [List.mem_singleton.mp he]
    rfl

theorem processed_queueProcessUnsafe (mb : Modbus β) (m : ModbusRtuMaster β) (now : Nanoseconds) :
    m.view.Processed (frame mb m.frameType) now (m.queueProcessUnsafe mb now).view := by
  rcases queueProcessUnsafe_cases mb m now with
    ⟨heq, -⟩ | ⟨heq, -, -⟩ | ⟨message, heq, hnone, hfront⟩ <;> rw [heq]
  · exact .quiet (.refl _)
  · exact .expired
  · have hview : ((m.popExpired now).startMessageTaskUnsafe mb message).view =
        (m.view.popExpired now).start (frame mb m.frameType) message
          (m.transactionIdGenerator + 1) := by
      have hwrites : ((m.popExpired now).startMessageTaskUnsafe mb message).view.writes =
          m.view.writes ++ [(started (m.popExpired now).effects + 1,
            frame mb m.frameType message (m.transactionIdGenerator + 1))] := by
        simp only [view, startMessageTaskUnsafe, note_serialPort, Stream.start_kinds,
          List.filterMap_append]
        exact congrArg (fun n => _ ++ [(n, _)]) (started_write _ _ _)
      exact congrArg (MasterView.mk _ _ _ _) hwrites
    rw [hview]
    exact .started _ hnone hfront

theorem queueProcessUnsafe_frameType (mb : Modbus β) (m : ModbusRtuMaster β) (now : Nanoseconds) :
    (m.queueProcessUnsafe mb now).frameType = m.frameType := by
  rcases queueProcessUnsafe_cases mb m now with
    ⟨heq, -⟩ | ⟨heq, -, -⟩ | ⟨message, heq, -, -⟩ <;>
    exact (congrArg ModbusRtuMaster.frameType heq).trans rfl

theorem answered_frameType (mb : Modbus β) (m : ModbusRtuMaster β) (data : List UInt8) :
    (m.answered mb data).frameType = m.frameType := by
  rcases answered_cases mb m data with
    ⟨heq, -⟩ | ⟨current, buffer, -, -, heq, -⟩ | ⟨current, buffer, -, -, heq, -⟩ <;>
    exact (congrArg ModbusRtuMaster.frameType heq).trans rfl

theorem frameType_step {e : Event β} (hctl : Control m) (hs : step mb m e = some m') :
    m'.frameType = m.frameType := by
  cases step_branch hctl.exchange hs with
  | receive message now => exact queueProcessUnsafe_frameType mb _ now
  | read ht hec now =>
    exact (queueProcessUnsafe_frameType mb _ now).trans (answered_frameType mb _ _)
  | _ => rfl

/-- **Every step of the master is a step of its view.** -/
theorem view_step {e : Event β} (hctl : Control m) (hs : step mb m e = some m') :
    m.view.Step (frame mb m.frameType) e.clock e.message m'.view := by
  cases step_branch hctl.exchange hs with
  | receive message now =>
    exact .receive message rfl (processed_queueProcessUnsafe mb (m.pushMessage message) now)
  | complete hops =>
    refine .quiet (.of_eq rfl rfl rfl rfl fun w hw => ?_)
    simp only [view, withOps, Pool.kinds_complete hops] at hw
    exact hw
  | writeFailed ht hec =>
    obtain ⟨-, -, -, rfl⟩ := take_outstanding hctl ht
    exact .quiet (.of_givenUp rfl rfl rfl rfl rfl)
  | written ht hec =>
    obtain ⟨-, -, -, rfl⟩ := take_outstanding hctl ht
    -- what is started is a read
    exact .quiet (.of_eq rfl rfl rfl rfl fun w hw => by cases hw)
  | readFailed ht hec =>
    obtain ⟨-, -, -, rfl⟩ := take_outstanding hctl ht
    exact .quiet (.of_givenUp rfl rfl rfl rfl rfl)
  | @read i n result ops ht hec now =>
    obtain ⟨-, -, -, rfl⟩ := take_outstanding hctl ht
    have hleft : m.view.Quiet (m.withOps []).view :=
      .of_eq rfl rfl rfl rfl fun w hw => by cases hw
    have hprocessed := processed_queueProcessUnsafe mb ((m.withOps []).answered mb result.data) now
    rw [answered_frameType] at hprocessed
    exact .process rfl (hleft.trans (quiet_answered mb rfl result.data)) hprocessed
  | expire hw => exact .quiet (.of_eq rfl rfl rfl rfl fun _ h => h)
  | waitFailed ht hec => exact .quiet (.of_eq rfl rfl rfl rfl fun _ h => h)
  | @timeout i request waits ht =>
    refine .quiet (.of_note rfl rfl rfl rfl rfl fun w hw => ?_)
    simp only [view, note_serialPort, Stream.cancel_kinds] at hw
    exact hw

end ModbusRtuMaster

/-! ### One transaction at a time -/

/-- While a send or a write is outstanding, `currentMessage_` is the request it was started
for, and holds the buffer that was handed to it. -/
def MasterView.BufferAlive (v : MasterView β) : Prop :=
  ∀ w ∈ v.writes, ∃ current message k, v.currentMessage = some current ∧
    current.modbusMessage = ⟨message.modbusMessageInfo, w.2⟩ ∧
    w.1 = k + 1 ∧ (requests v.effects)[k]? = some (message, current.id)

theorem MasterView.Alive.bufferAlive {frame : ModbusMessage β → TransactionId → β}
    {v : MasterView β} (h : v.Alive frame) : v.BufferAlive := by
  intro w hw
  obtain ⟨hnum, current, hcur, hbuffer⟩ := h.writes w hw
  obtain ⟨message, hlast, hframed⟩ := h.current current hcur
  -- the latest request is the one of the write's number
  have hne : requests v.effects ≠ [] := by
    intro hnil
    rw [lastRequest, hnil] at hlast
    cases hlast
  have hpos := List.length_pos_of_ne_nil hne
  refine ⟨current, message, started v.effects - 1, hcur, ?_, ?_, ?_⟩
  · rw [hframed] at hbuffer ⊢
    rw [← hbuffer]
  · rw [hnum, started]
    omega
  · rw [started, ← List.getLast?_eq_getElem?]
    exact hlast

/-- **One transaction at a time, with its buffer alive.**  In every state of every run of
either master, whatever the order of the completions, at most one send or write, receive or
read is outstanding, and while it is a send or a write, `currentMessage_` holds the message
whose buffer was handed to it. -/
theorem oneTransaction_exec {β : Type} (mb : Modbus β) (timeout : Milliseconds) :
    (∀ es c, exec (ModbusTcpClient.step mb) (.new timeout) es = some c →
      c.dataOps.length ≤ 1 ∧ c.view.BufferAlive) ∧
    (∀ frameType es m, exec (ModbusRtuMaster.step mb) (.new timeout frameType) es = some m →
      m.outstanding.length ≤ 1 ∧ m.view.BufferAlive) := by
  constructor
  · intro es c hrun
    have hkept : c.Control ∧ c.view.Alive (ModbusTcpClient.frame mb) := by
      refine invariant
        (I := fun c => c.Control ∧ c.view.Alive (ModbusTcpClient.frame mb)) ?_ es _ _ ?_ hrun
      · rintro s e s' ⟨hctl, h⟩ hs
        exact ⟨ModbusTcpClient.control_step hctl hs,
          MasterView.alive_step h (ModbusTcpClient.view_step hctl hs)⟩
      · exact ⟨ModbusTcpClient.control_new timeout, .of_idle rfl rfl⟩
    exact ⟨hkept.1.length_dataOps_le, hkept.2.bufferAlive⟩
  · intro frameType es m hrun
    have hkept : m.Control ∧ m.view.Alive (ModbusRtuMaster.frame mb m.frameType) := by
      refine invariant
        (I := fun m => m.Control ∧ m.view.Alive (ModbusRtuMaster.frame mb m.frameType))
        ?_ es _ _ ?_ hrun
      · rintro s e s' ⟨hctl, h⟩ hs
        rw [ModbusRtuMaster.frameType_step hctl hs]
        exact ⟨ModbusRtuMaster.control_step hctl hs,
          MasterView.alive_step h (ModbusRtuMaster.view_step hctl hs)⟩
      · exact ⟨ModbusRtuMaster.control_new timeout frameType, .of_idle rfl rfl⟩
    exact ⟨hkept.1.length_outstanding_le, hkept.2.bufferAlive⟩

/-- The buffer of the first request of either master, while it is being written. -/
theorem oneTransaction_writing :
    ∃ c m, exec (ModbusTcpClient.step Frame.library) (.new 1000)
        (ModbusTcpClient.queuedRun.take 3) = some c ∧
      exec (ModbusRtuMaster.step Frame.library) (.new 1000 .RTU)
        [.receive (Frame.readRequest 5 9 1) 0] = some m ∧
      (c.dataOps = [1] ∧ c.view.BufferAlive) ∧ (m.outstanding = [1] ∧ m.view.BufferAlive) := by
  obtain ⟨htcp, hrtu⟩ := oneTransaction_exec Frame.library 1000
  exact ⟨_, _, rfl, rfl, ⟨rfl, (htcp (ModbusTcpClient.queuedRun.take 3) _ rfl).2⟩,
    ⟨rfl, (hrtu .RTU [.receive (Frame.readRequest 5 9 1) 0] _ rfl).2⟩⟩

end ModbusGateway
