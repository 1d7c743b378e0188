import ModbusGateway.Transport.MasterAccounts

/-!
# A master comes to rest

Nothing that a master starts goes on by itself: every operation completes once, its handler runs
once, and what the handlers start is paid for by a request.  So a run is never longer than its
requests allow, whatever they are, whatever is received, and in whatever order operations
complete and handlers run: nine events for each request to the TCP client, seven for each request
to the RTU master.  And as long as an operation or a wait is outstanding there is an event that
can happen, so that a master to which no more requests are sent comes to rest.

## Main definitions

* `ModbusTcpClient.work`, `ModbusRtuMaster.work` — how many events there can be before a master
  is at rest, if it receives no more requests.
* `ModbusTcpClient.AtRest`, `ModbusRtuMaster.AtRest` — nothing is outstanding.

## Main results

* `comesToRest_exec` — **a master comes to rest**, within the events that its requests allow, and
  stops nowhere else.
-/

namespace ModbusGateway

open Proactor Execution

variable {β : Type}

/-! ### The TCP client -/

namespace ModbusTcpClient

variable {mb : Modbus β} {c c' : ModbusTcpClient β}

/-- The events that come of the handler of an operation: its own, and those of the receive and of
the wait that it starts. -/
def opCost : ClientOp β → ℕ
  | .connect => 1
  | .send _ _ => 5
  | .receive _ => 1

/-- The events that can happen before the client is at rest: those of the operations and the
waits that are outstanding, and six for each request that is queued. -/
def work (c : ModbusTcpClient β) : ℕ :=
  c.socket.ops.work opCost + c.timer.waits.work (fun _ => 1) + 6 * c.messageQueue.queue.length

/-- No operation and no wait is outstanding. -/
def AtRest (c : ModbusTcpClient β) : Prop := c.socket.ops = [] ∧ c.timer.waits = []

theorem popExpired_work_le (c : ModbusTcpClient β) (now : Nanoseconds) :
    (c.popExpired now).work ≤ c.work := by
  have hqueue : (c.popExpired now).messageQueue.queue.length ≤ c.messageQueue.queue.length :=
    (List.dropWhile_sublist _).length_le
  have hops : (c.popExpired now).socket = c.socket := rfl
  have hwaits : (c.popExpired now).timer = c.timer := rfl
  rw [work, work, hops, hwaits]
  omega

/-- A send is paid for by the request that leaves the queue. -/
theorem startMessage_work {message : ModbusMessage β}
    (hfront : c.messageQueue.front? = some message) :
    (c.startMessage mb message).work = c.work := by
  have hqueue := congrArg List.length (LimitQueue.queue_of_front? hfront)
  rw [List.length_cons] at hqueue
  simp only [work, startMessage, note, Stream.start, Pool.work_start, opCost]
  omega

/-- Only a client that is idle starts an operation that nothing in the queue pays for. -/
theorem queueProcessUnsafe_work_le (mb : Modbus β) (c : ModbusTcpClient β) (now : Nanoseconds) :
    (c.queueProcessUnsafe mb now).work ≤ c.work + if c.state = .Idle then 2 else 0 := by
  have hexpired := popExpired_work_le c now
  rcases queueProcessUnsafe_cases mb c now with
    ⟨heq, -⟩ | ⟨heq, hidle, -⟩ | ⟨heq, -, -, -⟩ | ⟨message, heq, -, -, hfront⟩ <;> rw [heq]
  · omega
  · rw [if_pos hidle]
    simp only [work, startConnectTaskUnsafe, note, Stream.asyncConnect, Pool.work_start, opCost]
    omega
  · omega
  · rw [startMessage_work hfront]
    omega

theorem queueProcessUnsafe_work_lt {n : ℕ} (hstate : c.state ≠ .Idle) (h : c.work < n)
    (mb : Modbus β) (now : Nanoseconds) : (c.queueProcessUnsafe mb now).work < n := by
  have hle := queueProcessUnsafe_work_le mb c now
  rw [if_neg hstate] at hle
  omega

theorem pushMessage_work_le (c : ModbusTcpClient β) (message : ModbusMessage β) :
    (c.pushMessage message).work ≤ c.work + 6 := by
  have hqueue : (c.pushMessage message).messageQueue.queue.length ≤
      c.messageQueue.queue.length + 1 := by
    rcases LimitQueue.push_queue c.messageQueue message with heq | heq <;>
      simp [pushMessage, note, heq]
  have hops : (c.pushMessage message).socket = c.socket := rfl
  have hwaits : (c.pushMessage message).timer = c.timer := rfl
  rw [work, work, hops, hwaits]
  omega

theorem dropCurrent_work_le (c : ModbusTcpClient β) (ec : ErrorCode) :
    (c.dropCurrent ec).work ≤ c.work := by
  have hclose : c.socket.close.ops.work opCost ≤ c.socket.ops.work opCost :=
    Pool.work_cancel_le _ _
  unfold dropCurrent closeSocket
  dsimp only
  split
  · split
    · simp only [work]
      omega
    · exact Nat.le_refl _
  · exact Nat.le_refl _

/-- What has been received neither starts anything nor is queued. -/
theorem received_work_le (mb : Modbus β) (c : ModbusTcpClient β) (data : List UInt8) :
    (c.received mb data).state = .Connected ∧ (c.received mb data).work ≤ c.work := by
  have htimer : c.timer.cancel.waits.work (fun _ => 1) ≤ c.timer.waits.work (fun _ => 1) :=
    Pool.work_cancel_le _ _
  rcases received_cases mb c data with
    ⟨heq, -⟩ | ⟨current, buffer, -, -, heq, -⟩ | ⟨current, buffer, -, -, heq, -⟩ <;>
    rw [heq] <;> refine ⟨rfl, ?_⟩ <;> simp only [work, note] <;> omega

/-- A request brings in nine events: its own, at most two of a connect, and six in the queue. -/
theorem work_receive {message : ModbusMessage β} {now : Nanoseconds}
    (hs : step mb c (.receive message now) = some c') : c'.work + 1 ≤ c.work + 9 := by
  obtain rfl := Option.some.inj hs
  have hpush := pushMessage_work_le c message
  have hqueue := queueProcessUnsafe_work_le mb (c.pushMessage message) now
  have hidle : (if (c.pushMessage message).state = .Idle then 2 else 0) ≤ 2 := by split <;> omega
  rw [messageProcess]
  omega

/-- **Every other event uses up some of the work.** -/
theorem work_step {e : Event β} (hctl : Control c) (he : e.message = none)
    (hs : step mb c e = some c') : c'.work < c.work := by
  have htimer : c.timer.cancel.waits.work (fun _ => 1) ≤ c.timer.waits.work (fun _ => 1) :=
    Pool.work_cancel_le _ _
  cases step_branch hctl.exchange hs with
  | receive message now => cases he
  | complete hops =>
    have hwork := Pool.work_complete opCost hops
    simp only [work, withOps]
    omega
  | connectFailed ht hec peerGone now =>
    have hwork := Pool.work_take opCost ht
    simp only [work, withOps, opCost] at hwork ⊢
    omega
  | @connected i result ops ht hec now =>
    have hwork := Pool.work_take opCost ht
    refine queueProcessUnsafe_work_lt (fun h => by cases h) ?_ mb now
    simp only [work, withOps, opCost] at hwork ⊢
    omega
  | @sendFailed i n buffer result ops ht hec peerGone now =>
    have hwork := Pool.work_take opCost ht
    refine lt_of_le_of_lt (dropCurrent_work_le (c.withOps ops) result.ec) ?_
    simp only [work, withOps, opCost] at hwork ⊢
    omega
  | sent ht hec peerGone now =>
    -- of the five, one is the handler's own, and the receive and the wait are two each
    have hwork := Pool.work_take opCost ht
    simp only [work, withOps, startReceiveTask, startWaitTask, Stream.start, Timer.asyncWait,
      Timer.expiresAfter, Pool.work_start, opCost] at hwork ⊢
    omega
  | @receiveFailed i n result ops ht hec peerGone now =>
    have hwork := Pool.work_take opCost ht
    refine lt_of_le_of_lt (dropCurrent_work_le _ result.ec) ?_
    simp only [work, withOps, opCost] at hwork ⊢
    omega
  | @received i n result ops ht hec peerGone now =>
    have hwork := Pool.work_take opCost ht
    obtain ⟨hstate, hle⟩ := received_work_le mb (c.withOps ops) result.data
    refine queueProcessUnsafe_work_lt (by simp [hstate]) (lt_of_le_of_lt hle ?_) mb now
    simp only [work, withOps, opCost] at hwork ⊢
    omega
  | expire hw =>
    have hwork := Pool.work_complete (fun _ => 1) hw
    simp only [work]
    omega
  | waitFailed ht hec =>
    have hwork := Pool.work_take (fun _ => 1) ht
    simp only [work]
    omega
  | timeout ht =>
    have hwork := Pool.work_take (fun _ => 1) ht
    have hcancel := Stream.work_cancel_le opCost c.socket
    simp only [work, note]
    omega

/-- What an event does to the work. -/
theorem work_event {e : Event β} (hctl : Control c) (hs : step mb c e = some c') :
    c'.work + 1 ≤ c.work + if e.message.isSome then 9 else 0 := by
  cases he : e.message with
  | none => exact work_step hctl he hs
  | some message =>
    cases e with
    | receive message now => exact work_receive hs
    | _ => cases he

/-- A client at which nothing but a request can happen is at rest. -/
theorem atRest_iff (mb : Modbus β) (c : ModbusTcpClient β) :
    c.AtRest ↔ ∀ e : Event β, e.message = none → step mb c e = none := by
  constructor
  · rintro ⟨hops, hwaits⟩ e he
    cases e with
    | receive message now => cases he
    | complete i result => simp [step, hops, Pool.complete]
    | handle i peerGone now => simp [step, hops, Pool.take]
    | expire i ec => simp [step, hwaits, Pool.complete]
    | handleWait i => simp [step, hwaits, Pool.take]
  · intro hstuck
    constructor
    · refine Pool.eq_nil_of_stuck .aborted (fun i => ?_) fun i => ?_
      · exact Option.map_eq_none_iff.mp (hstuck (.complete i .aborted) rfl)
      · cases ht : c.socket.ops.take i with
        | none => rfl
        | some taken =>
          obtain ⟨op, result, ops⟩ := taken
          have hhandle := hstuck (.handle i false 0) rfl
          simp only [step, ht] at hhandle
          cases op with
          | connect =>
            cases hec : result.ec.failed <;> simp [handler, connectHandler, hec] at hhandle
          | send n modbusBuffer => cases hhandle
          | receive n => cases hhandle
    · refine Pool.eq_nil_of_stuck .operationAborted (fun i => ?_) fun i => ?_
      · exact Option.map_eq_none_iff.mp (hstuck (.expire i .operationAborted) rfl)
      · cases ht : c.timer.waits.take i with
        | none => rfl
        | some taken =>
          have hhandle := hstuck (.handleWait i) rfl
          simp only [step, ht] at hhandle
          cases hhandle

end ModbusTcpClient

/-! ### The RTU master -/

namespace ModbusRtuMaster

variable {mb : Modbus β} {m m' : ModbusRtuMaster β}

/-- The events that come of the handler of an operation: its own, and those of the read and of
the wait that it starts. -/
def opCost : RtuOp β → ℕ
  | .write _ _ => 5
  | .read _ => 1

/-- The events that can happen before the master is at rest: those of the operations and the
waits that are outstanding, and six for each request that is queued. -/
def work (m : ModbusRtuMaster β) : ℕ :=
  m.serialPort.ops.work opCost + m.timer.waits.work (fun _ => 1) +
    6 * m.messageQueue.queue.length

/-- No operation and no wait is outstanding. -/
def AtRest (m : ModbusRtuMaster β) : Prop := m.serialPort.ops = [] ∧ m.timer.waits = []

theorem popExpired_work_le (m : ModbusRtuMaster β) (now : Nanoseconds) :
    (m.popExpired now).work ≤ m.work := by
  have hqueue : (m.popExpired now).messageQueue.queue.length ≤ m.messageQueue.queue.length :=
    (List.dropWhile_sublist _).length_le
  have hops : (m.popExpired now).serialPort = m.serialPort := rfl
  have hwaits : (m.popExpired now).timer = m.timer := rfl
  rw [work, work, hops, hwaits]
  omega

/-- A write is paid for by the request that leaves the queue. -/
theorem startMessageTaskUnsafe_work {message : ModbusMessage β}
    (hfront : m.messageQueue.front? = some message) :
    (m.startMessageTaskUnsafe mb message).work = m.work := by
  have hqueue := congrArg List.length (LimitQueue.queue_of_front? hfront)
  rw [List.length_cons] at hqueue
  simp only [work, startMessageTaskUnsafe, note, Stream.start, Pool.work_start, opCost]
  omega

theorem queueProcessUnsafe_work_le (mb : Modbus β) (m : ModbusRtuMaster β) (now : Nanoseconds) :
    (m.queueProcessUnsafe mb now).work ≤ m.work := by
  have hexpired := popExpired_work_le m now
  rcases queueProcessUnsafe_cases mb m now with
    ⟨heq, -⟩ | ⟨heq, -, -⟩ | ⟨message, heq, -, hfront⟩ <;> rw [heq]
  · exact hexpired
  · rw [startMessageTaskUnsafe_work hfront]
    exact hexpired

theorem pushMessage_work_le (m : ModbusRtuMaster β) (message : ModbusMessage β) :
    (m.pushMessage message).work ≤ m.work + 6 := by
  have hqueue : (m.pushMessage message).messageQueue.queue.length ≤
      m.messageQueue.queue.length + 1 := by
    rcases LimitQueue.push_queue m.messageQueue message with heq | heq <;>
      simp [pushMessage, note, heq]
  have hops : (m.pushMessage message).serialPort = m.serialPort := rfl
  have hwaits : (m.pushMessage message).timer = m.timer := rfl
  rw [work, work, hops, hwaits]
  omega

/-- What has been read neither starts anything nor is queued. -/
theorem answered_work_le (mb : Modbus β) (m : ModbusRtuMaster β) (data : List UInt8) :
    (m.answered mb data).work ≤ m.work := by
  have htimer : m.timer.cancel.waits.work (fun _ => 1) ≤ m.timer.waits.work (fun _ => 1) :=
    Pool.work_cancel_le _ _
  rcases answered_cases mb m data with
    ⟨heq, -⟩ | ⟨current, buffer, -, -, heq, -⟩ | ⟨current, buffer, -, -, heq, -⟩ <;>
    rw [heq] <;> simp only [work, note] <;> omega

/-- A request brings in seven events: its own, and six in the queue. -/
theorem work_receive {message : ModbusMessage β} {now : Nanoseconds}
    (hs : step mb m (.receive message now) = some m') : m'.work + 1 ≤ m.work + 7 := by
  obtain rfl := Option.some.inj hs
  have hpush := pushMessage_work_le m message
  have hqueue := queueProcessUnsafe_work_le mb (m.pushMessage message) now
  rw [messageProcess]
  omega

/-- **Every other event uses up some of the work.** -/
theorem work_step {e : Event β} (hctl : Control m) (he : e.message = none)
    (hs : step mb m e = some m') : m'.work < m.work := by
  have htimer : m.timer.cancel.waits.work (fun _ => 1) ≤ m.timer.waits.work (fun _ => 1) :=
    Pool.work_cancel_le _ _
  cases step_branch hctl.exchange hs with
  | receive message now => cases he
  | complete hops =>
    have hwork := Pool.work_complete opCost hops
    simp only [work, withOps]
    omega
  | writeFailed ht hec now =>
    have hwork := Pool.work_take opCost ht
    simp only [work, withOps, opCost] at hwork ⊢
    omega
  | written ht hec now =>
    -- of the five, one is the handler's own, and the read and the wait are two each
    have hwork := Pool.work_take opCost ht
    simp only [work, withOps, startReadTask, startWaitTask, Stream.start, Timer.asyncWait,
      Timer.expiresAfter, Pool.work_start, opCost] at hwork ⊢
    omega
  | readFailed ht hec now =>
    have hwork := Pool.work_take opCost ht
    simp only [work, withOps, opCost] at hwork ⊢
    omega
  | @read i n result ops ht hec now =>
    have hwork := Pool.work_take opCost ht
    refine lt_of_le_of_lt (queueProcessUnsafe_work_le mb _ now) ?_
    refine lt_of_le_of_lt (answered_work_le mb _ result.data) ?_
    simp only [work, withOps, opCost] at hwork ⊢
    omega
  | expire hw =>
    have hwork := Pool.work_complete (fun _ => 1) hw
    simp only [work]
    omega
  | waitFailed ht hec =>
    have hwork := Pool.work_take (fun _ => 1) ht
    simp only [work]
    omega
  | timeout ht =>
    have hwork := Pool.work_take (fun _ => 1) ht
    have hcancel := Stream.work_cancel_le opCost m.serialPort
    simp only [work, note]
    omega

/-- What an event does to the work. -/
theorem work_event {e : Event β} (hctl : Control m) (hs : step mb m e = some m') :
    m'.work + 1 ≤ m.work + if e.message.isSome then 7 else 0 := by
  cases he : e.message with
  | none => exact work_step hctl he hs
  | some message =>
    cases e with
    | receive message now => exact work_receive hs
    | _ => cases he

/-- A master at which nothing but a request can happen is at rest. -/
theorem atRest_iff (mb : Modbus β) (m : ModbusRtuMaster β) :
    m.AtRest ↔ ∀ e : Event β, e.message = none → step mb m e = none := by
  constructor
  · rintro ⟨hops, hwaits⟩ e he
    cases e with
    | receive message now => cases he
    | complete i result => simp [step, hops, Pool.complete]
    | handle i now => simp [step, hops, Pool.take]
    | expire i ec => simp [step, hwaits, Pool.complete]
    | handleWait i => simp [step, hwaits, Pool.take]
  · intro hstuck
    constructor
    · refine Pool.eq_nil_of_stuck .aborted (fun i => ?_) fun i => ?_
      · exact Option.map_eq_none_iff.mp (hstuck (.complete i .aborted) rfl)
      · cases ht : m.serialPort.ops.take i with
        | none => rfl
        | some taken =>
          have hhandle := hstuck (.handle i 0) rfl
          simp only [step, ht] at hhandle
          cases hhandle
    · refine Pool.eq_nil_of_stuck .operationAborted (fun i => ?_) fun i => ?_
      · exact Option.map_eq_none_iff.mp (hstuck (.expire i .operationAborted) rfl)
      · cases ht : m.timer.waits.take i with
        | none => rfl
        | some taken =>
          have hhandle := hstuck (.handleWait i) rfl
          simp only [step, ht] at hhandle
          cases hhandle

end ModbusRtuMaster

/-! ### Coming to rest -/

/-- **A master comes to rest.**  In every run of either master, with whatever requests, results
and orders of events: the events so far and those that are left, unless more requests come, are
nine for each request to the TCP client, and seven for each to the RTU master; and nothing but a
request can happen exactly if nothing is outstanding. -/
theorem comesToRest_exec {β : Type} (mb : Modbus β) (timeout : Milliseconds) :
    (∀ es c, exec (ModbusTcpClient.step mb) (.new timeout) es = some c →
      es.length + c.work ≤ 9 * es.countP (·.message.isSome) ∧
      (c.AtRest ↔ ∀ e : ModbusTcpClient.Event β, e.message = none →
        ModbusTcpClient.step mb c e = none)) ∧
    ∀ frameType es m, exec (ModbusRtuMaster.step mb) (.new timeout frameType) es = some m →
      es.length + m.work ≤ 7 * es.countP (·.message.isSome) ∧
      (m.AtRest ↔ ∀ e : ModbusRtuMaster.Event β, e.message = none →
        ModbusRtuMaster.step mb m e = none) := by
  constructor
  · intro es c hrun
    refine ⟨?_, ModbusTcpClient.atRest_iff mb c⟩
    have hbound := length_le_of_stored (I := ModbusTcpClient.Control)
      (P := fun e => e.message.isSome) (fun c e c' hctl hs =>
        ⟨ModbusTcpClient.control_step hctl hs, ModbusTcpClient.work_event hctl hs⟩)
      es _ c (ModbusTcpClient.control_new timeout) hrun
    exact hbound.trans_eq (Nat.zero_add _)
  · intro frameType es m hrun
    refine ⟨?_, ModbusRtuMaster.atRest_iff mb m⟩
    have hbound := length_le_of_stored (I := ModbusRtuMaster.Control)
      (P := fun e => e.message.isSome) (fun m e m' hctl hs =>
        ⟨ModbusRtuMaster.control_step hctl hs, ModbusRtuMaster.work_event hctl hs⟩)
      es _ m (ModbusRtuMaster.control_new timeout frameType) hrun
    exact hbound.trans_eq (Nat.zero_add _)

set_option maxRecDepth 2000 in
/-- A request whose wait expires as its reply is read needs all of its events. -/
theorem comesToRest_reply :
    (∃ (es : List (ModbusTcpClient.Event Frame)) (c : ModbusTcpClient Frame),
      exec (ModbusTcpClient.step Frame.library) (.new 1000) es = some c ∧
      es.countP (·.message.isSome) = 1 ∧ es.length = 9 ∧ c.work = 0 ∧ c.AtRest) ∧
    ∃ (es : List (ModbusRtuMaster.Event Frame)) (m : ModbusRtuMaster Frame),
      exec (ModbusRtuMaster.step Frame.library) (.new 1000 .RTU) es = some m ∧
      es.countP (·.message.isSome) = 1 ∧ es.length = 7 ∧ m.work = 0 ∧ m.AtRest := by
  obtain ⟨htcp, hrtu⟩ := comesToRest_exec Frame.library 1000
  constructor
  · obtain ⟨c, hc, hrest⟩ : ∃ c, exec (ModbusTcpClient.step Frame.library) (.new 1000)
        [.receive (Frame.readRequest 5 9 1) 0, .complete 0 ⟨.success, []⟩, .handle 0 false 0,
          .complete 0 ⟨.success, []⟩, .handle 0 false 0,
          .complete 0 ⟨.success, Frame.readReply 1 1 7⟩, .expire 0 .success,
          .handle 0 false 0, .handleWait 0] = some c ∧ c.AtRest :=
      ⟨_, rfl, by decide +kernel, by decide +kernel⟩
    obtain ⟨hbound, -⟩ := htcp _ c hc
    exact ⟨_, c, hc, rfl, rfl, Nat.le_zero.mp (Nat.le_of_add_le_add_left hbound), hrest⟩
  · obtain ⟨m, hm, hrest⟩ : ∃ m, exec (ModbusRtuMaster.step Frame.library) (.new 1000 .RTU)
        [.receive (Frame.readRequest 5 9 1) 0, .complete 0 ⟨.success, []⟩, .handle 0 0,
          .complete 0 ⟨.success, (Frame.rtu 1 [3, 2, 0, 7]).bytes⟩, .expire 0 .success,
          .handle 0 0, .handleWait 0] = some m ∧ m.AtRest :=
      ⟨_, rfl, by decide +kernel, by decide +kernel⟩
    obtain ⟨hbound, -⟩ := hrtu .RTU _ m hm
    exact ⟨_, m, hm, rfl, rfl, Nat.le_zero.mp (Nat.le_of_add_le_add_left hbound), hrest⟩

end ModbusGateway
