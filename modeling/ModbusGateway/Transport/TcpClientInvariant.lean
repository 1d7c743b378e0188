import ModbusGateway.Transport.ModbusTcpClient

/-!
# What every step of the TCP client keeps

The client's functions are taken apart once: `queueProcessUnsafe_cases` and
`makeResponse_cases` list what the two branching functions can do, `step_branch`
what a step can, and `take_data` says what the outstanding operations are when a
handler runs.  From these the control invariant follows.

## Main definitions

* `dataOps c` — the numbers of the requests whose send or receive is outstanding.
* `Branch mb c e c'` — a branch that the event `e` can take, to `c'`.
* `Control c` — at most one send or receive is outstanding, and it belongs to the
  request in process.

## Main results

* `control_step`, `control_exec` — every step, and so every run, keeps `Control`.
-/

namespace ModbusGateway

open Proactor Execution Transaction

/-- The request a send or a receive was started for. -/
def ClientOp.data {β : Type} : ClientOp β → Option ℕ
  | .connect => none
  | .send request _ => some request
  | .receive request => some request

namespace ModbusTcpClient

variable {β : Type} {mb : Modbus β} {c c' : ModbusTcpClient β}

/-- The numbers of the requests whose send or receive is outstanding. -/
def dataOps (c : ModbusTcpClient β) : List ℕ := c.socket.ops.kinds.filterMap ClientOp.data

/-! ### The small functions -/

@[simp] theorem note_socket (es : List (MasterEffect β)) : (c.note es).socket = c.socket := rfl

@[simp] theorem note_state (es : List (MasterEffect β)) : (c.note es).state = c.state := rfl

/-- Silent effects leave the number of the latest request alone. -/
theorem request_note {es : List (MasterEffect β)} (h : ∀ e ∈ es, e.silent = true) :
    (c.note es).request = c.request := by
  unfold request started requests note
  rw [acts_append_silent h]

theorem request_note_write (message : ModbusMessage β) (id : TransactionId) (buffer : β) :
    (c.note [.write message id buffer]).request = c.request + 1 := by
  unfold request started requests note
  rw [acts_append]
  exact congrArg List.length (starts_concat_start _ _) |>.trans (List.length_append ..)

theorem request_note_send (actorId : ActorId) (message : ModbusMessage β) :
    (c.note [.send actorId message]).request = c.request := by
  unfold request started requests note
  rw [acts_append]
  exact congrArg List.length (starts_concat_answer _ _)

@[simp] theorem popExpired_request (now : Nanoseconds) :
    (c.popExpired now).request = c.request := by
  refine request_note fun e he => ?_
  obtain ⟨m, -, rfl⟩ := List.mem_map.mp he
  rfl

theorem pushMessage_request (message : ModbusMessage β) :
    (c.pushMessage message).request = c.request :=
  request_note (silent_singleton rfl)

theorem startConnectTaskUnsafe_request : c.startConnectTaskUnsafe.request = c.request :=
  request_note (silent_singleton rfl)

/-- A connect is not a data operation. -/
theorem startConnectTaskUnsafe_dataOps : c.startConnectTaskUnsafe.dataOps = c.dataOps := by
  simp [startConnectTaskUnsafe, dataOps, ClientOp.data]

@[simp] theorem closeSocket_dataOps : c.closeSocket.dataOps = c.dataOps := by
  unfold closeSocket
  split
  · simp [dataOps]
  · rfl

/-- Closing the socket changes nothing else. -/
theorem closeSocket_eq : ∃ socket, c.closeSocket = { c with socket := socket } := by
  unfold closeSocket
  split
  · exact ⟨_, rfl⟩
  · exact ⟨c.socket, rfl⟩

/-- What the error exits change: the request in process, the state and the socket, whose
outstanding operations stay. -/
theorem dropCurrent_eq (c : ModbusTcpClient β) (ec : ErrorCode) :
    ∃ state socket, c.dropCurrent ec =
        { c with currentMessage := none, state := state, socket := socket } ∧
      socket.ops.kinds = c.socket.ops.kinds := by
  unfold dropCurrent closeSocket
  dsimp only
  split
  · split
    · exact ⟨_, _, rfl, Stream.close_kinds _⟩
    · exact ⟨_, _, rfl, rfl⟩
  · exact ⟨_, _, rfl, rfl⟩

/-! ### The branching functions -/

/-- What `queueProcessUnsafe` can do: nothing, connect, find that the whole queue
has expired, or start the request at the front of what has not. -/
theorem queueProcessUnsafe_cases (mb : Modbus β) (c : ModbusTcpClient β) (now : Nanoseconds) :
    (c.queueProcessUnsafe mb now = c ∧ (c.messageQueue.queue = [] ∨ c.state = .WaitConnect ∨
      c.state = .MessageProcess ∨ c.state = .Connected ∧ c.currentMessage.isSome = true)) ∨
    (c.queueProcessUnsafe mb now = c.startConnectTaskUnsafe ∧ c.state = .Idle ∧
      c.messageQueue.queue ≠ []) ∨
    (c.queueProcessUnsafe mb now = c.popExpired now ∧ c.state = .Connected ∧
      c.currentMessage = none ∧ (c.popExpired now).messageQueue.queue = []) ∨
    (∃ message, c.queueProcessUnsafe mb now = (c.popExpired now).startMessage mb message ∧
      c.state = .Connected ∧ c.currentMessage = none ∧
      (c.popExpired now).messageQueue.front? = some message) := by
  unfold queueProcessUnsafe
  split
  · next hempty => exact Or.inl ⟨rfl, Or.inl (List.isEmpty_iff.mp hempty)⟩
  next hempty =>
  have hne : c.messageQueue.queue ≠ [] := fun h => hempty (List.isEmpty_iff.mpr h)
  cases hstate : c.state with
  | Idle => exact Or.inr (Or.inl ⟨rfl, rfl, hne⟩)
  | WaitConnect => exact Or.inl ⟨rfl, Or.inr (Or.inl rfl)⟩
  | MessageProcess => exact Or.inl ⟨rfl, Or.inr (Or.inr (Or.inl rfl))⟩
  | Connected =>
    simp only [startMessageTaskUnsafe]
    split
    · next hcur => exact Or.inl ⟨rfl, Or.inr (Or.inr (Or.inr ⟨trivial, hcur⟩))⟩
    next hcur =>
    have hnone : c.currentMessage = none := by simpa using hcur
    cases hfront : (c.popExpired now).messageQueue.front? with
    | none =>
      refine Or.inr (Or.inr (Or.inl ⟨by simp, trivial, hnone, ?_⟩))
      exact List.head?_eq_none_iff.mp hfront
    | some message => exact Or.inr (Or.inr (Or.inr ⟨message, by simp, trivial, hnone, rfl⟩))

/-- What `makeResponse` can do: refuse before the request is given up, refuse after,
or answer the request. -/
theorem makeResponse_cases (mb : Modbus β) (c : ModbusTcpClient β) (data : List UInt8) :
    (c.makeResponse mb data = (none, c) ∧
      (c.currentMessage = none ∨ mb.read .TCP data = none)) ∨
    (∃ current buffer, c.currentMessage = some current ∧ mb.read .TCP data = some buffer ∧
      c.makeResponse mb data = (none, { c with currentMessage := none }) ∧
      (mb.tcpCheck buffer ≠ .NoError ∨ mb.getTransactionId buffer ≠ current.id)) ∨
    (∃ current buffer, c.currentMessage = some current ∧ mb.read .TCP data = some buffer ∧
      c.makeResponse mb data = (some ⟨current.modbusMessage.modbusMessageInfo, buffer⟩,
        { c with currentMessage := none }) ∧
      mb.tcpCheck buffer = .NoError ∧ mb.getTransactionId buffer = current.id) := by
  unfold makeResponse
  cases hcur : c.currentMessage with
  | none => exact Or.inl ⟨rfl, Or.inl rfl⟩
  | some current =>
    cases hread : mb.read .TCP data with
    | none => exact Or.inl ⟨rfl, Or.inr rfl⟩
    | some buffer =>
      simp only
      split
      · next hcheck => exact Or.inr (Or.inl ⟨current, buffer, rfl, rfl, rfl, Or.inl hcheck⟩)
      next hcheck =>
      split
      · next hid => exact Or.inr (Or.inl ⟨current, buffer, rfl, rfl, rfl, Or.inr hid⟩)
      next hid =>
      rw [ne_eq, Decidable.not_not] at hcheck hid
      exact Or.inr (Or.inr ⟨current, buffer, rfl, rfl, rfl, hcheck, hid⟩)

/-- What the receive handler hands over to `queueProcessUnsafe` after a success. -/
def received (mb : Modbus β) (c : ModbusTcpClient β) (data : List UInt8) : ModbusTcpClient β :=
  let c := { c with timer := c.timer.cancel }
  { (c.makeResponse mb data).2.sendResponse (c.makeResponse mb data).1 with state := .Connected }

theorem receiveHandler_success (hx : c.exchange = true) (data : List UInt8) (now : Nanoseconds) :
    c.receiveHandler mb .success data now = (c.received mb data).queueProcessUnsafe mb now := by
  simp [receiveHandler, hx, received, ErrorCode.failed]

theorem receiveHandler_failed (hx : c.exchange = true) {ec : ErrorCode} (hec : ec ≠ .success)
    (data : List UInt8) (now : Nanoseconds) :
    c.receiveHandler mb ec data now = { c with timer := c.timer.cancel }.dropCurrent ec := by
  simp [receiveHandler, hx, hec]

/-- What a receive that has succeeded does before the queue is processed: nothing,
when there is no request in process or the size is refused; give the request up;
or answer it. -/
theorem received_cases (mb : Modbus β) (c : ModbusTcpClient β) (data : List UInt8) :
    (c.received mb data = { c with timer := c.timer.cancel, state := .Connected } ∧
      (c.currentMessage = none ∨ mb.read .TCP data = none)) ∨
    (∃ current buffer, c.currentMessage = some current ∧ mb.read .TCP data = some buffer ∧
      c.received mb data =
        { c with timer := c.timer.cancel, state := .Connected, currentMessage := none } ∧
      (mb.tcpCheck buffer ≠ .NoError ∨ mb.getTransactionId buffer ≠ current.id)) ∨
    (∃ current buffer, c.currentMessage = some current ∧ mb.read .TCP data = some buffer ∧
      c.received mb data =
        { c with timer := c.timer.cancel, state := .Connected, currentMessage := none }.note
          [.send current.modbusMessage.modbusMessageInfo.sourceId
            ⟨current.modbusMessage.modbusMessageInfo, buffer⟩] ∧
      mb.tcpCheck buffer = .NoError ∧ mb.getTransactionId buffer = current.id) := by
  unfold received
  rcases makeResponse_cases mb { c with timer := c.timer.cancel } data with
    ⟨heq, hwhy⟩ | ⟨current, buffer, hcur, hread, heq, hwhy⟩ |
    ⟨current, buffer, hcur, hread, heq, hwhy⟩
  · refine Or.inl ⟨?_, hwhy⟩
    simp only [heq, sendResponse]
  · refine Or.inr (Or.inl ⟨current, buffer, hcur, hread, ?_, hwhy⟩)
    simp only [heq, sendResponse]
  · refine Or.inr (Or.inr ⟨current, buffer, hcur, hread, ?_, hwhy⟩)
    simp only [heq, sendResponse, note]

/-- Before it processes the queue, the receive handler leaves the outstanding operations
alone, writes nothing and cancels the timer. -/
theorem received_frame (mb : Modbus β) (c : ModbusTcpClient β) (data : List UInt8) :
    (c.received mb data).socket = c.socket ∧ (c.received mb data).timer = c.timer.cancel ∧
      (c.received mb data).request = c.request := by
  rcases received_cases mb c data with
    ⟨heq, -⟩ | ⟨current, buffer, -, -, heq, -⟩ | ⟨current, buffer, -, -, heq, -⟩ <;> rw [heq]
  · exact ⟨rfl, rfl, rfl⟩
  · exact ⟨rfl, rfl, rfl⟩
  · exact ⟨rfl, rfl, request_note_send (c := { c with
      timer := c.timer.cancel, state := .Connected, currentMessage := none }) _ _⟩

/-! ### The branches of a step -/

/-- The branches an event can take, each with the client after it. -/
inductive Branch (mb : Modbus β) (c : ModbusTcpClient β) : Event β → ModbusTcpClient β → Prop
  | receive (message : ModbusMessage β) (now : Nanoseconds) :
    Branch mb c (.receive message now) ((c.pushMessage message).queueProcessUnsafe mb now)
  | complete {i : ℕ} {result : Completion} {ops : Pool (ClientOp β) Completion}
      (hops : c.socket.ops.complete i result = some ops) :
    Branch mb c (.complete i result) (c.withOps ops)
  | connectFailed {i : ℕ} {result : Completion} {ops : Pool (ClientOp β) Completion}
      (ht : c.socket.ops.take i = some (.connect, result, ops)) (hec : result.ec.failed = true)
      (peerGone : Bool) (now : Nanoseconds) :
    Branch mb c (.handle i peerGone now) { c.withOps ops with state := .Idle }
  | connected {i : ℕ} {result : Completion} {ops : Pool (ClientOp β) Completion}
      (ht : c.socket.ops.take i = some (.connect, result, ops)) (hec : result.ec = .success)
      (now : Nanoseconds) :
    Branch mb c (.handle i false now)
      ({ c.withOps ops with state := .Connected }.queueProcessUnsafe mb now)
  | sendFailed {i n : ℕ} {buffer : β} {result : Completion} {ops : Pool (ClientOp β) Completion}
      (ht : c.socket.ops.take i = some (.send n buffer, result, ops))
      (hec : result.ec.failed = true) (peerGone : Bool) (now : Nanoseconds) :
    Branch mb c (.handle i peerGone now) ((c.withOps ops).dropCurrent result.ec)
  | sent {i n : ℕ} {buffer : β} {result : Completion} {ops : Pool (ClientOp β) Completion}
      (ht : c.socket.ops.take i = some (.send n buffer, result, ops)) (hec : result.ec = .success)
      (peerGone : Bool) (now : Nanoseconds) :
    Branch mb c (.handle i peerGone now) (c.withOps ops).startWaitTask.startReceiveTask
  | receiveFailed {i n : ℕ} {result : Completion} {ops : Pool (ClientOp β) Completion}
      (ht : c.socket.ops.take i = some (.receive n, result, ops)) (hec : result.ec.failed = true)
      (peerGone : Bool) (now : Nanoseconds) :
    Branch mb c (.handle i peerGone now)
      ({ c.withOps ops with timer := c.timer.cancel }.dropCurrent result.ec)
  | received {i n : ℕ} {result : Completion} {ops : Pool (ClientOp β) Completion}
      (ht : c.socket.ops.take i = some (.receive n, result, ops)) (hec : result.ec = .success)
      (peerGone : Bool) (now : Nanoseconds) :
    Branch mb c (.handle i peerGone now)
      (((c.withOps ops).received mb result.data).queueProcessUnsafe mb now)
  | expire {i : ℕ} {ec : ErrorCode} {waits : Pool ℕ ErrorCode}
      (hw : c.timer.waits.complete i ec = some waits) :
    Branch mb c (.expire i ec) { c with timer := ⟨waits⟩ }
  | waitFailed {i request : ℕ} {ec : ErrorCode} {waits : Pool ℕ ErrorCode}
      (ht : c.timer.waits.take i = some (request, ec, waits)) (hec : ec.failed = true) :
    Branch mb c (.handleWait i) { c with timer := ⟨waits⟩ }
  | timeout {i request : ℕ} {waits : Pool ℕ ErrorCode}
      (ht : c.timer.waits.take i = some (request, .success, waits)) :
    Branch mb c (.handleWait i)
      ({ c with timer := ⟨waits⟩, socket := c.socket.cancel }.note [.timeout request])

/-- **What a step can do.** -/
theorem step_branch {e : Event β} (hx : c.exchange = true) (hs : step mb c e = some c') :
    Branch mb c e c' := by
  cases e with
  | receive message now =>
    cases hs
    exact .receive message now
  | complete i result =>
    simp only [step, Option.map_eq_some_iff] at hs
    obtain ⟨ops, hops, rfl⟩ := hs
    exact .complete hops
  | handle i peerGone now =>
    simp only [step] at hs
    split at hs
    · cases hs
    next op result ops ht =>
    cases op with
    | connect =>
      simp only [handler, connectHandler] at hs
      split at hs
      · next hec =>
        cases hs
        exact .connectFailed ht hec peerGone now
      next hec =>
      rw [Bool.not_eq_true, ErrorCode.failed_eq_false] at hec
      cases peerGone with
      | true => cases hs
      | false =>
        cases hs
        exact .connected ht hec now
    | send n buffer =>
      simp only [handler, sendHandler, Option.some.injEq] at hs
      split at hs <;> subst hs
      · next hec => exact .sendFailed ht hec peerGone now
      next hec =>
      rw [Bool.not_eq_true, ErrorCode.failed_eq_false] at hec
      exact .sent ht hec peerGone now
    | receive n =>
      simp only [handler, Option.some.injEq] at hs
      subst hs
      by_cases hec : result.ec = .success
      · rw [hec, receiveHandler_success (c := c.withOps ops) hx]
        exact .received ht hec peerGone now
      · rw [receiveHandler_failed (c := c.withOps ops) hx hec]
        exact .receiveFailed ht (ErrorCode.failed_eq_true.mpr hec) peerGone now
  | expire i ec =>
    simp only [step, Option.map_eq_some_iff] at hs
    obtain ⟨waits, hw, rfl⟩ := hs
    exact .expire hw
  | handleWait i =>
    simp only [step] at hs
    split at hs
    · cases hs
    next request ec waits ht =>
    simp only [Option.some.injEq, waitHandler] at hs
    split at hs <;> subst hs
    · next hec => exact .waitFailed ht hec
    next hec =>
    rw [Bool.not_eq_true, ErrorCode.failed_eq_false] at hec
    subst hec
    exact .timeout ht

/-! ### The control invariant -/

/-- The exchange is there, `WaitConnect` is never entered, and there is at most one
send or receive, that of the request in process. -/
structure Control (c : ModbusTcpClient β) : Prop where
  exchange : c.exchange = true
  state_ne : c.state ≠ .WaitConnect
  current_of_state : c.state = .MessageProcess → c.currentMessage.isSome = true
  data : c.dataOps = [] ∨ c.currentMessage.isSome = true ∧ c.dataOps = [c.request]

theorem control_new (timeout : Milliseconds) : Control (new timeout : ModbusTcpClient β) where
  exchange := rfl
  state_ne := by intro h; cases h
  current_of_state := by intro h; cases h
  data := Or.inl rfl

/-- The invariant reads five things only. -/
theorem Control.congr (h : Control c) (hx : c'.exchange = c.exchange) (hs : c'.state = c.state)
    (hm : c'.currentMessage = c.currentMessage) (hd : c'.dataOps = c.dataOps)
    (hr : c'.request = c.request) : Control c' where
  exchange := hx.trans h.exchange
  state_ne := by rw [hs]; exact h.state_ne
  current_of_state := by rw [hs, hm]; exact h.current_of_state
  data := by rw [hd, hm, hr]; exact h.data

/-- A client between requests, whatever has been done with the request before. -/
theorem Control.of_idle (hx : c.exchange = true) (hs : c.state = .Connected ∨ c.state = .Idle)
    (hd : c.dataOps = []) : Control c where
  exchange := hx
  state_ne := by rcases hs with hs | hs <;> rw [hs] <;> decide
  current_of_state := by rcases hs with hs | hs <;> rw [hs] <;> intro h <;> cases h
  data := Or.inl hd

/-- A connect handler only rewrites the state. -/
theorem Control.with_state {s : ClientState} (h : Control c) (hs : s = .Connected ∨ s = .Idle) :
    Control { c with state := s } where
  exchange := h.exchange
  state_ne := by rcases hs with rfl | rfl <;> intro h <;> cases h
  current_of_state := by rcases hs with rfl | rfl <;> intro h <;> cases h
  data := h.data

/-- Without a request in process there is no send and no receive. -/
theorem Control.dataOps_of_none (h : Control c) (hm : c.currentMessage = none) :
    c.dataOps = [] := by
  rcases h.data with hd | ⟨hcur, -⟩
  · exact hd
  · rw [hm] at hcur; cases hcur

/-- There is at most one send or receive. -/
theorem Control.length_dataOps_le (h : Control c) : c.dataOps.length ≤ 1 := by
  rcases h.data with hnil | ⟨-, hone⟩
  · rw [hnil]; exact Nat.zero_le 1
  · rw [hone]; exact Nat.le_refl 1

theorem control_startMessage (h : Control c) (hm : c.currentMessage = none)
    (message : ModbusMessage β) : Control (c.startMessage mb message) where
  exchange := h.exchange
  state_ne := by simp [startMessage]
  current_of_state := by intro _; rfl
  data := by
    refine Or.inr ⟨rfl, ?_⟩
    have hd := h.dataOps_of_none hm
    simp only [dataOps] at hd
    simp only [startMessage, dataOps, Stream.start_kinds, note_socket, List.filterMap_append, hd]
    rfl

theorem control_queueProcessUnsafe (h : Control c) (now : Nanoseconds) :
    Control (c.queueProcessUnsafe mb now) := by
  have hpop : Control (c.popExpired now) := h.congr rfl rfl rfl rfl (popExpired_request now)
  rcases queueProcessUnsafe_cases mb c now with
    ⟨heq, -⟩ | ⟨heq, -, -⟩ | ⟨heq, -, -, -⟩ | ⟨message, heq, -, hm, -⟩ <;> rw [heq]
  · exact h
  · exact h.congr rfl rfl rfl startConnectTaskUnsafe_dataOps startConnectTaskUnsafe_request
  · exact hpop
  · exact control_startMessage hpop hm message

theorem control_dropCurrent (hx : c.exchange = true) (hd : c.dataOps = []) (ec : ErrorCode) :
    Control (c.dropCurrent ec) := by
  unfold dropCurrent
  dsimp only
  split
  · obtain ⟨socket, heq⟩ := closeSocket_eq (c := { c with currentMessage := none, state := .Idle })
    refine Control.of_idle ?_ (Or.inr ?_) ?_
    · rw [heq]; exact hx
    · rw [heq]
    · rw [closeSocket_dataOps]; exact hd
  · exact Control.of_idle hx (Or.inl rfl) hd

/-- A request that has been sent is waited for. -/
theorem control_startReceiveTask (h : Control c) (hm : c.currentMessage.isSome = true)
    (hd : c.dataOps = []) : Control c.startWaitTask.startReceiveTask where
  exchange := h.exchange
  state_ne := h.state_ne
  current_of_state := h.current_of_state
  data := by
    refine Or.inr ⟨hm, ?_⟩
    simp only [dataOps] at hd
    simp only [startReceiveTask, startWaitTask, dataOps, Stream.start_kinds, List.filterMap_append,
      hd]
    rfl

theorem control_received (hx : c.exchange = true) (hd : c.dataOps = []) (data : List UInt8) :
    Control (c.received mb data) := by
  rcases received_cases mb c data with
    ⟨heq, -⟩ | ⟨current, buffer, -, -, heq, -⟩ | ⟨current, buffer, -, -, heq, -⟩ <;>
    rw [heq] <;> exact Control.of_idle hx (Or.inl rfl) hd

/-- **What is outstanding when a handler runs.**  Taking a connect leaves the data
operations alone; a send or a receive is that of the request in process, and the
only one. -/
theorem take_data {i : ℕ} {op : ClientOp β} {result : Completion}
    {ops : Pool (ClientOp β) Completion}
    (h : Control c) (ht : c.socket.ops.take i = some (op, result, ops)) :
    Control (c.withOps ops) ∧
    (op.data = none → (c.withOps ops).dataOps = c.dataOps) ∧
    (∀ n, op.data = some n → c.currentMessage.isSome = true ∧ n = c.request ∧
      c.dataOps = [n] ∧ (c.withOps ops).dataOps = []) := by
  have hperm : c.dataOps.Perm (op.data.toList ++ ops.kinds.filterMap ClientOp.data) := by
    refine ((Pool.kinds_take ht).filterMap ClientOp.data).trans ?_
    cases hop : op.data <;> simp [hop]
  cases hop : op.data with
  | none =>
    rw [hop] at hperm
    have hsame : ops.kinds.filterMap ClientOp.data = c.dataOps := by
      rcases h.data with hd | ⟨-, hd⟩ <;> rw [hd] at hperm ⊢
      · exact List.Perm.eq_nil hperm.symm
      · exact List.perm_singleton.mp hperm.symm
    exact ⟨h.congr rfl rfl rfl hsame rfl, fun _ => hsame, fun n hn => by cases hn⟩
  | some n =>
    rw [hop] at hperm
    rcases h.data with hd | ⟨hcur, hd⟩ <;> rw [hd] at hperm
    · exact absurd hperm.symm.eq_nil (by simp)
    have heq := List.perm_singleton.mp hperm.symm
    simp only [Option.toList_some, List.cons_append, List.nil_append, List.cons.injEq] at heq
    obtain ⟨rfl, hrest⟩ := heq
    refine ⟨⟨h.exchange, h.state_ne, h.current_of_state, Or.inl hrest⟩, ?_, ?_⟩
    · intro hn; cases hn
    · intro m hm
      cases hm
      exact ⟨hcur, rfl, hd, hrest⟩

/-- **Every step keeps the control invariant.** -/
theorem control_step {e : Event β} (h : Control c) (hs : step mb c e = some c') : Control c' := by
  cases step_branch h.exchange hs with
  | receive message now =>
    have hpush : Control (c.pushMessage message) :=
      h.congr rfl rfl rfl rfl (pushMessage_request message)
    exact control_queueProcessUnsafe hpush now
  | complete hops =>
    refine h.congr rfl rfl rfl ?_ rfl
    simp only [dataOps, withOps, Pool.kinds_complete hops]
  | connectFailed ht => exact (take_data h ht).1.with_state (Or.inr rfl)
  | connected ht hec now =>
    exact control_queueProcessUnsafe ((take_data h ht).1.with_state (Or.inl rfl)) now
  | @sendFailed i n buffer result ops ht hec =>
    obtain ⟨-, -, -, hd⟩ := (take_data h ht).2.2 n rfl
    exact control_dropCurrent (c := c.withOps ops) h.exchange hd _
  | @sent i n buffer result ops ht hec =>
    obtain ⟨hcur, -, -, hd⟩ := (take_data h ht).2.2 n rfl
    exact control_startReceiveTask (take_data h ht).1 hcur hd
  | @receiveFailed i n result ops ht hec =>
    obtain ⟨-, -, -, hd⟩ := (take_data h ht).2.2 n rfl
    exact control_dropCurrent (c := { c.withOps ops with timer := c.timer.cancel }) h.exchange hd _
  | @received i n result ops ht hec peerGone now =>
    obtain ⟨-, -, -, hd⟩ := (take_data h ht).2.2 n rfl
    exact control_queueProcessUnsafe (control_received (c := c.withOps ops) h.exchange hd _) now
  | expire hw => exact h.congr rfl rfl rfl rfl rfl
  | waitFailed ht hec => exact h.congr rfl rfl rfl rfl rfl
  | timeout ht =>
    refine h.congr rfl rfl rfl ?_ (request_note (silent_singleton rfl))
    simp [dataOps]

theorem control_exec {timeout : Milliseconds} {es : List (Event β)}
    (h : exec (step mb) (new timeout) es = some c) : Control c :=
  invariant (fun _ _ _ => control_step) es _ _ (control_new timeout) h

end ModbusTcpClient

end ModbusGateway
