import ModbusGateway.ModbusFrame
import ModbusGateway.Transport.TcpClientInvariant

/-!
# The TCP client does not stop, as long as nothing fails

A request in process is waited for (`RequestOutstanding`) and a queue that is not
empty is going to be looked at (`QueueServed`): each says that some operation is
outstanding whose handler goes on.  The code keeps neither in all runs.

* `MakeResponse` returns before it gives the request up when `SetAduSize` refuses
  the size received.  The client stays busy then with nothing outstanding.
* The error exits of the three socket handlers return without looking at the
  queue, which waits for the next `Receive` then.

## Main results

* `requestOutstanding_exec` — the request in process is waited for in every run in
  which no size is refused.
* `wedged_exec` — **once it is not, the client answers nothing any more**, whatever
  happens.
* `queueServed_exec` — the queue is served in every run in which no size is refused
  and nothing fails while requests are queued and nothing else is outstanding.
-/

namespace ModbusGateway

open Proactor Execution Transaction

namespace ModbusTcpClient

variable {β : Type} {mb : Modbus β} {c c' : ModbusTcpClient β}

/-- If there is a request in process, its send or its receive is outstanding. -/
def RequestOutstanding (c : ModbusTcpClient β) : Prop :=
  c.currentMessage.isSome = true → c.request ∈ c.dataOps

instance : Decidable c.RequestOutstanding := inferInstanceAs (Decidable (_ → _))

/-- If a request is queued, a connect, a send or a receive is outstanding. -/
def QueueServed (c : ModbusTcpClient β) : Prop :=
  c.messageQueue.queue ≠ [] → c.socket.ops ≠ []

instance : Decidable c.QueueServed :=
  decidable_of_iff (c.messageQueue.empty = true ∨ c.socket.ops.isEmpty = false) <| by
    simp only [QueueServed, LimitQueue.empty, List.isEmpty_iff, List.isEmpty_eq_false_iff]
    exact Decidable.or_iff_not_imp_left

/-- The event does not run the handler of a receive that has succeeded with a size
that `SetAduSize` refuses. -/
def sizeAccepted (mb : Modbus β) (c : ModbusTcpClient β) : Event β → Bool
  | .handle i _ _ =>
    match c.socket.ops.take i with
    | some (.receive _, result, _) => result.ec.failed || (mb.read .TCP result.data).isSome
    | _ => true
  | _ => true

/-- The event does not run the handler of a failed operation that is the only one
outstanding while requests are queued. -/
def failsAlone (c : ModbusTcpClient β) : Event β → Bool
  | .handle i _ _ =>
    match c.socket.ops.take i with
    | some (_, result, ops) => !result.ec.failed || c.messageQueue.empty || !ops.isEmpty
    | none => true
  | _ => true

/-! ### The request in process -/

@[simp] theorem startMessage_dataOps (message : ModbusMessage β) :
    (c.startMessage mb message).dataOps = c.dataOps ++ [c.request + 1] := by
  simp only [startMessage, dataOps, Stream.start_kinds, List.filterMap_append, note_socket]
  exact congrArg (_ ++ [·]) (request_note_write (c := { c with
    state := .MessageProcess
    currentMessage := some ⟨{ message with
      modbusBuffer := mb.toTcp message.modbusBuffer (c.transactionIdGenerator + 1) }, _⟩
    transactionIdGenerator := c.transactionIdGenerator + 1
    messageQueue := c.messageQueue.pop }) message _ _)

theorem startMessage_request (message : ModbusMessage β) :
    (c.startMessage mb message).request = c.request + 1 :=
  request_note_write message _ _

/-- The property reads three things only. -/
theorem RequestOutstanding.congr (h : c.RequestOutstanding)
    (hm : c'.currentMessage = c.currentMessage) (hd : c'.dataOps = c.dataOps)
    (hr : c'.request = c.request) : c'.RequestOutstanding := by
  intro hcur
  rw [hd, hr]
  exact h (hm ▸ hcur)

theorem requestOutstanding_queueProcessUnsafe (h : c.RequestOutstanding) (now : Nanoseconds) :
    (c.queueProcessUnsafe mb now).RequestOutstanding := by
  rcases queueProcessUnsafe_cases mb c now with
    ⟨heq, -⟩ | ⟨heq, -, -⟩ | ⟨heq, -, -, -⟩ | ⟨message, heq, -, -, -⟩ <;> rw [heq]
  · exact h
  · exact h.congr rfl startConnectTaskUnsafe_dataOps startConnectTaskUnsafe_request
  · exact h.congr rfl rfl (popExpired_request now)
  · intro _
    rw [startMessage_dataOps, startMessage_request]
    exact List.mem_append_right _ List.mem_cons_self

theorem requestOutstanding_of_none (h : c.currentMessage = none) : c.RequestOutstanding := by
  intro hcur
  rw [h] at hcur
  cases hcur

theorem dropCurrent_currentMessage (ec : ErrorCode) : (c.dropCurrent ec).currentMessage = none := by
  obtain ⟨state, socket, heq, -⟩ := dropCurrent_eq c ec
  rw [heq]

/-- After a receive of an accepted size there is no request in process. -/
theorem received_currentMessage {data : List UInt8} (h : (mb.read .TCP data).isSome = true) :
    (c.received mb data).currentMessage = none := by
  rcases received_cases mb c data with
    ⟨heq, hnone | hread⟩ | ⟨current, buffer, -, -, heq, -⟩ | ⟨current, buffer, -, -, heq, -⟩
  · rw [heq]; exact hnone
  · rw [hread] at h; cases h
  · rw [heq]
  · rw [heq]; rfl

theorem requestOutstanding_step {e : Event β} (hctl : Control c) (h : c.RequestOutstanding)
    (hsize : c.sizeAccepted mb e = true) (hs : step mb c e = some c') : c'.RequestOutstanding := by
  cases step_branch hctl.exchange hs with
  | receive message now =>
    have hpush : (c.pushMessage message).RequestOutstanding :=
      h.congr rfl rfl (pushMessage_request message)
    exact requestOutstanding_queueProcessUnsafe hpush now
  | complete hops =>
    exact h.congr rfl (by simp only [dataOps, withOps, Pool.kinds_complete hops]) rfl
  | connectFailed ht hec => exact h.congr rfl ((take_data hctl ht).2.1 rfl) rfl
  | @connected i result ops ht hec now =>
    have hops : ({ c.withOps ops with state := .Connected } :
        ModbusTcpClient β).RequestOutstanding := h.congr rfl ((take_data hctl ht).2.1 rfl) rfl
    exact requestOutstanding_queueProcessUnsafe hops now
  | sendFailed ht hec => exact requestOutstanding_of_none (dropCurrent_currentMessage _)
  | sent ht hec =>
    -- the receive that is started belongs to the request
    intro _
    simp only [startReceiveTask, startWaitTask, dataOps, Stream.start_kinds, List.filterMap_append]
    exact List.mem_append_right _ List.mem_cons_self
  | receiveFailed ht hec => exact requestOutstanding_of_none (dropCurrent_currentMessage _)
  | @received i n result ops ht hec peerGone now =>
    simp only [sizeAccepted, ht, hec, ErrorCode.failed_success, Bool.false_or] at hsize
    have hnone : ((c.withOps ops).received mb result.data).currentMessage = none :=
      received_currentMessage hsize
    exact requestOutstanding_queueProcessUnsafe (requestOutstanding_of_none hnone) now
  | expire hw => exact h
  | waitFailed ht hec => exact h
  | timeout ht =>
    exact h.congr rfl (by simp [dataOps]) (request_note (silent_singleton rfl))

/-- **The request in process is waited for** in every run in which no receive
succeeds with a size that `SetAduSize` refuses. -/
theorem requestOutstanding_exec {timeout : Milliseconds} {es : List (Event β)}
    (hrun : exec (step mb) (new timeout) es = some c)
    (hsizes : along (step mb) (sizeAccepted mb) (new timeout) es = true) :
    c.RequestOutstanding := by
  refine (invariant_along (I := fun c => Control c ∧ c.RequestOutstanding) ?_ es _ _
    ⟨control_new timeout, requestOutstanding_of_none rfl⟩ hsizes hrun).2
  rintro s e s' ⟨hctl, h⟩ hsize hs
  exact ⟨control_step hctl hs, requestOutstanding_step hctl h hsize hs⟩

/-- A run that connects, sends the request, and receives `data`. -/
def exchangeRun (message : ModbusMessage Frame) (data : List UInt8) : List (Event Frame) :=
  [.receive message 0, .complete 0 ⟨.success, []⟩, .handle 0 false 0,
    .complete 0 ⟨.success, []⟩, .handle 0 false 0, .complete 0 ⟨.success, data⟩, .handle 0 false 0]

/-- The next request is in process after a reply. -/
theorem requestOutstanding_reply :
    ∃ c, exec (step Frame.library) (new 1000)
        (exchangeRun (Frame.readRequest 5 9 1) (Frame.readReply 1 1 7) ++
          [.receive (Frame.readRequest 5 10 1) 0]) = some c ∧
      c.currentMessage.isSome = true ∧ c.RequestOutstanding := by
  obtain ⟨c, hc, hcur⟩ : ∃ c, exec (step Frame.library) (new 1000)
      (exchangeRun (Frame.readRequest 5 9 1) (Frame.readReply 1 1 7) ++
        [.receive (Frame.readRequest 5 10 1) 0]) = some c ∧ c.currentMessage.isSome = true :=
    ⟨_, rfl, by decide +kernel⟩
  exact ⟨c, hc, hcur, requestOutstanding_exec hc (by decide +kernel)⟩

/-- Four bytes are no Modbus TCP frame. -/
theorem requestOutstanding_four_bytes :
    ∃ c, exec (step Frame.library) (new 1000)
        (exchangeRun (Frame.readRequest 5 9 1) [0, 1, 0, 0]) = some c ∧
      ¬ c.RequestOutstanding :=
  ⟨_, rfl, by decide +kernel⟩

/-! ### A refused size -/

/-- The client is busy with a request that nothing is outstanding for. -/
structure Wedged (c : ModbusTcpClient β) : Prop where
  control : Control c
  current : c.currentMessage.isSome = true
  dataOps : c.dataOps = []

/-- A size that `SetAduSize` refuses wedges the client. -/
theorem wedged_of_refused {i : ℕ} {peerGone : Bool} {now : Nanoseconds} (h : Control c)
    (hsize : c.sizeAccepted mb (.handle i peerGone now) = false)
    (hs : step mb c (.handle i peerGone now) = some c') : Wedged c' := by
  have hctl' := control_step h hs
  cases step_branch h.exchange hs with
  | connectFailed ht hec => simp [sizeAccepted, ht] at hsize
  | connected ht hec => simp [sizeAccepted, ht] at hsize
  | sendFailed ht hec => simp [sizeAccepted, ht] at hsize
  | sent ht hec => simp [sizeAccepted, ht] at hsize
  | receiveFailed ht hec => simp [sizeAccepted, ht, hec] at hsize
  | @received i n result ops ht hec =>
    obtain ⟨hcur, -, -, hd⟩ := (take_data h ht).2.2 n rfl
    have hnone : mb.read .TCP result.data = none := by simpa [sizeAccepted, ht, hec] using hsize
    -- the response is refused before the request is given up, and the queue stays as it is
    have hrec : (c.withOps ops).received mb result.data =
        { c.withOps ops with timer := c.timer.cancel, state := .Connected } := by
      rcases received_cases mb (c.withOps ops) result.data with
        ⟨heq, -⟩ | ⟨current, buffer, -, hsome, -, -⟩ | ⟨current, buffer, -, hsome, -, -⟩
      · exact heq
      · rw [hnone] at hsome; cases hsome
      · rw [hnone] at hsome; cases hsome
    rw [hrec] at hctl' ⊢
    rcases queueProcessUnsafe_cases mb
        { c.withOps ops with timer := c.timer.cancel, state := .Connected } now with
      ⟨heq, -⟩ | ⟨-, hidle, -⟩ | ⟨-, -, hcn, -⟩ | ⟨message, -, -, hcn, -⟩
    · rw [heq] at hctl' ⊢
      exact ⟨hctl', hcur, hd⟩
    · cases hidle
    · rw [show c.currentMessage = none from hcn] at hcur; cases hcur
    · rw [show c.currentMessage = none from hcn] at hcur; cases hcur

/-- A wedged client with the queue processed is wedged with the same request, and
neither writes nor answers. -/
theorem wedged_queueProcessUnsafe (mb : Modbus β) (h : Wedged c) (now : Nanoseconds) :
    (c.queueProcessUnsafe mb now).currentMessage = c.currentMessage ∧
      (c.queueProcessUnsafe mb now).dataOps = [] ∧
      acts (c.queueProcessUnsafe mb now).effects = acts c.effects := by
  have hcur := h.current
  rcases queueProcessUnsafe_cases mb c now with
    ⟨heq, -⟩ | ⟨heq, -, -⟩ | ⟨-, -, hcn, -⟩ | ⟨message, -, -, hcn, -⟩
  · rw [heq]
    exact ⟨rfl, h.dataOps, rfl⟩
  · rw [heq]
    refine ⟨rfl, startConnectTaskUnsafe_dataOps.trans h.dataOps, ?_⟩
    exact acts_append_silent (silent_singleton rfl)
  · rw [hcn] at hcur; cases hcur
  · rw [hcn] at hcur; cases hcur

/-- No send and no receive of a wedged client can have completed. -/
theorem Wedged.data_eq_none (h : Wedged c) {i : ℕ} {op : ClientOp β} {result : Completion}
    {ops : Pool (ClientOp β) Completion} (ht : c.socket.ops.take i = some (op, result, ops)) :
    op.data = none := by
  cases hop : op.data with
  | none => rfl
  | some n =>
    obtain ⟨-, -, hd, -⟩ := (take_data h.control ht).2.2 n hop
    rw [h.dataOps] at hd
    cases hd

theorem wedged_step {e : Event β} (h : Wedged c) (hs : step mb c e = some c') :
    c'.currentMessage = c.currentMessage ∧ c'.dataOps = [] ∧ acts c'.effects = acts c.effects := by
  cases step_branch h.control.exchange hs with
  | receive message now =>
    have hpush : acts (c.pushMessage message).effects = acts c.effects :=
      acts_append_silent (silent_singleton rfl)
    have hw : Wedged (c.pushMessage message) :=
      ⟨h.control.congr rfl rfl rfl rfl (pushMessage_request message), h.current, h.dataOps⟩
    obtain ⟨hcur, hd, hacts⟩ := wedged_queueProcessUnsafe mb hw now
    exact ⟨hcur, hd, hacts.trans hpush⟩
  | complete hops =>
    refine ⟨rfl, ?_, rfl⟩
    simpa only [dataOps, withOps, Pool.kinds_complete hops] using h.dataOps
  | connectFailed ht hec =>
    obtain ⟨-, hsame, -⟩ := take_data h.control ht
    exact ⟨rfl, (hsame rfl).trans h.dataOps, rfl⟩
  | @connected i result ops ht hec now =>
    obtain ⟨hctl, hsame, -⟩ := take_data h.control ht
    have hw : Wedged { c.withOps ops with state := .Connected } :=
      ⟨hctl.with_state (Or.inl rfl), h.current, (hsame rfl).trans h.dataOps⟩
    exact wedged_queueProcessUnsafe mb hw now
  | sendFailed ht hec => cases h.data_eq_none ht
  | sent ht hec => cases h.data_eq_none ht
  | receiveFailed ht hec => cases h.data_eq_none ht
  | received ht hec => cases h.data_eq_none ht
  | expire hw => exact ⟨rfl, h.dataOps, rfl⟩
  | waitFailed ht hec => exact ⟨rfl, h.dataOps, rfl⟩
  | timeout ht =>
    refine ⟨rfl, ?_, acts_append_silent (silent_singleton rfl)⟩
    simpa [dataOps] using h.dataOps

/-- **A wedged client never writes and never answers again**, whatever happens. -/
theorem wedged_exec {es : List (Event β)} (h : Wedged c) (hrun : exec (step mb) c es = some c') :
    c'.currentMessage = c.currentMessage ∧ acts c'.effects = acts c.effects := by
  refine (invariant (I := fun s => Wedged s ∧ s.currentMessage = c.currentMessage ∧
    acts s.effects = acts c.effects) ?_ es c c' ⟨h, rfl, rfl⟩ hrun).2
  rintro s e s' ⟨hw, hcur, hacts⟩ hs
  obtain ⟨hcur', hd', hacts'⟩ := wedged_step hw hs
  refine ⟨⟨control_step hw.control hs, ?_, hd'⟩, hcur'.trans hcur, hacts'.trans hacts⟩
  rw [hcur']
  exact hw.current

/-! ### The queue -/

/-- Processing the queue leaves it empty or something outstanding. -/
theorem queueServed_queueProcessUnsafe (hctl : Control c) (h : c.RequestOutstanding)
    (now : Nanoseconds) : (c.queueProcessUnsafe mb now).QueueServed := by
  -- a request in process is waited for, by an operation of the socket
  have hbusy : c.currentMessage.isSome = true → c.socket.ops ≠ [] := by
    intro hcur hnil
    have hmem := h hcur
    rw [dataOps, hnil] at hmem
    cases hmem
  rcases queueProcessUnsafe_cases mb c now with
    ⟨heq, hcases⟩ | ⟨heq, -, -⟩ | ⟨heq, -, -, hnil⟩ | ⟨message, heq, -, -, -⟩ <;> rw [heq]
  · intro hne
    rcases hcases with hnil | hwait | hproc | ⟨-, hcur⟩
    · exact absurd hnil hne
    · exact absurd hwait hctl.state_ne
    · exact hbusy (hctl.current_of_state hproc)
    · exact hbusy hcur
  · intro _
    simp [startConnectTaskUnsafe, Stream.asyncConnect, Pool.start]
  · intro hne
    exact absurd hnil hne
  · intro _
    simp [startMessage, Stream.start, Pool.start]

/-- The property reads the queue and what is outstanding. -/
theorem QueueServed.congr (h : c.QueueServed) (hq : c'.messageQueue = c.messageQueue)
    (hk : c'.socket.ops.kinds = c.socket.ops.kinds) : c'.QueueServed := by
  intro hne hnil
  rw [hnil, Pool.kinds_nil] at hk
  exact h (hq ▸ hne) (List.map_eq_nil_iff.mp hk.symm)

/-- What giving the current request up leaves: the queue and what else is outstanding. -/
theorem dropCurrent_frame (ec : ErrorCode) :
    (c.dropCurrent ec).messageQueue = c.messageQueue ∧
      (c.dropCurrent ec).socket.ops.kinds = c.socket.ops.kinds := by
  obtain ⟨state, socket, heq, hkinds⟩ := dropCurrent_eq c ec
  rw [heq]
  exact ⟨rfl, hkinds⟩

theorem queueServed_step {e : Event β} (hctl : Control c) (hreq : c.RequestOutstanding)
    (h : c.QueueServed) (hsize : c.sizeAccepted mb e = true) (hfails : c.failsAlone e = true)
    (hs : step mb c e = some c') : c'.QueueServed := by
  -- what is left is enough when an operation has failed
  have hleft : ∀ {i op result ops peerGone now}, e = .handle i peerGone now →
      c.socket.ops.take i = some (op, result, ops) → result.ec.failed = true →
      (c.withOps ops).QueueServed := by
    rintro i op result ops peerGone now rfl ht hfailed hne hnil
    have hnil' : ops = [] := hnil
    have hempty : c.messageQueue.empty = false := List.isEmpty_eq_false_iff.mpr hne
    simp [failsAlone, ht, hfailed, hnil', hempty] at hfails
  cases step_branch hctl.exchange hs with
  | receive message now =>
    have hpush : Control (c.pushMessage message) :=
      hctl.congr rfl rfl rfl rfl (pushMessage_request message)
    have hpush' : (c.pushMessage message).RequestOutstanding :=
      hreq.congr rfl rfl (pushMessage_request message)
    exact queueServed_queueProcessUnsafe hpush hpush' now
  | complete hops => exact h.congr rfl (Pool.kinds_complete hops)
  | connectFailed ht hec => exact (hleft rfl ht hec).congr rfl rfl
  | @connected i result ops ht hec now =>
    obtain ⟨hctl', hsame, -⟩ := take_data hctl ht
    have hops : ({ c.withOps ops with state := .Connected } :
        ModbusTcpClient β).RequestOutstanding := hreq.congr rfl (hsame rfl) rfl
    exact queueServed_queueProcessUnsafe (hctl'.with_state (Or.inl rfl)) hops now
  | @sendFailed i n buffer result ops ht hec =>
    obtain ⟨hq, hk⟩ := dropCurrent_frame (c := c.withOps ops) result.ec
    exact (hleft rfl ht hec).congr hq hk
  | sent ht hec =>
    intro _
    simp [startReceiveTask, Stream.start, Pool.start]
  | @receiveFailed i n result ops ht hec =>
    obtain ⟨hq, hk⟩ := dropCurrent_frame
      (c := { c.withOps ops with timer := c.timer.cancel }) result.ec
    exact (hleft rfl ht hec).congr hq hk
  | @received i n result ops ht hec peerGone now =>
    obtain ⟨-, -, -, hd⟩ := (take_data hctl ht).2.2 n rfl
    simp only [sizeAccepted, ht, hec, ErrorCode.failed_success, Bool.false_or] at hsize
    have hnone : ((c.withOps ops).received mb result.data).currentMessage = none :=
      received_currentMessage hsize
    exact queueServed_queueProcessUnsafe (control_received (c := c.withOps ops) hctl.exchange hd _)
      (requestOutstanding_of_none hnone) now
  | expire hw => exact h
  | waitFailed ht hec => exact h
  | timeout ht => exact h.congr rfl (Stream.cancel_kinds _)

/-- **The queue is served** in every run in which no receive succeeds with a refused
size and nothing fails while requests are queued and nothing else is outstanding. -/
theorem queueServed_exec {timeout : Milliseconds} {es : List (Event β)}
    (hrun : exec (step mb) (new timeout) es = some c)
    (hsizes : along (step mb) (sizeAccepted mb) (new timeout) es = true)
    (hfails : along (step mb) failsAlone (new timeout) es = true) :
    c.QueueServed := by
  have hboth := along_and hsizes hfails
  refine (invariant_along (I := fun c => Control c ∧ c.RequestOutstanding ∧ c.QueueServed) ?_ es _ _
    ⟨control_new timeout, requestOutstanding_of_none rfl, fun hne => absurd rfl hne⟩ hboth hrun).2.2
  rintro s e s' ⟨hctl, hreq, h⟩ hP hs
  obtain ⟨hsize, hfail⟩ := Bool.and_eq_true_iff.mp hP
  exact ⟨control_step hctl hs, requestOutstanding_step hctl hreq hsize hs,
    queueServed_step hctl hreq h hsize hfail hs⟩

/-- Two requests, the second of which stays in the queue behind the first. -/
def queuedRun : List (Event Frame) :=
  [.receive (Frame.readRequest 5 9 1) 0, .complete 0 ⟨.success, []⟩, .handle 0 false 0,
    .receive (Frame.readRequest 6 9 1) 0, .complete 0 ⟨.success, []⟩, .handle 0 false 0]

theorem queueServed_queued :
    ∃ c, exec (step Frame.library) (new 1000) queuedRun = some c ∧
      c.messageQueue.queue = [Frame.readRequest 6 9 1] ∧ c.QueueServed := by
  obtain ⟨c, hc, hqueue⟩ : ∃ c, exec (step Frame.library) (new 1000) queuedRun = some c ∧
      c.messageQueue.queue = [Frame.readRequest 6 9 1] := ⟨_, rfl, by decide +kernel⟩
  exact ⟨c, hc, hqueue, queueServed_exec hc (by decide +kernel) (by decide +kernel)⟩

/-- The first request times out, and the second one is left alone. -/
theorem queueServed_timeout :
    ∃ c, exec (step Frame.library) (new 1000)
        (queuedRun ++ [.expire 0 .success, .handleWait 0, .handle 0 false 0]) = some c ∧
      ¬ c.QueueServed :=
  ⟨_, rfl, by decide +kernel⟩

end ModbusTcpClient

end ModbusGateway
