import ModbusGateway.ModbusFrame
import ModbusGateway.Transport.ModbusRtuMaster

/-!
# The RTU master does not stop, as long as nothing fails

The control invariant of the serial master, and from it the two progress properties
`ModbusTcpClient` has as well: a request in process is waited for, and a queue that
is not empty is going to be looked at.  The code breaks them in the same two ways:
`MakeResponse` keeps a request whose answer has a size that `SetAduSize` refuses,
and the error exits of the two handlers do not look at the queue.

## Main definitions

* `outstanding m` — the numbers of the requests whose write or read is outstanding.
* `Branch mb m e m'` — a branch that the event `e` can take, to `m'`.
* `Control m` — at most one operation is outstanding, that of the request in process.

## Main results

* `control_exec` — every run keeps `Control`.
* `rtuRequestOutstanding_exec` — the request in process is waited for in every run in
  which no size is refused.
* `rtuQueueServed_exec` — the queue is served in every run in which, besides, nothing
  fails while requests are queued.
-/

namespace ModbusGateway

open Proactor Execution Transaction

/-- The request a write or a read was started for. -/
def RtuOp.request {β : Type} : RtuOp β → ℕ
  | .write request _ => request
  | .read request => request

namespace ModbusRtuMaster

variable {β : Type} {mb : Modbus β} {m m' : ModbusRtuMaster β}

/-- The numbers of the requests whose write or read is outstanding. -/
def outstanding (m : ModbusRtuMaster β) : List ℕ := m.serialPort.ops.kinds.map RtuOp.request

/-! ### The small functions -/

@[simp] theorem note_serialPort (es : List (MasterEffect β)) :
    (m.note es).serialPort = m.serialPort := rfl

theorem note_request {es : List (MasterEffect β)} (h : ∀ e ∈ es, e.silent = true) :
    (m.note es).request = m.request := by
  unfold request started requests note
  rw [acts_append_silent h]

theorem popExpired_silent (now : Nanoseconds) :
    ∀ e ∈ (m.messageQueue.queue.takeWhile (expired m.timeout now)).map MasterEffect.expire,
      e.silent = true := by
  intro e he
  obtain ⟨message, -, rfl⟩ := List.mem_map.mp he
  rfl

@[simp] theorem popExpired_request (now : Nanoseconds) : (m.popExpired now).request = m.request :=
  note_request (popExpired_silent now)

theorem pushMessage_request (message : ModbusMessage β) :
    (m.pushMessage message).request = m.request :=
  note_request (silent_singleton rfl)

theorem acts_startMessageTaskUnsafe (message : ModbusMessage β) :
    acts (m.startMessageTaskUnsafe mb message).effects =
      acts m.effects ++ [.start (message, m.transactionIdGenerator + 1)] := acts_append _ _

theorem startMessageTaskUnsafe_request (message : ModbusMessage β) :
    (m.startMessageTaskUnsafe mb message).request = m.request + 1 := by
  rw [request, started, requests, acts_startMessageTaskUnsafe, starts_concat_start,
    List.length_append]
  rfl

/-- A request that is started is written. -/
theorem startMessageTaskUnsafe_outstanding (message : ModbusMessage β) :
    (m.startMessageTaskUnsafe mb message).outstanding = m.outstanding ++ [m.request + 1] := by
  have hnum : (m.startMessageTaskUnsafe mb message).request = m.request + 1 :=
    startMessageTaskUnsafe_request message
  simp only [startMessageTaskUnsafe, outstanding, Stream.start_kinds, List.map_append] at hnum ⊢
  exact congrArg (_ ++ [·]) hnum

/-! ### The branching functions -/

/-- What `queueProcessUnsafe` can do: nothing, find that the whole queue has expired, or
start the request at the front of what has not. -/
theorem queueProcessUnsafe_cases (mb : Modbus β) (m : ModbusRtuMaster β) (now : Nanoseconds) :
    (m.queueProcessUnsafe mb now = m ∧
      (m.messageQueue.queue = [] ∨ m.currentMessage.isSome = true)) ∨
    (m.queueProcessUnsafe mb now = m.popExpired now ∧ m.currentMessage = none ∧
      (m.popExpired now).messageQueue.queue = []) ∨
    (∃ message, m.queueProcessUnsafe mb now =
        (m.popExpired now).startMessageTaskUnsafe mb message ∧ m.currentMessage = none ∧
      (m.popExpired now).messageQueue.front? = some message) := by
  unfold queueProcessUnsafe
  split
  · next hempty => exact Or.inl ⟨rfl, Or.inl (List.isEmpty_iff.mp hempty)⟩
  split
  · next hcur => exact Or.inl ⟨rfl, Or.inr hcur⟩
  next hcur =>
  have hnone : m.currentMessage = none := by simpa using hcur
  cases hfront : (m.popExpired now).messageQueue.front? with
  | none =>
    refine Or.inr (Or.inl ⟨by simp [hfront], hnone, ?_⟩)
    exact List.head?_eq_none_iff.mp hfront
  | some message => exact Or.inr (Or.inr ⟨message, by simp [hfront], hnone, rfl⟩)

/-- What the read handler does with the bytes of a successful read, before the queue
is processed. -/
def answered (mb : Modbus β) (m : ModbusRtuMaster β) (data : List UInt8) : ModbusRtuMaster β :=
  let m := { m with timer := m.timer.cancel }
  (m.makeResponse mb data).2.sendResponse (m.makeResponse mb data).1

theorem readHandler_success (hx : m.exchange = true) (data : List UInt8) (now : Nanoseconds) :
    m.readHandler mb .success data now = (m.answered mb data).queueProcessUnsafe mb now := by
  simp [readHandler, hx, answered]

theorem readHandler_failed (hx : m.exchange = true) {ec : ErrorCode} (hec : ec ≠ .success)
    (data : List UInt8) (now : Nanoseconds) :
    m.readHandler mb ec data now = { m with timer := m.timer.cancel, currentMessage := none } := by
  simp [readHandler, hx, hec]

/-- What a successful read does before the queue is processed: nothing, when there is no
request in process or the size is refused; give the request up; or answer it. -/
theorem answered_cases (mb : Modbus β) (m : ModbusRtuMaster β) (data : List UInt8) :
    (m.answered mb data = { m with timer := m.timer.cancel } ∧
      (m.currentMessage = none ∨ mb.read m.frameType data = none)) ∨
    (∃ current buffer, m.currentMessage = some current ∧ mb.read m.frameType data = some buffer ∧
      m.answered mb data = { m with timer := m.timer.cancel, currentMessage := none } ∧
      mb.check buffer ≠ .NoError) ∨
    (∃ current buffer, m.currentMessage = some current ∧ mb.read m.frameType data = some buffer ∧
      m.answered mb data = { m with timer := m.timer.cancel, currentMessage := none }.note
        [.send current.modbusMessage.modbusMessageInfo.sourceId
          ⟨current.modbusMessage.modbusMessageInfo, buffer⟩] ∧
      mb.check buffer = .NoError) := by
  unfold answered makeResponse
  cases hcur : m.currentMessage with
  | none => exact Or.inl ⟨by simp [sendResponse], Or.inl rfl⟩
  | some current =>
    cases hread : mb.read m.frameType data with
    | none => exact Or.inl ⟨by simp [sendResponse, hread], Or.inr rfl⟩
    | some buffer =>
      by_cases hcheck : mb.check buffer = .NoError
      · refine Or.inr (Or.inr ⟨current, buffer, rfl, rfl, ?_, hcheck⟩)
        simp [sendResponse, hread, hcheck]
      · refine Or.inr (Or.inl ⟨current, buffer, rfl, rfl, ?_, hcheck⟩)
        simp [sendResponse, hread, hcheck]

/-! ### The branches of a step -/

/-- The branches an event can take, each with the master after it. -/
inductive Branch (mb : Modbus β) (m : ModbusRtuMaster β) : Event β → ModbusRtuMaster β → Prop
  | receive (message : ModbusMessage β) (now : Nanoseconds) :
    Branch mb m (.receive message now) ((m.pushMessage message).queueProcessUnsafe mb now)
  | complete {i : ℕ} {result : Completion} {ops : Pool (RtuOp β) Completion}
      (hops : m.serialPort.ops.complete i result = some ops) :
    Branch mb m (.complete i result) (m.withOps ops)
  | writeFailed {i n : ℕ} {buffer : β} {result : Completion} {ops : Pool (RtuOp β) Completion}
      (ht : m.serialPort.ops.take i = some (.write n buffer, result, ops))
      (hec : result.ec.failed = true) (now : Nanoseconds) :
    Branch mb m (.handle i now) { m.withOps ops with currentMessage := none }
  | written {i n : ℕ} {buffer : β} {result : Completion} {ops : Pool (RtuOp β) Completion}
      (ht : m.serialPort.ops.take i = some (.write n buffer, result, ops))
      (hec : result.ec = .success) (now : Nanoseconds) :
    Branch mb m (.handle i now) (m.withOps ops).startWaitTask.startReadTask
  | readFailed {i n : ℕ} {result : Completion} {ops : Pool (RtuOp β) Completion}
      (ht : m.serialPort.ops.take i = some (.read n, result, ops)) (hec : result.ec.failed = true)
      (now : Nanoseconds) :
    Branch mb m (.handle i now)
      { m.withOps ops with timer := m.timer.cancel, currentMessage := none }
  | read {i n : ℕ} {result : Completion} {ops : Pool (RtuOp β) Completion}
      (ht : m.serialPort.ops.take i = some (.read n, result, ops)) (hec : result.ec = .success)
      (now : Nanoseconds) :
    Branch mb m (.handle i now)
      (((m.withOps ops).answered mb result.data).queueProcessUnsafe mb now)
  | expire {i : ℕ} {ec : ErrorCode} {waits : Pool ℕ ErrorCode}
      (hw : m.timer.waits.complete i ec = some waits) :
    Branch mb m (.expire i ec) { m with timer := ⟨waits⟩ }
  | waitFailed {i request : ℕ} {ec : ErrorCode} {waits : Pool ℕ ErrorCode}
      (ht : m.timer.waits.take i = some (request, ec, waits)) (hec : ec.failed = true) :
    Branch mb m (.handleWait i) { m with timer := ⟨waits⟩ }
  | timeout {i request : ℕ} {waits : Pool ℕ ErrorCode}
      (ht : m.timer.waits.take i = some (request, .success, waits)) :
    Branch mb m (.handleWait i)
      ({ m with timer := ⟨waits⟩, serialPort := m.serialPort.cancel }.note [.timeout request])

/-- **What a step can do.** -/
theorem step_branch {e : Event β} (hx : m.exchange = true) (hs : step mb m e = some m') :
    Branch mb m e m' := by
  cases e with
  | receive message now =>
    cases hs
    exact .receive message now
  | complete i result =>
    simp only [step, Option.map_eq_some_iff] at hs
    obtain ⟨ops, hops, rfl⟩ := hs
    exact .complete hops
  | handle i now =>
    simp only [step] at hs
    split at hs
    · cases hs
    next op result ops ht =>
    simp only [Option.some.injEq] at hs
    subst hs
    cases op with
    | write n buffer =>
      simp only [handler, writeHandler]
      split
      · next hec => exact .writeFailed ht hec now
      next hec =>
      rw [Bool.not_eq_true, ErrorCode.failed_eq_false] at hec
      exact .written ht hec now
    | read n =>
      simp only [handler]
      by_cases hec : result.ec = .success
      · rw [hec, readHandler_success (m := m.withOps ops) hx]
        exact .read ht hec now
      · rw [readHandler_failed (m := m.withOps ops) hx hec]
        exact .readFailed ht (ErrorCode.failed_eq_true.mpr hec) now
  | expire i ec =>
    simp only [step, Option.map_eq_some_iff] at hs
    obtain ⟨waits, hw, rfl⟩ := hs
    exact .expire hw
  | handleWait i =>
    simp only [step] at hs
    split at hs
    · cases hs
    next request ec waits ht =>
    simp only [Option.some.injEq, waitHandler] at hs
    split at hs <;> subst hs
    · next hec => exact .waitFailed ht hec
    next hec =>
    rw [Bool.not_eq_true, ErrorCode.failed_eq_false] at hec
    subst hec
    exact .timeout ht

/-! ### The control invariant -/

/-- The exchange is there, and there is at most one operation, that of the request in
process. -/
structure Control (m : ModbusRtuMaster β) : Prop where
  exchange : m.exchange = true
  ops : m.outstanding = [] ∨ m.currentMessage.isSome = true ∧ m.outstanding = [m.request]

theorem control_new (timeout : Milliseconds) (frameType : FrameType) :
    Control (new timeout frameType : ModbusRtuMaster β) where
  exchange := rfl
  ops := Or.inl rfl

/-- The invariant reads four things only. -/
theorem Control.congr (h : Control m) (hx : m'.exchange = m.exchange)
    (hm : m'.currentMessage = m.currentMessage) (ho : m'.outstanding = m.outstanding)
    (hr : m'.request = m.request) : Control m' where
  exchange := hx.trans h.exchange
  ops := by rw [ho, hm, hr]; exact h.ops

/-- A master with nothing outstanding. -/
theorem Control.of_idle (hx : m.exchange = true) (ho : m.outstanding = []) : Control m where
  exchange := hx
  ops := Or.inl ho

/-- Without a request in process nothing is outstanding. -/
theorem Control.outstanding_of_none (h : Control m) (hm : m.currentMessage = none) :
    m.outstanding = [] := by
  rcases h.ops with hnil | ⟨hcur, -⟩
  · exact hnil
  · rw [hm] at hcur; cases hcur

/-- There is at most one write or read. -/
theorem Control.length_outstanding_le (h : Control m) : m.outstanding.length ≤ 1 := by
  rcases h.ops with hnil | ⟨-, hone⟩
  · rw [hnil]; exact Nat.zero_le 1
  · rw [hone]; exact Nat.le_refl 1

theorem control_queueProcessUnsafe (h : Control m) (now : Nanoseconds) :
    Control (m.queueProcessUnsafe mb now) := by
  have hpop : Control (m.popExpired now) := h.congr rfl rfl rfl (popExpired_request now)
  rcases queueProcessUnsafe_cases mb m now with
    ⟨heq, -⟩ | ⟨heq, -, -⟩ | ⟨message, heq, hnone, -⟩ <;> rw [heq]
  · exact h
  · exact hpop
  · -- nothing is outstanding while no request is in process
    refine ⟨h.exchange, Or.inr ⟨rfl, ?_⟩⟩
    have hnil : (m.popExpired now).outstanding = [] := h.outstanding_of_none hnone
    rw [startMessageTaskUnsafe_outstanding, startMessageTaskUnsafe_request, hnil]
    rfl

/-- **What is outstanding when a handler runs**: its operation, which is that of the
request in process, and nothing else. -/
theorem take_outstanding {i : ℕ} {op : RtuOp β} {result : Completion}
    {ops : Pool (RtuOp β) Completion} (h : Control m)
    (ht : m.serialPort.ops.take i = some (op, result, ops)) :
    m.currentMessage.isSome = true ∧ op.request = m.request ∧ m.outstanding = [m.request] ∧
      ops = [] := by
  have hperm : m.outstanding.Perm (op.request :: ops.kinds.map RtuOp.request) :=
    (Pool.kinds_take ht).map RtuOp.request
  rcases h.ops with hnil | ⟨hcur, hone⟩
  · rw [hnil] at hperm
    exact absurd hperm.symm.eq_nil (by simp)
  · rw [hone] at hperm
    have heq := List.perm_singleton.mp hperm.symm
    simp only [List.cons.injEq, List.map_eq_nil_iff] at heq
    exact ⟨hcur, heq.1, hone, List.map_eq_nil_iff.mp heq.2⟩

theorem answered_control (hx : m.exchange = true) (ho : m.outstanding = []) (data : List UInt8) :
    Control (m.answered mb data) := by
  rcases answered_cases mb m data with
    ⟨heq, -⟩ | ⟨current, buffer, -, -, heq, -⟩ | ⟨current, buffer, -, -, heq, -⟩ <;>
    rw [heq] <;> exact Control.of_idle hx ho

/-- **Every step keeps the control invariant.** -/
theorem control_step {e : Event β} (h : Control m) (hs : step mb m e = some m') : Control m' := by
  cases step_branch h.exchange hs with
  | receive message now =>
    have hpush : Control (m.pushMessage message) :=
      h.congr rfl rfl rfl (pushMessage_request message)
    exact control_queueProcessUnsafe hpush now
  | complete hops =>
    refine h.congr rfl rfl ?_ rfl
    simp only [outstanding, withOps, Pool.kinds_complete hops]
  | writeFailed ht hec =>
    obtain ⟨-, -, -, rfl⟩ := take_outstanding h ht
    exact Control.of_idle h.exchange rfl
  | written ht hec =>
    obtain ⟨hcur, -, -, rfl⟩ := take_outstanding h ht
    exact ⟨h.exchange, Or.inr ⟨hcur, rfl⟩⟩
  | readFailed ht hec =>
    obtain ⟨-, -, -, rfl⟩ := take_outstanding h ht
    exact Control.of_idle h.exchange rfl
  | read ht hec now =>
    obtain ⟨-, -, -, rfl⟩ := take_outstanding h ht
    exact control_queueProcessUnsafe (answered_control (m := m.withOps []) h.exchange rfl _) now
  | expire hw => exact h.congr rfl rfl rfl rfl
  | waitFailed ht hec => exact h.congr rfl rfl rfl rfl
  | timeout ht =>
    refine h.congr rfl rfl ?_ (note_request (silent_singleton rfl))
    simp [outstanding]

theorem control_exec {timeout : Milliseconds} {frameType : FrameType} {es : List (Event β)}
    (h : exec (step mb) (new timeout frameType) es = some m) : Control m :=
  invariant (fun _ _ _ => control_step) es _ _ (control_new timeout frameType) h

/-! ### The request in process -/

/-- If there is a request in process, its write or its read is outstanding. -/
def RequestOutstanding (m : ModbusRtuMaster β) : Prop :=
  m.currentMessage.isSome = true → m.request ∈ m.outstanding

instance : Decidable m.RequestOutstanding := inferInstanceAs (Decidable (_ → _))

/-- The event does not run the handler of a read that has succeeded with a size that
`SetAduSize` refuses. -/
def sizeAccepted (mb : Modbus β) (m : ModbusRtuMaster β) : Event β → Bool
  | .handle i _ =>
    match m.serialPort.ops.take i with
    | some (.read _, result, _) => result.ec.failed || (mb.read m.frameType result.data).isSome
    | _ => true
  | _ => true

theorem RequestOutstanding.congr (h : m.RequestOutstanding)
    (hm : m'.currentMessage = m.currentMessage) (ho : m'.outstanding = m.outstanding)
    (hr : m'.request = m.request) : m'.RequestOutstanding := by
  intro hcur
  rw [ho, hr]
  exact h (hm ▸ hcur)

theorem requestOutstanding_of_none (h : m.currentMessage = none) : m.RequestOutstanding := by
  intro hcur
  rw [h] at hcur
  cases hcur

theorem requestOutstanding_queueProcessUnsafe (h : m.RequestOutstanding) (now : Nanoseconds) :
    (m.queueProcessUnsafe mb now).RequestOutstanding := by
  rcases queueProcessUnsafe_cases mb m now with
    ⟨heq, -⟩ | ⟨heq, -, -⟩ | ⟨message, heq, -, -⟩ <;> rw [heq]
  · exact h
  · exact h.congr rfl rfl (popExpired_request now)
  · intro _
    rw [startMessageTaskUnsafe_outstanding, startMessageTaskUnsafe_request]
    exact List.mem_append_right _ List.mem_cons_self

/-- After a read of an accepted size there is no request in process. -/
theorem answered_currentMessage {data : List UInt8}
    (h : (mb.read m.frameType data).isSome = true) :
    (m.answered mb data).currentMessage = none := by
  rcases answered_cases mb m data with
    ⟨heq, hnone | hread⟩ | ⟨current, buffer, -, -, heq, -⟩ | ⟨current, buffer, -, -, heq, -⟩
  · rw [heq]; exact hnone
  · rw [hread] at h; cases h
  · rw [heq]
  · rw [heq]; rfl

theorem requestOutstanding_step {e : Event β} (hctl : Control m) (h : m.RequestOutstanding)
    (hsize : m.sizeAccepted mb e = true) (hs : step mb m e = some m') : m'.RequestOutstanding := by
  cases step_branch hctl.exchange hs with
  | receive message now =>
    have hpush : (m.pushMessage message).RequestOutstanding :=
      h.congr rfl rfl (pushMessage_request message)
    exact requestOutstanding_queueProcessUnsafe hpush now
  | complete hops =>
    exact h.congr rfl (by simp only [outstanding, withOps, Pool.kinds_complete hops]) rfl
  | writeFailed ht hec => exact requestOutstanding_of_none rfl
  | written ht hec =>
    -- the read that is started belongs to the request
    obtain ⟨-, -, -, rfl⟩ := take_outstanding hctl ht
    intro _
    exact List.mem_cons_self
  | readFailed ht hec => exact requestOutstanding_of_none rfl
  | @read i n result ops ht hec now =>
    simp only [sizeAccepted, ht, hec, ErrorCode.failed_success, Bool.false_or] at hsize
    have hnone : ((m.withOps ops).answered mb result.data).currentMessage = none :=
      answered_currentMessage (m := m.withOps ops) hsize
    exact requestOutstanding_queueProcessUnsafe (requestOutstanding_of_none hnone) now
  | expire hw => exact h
  | waitFailed ht hec => exact h
  | timeout ht =>
    exact h.congr rfl (by simp [outstanding])
      (note_request (silent_singleton rfl))

/-- **The request in process is waited for** in every run in which no read succeeds with
a size that `SetAduSize` refuses. -/
theorem rtuRequestOutstanding_exec {timeout : Milliseconds} {frameType : FrameType}
    {es : List (Event β)} (hrun : exec (step mb) (new timeout frameType) es = some m)
    (hsizes : along (step mb) (sizeAccepted mb) (new timeout frameType) es = true) :
    m.RequestOutstanding := by
  refine (invariant_along (I := fun m => Control m ∧ m.RequestOutstanding) ?_ es _ _
    ⟨control_new timeout frameType, requestOutstanding_of_none rfl⟩ hsizes hrun).2
  rintro s e s' ⟨hctl, h⟩ hsize hs
  exact ⟨control_step hctl hs, requestOutstanding_step hctl h hsize hs⟩

/-- A size that is refused leaves the request in process with nothing outstanding, whatever
is in the queue. -/
theorem not_requestOutstanding_of_refused {i : ℕ} {now : Nanoseconds} (hctl : Control m)
    (hsize : m.sizeAccepted mb (.handle i now) = false)
    (hs : step mb m (.handle i now) = some m') : ¬ m'.RequestOutstanding := by
  cases step_branch hctl.exchange hs with
  | writeFailed ht hec => simp [sizeAccepted, ht] at hsize
  | written ht hec => simp [sizeAccepted, ht] at hsize
  | readFailed ht hec => simp [sizeAccepted, ht, hec] at hsize
  | @read i n result ops ht hec =>
    obtain ⟨hcur, -, -, rfl⟩ := take_outstanding hctl ht
    have hnone : mb.read m.frameType result.data = none := by
      simpa [sizeAccepted, ht, hec] using hsize
    -- the answer is refused before the request is given up
    have hans : (m.withOps []).answered mb result.data =
        { m.withOps [] with timer := m.timer.cancel } := by
      rcases answered_cases mb (m.withOps []) result.data with
        ⟨heq, -⟩ | ⟨current, buffer, -, hsome, -, -⟩ | ⟨current, buffer, -, hsome, -, -⟩
      · exact heq
      · exact absurd (hnone.symm.trans hsome) (by simp)
      · exact absurd (hnone.symm.trans hsome) (by simp)
    rw [hans]
    rcases queueProcessUnsafe_cases mb { m.withOps [] with timer := m.timer.cancel } now with
      ⟨heq, -⟩ | ⟨-, hnone', -⟩ | ⟨message, -, hnone', -⟩
    · rw [heq]
      intro h
      exact absurd (h hcur) (List.not_mem_nil)
    · rw [show m.currentMessage = none from hnone'] at hcur; cases hcur
    · rw [show m.currentMessage = none from hnone'] at hcur; cases hcur

/-- A run that writes a request and reads `data`. -/
def exchangeRun (message : ModbusMessage Frame) (data : List UInt8) : List (Event Frame) :=
  [.receive message 0, .complete 0 ⟨.success, []⟩, .handle 0 0, .complete 0 ⟨.success, data⟩,
    .handle 0 0]

/-- The next request is in process after an answer. -/
theorem requestOutstanding_answer :
    ∃ m, exec (step Frame.library) (new 1000 .RTU)
        (exchangeRun (Frame.readRequest 5 9 1) (Frame.rtu 1 [3, 2, 0, 7]).bytes ++
          [.receive (Frame.readRequest 5 10 1) 0]) = some m ∧
      m.currentMessage.isSome = true ∧ m.RequestOutstanding := by
  obtain ⟨m, hm, hcur⟩ : ∃ m, exec (step Frame.library) (new 1000 .RTU)
      (exchangeRun (Frame.readRequest 5 9 1) (Frame.rtu 1 [3, 2, 0, 7]).bytes ++
        [.receive (Frame.readRequest 5 10 1) 0]) = some m ∧ m.currentMessage.isSome = true :=
    ⟨_, rfl, by decide +kernel⟩
  exact ⟨m, hm, hcur, rtuRequestOutstanding_exec hm (by decide +kernel)⟩

/-- Two bytes are no Modbus RTU frame. -/
theorem requestOutstanding_two_bytes :
    ∃ m, exec (step Frame.library) (new 1000 .RTU)
        (exchangeRun (Frame.readRequest 5 9 1) [1, 3]) = some m ∧ ¬ m.RequestOutstanding :=
  ⟨_, rfl, by decide +kernel⟩

/-! ### The queue -/

/-- If a request is queued, a write or a read is outstanding. -/
def QueueServed (m : ModbusRtuMaster β) : Prop :=
  m.messageQueue.queue ≠ [] → m.serialPort.ops ≠ []

instance : Decidable m.QueueServed :=
  decidable_of_iff (m.messageQueue.empty = true ∨ m.serialPort.ops.isEmpty = false) <| by
    simp only [QueueServed, LimitQueue.empty, List.isEmpty_iff, List.isEmpty_eq_false_iff]
    exact Decidable.or_iff_not_imp_left

/-- The event does not run the handler of a failed operation while requests are queued. -/
def failsUnqueued (m : ModbusRtuMaster β) : Event β → Bool
  | .handle i _ =>
    match m.serialPort.ops.take i with
    | some (_, result, _) => !result.ec.failed || m.messageQueue.empty
    | none => true
  | _ => true

/-- Processing the queue leaves it empty or something outstanding. -/
theorem queueServed_queueProcessUnsafe (h : m.RequestOutstanding) (now : Nanoseconds) :
    (m.queueProcessUnsafe mb now).QueueServed := by
  rcases queueProcessUnsafe_cases mb m now with
    ⟨heq, hcases⟩ | ⟨heq, -, hnil⟩ | ⟨message, heq, -, -⟩ <;> rw [heq] <;> intro hne
  · rcases hcases with hnil | hcur
    · exact absurd hnil hne
    · -- the request in process is waited for, by an operation of the serial port
      intro hops
      have hmem := h hcur
      rw [outstanding, hops] at hmem
      cases hmem
  · exact absurd hnil hne
  · simp [startMessageTaskUnsafe, Stream.start, Pool.start]

theorem QueueServed.congr (h : m.QueueServed) (hq : m'.messageQueue = m.messageQueue)
    (hk : m'.serialPort.ops.kinds = m.serialPort.ops.kinds) : m'.QueueServed := by
  intro hne hnil
  rw [hnil, Pool.kinds_nil] at hk
  exact h (hq ▸ hne) (List.map_eq_nil_iff.mp hk.symm)

theorem queueServed_step {e : Event β} (hctl : Control m) (hreq : m.RequestOutstanding)
    (h : m.QueueServed) (hsize : m.sizeAccepted mb e = true) (hfails : m.failsUnqueued e = true)
    (hs : step mb m e = some m') : m'.QueueServed := by
  -- a failure finds the queue empty
  have hempty : ∀ {i op result ops now}, e = .handle i now →
      m.serialPort.ops.take i = some (op, result, ops) → result.ec.failed = true →
      m.messageQueue.queue = [] := by
    rintro i op result ops now rfl ht hfailed
    simpa [failsUnqueued, ht, hfailed, LimitQueue.empty] using hfails
  cases step_branch hctl.exchange hs with
  | receive message now =>
    have hpush : (m.pushMessage message).RequestOutstanding :=
      hreq.congr rfl rfl (pushMessage_request message)
    exact queueServed_queueProcessUnsafe hpush now
  | complete hops => exact h.congr rfl (Pool.kinds_complete hops)
  | writeFailed ht hec => exact fun hne => absurd (hempty rfl ht hec) hne
  | written ht hec =>
    intro _
    simp [startReadTask, Stream.start, Pool.start]
  | readFailed ht hec => exact fun hne => absurd (hempty rfl ht hec) hne
  | @read i n result ops ht hec now =>
    simp only [sizeAccepted, ht, hec, ErrorCode.failed_success, Bool.false_or] at hsize
    have hnone : ((m.withOps ops).answered mb result.data).currentMessage = none :=
      answered_currentMessage (m := m.withOps ops) hsize
    exact queueServed_queueProcessUnsafe (requestOutstanding_of_none hnone) now
  | expire hw => exact h
  | waitFailed ht hec => exact h
  | timeout ht => exact h.congr rfl (Stream.cancel_kinds _)

/-- **The queue is served** in every run in which no read succeeds with a refused size and
nothing fails while requests are queued. -/
theorem rtuQueueServed_exec {timeout : Milliseconds} {frameType : FrameType} {es : List (Event β)}
    (hrun : exec (step mb) (new timeout frameType) es = some m)
    (hsizes : along (step mb) (sizeAccepted mb) (new timeout frameType) es = true)
    (hfails : along (step mb) failsUnqueued (new timeout frameType) es = true) :
    m.QueueServed := by
  have hboth := along_and hsizes hfails
  refine (invariant_along (I := fun m => Control m ∧ m.RequestOutstanding ∧ m.QueueServed) ?_ es _ _
    ⟨control_new timeout frameType, requestOutstanding_of_none rfl, fun hne => absurd rfl hne⟩
    hboth hrun).2.2
  rintro s e s' ⟨hctl, hreq, h⟩ hP hs
  obtain ⟨hsize, hfail⟩ := Bool.and_eq_true_iff.mp hP
  exact ⟨control_step hctl hs, requestOutstanding_step hctl hreq hsize hs,
    queueServed_step hctl hreq h hsize hfail hs⟩

/-- Two requests, the second of which stays in the queue behind the first. -/
def queuedRun : List (Event Frame) :=
  [.receive (Frame.readRequest 5 9 1) 0, .receive (Frame.readRequest 6 9 1) 0,
    .complete 0 ⟨.success, []⟩, .handle 0 0]

theorem rtuQueueServed_queued :
    ∃ m, exec (step Frame.library) (new 1000 .RTU) queuedRun = some m ∧
      m.messageQueue.queue = [Frame.readRequest 6 9 1] ∧ m.QueueServed := by
  obtain ⟨m, hm, hqueue⟩ : ∃ m, exec (step Frame.library) (new 1000 .RTU) queuedRun = some m ∧
      m.messageQueue.queue = [Frame.readRequest 6 9 1] := ⟨_, rfl, by decide +kernel⟩
  exact ⟨m, hm, hqueue, rtuQueueServed_exec hm (by decide +kernel) (by decide +kernel)⟩

/-- The first request times out, and the second one is left alone. -/
theorem rtuQueueServed_timeout :
    ∃ m, exec (step Frame.library) (new 1000 .RTU)
        (queuedRun ++ [.expire 0 .success, .handleWait 0, .handle 0 0]) = some m ∧
      ¬ m.QueueServed :=
  ⟨_, rfl, by decide +kernel⟩

end ModbusRtuMaster

end ModbusGateway
