import Mathlib.Order.Nat
import ModbusGateway.Transport.RtuMasterProgress
import ModbusGateway.Transport.TcpClientProgress

/-!
# What a timeout aborts

The wait handler of both masters cancels the socket or the serial port, and with it
whatever is pending there.  It was armed for one request and does not know which: a
wait that has run out stays queued when the reply handler calls `timer_.cancel()`, and
by the time its handler runs, the next request may have been sent.

A wait handler acts on its own request exactly when the receive or the read of that
request is still outstanding, or when nothing is pending at all; the TCP client may in
addition have a second connect pending, which the cancellation aborts as well.

## Main definitions

* `WaitsSent` — a wait belongs to a request that has been sent.
* `abortsOwn c e` — what the event's wait handler aborts was started for its request.
* `waitInTime c e` — the wait handler runs before the reply handler of its request.

## Main results

* `ModbusTcpClient.abortsOwn_eq_waitInTime`, `ModbusRtuMaster.abortsOwn_eq_waitInTime` —
  in every reachable state the two agree.
* `timeouts_along` — **a timeout aborts only what belongs to its request, in exactly
  those runs whose wait handlers are in time.**
-/

namespace ModbusGateway

open Proactor Execution Transaction

/-- The request a send was started for. -/
def ClientOp.sendOf {β : Type} : ClientOp β → Option ℕ
  | .send request _ => some request
  | _ => none

/-- The request a receive was started for. -/
def ClientOp.receiveOf {β : Type} : ClientOp β → Option ℕ
  | .receive request => some request
  | _ => none

/-- A wait belongs to a request that has been written, and whose send is over.
`request` is the number of the latest request, `sending` and `waits` are those of the
requests whose send and whose wait is outstanding. -/
structure WaitsSent (request : ℕ) (sending waits : List ℕ) : Prop where
  written : ∀ n ∈ waits, n ≤ request
  sent : ∀ n ∈ sending, n ∉ waits

namespace WaitsSent

variable {request request' : ℕ} {sending sending' waits waits' : List ℕ}

theorem nil : WaitsSent 0 [] [] where
  written := by intro n hn; cases hn
  sent := by intro n hn; cases hn

/-- Sends and waits may go. -/
theorem mono (h : WaitsSent request sending waits) (hr : request' = request)
    (hs : ∀ n ∈ sending', n ∈ sending) (hw : ∀ n ∈ waits', n ∈ waits) :
    WaitsSent request' sending' waits' where
  written n hn := hr ▸ h.written n (hw n hn)
  sent n hn hwait := h.sent n (hs n hn) (hw n hwait)

/-- The next request is sent, alone. -/
theorem start (h : WaitsSent request sending waits) (hs : ∀ n ∈ sending', n = request + 1) :
    WaitsSent (request + 1) sending' waits where
  written n hn := Nat.le_succ_of_le (h.written n hn)
  sent n hn hwait := by
    -- no wait bears the new number yet
    have hle := h.written n hwait
    have hnum := hs n hn
    omega

/-- The send of the latest request is over, and its wait begins. -/
theorem wait (h : WaitsSent request sending waits) : WaitsSent request [] (waits ++ [request]) where
  written n hn := by
    rcases List.mem_append.mp hn with hold | hlast
    · exact h.written n hold
    · exact (List.mem_singleton.mp hlast).le
  sent n hn := by cases hn

end WaitsSent

namespace ModbusTcpClient

variable {β : Type} {mb : Modbus β} {c c' : ModbusTcpClient β}

/-- The numbers of the requests whose send is outstanding. -/
def sending (c : ModbusTcpClient β) : List ℕ := c.socket.ops.kinds.filterMap ClientOp.sendOf

/-- The numbers of the requests whose receive is outstanding. -/
def receiving (c : ModbusTcpClient β) : List ℕ := c.socket.ops.kinds.filterMap ClientOp.receiveOf

/-- If the event runs the handler of a wait that has run out, everything its
`socket_->cancel()` aborts was started for the request of the wait. -/
def abortsOwn (c : ModbusTcpClient β) : Event β → Bool
  | .handleWait i =>
    match c.timer.waits.take i with
    | some (request, .success, _) => c.socket.aborts.all fun op => decide (op.data = some request)
    | _ => true
  | _ => true

/-- If the event runs the handler of a wait that has run out, the receive of its
request is outstanding and no connect is pending, or nothing is pending. -/
def waitInTime (c : ModbusTcpClient β) : Event β → Bool
  | .handleWait i =>
    match c.timer.waits.take i with
    | some (request, .success, _) =>
      c.socket.aborts.isEmpty ||
        decide (request ∈ c.receiving) && c.socket.aborts.all fun op => op.data.isSome
    | _ => true
  | _ => true

/-- The client's waits belong to requests whose send is over. -/
def Waiting (c : ModbusTcpClient β) : Prop := WaitsSent c.request c.sending c.timer.waits.kinds

/-! ### The operations by their requests -/

/-- A data operation is a send or a receive. -/
theorem mem_dataOps {n : ℕ} : n ∈ c.dataOps ↔ n ∈ c.sending ∨ n ∈ c.receiving := by
  simp only [dataOps, sending, receiving, List.mem_filterMap]
  constructor
  · rintro ⟨op, hop, hn⟩
    cases op with
    | connect => cases hn
    | send m buffer => exact Or.inl ⟨_, hop, hn⟩
    | receive m => exact Or.inr ⟨_, hop, hn⟩
  · rintro (⟨op, hop, hn⟩ | ⟨op, hop, hn⟩) <;> cases op <;> cases hn
    · exact ⟨_, hop, rfl⟩
    · exact ⟨_, hop, rfl⟩

theorem sending_of_dataOps_nil (h : c.dataOps = []) : c.sending = [] := by
  refine List.eq_nil_iff_forall_not_mem.mpr fun n hn => ?_
  have hmem : n ∈ c.dataOps := mem_dataOps.mpr (Or.inl hn)
  rw [h] at hmem
  cases hmem

/-- Every data operation is that of the latest request. -/
theorem Control.eq_request (h : Control c) {n : ℕ} (hn : n ∈ c.dataOps) : n = c.request := by
  rcases h.data with hd | ⟨-, hd⟩ <;> rw [hd] at hn
  · cases hn
  · exact List.mem_singleton.mp hn

/-! ### A wait belongs to a request that has been sent -/

theorem waiting_queueProcessUnsafe (hctl : Control c) (h : c.Waiting) (now : Nanoseconds) :
    (c.queueProcessUnsafe mb now).Waiting := by
  have hpop : (c.popExpired now).Waiting :=
    h.mono (popExpired_request now) (fun _ hn => hn) (fun _ hn => hn)
  rcases queueProcessUnsafe_cases mb c now with
    ⟨heq, -⟩ | ⟨heq, -, -⟩ | ⟨heq, -, -, -⟩ | ⟨message, heq, -, hnone, -⟩ <;> rw [heq]
  · exact h
  · refine h.mono startConnectTaskUnsafe_request ?_ (fun _ hn => hn)
    simp only [startConnectTaskUnsafe, sending, note_socket, Stream.asyncConnect_kinds,
      List.filterMap_append, List.mem_append]
    rintro n (hold | hconnect)
    · exact hold
    · cases hconnect
  · exact hpop
  · -- the data operations are that of the new request
    have hdata : (c.popExpired now).dataOps = [] := hctl.dataOps_of_none hnone
    unfold Waiting
    rw [startMessage_request]
    refine hpop.start fun n hn => ?_
    have hmem := mem_dataOps.mpr (Or.inl hn)
    rw [startMessage_dataOps, hdata] at hmem
    exact List.mem_singleton.mp hmem

theorem waiting_step {e : Event β} (hctl : Control c) (h : c.Waiting)
    (hs : step mb c e = some c') : c'.Waiting := by
  -- taking a handler up removes an operation
  have htake : ∀ {i op result ops}, c.socket.ops.take i = some (op, result, ops) →
      ∀ n ∈ (c.withOps ops).sending, n ∈ c.sending := fun ht n hn =>
    List.filterMap_subset _ (fun _ => Pool.mem_kinds_of_mem_take ht) hn
  cases step_branch hctl.exchange hs with
  | receive message now =>
    have hpush : (c.pushMessage message).Waiting :=
      h.mono (pushMessage_request message) (fun _ hn => hn) (fun _ hn => hn)
    have hpushed : Control (c.pushMessage message) :=
      hctl.congr rfl rfl rfl rfl (pushMessage_request message)
    exact waiting_queueProcessUnsafe hpushed hpush now
  | complete hops =>
    refine h.mono rfl ?_ (fun _ hn => hn)
    simp only [sending, withOps, Pool.kinds_complete hops, imp_self, implies_true]
  | connectFailed ht hec => exact h.mono rfl (htake ht) (fun _ hn => hn)
  | @connected i result ops ht hec now =>
    have hcon : ({ c.withOps ops with state := .Connected } : ModbusTcpClient β).Waiting :=
      h.mono rfl (htake ht) (fun _ hn => hn)
    exact waiting_queueProcessUnsafe ((take_data hctl ht).1.with_state (Or.inl rfl)) hcon now
  | @sendFailed i n buffer result ops ht hec =>
    obtain ⟨state, socket, heq, hkinds⟩ := dropCurrent_eq (c.withOps ops) result.ec
    rw [heq]
    refine h.mono rfl ?_ (fun _ hn => hn)
    simp only [sending, hkinds]
    exact htake ht
  | @sent i n buffer result ops ht hec =>
    obtain ⟨-, -, -, hd⟩ := (take_data hctl ht).2.2 n rfl
    have hnil : (c.withOps ops).startWaitTask.startReceiveTask.sending = [] := by
      have hnone := sending_of_dataOps_nil hd
      simp only [sending] at hnone
      simp [startReceiveTask, startWaitTask, sending, hnone, ClientOp.sendOf]
    unfold Waiting
    rw [hnil]
    simp only [startReceiveTask, startWaitTask, Timer.asyncWait_kinds, Timer.expiresAfter_kinds]
    exact h.wait
  | @receiveFailed i n result ops ht hec =>
    obtain ⟨state, socket, heq, hkinds⟩ :=
      dropCurrent_eq { c.withOps ops with timer := c.timer.cancel } result.ec
    rw [heq]
    refine h.mono rfl ?_ (fun n hn => Timer.cancel_kinds c.timer ▸ hn)
    simp only [sending, hkinds]
    exact htake ht
  | @received i n result ops ht hec peerGone now =>
    obtain ⟨-, -, -, hd⟩ := (take_data hctl ht).2.2 n rfl
    obtain ⟨hsocket, htimer, hreq⟩ := received_frame mb (c.withOps ops) result.data
    have hrec : ((c.withOps ops).received mb result.data).Waiting := by
      refine h.mono hreq ?_ ?_
      · rw [sending, hsocket]
        exact htake ht
      · rw [htimer]
        exact fun n hn => Timer.cancel_kinds c.timer ▸ hn
    exact waiting_queueProcessUnsafe (control_received (c := c.withOps ops) hctl.exchange hd _)
      hrec now
  | expire hw => exact h.mono rfl (fun _ hn => hn) (fun n hn => Pool.kinds_complete hw ▸ hn)
  | waitFailed ht hec =>
    exact h.mono rfl (fun _ hn => hn) (fun n hn => Pool.mem_kinds_of_mem_take ht hn)
  | @timeout i request waits ht =>
    refine h.mono (request_note (silent_singleton rfl)) ?_
      (fun n hn => Pool.mem_kinds_of_mem_take ht hn)
    simp [sending]

/-! ### Exactly when a timeout acts on its own request -/

/-- **A wait handler aborts only what belongs to its request exactly when it is in time.** -/
theorem abortsOwn_eq_waitInTime (hctl : Control c) (h : c.Waiting) (e : Event β) :
    c.abortsOwn e = c.waitInTime e := by
  unfold abortsOwn waitInTime
  split
  · split
    · next i request waits ht =>
      rw [Bool.eq_iff_iff]
      simp only [List.all_eq_true, decide_eq_true_eq, Bool.or_eq_true, Bool.and_eq_true,
        List.isEmpty_iff]
      constructor
      · intro hall
        rcases List.eq_nil_or_concat c.socket.aborts with hnil | ⟨ops, op, hops⟩
        · exact Or.inl hnil
        · -- what is aborted for the request is no send, since its send is over
          have hop : op ∈ c.socket.aborts := by rw [hops]; simp
          have hdata : request ∈ c.dataOps :=
            List.mem_filterMap.mpr ⟨op, Stream.mem_kinds_of_mem_aborts hop, hall op hop⟩
          refine Or.inr ⟨?_, fun op' hop' => by rw [hall op' hop']; rfl⟩
          rcases mem_dataOps.mp hdata with hsend | hreceive
          · exact absurd (Pool.mem_kinds_take ht) (h.sent request hsend)
          · exact hreceive
      · rintro (hnil | ⟨hreceive, hdata⟩) op hop
        · rw [hnil] at hop
          cases hop
        · -- the data operations are those of one request, and the wait is its own
          obtain ⟨n, hn⟩ := Option.isSome_iff_exists.mp (hdata op hop)
          have hmem : n ∈ c.dataOps :=
            List.mem_filterMap.mpr ⟨op, Stream.mem_kinds_of_mem_aborts hop, hn⟩
          have hown := hctl.eq_request (mem_dataOps.mpr (Or.inr hreceive))
          rw [hn, hctl.eq_request hmem, hown]
    · rfl
  · rfl

/-- In a run, the timeouts of the client act on their own requests exactly when every
wait handler is in time. -/
theorem abortsOwn_along (mb : Modbus β) (timeout : Milliseconds) (es : List (Event β)) :
    along (step mb) abortsOwn (new timeout) es = along (step mb) waitInTime (new timeout) es :=
  along_congr (I := fun c => Control c ∧ c.Waiting)
    (fun _ _ _ h _ hs => ⟨control_step h.1 hs, waiting_step h.1 h.2 hs⟩)
    (fun _ e h => abortsOwn_eq_waitInTime h.1 h.2 e) ⟨control_new timeout, .nil⟩

end ModbusTcpClient

/-- The request a write was started for. -/
def RtuOp.writeOf {β : Type} : RtuOp β → Option ℕ
  | .write request _ => some request
  | .read _ => none

/-- The request a read was started for. -/
def RtuOp.readOf {β : Type} : RtuOp β → Option ℕ
  | .write _ _ => none
  | .read request => some request

namespace ModbusRtuMaster

variable {β : Type} {mb : Modbus β} {m m' : ModbusRtuMaster β}

/-- The numbers of the requests whose write is outstanding. -/
def writing (m : ModbusRtuMaster β) : List ℕ := m.serialPort.ops.kinds.filterMap RtuOp.writeOf

/-- The numbers of the requests whose read is outstanding. -/
def reading (m : ModbusRtuMaster β) : List ℕ := m.serialPort.ops.kinds.filterMap RtuOp.readOf

/-- If the event runs the handler of a wait that has run out, everything its
`serialPort_->cancel()` aborts was started for the request of the wait. -/
def abortsOwn (m : ModbusRtuMaster β) : Event β → Bool
  | .handleWait i =>
    match m.timer.waits.take i with
    | some (request, .success, _) => m.serialPort.aborts.all fun op => decide (op.request = request)
    | _ => true
  | _ => true

/-- If the event runs the handler of a wait that has run out, the read of its request
is outstanding, or nothing is pending. -/
def waitInTime (m : ModbusRtuMaster β) : Event β → Bool
  | .handleWait i =>
    match m.timer.waits.take i with
    | some (request, .success, _) => m.serialPort.aborts.isEmpty || decide (request ∈ m.reading)
    | _ => true
  | _ => true

/-- The master's waits belong to requests whose write is over. -/
def Waiting (m : ModbusRtuMaster β) : Prop := WaitsSent m.request m.writing m.timer.waits.kinds

/-! ### The operations by their requests -/

/-- An operation is a write or a read. -/
theorem mem_outstanding {n : ℕ} : n ∈ m.outstanding ↔ n ∈ m.writing ∨ n ∈ m.reading := by
  simp only [outstanding, writing, reading, List.mem_filterMap, List.mem_map]
  constructor
  · rintro ⟨op, hop, rfl⟩
    cases op with
    | write request buffer => exact Or.inl ⟨_, hop, rfl⟩
    | read request => exact Or.inr ⟨_, hop, rfl⟩
  · rintro (⟨op, hop, hn⟩ | ⟨op, hop, hn⟩) <;> cases op <;> cases hn
    · exact ⟨_, hop, rfl⟩
    · exact ⟨_, hop, rfl⟩

/-- Every operation is that of the latest request. -/
theorem Control.eq_request (h : Control m) {n : ℕ} (hn : n ∈ m.outstanding) : n = m.request := by
  rcases h.ops with hnil | ⟨-, hone⟩
  · rw [hnil] at hn
    cases hn
  · rw [hone] at hn
    exact List.mem_singleton.mp hn

theorem request_note_send (actorId : ActorId) (message : ModbusMessage β) :
    (m.note [.send actorId message]).request = m.request := by
  unfold request started requests note
  rw [acts_append]
  exact congrArg List.length (starts_concat_answer _ _)

/-- Before it processes the queue, the read handler leaves the outstanding operations
alone, writes nothing and cancels the timer. -/
theorem answered_frame (mb : Modbus β) (m : ModbusRtuMaster β) (data : List UInt8) :
    (m.answered mb data).serialPort = m.serialPort ∧
      (m.answered mb data).timer = m.timer.cancel ∧ (m.answered mb data).request = m.request := by
  rcases answered_cases mb m data with
    ⟨heq, -⟩ | ⟨current, buffer, -, -, heq, -⟩ | ⟨current, buffer, -, -, heq, -⟩ <;> rw [heq]
  · exact ⟨rfl, rfl, rfl⟩
  · exact ⟨rfl, rfl, rfl⟩
  · exact ⟨rfl, rfl, request_note_send (m := { m with
      timer := m.timer.cancel, currentMessage := none }) _ _⟩

/-! ### A wait belongs to a request that has been written -/

theorem waiting_queueProcessUnsafe (hctl : Control m) (h : m.Waiting) (now : Nanoseconds) :
    (m.queueProcessUnsafe mb now).Waiting := by
  have hpop : (m.popExpired now).Waiting :=
    h.mono (popExpired_request now) (fun _ hn => hn) (fun _ hn => hn)
  rcases queueProcessUnsafe_cases mb m now with
    ⟨heq, -⟩ | ⟨heq, -, -⟩ | ⟨message, heq, hnone, -⟩ <;> rw [heq]
  · exact h
  · exact hpop
  · -- the write of the new request is alone
    have hnil : (m.popExpired now).outstanding = [] := hctl.outstanding_of_none hnone
    unfold Waiting
    rw [startMessageTaskUnsafe_request]
    refine hpop.start fun n hn => ?_
    have hmem := mem_outstanding.mpr (Or.inl hn)
    rw [startMessageTaskUnsafe_outstanding, hnil] at hmem
    exact List.mem_singleton.mp hmem

theorem waiting_step {e : Event β} (hctl : Control m) (h : m.Waiting)
    (hs : step mb m e = some m') : m'.Waiting := by
  cases step_branch hctl.exchange hs with
  | receive message now =>
    have hpush : (m.pushMessage message).Waiting :=
      h.mono (pushMessage_request message) (fun _ hn => hn) (fun _ hn => hn)
    have hpushed : Control (m.pushMessage message) :=
      hctl.congr rfl rfl rfl (pushMessage_request message)
    exact waiting_queueProcessUnsafe hpushed hpush now
  | complete hops =>
    refine h.mono rfl ?_ (fun _ hn => hn)
    simp only [writing, withOps, Pool.kinds_complete hops, imp_self, implies_true]
  | writeFailed ht hec =>
    obtain ⟨-, -, -, rfl⟩ := take_outstanding hctl ht
    exact h.mono rfl (fun n hn => by cases hn) (fun _ hn => hn)
  | written ht hec =>
    obtain ⟨-, -, -, rfl⟩ := take_outstanding hctl ht
    have hwait := h.wait
    rw [← Timer.expiresAfter_kinds m.timer, ← Timer.asyncWait_kinds] at hwait
    exact hwait
  | readFailed ht hec =>
    obtain ⟨-, -, -, rfl⟩ := take_outstanding hctl ht
    exact h.mono rfl (fun n hn => by cases hn) (fun n hn => Timer.cancel_kinds m.timer ▸ hn)
  | @read i n result ops ht hec now =>
    obtain ⟨-, -, -, rfl⟩ := take_outstanding hctl ht
    obtain ⟨hport, htimer, hreq⟩ := answered_frame mb (m.withOps []) result.data
    have hans : ((m.withOps []).answered mb result.data).Waiting := by
      refine h.mono hreq (fun n hn => ?_) (fun n hn => ?_)
      · rw [writing, hport] at hn
        cases hn
      · rw [htimer] at hn
        exact Timer.cancel_kinds m.timer ▸ hn
    exact waiting_queueProcessUnsafe (answered_control (m := m.withOps []) hctl.exchange rfl _)
      hans now
  | expire hw => exact h.mono rfl (fun _ hn => hn) (fun n hn => Pool.kinds_complete hw ▸ hn)
  | waitFailed ht hec =>
    exact h.mono rfl (fun _ hn => hn) (fun n hn => Pool.mem_kinds_of_mem_take ht hn)
  | @timeout i request waits ht =>
    refine h.mono (note_request (silent_singleton rfl)) ?_
      (fun n hn => Pool.mem_kinds_of_mem_take ht hn)
    simp [writing]

/-! ### Exactly when a timeout acts on its own request -/

/-- **A wait handler aborts only what belongs to its request exactly when it is in time.** -/
theorem abortsOwn_eq_waitInTime (hctl : Control m) (h : m.Waiting) (e : Event β) :
    m.abortsOwn e = m.waitInTime e := by
  unfold abortsOwn waitInTime
  split
  · split
    · next i request waits ht =>
      rw [Bool.eq_iff_iff]
      simp only [List.all_eq_true, decide_eq_true_eq, Bool.or_eq_true, List.isEmpty_iff]
      constructor
      · intro hall
        rcases List.eq_nil_or_concat m.serialPort.aborts with hnil | ⟨ops, op, hops⟩
        · exact Or.inl hnil
        · -- what is aborted for the request is no write, since its write is over
          have hop : op ∈ m.serialPort.aborts := by rw [hops]; simp
          have hmem : request ∈ m.outstanding :=
            List.mem_map.mpr ⟨op, Stream.mem_kinds_of_mem_aborts hop, hall op hop⟩
          rcases mem_outstanding.mp hmem with hwrite | hread
          · exact absurd (Pool.mem_kinds_take ht) (h.sent request hwrite)
          · exact Or.inr hread
      · rintro (hnil | hread) op hop
        · rw [hnil] at hop
          cases hop
        · -- there is one operation only, and the wait is its own
          have hmem : op.request ∈ m.outstanding :=
            List.mem_map_of_mem (Stream.mem_kinds_of_mem_aborts hop)
          rw [hctl.eq_request hmem, hctl.eq_request (mem_outstanding.mpr (Or.inr hread))]
    · rfl
  · rfl

/-- In a run, the timeouts of the master act on their own requests exactly when every
wait handler is in time. -/
theorem abortsOwn_along (mb : Modbus β) (timeout : Milliseconds) (frameType : FrameType)
    (es : List (Event β)) :
    along (step mb) abortsOwn (new timeout frameType) es =
      along (step mb) waitInTime (new timeout frameType) es :=
  along_congr (I := fun m => Control m ∧ m.Waiting)
    (fun _ _ _ h _ hs => ⟨control_step h.1 hs, waiting_step h.1 h.2 hs⟩)
    (fun _ e h => abortsOwn_eq_waitInTime h.1 h.2 e) ⟨control_new timeout frameType, .nil⟩

end ModbusRtuMaster

/-! ### Both masters -/

/-- **A timeout aborts only what belongs to its request**, in exactly those runs of the
two masters in which every wait handler that runs without an error finds the receive or
the read of its request outstanding, and no connect pending, or finds nothing pending. -/
theorem timeouts_along {β : Type} (mb : Modbus β) (timeout : Milliseconds) :
    (∀ es, along (ModbusTcpClient.step mb) ModbusTcpClient.abortsOwn (.new timeout) es = true ↔
      along (ModbusTcpClient.step mb) ModbusTcpClient.waitInTime (.new timeout) es = true) ∧
    (∀ frameType es,
      along (ModbusRtuMaster.step mb) ModbusRtuMaster.abortsOwn (.new timeout frameType) es = true ↔
      along (ModbusRtuMaster.step mb) ModbusRtuMaster.waitInTime (.new timeout frameType) es =
        true) := by
  refine ⟨fun es => ?_, fun frameType es => ?_⟩
  · rw [ModbusTcpClient.abortsOwn_along]
  · rw [ModbusRtuMaster.abortsOwn_along]

/-- The reply to the first request and its timeout are both queued; the reply handler
sends the second request, and then the wait handler of the first runs. -/
def ModbusTcpClient.overtakenRun : List (ModbusTcpClient.Event Frame) :=
  queuedRun ++ [.expire 0 .success, .complete 0 ⟨.success, Frame.readReply 1 1 7⟩,
    .handle 0 false 0, .handleWait 0]

/-- The same for the serial master. -/
def ModbusRtuMaster.overtakenRun : List (ModbusRtuMaster.Event Frame) :=
  queuedRun ++ [.expire 0 .success, .complete 0 ⟨.success, (Frame.rtu 1 [3, 2, 0, 7]).bytes⟩,
    .handle 0 0, .handleWait 0]

/-- The timeout of the first request aborts the send or the write of the second. -/
theorem timeouts_overtaken :
    ((exec (ModbusTcpClient.step Frame.library) (.new 1000)
        ModbusTcpClient.overtakenRun).isSome = true ∧
      along (ModbusTcpClient.step Frame.library) ModbusTcpClient.abortsOwn (.new 1000)
        ModbusTcpClient.overtakenRun = false) ∧
    ((exec (ModbusRtuMaster.step Frame.library) (.new 1000 .RTU)
        ModbusRtuMaster.overtakenRun).isSome = true ∧
      along (ModbusRtuMaster.step Frame.library) ModbusRtuMaster.abortsOwn (.new 1000 .RTU)
        ModbusRtuMaster.overtakenRun = false) :=
  ⟨⟨by decide +kernel, by decide +kernel⟩, ⟨by decide +kernel, by decide +kernel⟩⟩

end ModbusGateway
