import ModbusGateway.Transport.TcpClientProgress

/-!
# Why the TCP client gives a request up

A request in process should be given up for a reason of its own: a frame with its
wire transaction id, its own timeout, or an error of the socket.  The code gives
it up for two other reasons as well.

* `MakeResponse` resets `currentMessage_` before it compares the ids, so that a late
  reply to an earlier request ends the current one.
* A wait handler already queued when `timer_.cancel()` is called runs all the same,
  and cancels whatever the socket is doing by then.

The error `operation_aborted` is that of an operation the client has cancelled
itself, or closed the socket under.

## Main definitions

* `hasReason mb c current e` — the event is a reason to give `current` up.
* `ownFrame`, `ownWait` — the event is not one of the two above.

## Main results

* `reason_exec` — **in every run without those two, a request is given up for a
  reason of its own only.**
-/

namespace ModbusGateway

open Proactor Execution Transaction

namespace ModbusTcpClient

variable {β : Type} {mb : Modbus β} {c c' : ModbusTcpClient β}

/-- The wait armed for a request has run out. -/
def timedOut (c : ModbusTcpClient β) (request : ℕ) : Bool :=
  c.effects.any fun
    | .timeout n => n == request
    | _ => false

/-- An error with which a send or a receive of the current request is its reason to be
given up: an error of the socket, or the cancellation that follows its timeout. -/
def failureReason (c : ModbusTcpClient β) : ErrorCode → Bool
  | .success => false
  | .operationAborted => c.timedOut c.request
  | _ => true

/-- The event is a reason to give the current request up: a frame with its transaction
id has been received, or its send or its receive has failed. -/
def hasReason (mb : Modbus β) (c : ModbusTcpClient β) (current : ModbusCurrentMessage β) :
    Event β → Bool
  | .handle i _ _ =>
    match c.socket.ops.take i with
    | some (.send _ _, result, _) => c.failureReason result.ec
    | some (.receive _, result, _) =>
      c.failureReason result.ec ||
        (!result.ec.failed && (mb.read .TCP result.data).any fun buffer =>
          decide (mb.getTransactionId buffer = current.id))
    | _ => false
  | _ => false

/-- Only a cancellation completes an operation with `operation_aborted`. -/
def abortsCancelled (_ : ModbusTcpClient β) : Event β → Bool
  | .complete _ result => decide (result.ec ≠ .operationAborted)
  | _ => true

/-- The event does not run the handler of a receive that got a frame with another
transaction id than that of the request in process. -/
def ownFrame (mb : Modbus β) (c : ModbusTcpClient β) : Event β → Bool
  | .handle i _ _ =>
    match c.socket.ops.take i, c.currentMessage with
    | some (.receive _, result, _), some current =>
      result.ec.failed || (mb.read .TCP result.data).all fun buffer =>
        decide (mb.getTransactionId buffer = current.id)
    | _, _ => true
  | _ => true

/-- The event does not run the handler of a wait that has run out for an earlier
request while a send or a receive of a later one is pending. -/
def ownWait (c : ModbusTcpClient β) : Event β → Bool
  | .handleWait i =>
    match c.timer.waits.take i with
    | some (request, .success, _) =>
      c.socket.ops.all fun o => o.result.isSome || o.kind.data.all fun n => decide (n = request)
    | _ => true
  | _ => true

/-! ### Aborted operations -/

/-- An aborted send or receive belongs to a request that has timed out. -/
def AbortedTimedOut (c : ModbusTcpClient β) : Prop :=
  ∀ o ∈ c.socket.ops, ∀ n data, o.kind.data = some n → o.result = some ⟨.operationAborted, data⟩ →
    c.timedOut n = true

theorem timedOut_mono {request : ℕ} (heff : ∀ e ∈ c.effects, e ∈ c'.effects)
    (h : c.timedOut request = true) : c'.timedOut request = true := by
  obtain ⟨e, he, hreq⟩ := List.any_eq_true.mp h
  exact List.any_eq_true.mpr ⟨e, heff e he, hreq⟩

theorem timedOut_note_timeout (request : ℕ) :
    (c.note [.timeout request]).timedOut request = true :=
  List.any_eq_true.mpr ⟨_, List.mem_append_right _ List.mem_cons_self, beq_self_eq_true request⟩

theorem AbortedTimedOut.of_dataOps_nil (h : c.dataOps = []) : c.AbortedTimedOut := by
  intro o ho n data hn _
  have hmem : n ∈ c.dataOps :=
    List.mem_filterMap.mpr ⟨o.kind, List.mem_map_of_mem ho, hn⟩
  rw [h] at hmem
  cases hmem

/-- Operations may be added while they are pending, and the history only grows. -/
theorem AbortedTimedOut.mono (h : c.AbortedTimedOut)
    (hops : ∀ o ∈ c'.socket.ops, o ∈ c.socket.ops ∨ o.result = none)
    (heff : ∀ e ∈ c.effects, e ∈ c'.effects) : c'.AbortedTimedOut := by
  intro o ho n data hn hr
  rcases hops o ho with hold | hpending
  · exact timedOut_mono heff (h o hold n data hn hr)
  · rw [hpending] at hr
    cases hr

theorem abortedTimedOut_queueProcessUnsafe (h : c.AbortedTimedOut) (now : Nanoseconds) :
    (c.queueProcessUnsafe mb now).AbortedTimedOut := by
  have hpop : (c.popExpired now).AbortedTimedOut :=
    h.mono (fun o ho => Or.inl ho) (fun e he => List.mem_append_left _ he)
  rcases queueProcessUnsafe_cases mb c now with
    ⟨heq, -⟩ | ⟨heq, -, -⟩ | ⟨heq, -, -, -⟩ | ⟨message, heq, -, -, -⟩ <;> rw [heq]
  · exact h
  · refine h.mono (fun o ho => ?_) (fun e he => List.mem_append_left _ he)
    exact (Pool.mem_start.mp ho).imp id fun heq => by rw [heq]
  · exact hpop
  · refine hpop.mono (fun o ho => ?_) (fun e he => List.mem_append_left _ he)
    exact (Pool.mem_start.mp ho).imp id fun heq => by rw [heq]

theorem dropCurrent_dataOps (ec : ErrorCode) : (c.dropCurrent ec).dataOps = c.dataOps :=
  congrArg (List.filterMap ClientOp.data) (dropCurrent_frame ec).2

/-- The timeout of a request aborts its own operations. -/
theorem abortedTimedOut_cancel {request : ℕ} (h : c.AbortedTimedOut)
    (hown : ∀ o ∈ c.socket.ops, o.result = none → ∀ n, o.kind.data = some n → n = request) :
    ({ c with socket := c.socket.cancel }.note [.timeout request]).AbortedTimedOut := by
  have hmono : ∀ n, c.timedOut n = true →
      ({ c with socket := c.socket.cancel }.note [.timeout request]).timedOut n = true :=
    fun n => timedOut_mono fun e he => List.mem_append_left _ he
  intro o ho n data hn hr
  simp only [note_socket, Stream.cancel] at ho
  split at ho
  · obtain ⟨o', ho', rfl⟩ := Pool.mem_cancel.mp ho
    cases hres : o'.result with
    | some r =>
      have hr' : r = ⟨.operationAborted, data⟩ := by
        simpa [Op.abort, hres] using hr
      exact hmono n (h o' ho' n data hn (by rw [hres, hr']))
    | none =>
      rw [hown o' ho' hres n hn]
      exact timedOut_note_timeout request
  · exact hmono n (h o ho n data hn hr)

theorem abortedTimedOut_step {e : Event β} (hctl : Control c) (h : c.AbortedTimedOut)
    (haborts : c.abortsCancelled e = true) (hwait : c.ownWait e = true)
    (hs : step mb c e = some c') : c'.AbortedTimedOut := by
  cases step_branch hctl.exchange hs with
  | receive message now =>
    have hpush : (c.pushMessage message).AbortedTimedOut :=
      h.mono (fun o ho => Or.inl ho) (fun e he => List.mem_append_left _ he)
    exact abortedTimedOut_queueProcessUnsafe hpush now
  | complete hops =>
    simp only [abortsCancelled, decide_eq_true_eq] at haborts
    intro o ho n data hn hr
    rcases Pool.mem_complete hops ho with hold | ⟨k, -, rfl⟩
    · exact h o hold n data hn hr
    · -- the operation just completed was not cancelled
      rw [Option.some.inj hr] at haborts
      exact absurd rfl haborts
  | connectFailed ht hec =>
    exact h.mono (fun o ho => Or.inl (Pool.mem_of_mem_take ht ho)) (fun e he => he)
  | @connected i result ops ht hec now =>
    have hcon : ({ c.withOps ops with state := .Connected } : ModbusTcpClient β).AbortedTimedOut :=
      h.mono (fun o ho => Or.inl (Pool.mem_of_mem_take ht ho)) (fun e he => he)
    exact abortedTimedOut_queueProcessUnsafe hcon now
  | @sendFailed i n buffer result ops ht hec =>
    obtain ⟨-, -, -, hd⟩ := (take_data hctl ht).2.2 n rfl
    exact AbortedTimedOut.of_dataOps_nil ((dropCurrent_dataOps _).trans hd)
  | sent ht hec =>
    refine h.mono (fun o ho => ?_) (fun e he => he)
    -- the receive that is started is pending
    rcases Pool.mem_start.mp ho with hold | rfl
    · exact Or.inl (Pool.mem_of_mem_take ht hold)
    · exact Or.inr rfl
  | @receiveFailed i n result ops ht hec =>
    obtain ⟨-, -, -, hd⟩ := (take_data hctl ht).2.2 n rfl
    exact AbortedTimedOut.of_dataOps_nil ((dropCurrent_dataOps _).trans hd)
  | @received i n result ops ht hec peerGone now =>
    obtain ⟨-, -, -, hd⟩ := (take_data hctl ht).2.2 n rfl
    have hrec : ((c.withOps ops).received mb result.data).dataOps = [] := by
      rcases received_cases mb (c.withOps ops) result.data with
        ⟨heq, -⟩ | ⟨current, buffer, -, -, heq, -⟩ | ⟨current, buffer, -, -, heq, -⟩ <;>
        rw [heq] <;> exact hd
    exact abortedTimedOut_queueProcessUnsafe (AbortedTimedOut.of_dataOps_nil hrec) now
  | expire hw => exact h
  | waitFailed ht hec => exact h
  | @timeout i request waits ht =>
    refine abortedTimedOut_cancel (c := { c with timer := ⟨waits⟩ }) h fun o ho hres n hn => ?_
    simp only [ownWait, ht, List.all_eq_true] at hwait
    simpa [hres, hn] using hwait o ho

/-! ### The reason -/

/-- While a request is in process, processing the queue leaves it alone. -/
theorem queueProcessUnsafe_currentMessage (mb : Modbus β) (hcur : c.currentMessage.isSome = true)
    (now : Nanoseconds) : (c.queueProcessUnsafe mb now).currentMessage = c.currentMessage := by
  rcases queueProcessUnsafe_cases mb c now with
    ⟨heq, -⟩ | ⟨heq, -, -⟩ | ⟨-, -, hnone, -⟩ | ⟨message, -, -, hnone, -⟩
  · rw [heq]
  · rw [heq]; rfl
  · rw [hnone] at hcur; cases hcur
  · rw [hnone] at hcur; cases hcur

/-- A failure of an operation of the current request is a reason. -/
theorem failureReason_of_take {i : ℕ} {op : ClientOp β} {result : Completion}
    {ops : Pool (ClientOp β) Completion} (hctl : Control c) (h : c.AbortedTimedOut)
    (ht : c.socket.ops.take i = some (op, result, ops)) {n : ℕ} (hn : op.data = some n)
    (hec : result.ec ≠ .success) : c.failureReason result.ec = true := by
  obtain ⟨-, -, hdata⟩ := take_data hctl ht
  obtain ⟨-, rfl, -, -⟩ := hdata n hn
  obtain ⟨ec, data⟩ := result
  cases ec with
  | success => exact absurd rfl hec
  | operationAborted => exact h _ (Pool.mem_take ht) _ data hn rfl
  | eof => rfl
  | connectionReset => rfl
  | other value => rfl

theorem hasReason_of_givenUp {e : Event β} {current : ModbusCurrentMessage β} (hctl : Control c)
    (h : c.AbortedTimedOut) (hframe : c.ownFrame mb e = true) (hs : step mb c e = some c')
    (hcur : c.currentMessage = some current) (hgone : c'.currentMessage ≠ some current) :
    hasReason mb c current e = true := by
  have hsome : c.currentMessage.isSome = true := by rw [hcur]; rfl
  cases step_branch hctl.exchange hs with
  | receive message now =>
    have hsame := queueProcessUnsafe_currentMessage mb (c := c.pushMessage message) hsome now
    exact absurd (hsame.trans hcur) hgone
  | complete hops => exact absurd hcur hgone
  | connectFailed ht hec => exact absurd hcur hgone
  | @connected i result ops ht hec now =>
    have hsame := queueProcessUnsafe_currentMessage mb
      (c := { c.withOps ops with state := .Connected }) hsome now
    exact absurd (hsame.trans hcur) hgone
  | @sendFailed i n buffer result ops ht hec =>
    simp only [hasReason, ht]
    exact failureReason_of_take hctl h ht (n := n) rfl (ErrorCode.failed_eq_true.mp hec)
  | sent ht hec => exact absurd hcur hgone
  | @receiveFailed i n result ops ht hec =>
    simp only [hasReason, ht, Bool.or_eq_true]
    exact Or.inl (failureReason_of_take hctl h ht (n := n) rfl (ErrorCode.failed_eq_true.mp hec))
  | @received i n result ops ht hec peerGone now =>
    simp only [ownFrame, ht, hcur, hec, ErrorCode.failed_success, Bool.false_or] at hframe
    simp only [hasReason, ht, hec, ErrorCode.failed_success, Bool.not_false, Bool.true_and,
      Bool.or_eq_true]
    refine Or.inr ?_
    cases hread : mb.read .TCP result.data with
    | some buffer =>
      rw [hread] at hframe
      exact hframe
    | none =>
      -- a refused size leaves the request where it is
      exfalso
      rcases received_cases mb (c.withOps ops) result.data with
        ⟨heq, -⟩ | ⟨current', buffer, -, hsome', -, -⟩ | ⟨current', buffer, -, hsome', -, -⟩
      · rw [heq] at hgone
        have hsame := queueProcessUnsafe_currentMessage mb
          (c := { c.withOps ops with timer := c.timer.cancel, state := .Connected }) hsome now
        exact hgone (hsame.trans hcur)
      · rw [hread] at hsome'; cases hsome'
      · rw [hread] at hsome'; cases hsome'
  | expire hw => exact absurd hcur hgone
  | waitFailed ht hec => exact absurd hcur hgone
  | timeout ht => exact absurd hcur hgone

theorem abortedTimedOut_exec {timeout : Milliseconds} {es : List (Event β)}
    (hrun : exec (step mb) (new timeout) es = some c)
    (haborts : along (step mb) abortsCancelled (new timeout) es = true)
    (hwaits : along (step mb) ownWait (new timeout) es = true) : c.AbortedTimedOut := by
  have hboth := along_and haborts hwaits
  refine (invariant_along (I := fun c => Control c ∧ c.AbortedTimedOut) ?_ es _ _
    ⟨control_new timeout, AbortedTimedOut.of_dataOps_nil rfl⟩ hboth hrun).2
  rintro s e s' ⟨hctl, h⟩ hP hs
  obtain ⟨habort, hwait⟩ := Bool.and_eq_true_iff.mp hP
  exact ⟨control_step hctl hs, abortedTimedOut_step hctl h habort hwait hs⟩

/-- **A request is given up for a reason of its own only**, in every run in which
every frame received while a request is in process bears its transaction id, and no
wait of an earlier request cancels an operation of a later one. -/
theorem reason_exec {timeout : Milliseconds} {es : List (Event β)} {e : Event β}
    {current : ModbusCurrentMessage β} (hrun : exec (step mb) (new timeout) es = some c)
    (haborts : along (step mb) abortsCancelled (new timeout) (es ++ [e]) = true)
    (hframes : along (step mb) (ownFrame mb) (new timeout) (es ++ [e]) = true)
    (hwaits : along (step mb) ownWait (new timeout) (es ++ [e]) = true)
    (hs : step mb c e = some c') (hcur : c.currentMessage = some current)
    (hgone : c'.currentMessage ≠ some current) : hasReason mb c current e = true := by
  have haborted := abortedTimedOut_exec hrun (along_append hrun haborts).1
    (along_append hrun hwaits).1
  have hframe := (along_append hrun hframes).2
  rw [along_cons, Bool.and_eq_true] at hframe
  exact hasReason_of_givenUp (control_exec hrun) haborted hframe.1 hs hcur hgone

/-- The reply to a request is a reason to give it up. -/
theorem reason_reply :
    ∃ c c' current, exec (step Frame.library) (new 1000)
        (exchangeRun (Frame.readRequest 5 9 1) (Frame.readReply 1 1 7)).dropLast = some c ∧
      step Frame.library c (.handle 0 false 0) = some c' ∧ c.currentMessage = some current ∧
      c'.currentMessage ≠ some current ∧
      hasReason Frame.library c current (.handle 0 false 0) = true := by
  obtain ⟨c, c', current, hc, hs, hcur, hgone⟩ : ∃ c c' current,
      exec (step Frame.library) (new 1000)
        (exchangeRun (Frame.readRequest 5 9 1) (Frame.readReply 1 1 7)).dropLast = some c ∧
      step Frame.library c (.handle 0 false 0) = some c' ∧ c.currentMessage = some current ∧
      c'.currentMessage ≠ some current := ⟨_, _, _, rfl, rfl, rfl, by decide +kernel⟩
  exact ⟨c, c', current, hc, hs, hcur, hgone, reason_exec hc (by decide +kernel)
    (by decide +kernel) (by decide +kernel) hs hcur hgone⟩

/-- The first request times out; the second is sent, and the receive of the second
gets the reply to the first. -/
def lateReplyRun : List (Event Frame) :=
  (exchangeRun (Frame.readRequest 5 9 1) []).take 5 ++
    [.expire 0 .success, .handleWait 0, .handle 0 false 0, .receive (Frame.readRequest 6 9 1) 0,
      .complete 0 ⟨.success, []⟩, .handle 0 false 0,
      .complete 0 ⟨.success, Frame.readReply 1 1 7⟩]

/-- A late reply ends the request after its own. -/
theorem reason_lateReply :
    ∃ c c' current, exec (step Frame.library) (new 1000) lateReplyRun = some c ∧
      step Frame.library c (.handle 0 false 0) = some c' ∧ c.currentMessage = some current ∧
      c'.currentMessage ≠ some current ∧
      hasReason Frame.library c current (.handle 0 false 0) = false :=
  ⟨_, _, _, rfl, rfl, rfl, by decide +kernel, by decide +kernel⟩

end ModbusTcpClient

end ModbusGateway
