import ModbusGateway.Transport.MasterQueue

/-!
# Where expired requests are thrown away

Both masters throw the expired requests at the front of the queue away before they start
one.  The RTU master does so whenever it processes the queue and is free; the TCP client only
in `StartMessageTaskUnsafe()`, which it calls when it is connected.  While there is no
connection, requests are only put into the queue, and those that have expired stay.

## Main definitions

* `MasterView.HeadAlive` — the request at the front of a free master has not expired.
* `ModbusTcpClient.arrivesAlive`, `neverConnects` — conditions on an event.

## Main results

* `ModbusRtuMaster.headAlive_messageProcess` — **the RTU master is left so by every request.**
* `ModbusTcpClient.headAlive_iff` — **the TCP client is so in exactly the runs in which no request
  comes to an idle client whose front has expired.**
* `ModbusTcpClient.queue_unconnected` — **a client that never gets a connection keeps every
  request.**
-/

namespace ModbusGateway

open Proactor Execution

variable {β : Type}

namespace MasterView

variable {v : MasterView β} {now : Nanoseconds}

/-- A master with no request in process has no expired one at the front of its queue. -/
def HeadAlive (v : MasterView β) (now : Nanoseconds) : Prop :=
  v.currentMessage = none → ∀ head, v.messageQueue.front? = some head →
    expired v.timeout now head = false

theorem HeadAlive.of_current (h : v.currentMessage.isSome = true) : v.HeadAlive now := by
  intro hnone
  rw [hnone] at h
  cases h

theorem HeadAlive.of_queue_nil (h : v.messageQueue.queue = []) : v.HeadAlive now := by
  intro _ head hhead
  have hmem := LimitQueue.mem_of_front? hhead
  rw [h] at hmem
  cases hmem

/-- The loop over the expired requests ends at one that has not, if there is one. -/
theorem headAlive_popExpired (v : MasterView β) (now : Nanoseconds) :
    (v.popExpired now).HeadAlive now :=
  fun _ _ hhead => LimitQueue.front?_popWhile hhead

end MasterView

open MasterView

/-! ### The RTU master -/

namespace ModbusRtuMaster

variable {mb : Modbus β}

/-- **The RTU master throws expired requests away as new ones arrive**, in whatever state. -/
theorem headAlive_messageProcess (m : ModbusRtuMaster β) (message : ModbusMessage β)
    (now : Nanoseconds) : (m.messageProcess mb message now).view.HeadAlive now := by
  unfold messageProcess
  rcases queueProcessUnsafe_cases mb (m.pushMessage message) now with
    ⟨heq, hempty | hcur⟩ | ⟨heq, -, -⟩ | ⟨front, heq, -, -⟩ <;> rw [heq]
  · exact .of_queue_nil hempty
  · exact .of_current hcur
  · exact headAlive_popExpired (m.pushMessage message).view now
  · exact .of_current rfl

end ModbusRtuMaster

/-! ### The TCP client -/

namespace ModbusTcpClient

variable {mb : Modbus β} {c c' : ModbusTcpClient β}

/-- The event receives no request while the client is idle, has none in process and the one
at the front of the queue, which may be the one received, has expired. -/
def arrivesAlive (c : ModbusTcpClient β) : Event β → Bool
  | .receive message now => c.currentMessage.isSome || decide (c.state ≠ .Idle) ||
    !expired c.timeout now (c.messageQueue.front?.getD message)
  | _ => true

/-- **What a request that arrives leaves at the front of the queue.** -/
theorem headAlive_messageProcess (h : Control c) (hlimit : c.messageQueue.maxSize = 2 ^ 64 - 1)
    (message : ModbusMessage β) (now : Nanoseconds) :
    (c.messageProcess mb message now).view.HeadAlive now ↔
      c.arrivesAlive (.receive message now) = true := by
  have hpush : (c.messageQueue.push message).queue = c.messageQueue.queue ++ [message] :=
    LimitQueue.push_queue_of_default hlimit message
  have hfront : (c.messageQueue.push message).front? =
      some (c.messageQueue.front?.getD message) := by
    unfold LimitQueue.front?
    rw [hpush]
    cases c.messageQueue.queue <;> rfl
  have hcurrent : c.currentMessage.isSome = true → c.arrivesAlive (.receive message now) = true :=
    fun hcur => by simp [arrivesAlive, hcur]
  have hconnected : c.state = .Connected → c.arrivesAlive (.receive message now) = true :=
    fun hstate => by simp [arrivesAlive, hstate]
  unfold messageProcess
  rcases queueProcessUnsafe_cases mb (c.pushMessage message) now with
    ⟨heq, hwhy⟩ | ⟨heq, hidle, -⟩ | ⟨heq, hstate, -, -⟩ | ⟨front, heq, hstate, -, -⟩ <;> rw [heq]
  · -- nothing is done because a request is in process
    have hcur : c.currentMessage.isSome = true := by
      rcases hwhy with hempty | hwait | hprocess | ⟨-, hcur⟩
      · have hnil : c.messageQueue.queue ++ [message] = [] := hpush.symm.trans hempty
        exact absurd hnil (List.append_ne_nil_of_right_ne_nil _ (List.cons_ne_nil _ _))
      · exact absurd hwait h.state_ne
      · exact h.current_of_state hprocess
      · exact hcur
    exact iff_of_true (.of_current hcur) (hcurrent hcur)
  · -- a connect is started, and the queue is left as it is
    have hview : ((c.pushMessage message).startConnectTaskUnsafe.view.HeadAlive now ↔
        (c.currentMessage = none → ∀ head, (c.messageQueue.push message).front? = some head →
          expired c.timeout now head = false)) := Iff.rfl
    rw [hview, hfront]
    cases hcur : c.currentMessage with
    | some current => exact iff_of_true (fun hnone => by cases hnone) (hcurrent (by rw [hcur]; rfl))
    | none =>
      have hstate : c.state = .Idle := hidle
      simp [arrivesAlive, hcur, hstate]
  · exact iff_of_true (headAlive_popExpired (c.pushMessage message).view now) (hconnected hstate)
  · exact iff_of_true (.of_current rfl) (hconnected hstate)

/-- **Whenever a request has arrived and none is in process, the one at the front of the queue
has not expired**, in exactly the runs in which no request comes to an idle client whose front has
expired. -/
theorem headAlive_iff (mb : Modbus β) (timeout : Milliseconds) (es : List (Event β)) :
    (∀ es₁ message now es₂ c, es = es₁ ++ .receive message now :: es₂ →
      exec (step mb) (new timeout) es₁ = some c →
        (c.messageProcess mb message now).view.HeadAlive now) ↔
      along (step mb) arrivesAlive (new timeout) es = true := by
  let Q : ModbusTcpClient β → Event β → List (Event β) → Prop := fun c e _ =>
    ∀ message now, e = .receive message now → (c.messageProcess mb message now).view.HeadAlive now
  refine Iff.trans ?_ (along_iff_split (Q := Q)
    (I := fun c => Control c ∧ Kept (frame mb) timeout c.view) (fun _ _ _ => kept_event)
    (fun c e _ h => ?_) es (new timeout) (kept_new mb timeout)).symm
  · constructor
    · intro hall es₁ e es₂ c hes hrun message now he
      exact hall es₁ message now es₂ c (he ▸ hes) hrun
    · intro hall es₁ message now es₂ c hes hrun
      exact hall es₁ _ es₂ c hes hrun message now rfl
  · cases e with
    | receive message now =>
      rw [← headAlive_messageProcess h.1 h.2.limit]
      refine ⟨fun halive message' now' heq => ?_, fun hall => hall message now rfl⟩
      cases heq
      exact halive
    | _ => exact iff_of_true rfl fun message now heq => by cases heq

/-- A request comes to an idle client after the one before it has expired. -/
theorem headAlive_refused :
    ∃ c, exec (step Frame.library) (new 1000)
        [.receive (Frame.readRequest 5 9 1) 0, .complete 0 ⟨.other 111, []⟩, .handle 0 false 0] =
          some c ∧
      (c.messageProcess Frame.library (Frame.readRequest 6 9 1) 2000000000).messageQueue.queue =
        [Frame.readRequest 5 9 1, Frame.readRequest 6 9 1] ∧
      ¬ (c.messageProcess Frame.library (Frame.readRequest 6 9 1) 2000000000).view.HeadAlive
        2000000000 := by
  refine ⟨_, rfl, by decide +kernel, fun halive => ?_⟩
  have hfront := halive rfl (Frame.readRequest 5 9 1) (by decide +kernel)
  exact absurd hfront (by decide +kernel)

/-! ### A client without a connection -/

/-- The event runs no handler of a connect that has succeeded. -/
def neverConnects (c : ModbusTcpClient β) : Event β → Bool
  | .handle i _ _ =>
    match c.socket.ops.take i with
    | some (.connect, result, _) => result.ec.failed
    | _ => true
  | _ => true

/-- A client that has had no connection is idle, and has every request in its queue. -/
structure Unconnected (c : ModbusTcpClient β) : Prop where
  control : Control c
  limit : c.messageQueue.maxSize = 2 ^ 64 - 1
  state : c.state = .Idle
  free : c.currentMessage = none
  queue : c.messageQueue.queue = c.view.desk.arrived

theorem unconnected_new (timeout : Milliseconds) :
    Unconnected (new timeout : ModbusTcpClient β) where
  control := control_new timeout
  limit := rfl
  state := rfl
  free := rfl
  queue := rfl

/-- An idle client puts a request into its queue, and starts a connect. -/
theorem idle_messageProcess (mb : Modbus β) (hlimit : c.messageQueue.maxSize = 2 ^ 64 - 1)
    (hstate : c.state = .Idle) (message : ModbusMessage β) (now : Nanoseconds) :
    c.messageProcess mb message now = (c.pushMessage message).startConnectTaskUnsafe := by
  have hpush : (c.pushMessage message).messageQueue.queue = c.messageQueue.queue ++ [message] :=
    LimitQueue.push_queue_of_default hlimit message
  have hne : (c.pushMessage message).messageQueue.empty = false := by
    unfold LimitQueue.empty
    rw [hpush]
    simp
  unfold messageProcess queueProcessUnsafe
  rw [hne, show (c.pushMessage message).state = .Idle from hstate]
  rfl

/-- **Without a connect that succeeds nothing leaves the queue.** -/
theorem unconnected_step {e : Event β} (h : Unconnected c) (hP : c.neverConnects e = true)
    (hs : step mb c e = some c') : Unconnected c' := by
  have hview := view_step h.control hs
  have hkeep : c'.state = .Idle ∧ c'.currentMessage = none ∧
      c'.messageQueue.queue = c.messageQueue.queue ++ e.message.toList := by
    -- no send and no receive is there to be handled
    have hdata : ∀ {i op result ops}, c.socket.ops.take i = some (op, result, ops) →
        op.data = none := by
      intro i op result ops ht
      cases hop : op.data with
      | none => rfl
      | some n =>
        have hcur := ((take_data h.control ht).2.2 n hop).1
        rw [h.free] at hcur
        cases hcur
    have hsame : c.messageQueue.queue = c.messageQueue.queue ++ [] := (List.append_nil _).symm
    cases step_branch h.control.exchange hs with
    | receive message now =>
      have heq := idle_messageProcess mb h.limit h.state message now
      unfold messageProcess at heq
      rw [heq]
      exact ⟨h.state, h.free, LimitQueue.push_queue_of_default h.limit message⟩
    | complete hops => exact ⟨h.state, h.free, hsame⟩
    | connectFailed ht hec => exact ⟨rfl, h.free, hsame⟩
    | connected ht hec now =>
      simp [neverConnects, ht, hec] at hP
    | sendFailed ht hec => cases hdata ht
    | sent ht hec => cases hdata ht
    | receiveFailed ht hec => cases hdata ht
    | received ht hec => cases hdata ht
    | expire hw => exact ⟨h.state, h.free, hsame⟩
    | waitFailed ht hec => exact ⟨h.state, h.free, hsame⟩
    | timeout ht => exact ⟨h.state, h.free, hsame⟩
  obtain ⟨hstate, hfree, hqueue⟩ := hkeep
  exact
    { control := control_step h.control hs
      limit := (frame_step hview).2.trans h.limit
      state := hstate
      free := hfree
      queue := by rw [hqueue, h.queue, arrived_step hview] }

/-- **The queue of a client that never gets a connection holds every request that it has
received**, however long ago they have expired. -/
theorem queue_unconnected {timeout : Milliseconds} {es : List (Event β)}
    (hrun : exec (step mb) (new timeout) es = some c)
    (hnever : along (step mb) neverConnects (new timeout) es = true) :
    c.messageQueue.queue = es.filterMap Event.message := by
  have hkept := invariant_along (I := Unconnected) (fun _ _ _ => unconnected_step) es _ c
    (unconnected_new timeout) hnever hrun
  rw [hkept.queue, (kept_exec hrun).2]

end ModbusTcpClient

end ModbusGateway
