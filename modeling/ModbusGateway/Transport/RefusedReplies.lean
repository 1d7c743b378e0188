import ModbusGateway.Transport.SlaveSession

/-!
# What a refused reply leaves behind

A TCP connection and an RTU slave refuse a message that is not a reply to their pending
request, and one that has no buffer.  The first is refused before `syncRequestInfo_` is
touched, the second after it has been reset: a reply without a buffer is not sent, but the
request is no longer pending, and a reply to it that comes later is refused.

## Main definitions

* `Receiver` — an actor with a slot, and what becomes of the messages it is sent.
* `Receiver.Unmoved` — a message has changed neither the slot nor the outcome of later messages.
* `Receiver.keepsPending` — the condition on a message.

## Main results

* `Receiver.unmoved_iff` — **a message that is refused changes nothing exactly if it has a buffer
  or does not match the pending request.**
* `refusals_iff` — **the same for the runs of both actors.**
-/

namespace ModbusGateway

open Proactor Execution

variable {β σ ε : Type}

/-- The message comes under the given id, and the transaction id of the request in the slot. -/
def ModbusMessage.matchesPending {π : Type} (message : ModbusMessage π) (id : ActorId)
    (slot : Option ModbusMessageInfo) : Bool :=
  slot.any fun lastInfo => decide (message.modbusMessageInfo.sourceId = id) &&
    decide (message.modbusMessageInfo.transactionId = lastInfo.transactionId)

theorem ModbusMessage.matchesPending_some {π : Type} {message : ModbusMessage π} {id : ActorId}
    {lastInfo : ModbusMessageInfo} :
    message.matchesPending id (some lastInfo) = true ↔ message.modbusMessageInfo.sourceId = id ∧
      message.modbusMessageInfo.transactionId = lastInfo.transactionId := by
  simp [matchesPending]

theorem ModbusMessage.matchesPending_eq_false {π : Type} {message : ModbusMessage π} {id : ActorId}
    {slot : Option ModbusMessageInfo} (h : ∀ lastInfo, slot = some lastInfo →
      ¬ (message.modbusMessageInfo.sourceId = id ∧
        message.modbusMessageInfo.transactionId = lastInfo.transactionId)) :
    message.matchesPending id slot = false := by
  cases slot with
  | none => rfl
  | some lastInfo =>
    exact Bool.eq_false_iff.mpr fun hmatch => h lastInfo rfl (matchesPending_some.mp hmatch)

/-- An actor that is sent messages: its steps, its slot, the reply it makes of a message, and
what it becomes when it receives one. -/
structure Receiver (β σ ε : Type) where
  step : σ → ε → Option σ
  message : ε → Option (ModbusMessage (Option β))
  id : σ → ActorId
  pending : σ → Option ModbusMessageInfo
  makeResponse : σ → ModbusMessage (Option β) → Option β
  receive : σ → ModbusMessage (Option β) → σ
  step_message : ∀ {s e m}, message e = some m → step s e = some (receive s m)
  /-- A message is refused, which changes nothing; or it matches the pending request, which is
  then no longer pending, and is answered if the message has a buffer. -/
  cases_receive : ∀ s m,
    (makeResponse s m = none ∧ receive s m = s ∧ m.matchesPending (id s) (pending s) = false) ∨
    (m.matchesPending (id s) (pending s) = true ∧ pending (receive s m) = none ∧
      (makeResponse s m).isSome = m.modbusBuffer.isSome)

namespace Receiver

variable (r : Receiver β σ ε)

/-- The outcome of an event that hands over a message: what is made of it. -/
def outcome (s : σ) (e : ε) : Option (Option β) := (r.message e).map (r.makeResponse s)

/-- From `s'` instead of `s` the same request is pending, and every message has the same
outcome. -/
structure Unmoved (s s' : σ) (later : List ε) : Prop where
  pending : r.pending s' = r.pending s
  outcomes : record r.step r.outcome s' later = record r.step r.outcome s later

/-- The message has a buffer, or does not match the pending request. -/
def keepsPending (s : σ) (e : ε) : Bool :=
  (r.message e).all fun m => m.modbusBuffer.isSome || !m.matchesPending (r.id s) (r.pending s)

/-- Every message that is refused in a run changes nothing: it leaves the pending request as
it is, and every later message has the outcome that it has in the run without it. -/
def RefusalsUnmoved (start : σ) (es : List ε) : Prop :=
  ∀ es₁ e es₂ s m s', es = es₁ ++ e :: es₂ → exec r.step start es₁ = some s →
    r.message e = some m → r.makeResponse s m = none → r.step s e = some s' → r.Unmoved s s' es₂

variable {r}

/-- **A message that is refused changes nothing exactly if it has a buffer or does not match the
pending request**, whatever comes after it. -/
theorem unmoved_iff (s : σ) (e : ε) (later : List ε) :
    r.keepsPending s e = true ↔ ∀ m s', r.message e = some m → r.makeResponse s m = none →
      r.step s e = some s' → r.Unmoved s s' later := by
  unfold keepsPending
  cases hm : r.message e with
  | none => exact iff_of_true rfl fun m s' h => by cases h
  | some m =>
    have hstep := r.step_message (s := s) hm
    rw [Option.all_some, hstep]
    rcases r.cases_receive s m with ⟨-, hsame, hmatch⟩ | ⟨hmatch, hreset, hbuffer⟩
    · -- nothing has been touched
      refine iff_of_true (by rw [hmatch]; simp) fun m' s' _ _ hs => ?_
      rw [hsame, Option.some.injEq] at hs
      rw [← hs]
      exact ⟨rfl, rfl⟩
    · rw [hmatch, Bool.not_true, Bool.or_false, ← hbuffer]
      constructor
      · intro hsome m' s' h hnone _
        obtain rfl := Option.some.inj h
        rw [hnone] at hsome
        cases hsome
      · intro hall
        refine Option.isSome_iff_ne_none.mpr fun hnone => ?_
        -- the request was pending, and has been forgotten
        have hpending := (hall m _ rfl hnone rfl).pending
        rw [hreset] at hpending
        rw [← hpending] at hmatch
        cases hmatch

/-- **Refused messages change nothing in exactly the runs in which no message without a buffer
matches the pending request.** -/
theorem refusalsUnmoved_iff (start : σ) (es : List ε) :
    r.RefusalsUnmoved start es ↔ along r.step r.keepsPending start es = true := by
  let Q : σ → ε → List ε → Prop := fun s e later => ∀ m s', r.message e = some m →
    r.makeResponse s m = none → r.step s e = some s' → r.Unmoved s s' later
  have hsplit := along_iff_split (Q := Q) (I := fun _ => True) (P := r.keepsPending)
    (fun s e s' _ (_ : r.step s e = some s') => trivial)
    (fun s e later _ => unmoved_iff s e later) es start trivial
  rw [hsplit]
  constructor
  · intro hall es₁ e es₂ s hes hrun m s' hm hnone hs
    exact hall es₁ e es₂ s m s' hes hrun hm hnone hs
  · intro hall es₁ e es₂ s m s' hes hrun hm hnone hs
    exact hall es₁ e es₂ s hes hrun m s' hm hnone hs

end Receiver

/-! ### Both actors -/

/-- A TCP connection. -/
def ModbusTcpConnection.receiver (mb : Modbus β) (router : Router) :
    Receiver β (ModbusTcpConnection β) (ModbusTcpConnection.SessionEvent β) where
  step := ModbusTcpConnection.fire mb router
  message := ModbusTcpConnection.SessionEvent.message
  id := ModbusTcpConnection.id
  pending := ModbusTcpConnection.syncRequestInfo
  makeResponse c message := (c.makeResponse mb message).1
  receive c message := c.startSendTask mb message
  step_message := by
    intro c e m hm
    cases e with
    | receive message =>
      cases hm
      rfl
    | io e => cases hm
    | stop => cases hm
  cases_receive c m := by
    rcases c.makeResponse_cases mb m with ⟨heq, hrefused⟩ |
      ⟨lastInfo, hid, hinfo, htid, ⟨hbuffer, heq⟩ | ⟨modbusBuffer, hbuffer, heq⟩⟩ <;>
      rw [startSendTask, heq]
    · exact Or.inl ⟨rfl, rfl, ModbusMessage.matchesPending_eq_false hrefused⟩
    · rw [hinfo, hbuffer]
      exact Or.inr ⟨ModbusMessage.matchesPending_some.mpr ⟨hid, htid⟩, rfl, rfl⟩
    · rw [hinfo, hbuffer]
      exact Or.inr ⟨ModbusMessage.matchesPending_some.mpr ⟨hid, htid⟩, rfl, rfl⟩

/-- An RTU slave. -/
def ModbusRtuSlave.receiver (mb : Modbus β) (router : Router) :
    Receiver β (ModbusRtuSlave β) (ModbusRtuSlave.SessionEvent β) where
  step := ModbusRtuSlave.fire mb router
  message := ModbusRtuSlave.SessionEvent.message
  id := ModbusRtuSlave.id
  pending := ModbusRtuSlave.syncRequestInfo
  makeResponse s message := (s.makeResponse mb message).1
  receive s message := s.startWriteTask mb message
  step_message := by
    intro s e m hm
    cases e with
    | receive message =>
      cases hm
      rfl
    | io e => cases hm
    | stop => cases hm
  cases_receive s m := by
    rcases s.makeResponse_cases mb m with ⟨heq, hrefused⟩ |
      ⟨lastInfo, hid, hinfo, htid, ⟨hbuffer, heq⟩ | ⟨modbusBuffer, hbuffer, heq⟩⟩ <;>
      rw [startWriteTask, heq]
    · exact Or.inl ⟨rfl, rfl, ModbusMessage.matchesPending_eq_false hrefused⟩
    · rw [hinfo, hbuffer]
      exact Or.inr ⟨ModbusMessage.matchesPending_some.mpr ⟨hid, htid⟩, rfl, rfl⟩
    · rw [hinfo, hbuffer]
      exact Or.inr ⟨ModbusMessage.matchesPending_some.mpr ⟨hid, htid⟩, rfl, rfl⟩

/-- **A refused reply changes nothing** for a connection or a slave in exactly the runs in which
no message without a buffer matches the pending request. -/
theorem refusals_iff {β : Type} (mb : Modbus β) (router : Router) (id : ActorId) :
    (∀ serverId es, (ModbusTcpConnection.receiver mb router).RefusalsUnmoved
        (ModbusTcpConnection.new serverId id).startReceiveTask es ↔
      along (ModbusTcpConnection.fire mb router)
        (ModbusTcpConnection.receiver mb router).keepsPending
        (ModbusTcpConnection.new serverId id).startReceiveTask es = true) ∧
    (∀ frameType es, (ModbusRtuSlave.receiver mb router).RefusalsUnmoved
        (ModbusRtuSlave.new id frameType).start es ↔
      along (ModbusRtuSlave.fire mb router) (ModbusRtuSlave.receiver mb router).keepsPending
        (ModbusRtuSlave.new id frameType).start es = true) :=
  ⟨fun _ es => Receiver.refusalsUnmoved_iff _ es, fun _ es => Receiver.refusalsUnmoved_iff _ es⟩

/-- A reply without a buffer, and then a reply, to a request of a connection and of a slave. -/
theorem refusals_null :
    (∃ c reply, exec (ModbusTcpConnection.fire Frame.library (.new 2))
        (ModbusTcpConnection.new 1 5).startReceiveTask
        [.io (.complete 0 ⟨.success, (Frame.tcp 9 1 [3, 0, 0, 0, 1]).bytes⟩),
          .io (.handle 0 0 0)] = some c ∧
      c.makeResponse Frame.library ⟨.new 0 5 9, none⟩ = (none, { c with syncRequestInfo := none }) ∧
      (c.makeResponse Frame.library reply).1.isSome = true ∧
      ((c.startSendTask Frame.library ⟨.new 0 5 9, none⟩).makeResponse Frame.library reply).1 =
        none ∧
      ¬ (ModbusTcpConnection.receiver Frame.library (.new 2)).Unmoved c
        (c.startSendTask Frame.library ⟨.new 0 5 9, none⟩) [.receive reply]) ∧
    (∃ s reply, exec (ModbusRtuSlave.fire Frame.library (.new 2))
        (ModbusRtuSlave.new 5 .RTU).start
        [.io (.complete 0 ⟨.success, (Frame.rtu 1 [3, 0, 0, 0, 1]).bytes⟩),
          .io (.handle 0 0 0)] = some s ∧
      s.makeResponse Frame.library ⟨.new 0 5 1, none⟩ = (none, { s with syncRequestInfo := none }) ∧
      (s.makeResponse Frame.library reply).1.isSome = true ∧
      ((s.startWriteTask Frame.library ⟨.new 0 5 1, none⟩).makeResponse Frame.library reply).1 =
        none ∧
      ¬ (ModbusRtuSlave.receiver Frame.library (.new 2)).Unmoved s
        (s.startWriteTask Frame.library ⟨.new 0 5 1, none⟩) [.receive reply]) := by
  constructor
  · refine ⟨_, ⟨.new 0 5 9, some (Frame.rtu 1 [3, 2, 0, 7])⟩, rfl, by decide +kernel,
      by decide +kernel, by decide +kernel, fun h => ?_⟩
    exact absurd h.pending (by decide +kernel)
  · refine ⟨_, ⟨.new 0 5 1, some (Frame.tcp 9 1 [3, 2, 0, 7])⟩, rfl, by decide +kernel,
      by decide +kernel, by decide +kernel, fun h => ?_⟩
    exact absurd h.pending (by decide +kernel)

end ModbusGateway
