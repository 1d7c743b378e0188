import ModbusGateway.Transport.TcpClientInvariant

/-!
# What the TCP client passes on

A TCP client writes requests it has received, framed under its own ids, and answers
requests it has received with frames that have passed `Check`.  Nothing else ever
leaves it.

## Main definitions

* `Received c message` — the message is in the history as received.
* `Relays mb c` — where everything the client holds and everything it has passed on
  comes from.

## Main results

* `relays_step` — every step keeps `Relays`.
* `Extends.received_or` — only a call of `Receive` adds to what has been received.
-/

namespace ModbusGateway

open Proactor Execution

namespace ModbusTcpClient

variable {β : Type} {mb : Modbus β} {c c' : ModbusTcpClient β}

/-- The client has received the message. -/
def Received (c : ModbusTcpClient β) (message : ModbusMessage β) : Prop :=
  .receive message ∈ c.effects

/-- Everything the client holds or has passed on comes from what it has received. -/
structure Relays (mb : Modbus β) (c : ModbusTcpClient β) : Prop where
  queue : ∀ message ∈ c.messageQueue.queue, c.Received message
  current : ∀ current, c.currentMessage = some current → ∃ message, c.Received message ∧
    message.modbusMessageInfo = current.modbusMessage.modbusMessageInfo
  write : ∀ message id buffer, .write message id buffer ∈ c.effects →
    c.Received message ∧ buffer = mb.toTcp message.modbusBuffer id
  send : ∀ actorId message, .send actorId message ∈ c.effects →
    actorId = message.modbusMessageInfo.sourceId ∧
      mb.tcpCheck message.modbusBuffer = .NoError ∧
      ∃ request, c.Received request ∧ request.modbusMessageInfo = message.modbusMessageInfo

/-- A step from `c` to `c'` adds to the history, and receives `message` at most. -/
def Extends (c c' : ModbusTcpClient β) (message : Option (ModbusMessage β)) : Prop :=
  ∃ new, c'.effects = c.effects ++ new ∧ ∀ m, .receive m ∈ new → message = some m

theorem relays_new (timeout : Milliseconds) : Relays mb (new timeout) where
  queue := by intro message h; cases h
  current := by intro current h; cases h
  write := by intro message id buffer h; cases h
  send := by intro actorId message h; cases h

/-! ### Histories grow -/

theorem Extends.refl (c : ModbusTcpClient β) : Extends c c none :=
  ⟨[], (List.append_nil _).symm, fun m hm => by cases hm⟩

theorem Extends.trans {message : Option (ModbusMessage β)} {c'' : ModbusTcpClient β}
    (h₁ : Extends c c' message) (h₂ : Extends c' c'' none) : Extends c c'' message := by
  obtain ⟨new₁, heq₁, hnew₁⟩ := h₁
  obtain ⟨new₂, heq₂, hnew₂⟩ := h₂
  refine ⟨new₁ ++ new₂, by rw [heq₂, heq₁, List.append_assoc], fun m hm => ?_⟩
  rcases List.mem_append.mp hm with hm | hm
  · exact hnew₁ m hm
  · cases hnew₂ m hm

/-- What has been received stays received. -/
theorem Extends.received {m : Option (ModbusMessage β)} (h : Extends c c' m)
    {message : ModbusMessage β} (hmem : c.Received message) : c'.Received message := by
  obtain ⟨new, heq, -⟩ := h
  rw [Received, heq]
  exact List.mem_append_left _ hmem

/-- A history that grows by neither writes nor answers, with no new request held. -/
theorem Relays.mono (h : Relays mb c) {new : List (MasterEffect β)}
    (heff : c'.effects = c.effects ++ new) (hsilent : ∀ e ∈ new, e.silent = true)
    (hqueue : ∀ message ∈ c'.messageQueue.queue,
      message ∈ c.messageQueue.queue ∨ c'.Received message)
    (hcur : c'.currentMessage = c.currentMessage ∨ c'.currentMessage = none) : Relays mb c' := by
  have hrec : ∀ {message}, c.Received message → c'.Received message := fun hm => by
    rw [Received, heff]
    exact List.mem_append_left _ hm
  have hold : ∀ {e : MasterEffect β}, e ∈ c'.effects → e.silent = false → e ∈ c.effects := by
    intro e he hloud
    rw [heff] at he
    rcases List.mem_append.mp he with he | he
    · exact he
    · rw [hsilent e he] at hloud; cases hloud
  refine ⟨?_, ?_, ?_, ?_⟩
  · intro message hm
    exact (hqueue message hm).elim (fun hm => hrec (h.queue message hm)) id
  · intro current hc
    rcases hcur with hsame | hnone
    · obtain ⟨message, hm, hinfo⟩ := h.current current (hsame ▸ hc)
      exact ⟨message, hrec hm, hinfo⟩
    · rw [hnone] at hc; cases hc
  · intro message id buffer hw
    obtain ⟨hm, hbuffer⟩ := h.write message id buffer (hold hw rfl)
    exact ⟨hrec hm, hbuffer⟩
  · intro actorId message hw
    obtain ⟨hid, hcheck, request, hm, hinfo⟩ := h.send actorId message (hold hw rfl)
    exact ⟨hid, hcheck, request, hrec hm, hinfo⟩

/-- The same without any addition to the history. -/
theorem Relays.congr (h : Relays mb c) (heff : c'.effects = c.effects)
    (hqueue : c'.messageQueue = c.messageQueue)
    (hcur : c'.currentMessage = c.currentMessage ∨ c'.currentMessage = none) : Relays mb c' := by
  have hnil : c'.effects = c.effects ++ [] := by rw [heff, List.append_nil]
  exact h.mono hnil (fun e he => by cases he) (fun message hm => Or.inl (hqueue ▸ hm)) hcur

/-! ### The functions -/

/-- A request at the front of the queue is written. -/
theorem relays_startMessage (h : Relays mb c) {message : ModbusMessage β}
    (hfront : c.messageQueue.front? = some message) :
    Relays mb (c.startMessage mb message) ∧ Extends c (c.startMessage mb message) none := by
  have hext : Extends c (c.startMessage mb message) none :=
    ⟨_, rfl, fun m hm => by simp at hm⟩
  have hmsg : c.Received message := h.queue message (LimitQueue.mem_of_front? hfront)
  have hcases : ∀ {e : MasterEffect β}, e ∈ (c.startMessage mb message).effects →
      e ∈ c.effects ∨ e = .write message (c.transactionIdGenerator + 1)
        (mb.toTcp message.modbusBuffer (c.transactionIdGenerator + 1)) := by
    intro e he
    exact (List.mem_append.mp he).imp id List.mem_singleton.mp
  refine ⟨⟨?_, ?_, ?_, ?_⟩, hext⟩
  · intro m hm
    exact hext.received (h.queue m (List.mem_of_mem_tail hm))
  · intro current hc
    obtain rfl := Option.some.inj hc
    exact ⟨message, hext.received hmsg, rfl⟩
  · intro m id buffer hw
    rcases hcases hw with hw | heq
    · obtain ⟨hm, hbuffer⟩ := h.write m id buffer hw
      exact ⟨hext.received hm, hbuffer⟩
    · cases heq
      exact ⟨hext.received hmsg, rfl⟩
  · intro actorId m hw
    rcases hcases hw with hw | heq
    · obtain ⟨hid, hcheck, request, hm, hinfo⟩ := h.send actorId m hw
      exact ⟨hid, hcheck, request, hext.received hm, hinfo⟩
    · cases heq

theorem relays_queueProcessUnsafe (h : Relays mb c) (now : Nanoseconds) :
    Relays mb (c.queueProcessUnsafe mb now) ∧ Extends c (c.queueProcessUnsafe mb now) none := by
  have hsilent : ∀ e ∈ (c.messageQueue.queue.takeWhile (expired c.timeout now)).map
      MasterEffect.expire, e.silent = true := by
    intro e he
    obtain ⟨m, -, rfl⟩ := List.mem_map.mp he
    rfl
  have hpop : Relays mb (c.popExpired now) :=
    h.mono rfl hsilent (fun m hm => Or.inl (LimitQueue.mem_of_mem_popWhile hm)) (Or.inl rfl)
  have hpopExt : Extends c (c.popExpired now) none := by
    refine ⟨_, rfl, fun m hm => ?_⟩
    obtain ⟨m', -, heq⟩ := List.mem_map.mp hm
    cases heq
  rcases queueProcessUnsafe_cases mb c now with
    ⟨heq, -⟩ | ⟨heq, -, -⟩ | ⟨heq, -, -, -⟩ | ⟨message, heq, -, -, hfront⟩ <;> rw [heq]
  · exact ⟨h, .refl c⟩
  · refine ⟨h.mono rfl (silent_singleton rfl) (fun m hm => Or.inl hm)
      (Or.inl rfl), ⟨_, rfl, fun m hm => by simp at hm⟩⟩
  · exact ⟨hpop, hpopExt⟩
  · obtain ⟨hstart, hext⟩ := relays_startMessage hpop hfront
    exact ⟨hstart, hpopExt.trans hext⟩

theorem relays_dropCurrent (h : Relays mb c) (ec : ErrorCode) :
    Relays mb (c.dropCurrent ec) ∧ Extends c (c.dropCurrent ec) none := by
  obtain ⟨state, socket, heq, -⟩ := dropCurrent_eq c ec
  rw [heq]
  exact ⟨h.congr rfl rfl (Or.inr rfl), .refl c⟩

/-- An answer is a frame that has passed `Check`, for the current request. -/
theorem relays_received (h : Relays mb c) (data : List UInt8) :
    Relays mb (c.received mb data) ∧ Extends c (c.received mb data) none := by
  rcases received_cases mb c data with
    ⟨heq, -⟩ | ⟨current, buffer, -, -, heq, -⟩ | ⟨current, buffer, hcur, -, heq, hcheck, -⟩ <;>
    rw [heq]
  · exact ⟨h.congr rfl rfl (Or.inl rfl), .refl c⟩
  · exact ⟨h.congr rfl rfl (Or.inr rfl), .refl c⟩
  obtain ⟨request, hreq, hinfo⟩ := h.current current hcur
  have hdrop : Relays mb
      { c with timer := c.timer.cancel, state := .Connected, currentMessage := none } :=
    h.congr rfl rfl (Or.inr rfl)
  refine ⟨⟨?_, ?_, ?_, ?_⟩, ⟨_, rfl, fun m hm => by simp at hm⟩⟩
  · exact fun m hm => List.mem_append_left _ (hdrop.queue m hm)
  · intro current' hc
    cases hc
  · intro m id buffer' hw
    rcases List.mem_append.mp hw with hw | hw
    · obtain ⟨hm, hbuffer⟩ := hdrop.write m id buffer' hw
      exact ⟨List.mem_append_left _ hm, hbuffer⟩
    · cases List.mem_singleton.mp hw
  · intro actorId m hw
    rcases List.mem_append.mp hw with hw | hw
    · obtain ⟨hid, hcheck', request', hm, hinfo'⟩ := hdrop.send actorId m hw
      exact ⟨hid, hcheck', request', List.mem_append_left _ hm, hinfo'⟩
    · cases List.mem_singleton.mp hw
      exact ⟨rfl, hcheck, request, List.mem_append_left _ hreq, hinfo⟩

/-- **Every step passes on what has been received only**, and receives the message of its
event only. -/
theorem relays_step {e : Event β} (hctl : Control c) (h : Relays mb c)
    (hs : step mb c e = some c') : Relays mb c' ∧ Extends c c' e.message := by
  cases step_branch hctl.exchange hs with
  | receive message now =>
    have hnew : (c.pushMessage message).Received message :=
      List.mem_append_right _ List.mem_cons_self
    have hpush : Relays mb (c.pushMessage message) := by
      refine h.mono rfl (silent_singleton rfl) (fun m hm => ?_)
        (Or.inl rfl)
      rcases LimitQueue.mem_push hm with hm | rfl
      · exact Or.inl hm
      · exact Or.inr hnew
    have hext : Extends c (c.pushMessage message) (some message) := by
      refine ⟨_, rfl, fun m hm => ?_⟩
      cases List.mem_singleton.mp hm
      rfl
    obtain ⟨hqueue, hext'⟩ := relays_queueProcessUnsafe hpush now
    exact ⟨hqueue, hext.trans hext'⟩
  | complete hops => exact ⟨h.congr rfl rfl (Or.inl rfl), .refl c⟩
  | connectFailed ht hec => exact ⟨h.congr rfl rfl (Or.inl rfl), .refl c⟩
  | @connected i result ops ht hec now =>
    have hcon : Relays mb { c.withOps ops with state := .Connected } := h.congr rfl rfl (Or.inl rfl)
    exact relays_queueProcessUnsafe hcon now
  | @sendFailed i n buffer result ops ht hec =>
    have hops : Relays mb (c.withOps ops) := h.congr rfl rfl (Or.inl rfl)
    exact relays_dropCurrent hops _
  | sent ht hec => exact ⟨h.congr rfl rfl (Or.inl rfl), .refl c⟩
  | @receiveFailed i n result ops ht hec =>
    have htimer : Relays mb { c.withOps ops with timer := c.timer.cancel } :=
      h.congr rfl rfl (Or.inl rfl)
    exact relays_dropCurrent htimer _
  | @received i n result ops ht hec peerGone now =>
    have hops : Relays mb (c.withOps ops) := h.congr rfl rfl (Or.inl rfl)
    obtain ⟨hrec, hext⟩ := relays_received hops result.data
    obtain ⟨hqueue, hext'⟩ := relays_queueProcessUnsafe hrec now
    exact ⟨hqueue, hext.trans hext'⟩
  | expire hw => exact ⟨h.congr rfl rfl (Or.inl rfl), .refl c⟩
  | waitFailed ht hec => exact ⟨h.congr rfl rfl (Or.inl rfl), .refl c⟩
  | timeout ht =>
    exact ⟨h.mono rfl (silent_singleton rfl) (fun m hm => Or.inl hm)
      (Or.inl rfl), ⟨_, rfl, fun m hm => by simp at hm⟩⟩

/-- Only a call of `Receive` adds to what has been received. -/
theorem Extends.received_or {m : Option (ModbusMessage β)} (h : Extends c c' m)
    {message : ModbusMessage β} (hmem : c'.Received message) :
    c.Received message ∨ m = some message := by
  obtain ⟨new, heq, hnew⟩ := h
  rw [Received, heq] at hmem
  exact (List.mem_append.mp hmem).imp id (hnew message)

end ModbusTcpClient

end ModbusGateway
