import Mathlib.Data.Int.Basic
import ModbusGateway.Transport.TcpClientProgress

/-!
# The replies of the TCP client

A TCP client gives every request it writes the next wire transaction id, a 16-bit
number, and answers the request in process with a frame that bears its id only.
The history makes it precise: the acts of the client follow the discipline of a
single slot (`Transaction.Paired`) in which the slot holds the current request.

## Main definitions

* `Answers mb r a` — `a` is an answer to the request `r`.
* `History mb c` — the current request is open in the history, and the ids count
  the requests.
* `Correlated mb c` — what the history says about the responses.

## Main results

* `history_step` — every step keeps `History`.
* `correlated_exec` — **every response of every run answers the request that was
  current, and is its only one.**
-/

namespace ModbusGateway

open Proactor Execution Transaction

namespace ModbusTcpClient

variable {β : Type} {mb : Modbus β} {c c' : ModbusTcpClient β}

/-- An answer to a request: sent to its source, under its message info, in a frame
with its wire id. -/
def Answers (mb : Modbus β) (r : Request β) (a : Response β) : Prop :=
  a.1 = r.1.modbusMessageInfo.sourceId ∧ a.2.modbusMessageInfo = r.1.modbusMessageInfo ∧
    mb.getTransactionId a.2.modbusBuffer = r.2

/-- The open request of a history is the current one. -/
def Open (c : ModbusTcpClient β) (o : Option (Request β)) : Prop :=
  ∀ current, c.currentMessage = some current → ∃ message, o = some (message, current.id) ∧
    message.modbusMessageInfo = current.modbusMessage.modbusMessageInfo

/-- The history of a client: its ids count the requests, and its answers are given
to the request in process. -/
structure History (mb : Modbus β) (c : ModbusTcpClient β) : Prop where
  generator : c.transactionIdGenerator = UInt16.ofNat c.request
  ids : ∀ k r, (requests c.effects)[k]? = some r → r.2 = UInt16.ofNat (k + 1)
  paired : ∃ o, Paired (Answers mb) (acts c.effects) o ∧ c.Open o

theorem history_new (timeout : Milliseconds) : History mb (new timeout) where
  generator := rfl
  ids := by intro k r h; simp [requests, acts, new] at h
  paired := ⟨none, .nil, by intro current h; cases h⟩

/-! ### What the functions do to the history -/

/-- Whatever leaves the acts and the generator alone, and keeps or drops the current
request, keeps the history. -/
theorem History.congr (h : History mb c) (hg : c'.transactionIdGenerator = c.transactionIdGenerator)
    (ha : acts c'.effects = acts c.effects)
    (hm : c'.currentMessage = c.currentMessage ∨ c'.currentMessage = none) : History mb c' where
  generator := by
    rw [hg, h.generator, request, request, started, started, requests, requests, ha]
  ids := by
    rw [requests, ha]
    exact h.ids
  paired := by
    obtain ⟨o, hpaired, hopen⟩ := h.paired
    rw [ha]
    refine ⟨o, hpaired, fun current hcur => ?_⟩
    rcases hm with hm | hm <;> rw [hm] at hcur
    · exact hopen current hcur
    · cases hcur

theorem wireId_succ (n : ℕ) : UInt16.ofNat (n + 1) = UInt16.ofNat n + 1 := by
  rw [UInt16.ofNat_add]
  rfl

theorem acts_startMessage (message : ModbusMessage β) :
    acts (c.startMessage mb message).effects =
      acts c.effects ++ [.start (message, c.transactionIdGenerator + 1)] := acts_append _ _

theorem requests_startMessage (message : ModbusMessage β) :
    requests (c.startMessage mb message).effects =
      requests c.effects ++ [(message, c.transactionIdGenerator + 1)] := by
  rw [requests, acts_startMessage, starts_concat_start, ← requests]

/-- A request that is written opens a transaction, under the next id. -/
theorem history_startMessage (h : History mb c) (message : ModbusMessage β) :
    History mb (c.startMessage mb message) where
  generator := by
    have hlen : (c.startMessage mb message).request = c.request + 1 := by
      rw [request, started, requests_startMessage, List.length_append]
      rfl
    rw [hlen, wireId_succ, ← h.generator]
    rfl
  ids := by
    intro k r hr
    rw [requests_startMessage] at hr
    rcases Nat.lt_or_ge k (requests c.effects).length with hk | hk
    · rw [List.getElem?_append_left hk] at hr
      exact h.ids k r hr
    · rw [List.getElem?_append_right hk] at hr
      -- the only request after the old ones is the new one
      have hzero : k - (requests c.effects).length = 0 := by
        by_contra hpos
        rw [List.getElem?_eq_none (by simp; omega)] at hr
        cases hr
      have hlen : k = c.request := by
        have : k = (requests c.effects).length := by omega
        exact this
      rw [hzero, List.getElem?_cons_zero, Option.some.injEq] at hr
      rw [← hr, hlen, wireId_succ, ← h.generator]
  paired := by
    obtain ⟨o, hpaired, -⟩ := h.paired
    rw [acts_startMessage]
    refine ⟨_, hpaired.start (message, c.transactionIdGenerator + 1), fun current hcur => ?_⟩
    have hcur' := Option.some.inj hcur
    exact ⟨message, by rw [← hcur'], by rw [← hcur']⟩

theorem history_queueProcessUnsafe (h : History mb c) (now : Nanoseconds) :
    History mb (c.queueProcessUnsafe mb now) := by
  have hpop : History mb (c.popExpired now) := by
    refine h.congr rfl (acts_append_silent fun e he => ?_) (Or.inl rfl)
    obtain ⟨m, -, rfl⟩ := List.mem_map.mp he
    rfl
  rcases queueProcessUnsafe_cases mb c now with
    ⟨heq, -⟩ | ⟨heq, -, -⟩ | ⟨heq, -, -, -⟩ | ⟨message, heq, -, -, -⟩ <;> rw [heq]
  · exact h
  · exact h.congr rfl
      (acts_append_silent (silent_singleton rfl)) (Or.inl rfl)
  · exact hpop
  · exact history_startMessage hpop message

theorem history_dropCurrent (h : History mb c) (ec : ErrorCode) :
    History mb (c.dropCurrent ec) := by
  obtain ⟨state, socket, heq, -⟩ := dropCurrent_eq c ec
  rw [heq]
  exact h.congr rfl rfl (Or.inr rfl)

/-- A response is an answer to the open request, which it closes. -/
theorem history_respond {current : ModbusCurrentMessage β} {buffer : β} (h : History mb c)
    (hcur : c.currentMessage = some current) (hid : mb.getTransactionId buffer = current.id)
    (hg : c'.transactionIdGenerator = c.transactionIdGenerator) (hm : c'.currentMessage = none)
    (ha : acts c'.effects = acts c.effects ++
      [.answer (current.modbusMessage.modbusMessageInfo.sourceId,
        ⟨current.modbusMessage.modbusMessageInfo, buffer⟩)]) :
    History mb c' where
  generator := by
    rw [hg, h.generator, request, request, started, started, requests, requests, ha,
      starts_concat_answer]
  ids := by
    rw [requests, ha, starts_concat_answer]
    exact h.ids
  paired := by
    obtain ⟨o, hpaired, hopen⟩ := h.paired
    obtain ⟨message, rfl, hinfo⟩ := hopen current hcur
    rw [ha]
    refine ⟨none, hpaired.answer _ ⟨?_, hinfo.symm, hid⟩, ?_⟩
    · rw [hinfo]
    · intro current' hcur'
      rw [hm] at hcur'
      cases hcur'

theorem history_received (h : History mb c) (data : List UInt8) :
    History mb (c.received mb data) := by
  rcases received_cases mb c data with
    ⟨heq, -⟩ | ⟨current, buffer, -, -, heq, -⟩ | ⟨current, buffer, hcur, -, heq, -, hid⟩ <;>
    rw [heq]
  · exact h.congr rfl rfl (Or.inl rfl)
  · exact h.congr rfl rfl (Or.inr rfl)
  · exact history_respond h hcur hid rfl rfl (acts_append _ _)

/-- **Every step keeps the history in order.** -/
theorem history_step {e : Event β} (hctl : Control c) (h : History mb c)
    (hs : step mb c e = some c') : History mb c' := by
  cases step_branch hctl.exchange hs with
  | receive message now =>
    have hpush : History mb (c.pushMessage message) := h.congr rfl
      (acts_append_silent (silent_singleton rfl)) (Or.inl rfl)
    exact history_queueProcessUnsafe hpush now
  | complete hops => exact h.congr rfl rfl (Or.inl rfl)
  | connectFailed ht hec => exact h.congr rfl rfl (Or.inl rfl)
  | @connected i result ops ht hec now =>
    have hcon : History mb { c.withOps ops with state := .Connected } :=
      h.congr rfl rfl (Or.inl rfl)
    exact history_queueProcessUnsafe hcon now
  | @sendFailed i n buffer result ops ht hec =>
    have hops : History mb (c.withOps ops) := h.congr rfl rfl (Or.inl rfl)
    exact history_dropCurrent hops _
  | sent ht hec => exact h.congr rfl rfl (Or.inl rfl)
  | @receiveFailed i n result ops ht hec =>
    have htimer : History mb { c.withOps ops with timer := c.timer.cancel } :=
      h.congr rfl rfl (Or.inl rfl)
    exact history_dropCurrent htimer _
  | @received i n result ops ht hec peerGone now =>
    have hops : History mb (c.withOps ops) := h.congr rfl rfl (Or.inl rfl)
    exact history_queueProcessUnsafe (history_received hops _) now
  | expire hw => exact h.congr rfl rfl (Or.inl rfl)
  | waitFailed ht hec => exact h.congr rfl rfl (Or.inl rfl)
  | timeout ht =>
    exact h.congr rfl (acts_append_silent (silent_singleton rfl))
      (Or.inl rfl)

theorem history_exec {timeout : Milliseconds} {es : List (Event β)}
    (h : exec (step mb) (new timeout) es = some c) : History mb c :=
  (invariant (I := fun c => Control c ∧ History mb c)
    (fun _ _ _ hI hs => ⟨control_step hI.1 hs, history_step hI.1 hI.2 hs⟩) es _ _
    ⟨control_new timeout, history_new timeout⟩ h).2

/-! ### The responses -/

/-- Equal 16-bit ids belong to numbers that are congruent. -/
theorem dvd_sub_of_ofNat_eq {a b : ℕ} (h : UInt16.ofNat a = UInt16.ofNat b) :
    (65536 : ℤ) ∣ (a : ℤ) - b := by
  have hmod : a % 65536 = b % 65536 := by
    have := congrArg UInt16.toNat h
    simpa [UInt16.toNat_ofNat'] using this
  omega

/-- What the history of a client says about the requests written and the responses
sent, all numbered by the requests. -/
structure Correlated (mb : Modbus β) (c : ModbusTcpClient β) : Prop where
  /-- The current request is the last one written. -/
  current : ∀ current, c.currentMessage = some current →
    ∃ message, (requests c.effects).getLast? = some (message, current.id) ∧
      message.modbusMessageInfo = current.modbusMessage.modbusMessageInfo
  /-- A response answers the request current when it is sent. -/
  answer : ∀ p ∈ responses c.effects, ∃ m r, p.1 = m + 1 ∧
    (requests c.effects)[m]? = some r ∧ Answers mb r p.2
  /-- No request has two responses. -/
  once : ((responses c.effects).map Prod.fst).Pairwise (· < ·)
  /-- A frame that bears the id of another request is a multiple of 65536 requests off. -/
  wrap : ∀ p ∈ responses c.effects, ∀ k q, (requests c.effects)[k]? = some q →
    mb.getTransactionId p.2.2.modbusBuffer = q.2 → p.1 ≠ k + 1 →
    ∃ d : ℤ, d ≠ 0 ∧ (p.1 : ℤ) - ((k : ℤ) + 1) = 65536 * d

theorem History.correlated (h : History mb c) : Correlated mb c := by
  obtain ⟨o, hpaired, hopen⟩ := h.paired
  refine ⟨?_, hpaired.answer_spec, hpaired.answers_pairwise, ?_⟩
  · intro current hcur
    obtain ⟨message, rfl, hinfo⟩ := hopen current hcur
    exact ⟨message, hpaired.open_eq_getLast? _ rfl, hinfo⟩
  · intro p hp k q hq hid hne
    obtain ⟨m, r, hm, hr, -, -, htid⟩ := hpaired.answer_spec p hp
    -- both ids are the numbers of their requests, modulo 65536
    have hids : UInt16.ofNat (m + 1) = UInt16.ofNat (k + 1) := by
      rw [← h.ids m r hr, ← h.ids k q hq, ← htid, hid]
    obtain ⟨d, hd⟩ := dvd_sub_of_ofNat_eq hids
    refine ⟨d, ?_, by omega⟩
    rintro rfl
    omega

/-- **Every response of every run answers the request that was current when it was
sent, and is the only response to it.** -/
theorem correlated_exec {timeout : Milliseconds} {es : List (Event β)}
    (hrun : exec (step mb) (new timeout) es = some c) : Correlated mb c :=
  (history_exec hrun).correlated

theorem correlated_reply :
    ∃ c, exec (step Frame.library) (new 1000)
        (exchangeRun (Frame.readRequest 5 9 1) (Frame.readReply 1 1 7)) = some c ∧
      (responses c.effects).length = 1 ∧ Correlated Frame.library c := by
  obtain ⟨c, hc, hlen⟩ : ∃ c, exec (step Frame.library) (new 1000)
      (exchangeRun (Frame.readRequest 5 9 1) (Frame.readReply 1 1 7)) = some c ∧
        (responses c.effects).length = 1 := ⟨_, rfl, by decide +kernel⟩
  exact ⟨c, hc, hlen, correlated_exec hc⟩

end ModbusTcpClient

end ModbusGateway
