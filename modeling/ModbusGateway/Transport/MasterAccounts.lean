import ModbusGateway.Transport.MasterHistory
import ModbusGateway.Transport.MasterQueue

/-!
# What becomes of the requests of a master

Every request that a master writes has an outcome, in the order in which they are written:
it is answered, or it is given up, or it is still in process; and it is given up at nothing
but an event that the master can be blamed for by no one, an operation that fails or a
frame that is no answer.  Together with the queue discipline that accounts for every request
received.

So a master whose device is never at fault loses nothing: when it has come to rest, every
request that it has received has been answered, exactly once, or has expired in the queue.

## Main definitions

* `ModbusTcpClient.lost`, `ModbusRtuMaster.lost` — the request that an event gives up.
* `Books` — the outcomes of the requests written so far.
* `MasterView.Accounted`, `MasterView.Served` — where the requests received have gone.

## Main results

* `accounted_exec` — **every request is accounted for**, in every run of both masters.
* `served_exec` — **a master at rest has served everything**, if nothing has failed.
-/

namespace ModbusGateway

open Proactor Execution Transaction

variable {β : Type}

/-! ### The books -/

/-- The outcomes of the requests that a history has written, of which the current one is open. -/
def Books (effects : List (MasterEffect β)) (currentMessage : Option (ModbusCurrentMessage β))
    (outcomes : List (Option (Response β))) : Prop :=
  ∃ o, Settled AnswersTo (acts effects) outcomes o ∧
    o.map (·.1.modbusMessageInfo) = currentMessage.map (·.modbusMessage.modbusMessageInfo)

namespace Books

variable {effects effects' : List (MasterEffect β)} {outcomes : List (Option (Response β))}
  {current : ModbusCurrentMessage β} {currentMessage : Option (ModbusCurrentMessage β)}

/-- Whatever writes and answers nothing leaves the books alone. -/
theorem congr (h : Books effects currentMessage outcomes) (ha : acts effects' = acts effects) :
    Books effects' currentMessage outcomes := by
  obtain ⟨o, hsettled, hopen⟩ := h
  exact ⟨o, ha ▸ hsettled, hopen⟩

theorem silent (h : Books effects currentMessage outcomes) {es : List (MasterEffect β)}
    (hes : ∀ e ∈ es, e.silent = true) : Books (effects ++ es) currentMessage outcomes :=
  h.congr (acts_append_silent hes)

theorem expire (h : Books effects currentMessage outcomes) (messages : List (ModbusMessage β)) :
    Books (effects ++ messages.map .expire) currentMessage outcomes := by
  refine h.silent fun e he => ?_
  obtain ⟨message, -, rfl⟩ := List.mem_map.mp he
  rfl

/-- A request is written when none is in process. -/
theorem write (h : Books effects none outcomes) (message : ModbusMessage β) (id : TransactionId)
    (modbusBuffer : β) : Books (effects ++ [.write message id modbusBuffer])
      (some ⟨{ message with modbusBuffer }, id⟩) outcomes := by
  obtain ⟨o, hsettled, hopen⟩ := h
  obtain rfl := Option.map_eq_none_iff.mp hopen
  refine ⟨some (message, id), ?_, rfl⟩
  rw [acts_append]
  exact .start _ hsettled

/-- The request in process is open. -/
theorem exists_open (h : Books effects (some current) outcomes) :
    ∃ r, Settled AnswersTo (acts effects) outcomes (some r) ∧
      r.1.modbusMessageInfo = current.modbusMessage.modbusMessageInfo := by
  obtain ⟨o, hsettled, hopen⟩ := h
  obtain ⟨r, rfl, hinfo⟩ := Option.map_eq_some_iff.mp hopen
  exact ⟨r, hsettled, hinfo⟩

/-- It is answered. -/
theorem answer (h : Books effects (some current) outcomes) (modbusBuffer : β) :
    Books (effects ++ [.send current.modbusMessage.modbusMessageInfo.sourceId
        ⟨current.modbusMessage.modbusMessageInfo, modbusBuffer⟩]) none
      (outcomes ++ [some (current.modbusMessage.modbusMessageInfo.sourceId,
        ⟨current.modbusMessage.modbusMessageInfo, modbusBuffer⟩)]) := by
  obtain ⟨r, hsettled, hinfo⟩ := h.exists_open
  refine ⟨none, ?_, rfl⟩
  rw [acts_append]
  refine .answer _ hsettled ⟨?_, hinfo.symm⟩
  rw [hinfo]

/-- It is given up. -/
theorem giveUp (h : Books effects (some current) outcomes) :
    Books effects none (outcomes ++ [none]) := by
  obtain ⟨r, hsettled, -⟩ := h.exists_open
  exact ⟨none, .giveUp hsettled, rfl⟩

end Books

/-- The books after a step that gives up `lost`: at most one outcome is new, and it is no answer
exactly if something has been given up. -/
def Booked (effects : List (MasterEffect β)) (currentMessage : Option (ModbusCurrentMessage β))
    (outcomes : List (Option (Response β))) (lost : Option (ModbusCurrentMessage β)) : Prop :=
  ∃ new, Books effects currentMessage (outcomes ++ new) ∧
    new.countP (·.isNone) = lost.toList.length

theorem Booked.of_books {effects : List (MasterEffect β)}
    {currentMessage : Option (ModbusCurrentMessage β)} {outcomes : List (Option (Response β))}
    (h : Books effects currentMessage outcomes) : Booked effects currentMessage outcomes none := by
  refine ⟨[], ?_, rfl⟩
  rw [List.append_nil]
  exact h

/-! ### The TCP client -/

namespace ModbusTcpClient

variable {mb : Modbus β} {c c' : ModbusTcpClient β} {outcomes : List (Option (Response β))}

/-- What has been received is a frame, but no answer to the request. -/
def refuses (mb : Modbus β) (data : List UInt8) (current : ModbusCurrentMessage β) : Bool :=
  match mb.read .TCP data with
  | none => false
  | some modbusBuffer => decide (mb.tcpCheck modbusBuffer ≠ .NoError ∨
      mb.getTransactionId modbusBuffer ≠ current.id)

/-- The request that an event gives up without an answer: its send or its receive has failed, or
what has been received is no answer to it. -/
def lost (mb : Modbus β) (c : ModbusTcpClient β) : Event β → Option (ModbusCurrentMessage β)
  | .handle i _ _ =>
    match c.socket.ops.take i with
    | some (.send _ _, result, _) => if result.ec.failed then c.currentMessage else none
    | some (.receive _, result, _) =>
      if result.ec.failed then c.currentMessage
      else c.currentMessage.filter (refuses mb result.data)
    | _ => none
  | _ => none

section Lost

variable {i n : ℕ} {modbusBuffer : β} {result : Completion} {ops : Pool (ClientOp β) Completion}

theorem lost_connect (ht : c.socket.ops.take i = some (.connect, result, ops)) (peerGone : Bool)
    (now : Nanoseconds) : c.lost mb (.handle i peerGone now) = none := by
  simp only [lost, ht]

theorem lost_send (ht : c.socket.ops.take i = some (.send n modbusBuffer, result, ops))
    (peerGone : Bool) (now : Nanoseconds) : c.lost mb (.handle i peerGone now) =
      if result.ec.failed then c.currentMessage else none := by
  simp only [lost, ht]

theorem lost_receive (ht : c.socket.ops.take i = some (.receive n, result, ops))
    (peerGone : Bool) (now : Nanoseconds) : c.lost mb (.handle i peerGone now) =
      if result.ec.failed then c.currentMessage
      else c.currentMessage.filter (refuses mb result.data) := by
  simp only [lost, ht]

end Lost

theorem books_queueProcessUnsafe (h : Books c.effects c.currentMessage outcomes)
    (now : Nanoseconds) : Books (c.queueProcessUnsafe mb now).effects
      (c.queueProcessUnsafe mb now).currentMessage outcomes := by
  have hexpired : Books (c.popExpired now).effects c.currentMessage outcomes :=
    h.expire _
  rcases queueProcessUnsafe_cases mb c now with
    ⟨heq, -⟩ | ⟨heq, -, -⟩ | ⟨heq, -, -, -⟩ | ⟨message, heq, -, hnone, -⟩ <;> rw [heq]
  · exact h
  · exact h.silent (silent_singleton rfl)
  · exact hexpired
  · rw [hnone] at hexpired
    exact hexpired.write message _ _

theorem books_dropCurrent {current : ModbusCurrentMessage β}
    (h : Books c.effects c.currentMessage outcomes) (hcur : c.currentMessage = some current)
    (ec : ErrorCode) : Booked (c.dropCurrent ec).effects (c.dropCurrent ec).currentMessage
      outcomes (some current) := by
  obtain ⟨state, socket, heq, -⟩ := dropCurrent_eq c ec
  rw [hcur] at h
  rw [heq]
  exact ⟨[none], h.giveUp, rfl⟩

theorem booked_queueProcessUnsafe {l : Option (ModbusCurrentMessage β)}
    (h : Booked c.effects c.currentMessage outcomes l) (now : Nanoseconds) :
    Booked (c.queueProcessUnsafe mb now).effects (c.queueProcessUnsafe mb now).currentMessage
      outcomes l := by
  obtain ⟨new, hbooks, hcount⟩ := h
  exact ⟨new, books_queueProcessUnsafe hbooks now, hcount⟩

/-- What a receive that has succeeded does to the books. -/
theorem booked_received (h : Books c.effects c.currentMessage outcomes)
    (hcur : c.currentMessage.isSome = true) (data : List UInt8) :
    Booked (c.received mb data).effects (c.received mb data).currentMessage outcomes
      (c.currentMessage.filter (refuses mb data)) := by
  obtain ⟨current, hcurrent⟩ := Option.isSome_iff_exists.mp hcur
  rcases received_cases mb c data with
    ⟨heq, hwhy⟩ | ⟨current', modbusBuffer, hcur', hread, heq, hwhy⟩ |
    ⟨current', modbusBuffer, hcur', hread, heq, hcheck, hid⟩ <;> rw [heq, hcurrent]
  · -- a size that is refused leaves the request in process
    have hread : mb.read .TCP data = none := hwhy.resolve_left fun hnone => by
      rw [hnone] at hcurrent
      cases hcurrent
    have hkeeps : refuses mb data current = false := by simp only [refuses, hread]
    rw [hcurrent] at h
    rw [Option.filter_some, hkeeps]
    exact .of_books h
  · obtain rfl := Option.some.inj (hcurrent.symm.trans hcur')
    have hrefuses : refuses mb data current = true := by simp [refuses, hread, hwhy]
    rw [hcurrent] at h
    rw [Option.filter_some, hrefuses]
    exact ⟨[none], h.giveUp, rfl⟩
  · obtain rfl := Option.some.inj (hcurrent.symm.trans hcur')
    have hanswers : refuses mb data current = false := by simp [refuses, hread, hcheck, hid]
    rw [hcurrent] at h
    rw [Option.filter_some, hanswers]
    exact ⟨_, h.answer modbusBuffer, rfl⟩

/-- **Every step keeps the books.** -/
theorem booked_step {e : Event β} (hctl : Control c)
    (h : Books c.effects c.currentMessage outcomes) (hs : step mb c e = some c') :
    Booked c'.effects c'.currentMessage outcomes (c.lost mb e) := by
  cases step_branch hctl.exchange hs with
  | receive message now =>
    have hpush : Books (c.pushMessage message).effects c.currentMessage outcomes :=
      h.silent (silent_singleton rfl)
    exact booked_queueProcessUnsafe (c := c.pushMessage message) (.of_books hpush) now
  | complete hops => exact .of_books h
  | connectFailed ht hec peerGone now =>
    rw [lost_connect ht]
    exact .of_books h
  | @connected i result ops ht hec now =>
    rw [lost_connect ht]
    have hops : Booked (c.withOps ops).effects (c.withOps ops).currentMessage outcomes none :=
      .of_books h
    exact booked_queueProcessUnsafe (c := { c.withOps ops with state := .Connected }) hops now
  | @sendFailed i n buffer result ops ht hec peerGone now =>
    obtain ⟨current, hcurrent⟩ :=
      Option.isSome_iff_exists.mp ((take_data hctl ht).2.2 n rfl).1
    rw [lost_send ht, if_pos hec, hcurrent]
    exact books_dropCurrent (c := c.withOps ops) h hcurrent _
  | sent ht hec peerGone now =>
    rw [lost_send ht, hec]
    exact .of_books h
  | @receiveFailed i n result ops ht hec peerGone now =>
    obtain ⟨current, hcurrent⟩ :=
      Option.isSome_iff_exists.mp ((take_data hctl ht).2.2 n rfl).1
    rw [lost_receive ht, if_pos hec, hcurrent]
    exact books_dropCurrent (c := { c.withOps ops with timer := c.timer.cancel }) h hcurrent _
  | @received i n result ops ht hec peerGone now =>
    rw [lost_receive ht, hec]
    have hcur := ((take_data hctl ht).2.2 n rfl).1
    exact booked_queueProcessUnsafe (booked_received (c := c.withOps ops) h hcur result.data) now
  | expire hw => exact .of_books h
  | waitFailed ht hec => exact .of_books h
  | timeout ht => exact .of_books (h.silent (silent_singleton rfl))

end ModbusTcpClient

/-! ### The RTU master -/

namespace ModbusRtuMaster

variable {mb : Modbus β} {m m' : ModbusRtuMaster β} {outcomes : List (Option (Response β))}

/-- What has been read is a frame, but no valid one. -/
def refuses (mb : Modbus β) (m : ModbusRtuMaster β) (data : List UInt8) : Bool :=
  match mb.read m.frameType data with
  | none => false
  | some modbusBuffer => decide (mb.check modbusBuffer ≠ .NoError)

/-- The request that an event gives up without an answer: its write or its read has failed, or
what has been read is no valid frame. -/
def lost (mb : Modbus β) (m : ModbusRtuMaster β) : Event β → Option (ModbusCurrentMessage β)
  | .handle i _ =>
    match m.serialPort.ops.take i with
    | some (.write _ _, result, _) => if result.ec.failed then m.currentMessage else none
    | some (.read _, result, _) =>
      if result.ec.failed then m.currentMessage
      else m.currentMessage.filter fun _ => m.refuses mb result.data
    | _ => none
  | _ => none

section Lost

variable {i n : ℕ} {modbusBuffer : β} {result : Completion} {ops : Pool (RtuOp β) Completion}

theorem lost_write (ht : m.serialPort.ops.take i = some (.write n modbusBuffer, result, ops))
    (now : Nanoseconds) : m.lost mb (.handle i now) =
      if result.ec.failed then m.currentMessage else none := by
  simp only [lost, ht]

theorem lost_read (ht : m.serialPort.ops.take i = some (.read n, result, ops))
    (now : Nanoseconds) : m.lost mb (.handle i now) =
      if result.ec.failed then m.currentMessage
      else m.currentMessage.filter fun _ => m.refuses mb result.data := by
  simp only [lost, ht]

end Lost

theorem booked_queueProcessUnsafe {l : Option (ModbusCurrentMessage β)}
    (h : Booked m.effects m.currentMessage outcomes l) (now : Nanoseconds) :
    Booked (m.queueProcessUnsafe mb now).effects (m.queueProcessUnsafe mb now).currentMessage
      outcomes l := by
  obtain ⟨new, hbooks, hcount⟩ := h
  refine ⟨new, ?_, hcount⟩
  have hexpired : Books (m.popExpired now).effects m.currentMessage (outcomes ++ new) :=
    hbooks.expire _
  rcases queueProcessUnsafe_cases mb m now with
    ⟨heq, -⟩ | ⟨heq, -, -⟩ | ⟨message, heq, hnone, -⟩ <;> rw [heq]
  · exact hbooks
  · exact hexpired
  · rw [hnone] at hexpired
    exact hexpired.write message _ _

/-- What a read that has succeeded does to the books. -/
theorem booked_answered (h : Books m.effects m.currentMessage outcomes)
    (hcur : m.currentMessage.isSome = true) (data : List UInt8) :
    Booked (m.answered mb data).effects (m.answered mb data).currentMessage outcomes
      (m.currentMessage.filter fun _ => m.refuses mb data) := by
  obtain ⟨current, hcurrent⟩ := Option.isSome_iff_exists.mp hcur
  rcases answered_cases mb m data with
    ⟨heq, hwhy⟩ | ⟨current', modbusBuffer, hcur', hread, heq, hwhy⟩ |
    ⟨current', modbusBuffer, hcur', hread, heq, hcheck⟩ <;> rw [heq, hcurrent]
  · -- a size that is refused leaves the request in process
    have hread : mb.read m.frameType data = none := hwhy.resolve_left fun hnone => by
      rw [hnone] at hcurrent
      cases hcurrent
    have hkeeps : m.refuses mb data = false := by simp only [refuses, hread]
    rw [hcurrent] at h
    rw [Option.filter_some, hkeeps]
    exact .of_books h
  · obtain rfl := Option.some.inj (hcurrent.symm.trans hcur')
    have hrefuses : m.refuses mb data = true := by simp [refuses, hread, hwhy]
    rw [hcurrent] at h
    rw [Option.filter_some, hrefuses]
    exact ⟨[none], h.giveUp, rfl⟩
  · obtain rfl := Option.some.inj (hcurrent.symm.trans hcur')
    have hanswers : m.refuses mb data = false := by simp [refuses, hread, hcheck]
    rw [hcurrent] at h
    rw [Option.filter_some, hanswers]
    exact ⟨_, h.answer modbusBuffer, rfl⟩

/-- **Every step keeps the books.** -/
theorem booked_step {e : Event β} (hctl : Control m)
    (h : Books m.effects m.currentMessage outcomes) (hs : step mb m e = some m') :
    Booked m'.effects m'.currentMessage outcomes (m.lost mb e) := by
  cases step_branch hctl.exchange hs with
  | receive message now =>
    have hpush : Books (m.pushMessage message).effects m.currentMessage outcomes :=
      h.silent (silent_singleton rfl)
    exact booked_queueProcessUnsafe (m := m.pushMessage message) (.of_books hpush) now
  | complete hops => exact .of_books h
  | writeFailed ht hec now =>
    obtain ⟨current, hcurrent⟩ := Option.isSome_iff_exists.mp (take_outstanding hctl ht).1
    rw [hcurrent] at h
    rw [lost_write ht, if_pos hec, hcurrent]
    exact ⟨[none], h.giveUp, rfl⟩
  | written ht hec now =>
    rw [lost_write ht, hec]
    exact .of_books h
  | readFailed ht hec now =>
    obtain ⟨current, hcurrent⟩ := Option.isSome_iff_exists.mp (take_outstanding hctl ht).1
    rw [hcurrent] at h
    rw [lost_read ht, if_pos hec, hcurrent]
    exact ⟨[none], h.giveUp, rfl⟩
  | @read i n result ops ht hec now =>
    rw [lost_read ht, hec]
    have hcur := (take_outstanding hctl ht).1
    exact booked_queueProcessUnsafe (booked_answered (m := m.withOps ops) h hcur result.data) now
  | expire hw => exact .of_books h
  | waitFailed ht hec => exact .of_books h
  | timeout ht => exact .of_books (h.silent (silent_singleton rfl))

end ModbusRtuMaster

/-! ### Every request is accounted for -/

namespace MasterView

/-- What has become of the requests received, of which `lost` have been given up. -/
structure Accounted (v : MasterView β) (received : List (ModbusMessage β)) (lost : ℕ) : Prop where
  /-- In the order in which they came they have left the queue, because they have expired or have
  been written, or are still in it. -/
  queue : received =
    (v.effects.filterMap MasterEffect.departure).map Prod.snd ++ v.messageQueue.queue
  /-- Those that have been written are answered, or given up, or in process. -/
  outcomes : ∃ (rs : List (Request β)) (outcomes : List (Option (Response β)))
    (o : Option (Request β)), requests v.effects = rs ++ o.toList ∧
    o.isSome = v.currentMessage.isSome ∧
    List.Forall₂ (fun r outcome => ∀ a, outcome = some a → AnswersTo r a) rs outcomes ∧
    outcomes.reduceOption = (responses v.effects).map Prod.snd ∧
    outcomes.countP (·.isNone) = lost

/-- Nothing is in process or in the queue: all requests received have left it, and those that have
been written are answered, in the order in which they were written. -/
structure Served (v : MasterView β) (received : List (ModbusMessage β)) : Prop where
  idle : v.currentMessage = none
  empty : v.messageQueue.queue = []
  departed : received = (v.effects.filterMap MasterEffect.departure).map Prod.snd
  answered : List.Forall₂ AnswersTo (requests v.effects) ((responses v.effects).map Prod.snd)

theorem accounted_of_books {frame : ModbusMessage β → TransactionId → β} {timeout : Milliseconds}
    {v : MasterView β} {received : List (ModbusMessage β)} {outcomes : List (Option (Response β))}
    (hkept : Kept frame timeout v) (hreceived : v.desk.arrived = received)
    (hbooks : Books v.effects v.currentMessage outcomes) :
    v.Accounted received (outcomes.countP (·.isNone)) := by
  obtain ⟨o, hsettled, hopen⟩ := hbooks
  obtain ⟨rs, hstarts, hall⟩ := hsettled.forall₂
  refine ⟨?_, rs, outcomes, o, hstarts, ?_, hall, hsettled.reduceOption, rfl⟩
  · rw [← hreceived]
    exact hkept.sound.conserved
  · rw [← Option.isSome_map, hopen, Option.isSome_map]

/-- If nothing has been given up, a master that is idle with an empty queue has served all. -/
theorem Accounted.served {v : MasterView β} {received : List (ModbusMessage β)}
    (h : v.Accounted received 0) (hqueue : v.messageQueue.queue = [])
    (hidle : v.currentMessage = none) : v.Served received := by
  obtain ⟨hreceived, rs, outcomes, o, hrequests, hopen, hall, hresponses, hcount⟩ := h
  rw [hqueue, List.append_nil] at hreceived
  rw [hidle, Option.isSome_none, Option.isSome_eq_false_iff, Option.isNone_iff_eq_none] at hopen
  subst hopen
  rw [Option.toList_none, List.append_nil] at hrequests
  refine ⟨hidle, hqueue, hreceived, ?_⟩
  rw [hrequests, ← hresponses]
  exact forall₂_reduceOption hall hcount

end MasterView

open MasterView

/-- What a run of the client has made of its requests. -/
theorem ModbusTcpClient.accounted_run {mb : Modbus β} {timeout : Milliseconds}
    {es : List (ModbusTcpClient.Event β)} {c : ModbusTcpClient β}
    (hrun : exec (ModbusTcpClient.step mb) (.new timeout) es = some c) :
    c.view.Accounted (es.filterMap Event.message)
      (record (ModbusTcpClient.step mb) (lost mb) (.new timeout) es).length := by
  obtain ⟨⟨-, hkept⟩, harrived⟩ := kept_exec hrun
  have hbooks := invariant_record (g := lost mb) (I := fun c ds => Control c ∧ ∃ outcomes,
    Books c.effects c.currentMessage outcomes ∧ outcomes.countP (·.isNone) = ds.length)
    (fun c ds e c' h hs => by
      obtain ⟨hctl, outcomes, hbooks, hcount⟩ := h
      obtain ⟨new, hnew, hlost⟩ := booked_step hctl hbooks hs
      refine ⟨control_step hctl hs, outcomes ++ new, hnew, ?_⟩
      rw [List.countP_append, List.length_append, hcount, hlost])
    es _ _ [] ⟨control_new timeout, [], ⟨none, .nil, rfl⟩, rfl⟩ hrun
  obtain ⟨-, outcomes, hbooks, hcount⟩ := hbooks
  rw [List.nil_append] at hcount
  rw [← hcount]
  exact accounted_of_books hkept harrived hbooks

/-- What a run of the master has made of its requests. -/
theorem ModbusRtuMaster.accounted_run {mb : Modbus β} {timeout : Milliseconds}
    {frameType : FrameType} {es : List (ModbusRtuMaster.Event β)} {m : ModbusRtuMaster β}
    (hrun : exec (ModbusRtuMaster.step mb) (.new timeout frameType) es = some m) :
    m.view.Accounted (es.filterMap Event.message)
      (record (ModbusRtuMaster.step mb) (lost mb) (.new timeout frameType) es).length := by
  obtain ⟨⟨-, -, hkept⟩, harrived⟩ := kept_exec hrun
  have hbooks := invariant_record (g := lost mb) (I := fun m ds => Control m ∧ ∃ outcomes,
    Books m.effects m.currentMessage outcomes ∧ outcomes.countP (·.isNone) = ds.length)
    (fun m ds e m' h hs => by
      obtain ⟨hctl, outcomes, hbooks, hcount⟩ := h
      obtain ⟨new, hnew, hlost⟩ := booked_step hctl hbooks hs
      refine ⟨control_step hctl hs, outcomes ++ new, hnew, ?_⟩
      rw [List.countP_append, List.length_append, hcount, hlost])
    es _ _ [] ⟨control_new timeout frameType, [], ⟨none, .nil, rfl⟩, rfl⟩ hrun
  obtain ⟨-, outcomes, hbooks, hcount⟩ := hbooks
  rw [List.nil_append] at hcount
  rw [← hcount]
  exact accounted_of_books hkept harrived hbooks

/-- **Every request is accounted for**, in every run of both masters: the requests received have,
in their order, left the queue or are still in it, and those that have been written are, in their
order, answered or given up, up to the one in process; and as many have been given up as there
were failures and frames that are no answers. -/
theorem accounted_exec {β : Type} (mb : Modbus β) (timeout : Milliseconds) :
    (∀ es c, exec (ModbusTcpClient.step mb) (.new timeout) es = some c →
      c.view.Accounted (es.filterMap ModbusTcpClient.Event.message)
        (record (ModbusTcpClient.step mb) (ModbusTcpClient.lost mb) (.new timeout) es).length) ∧
    ∀ frameType es m, exec (ModbusRtuMaster.step mb) (.new timeout frameType) es = some m →
      m.view.Accounted (es.filterMap ModbusRtuMaster.Event.message)
        (record (ModbusRtuMaster.step mb) (ModbusRtuMaster.lost mb) (.new timeout frameType)
          es).length :=
  ⟨fun _ _ => ModbusTcpClient.accounted_run, fun _ _ _ => ModbusRtuMaster.accounted_run⟩

/-- A reply is an answer, and a frame with a wrong checksum is not. -/
theorem accounted_reply :
    ∃ c m,
      exec (ModbusTcpClient.step Frame.library) (.new 1000) (ModbusTcpClient.exchangeRun
        (Frame.readRequest 5 9 1) (Frame.readReply 1 1 7)) = some c ∧
      exec (ModbusRtuMaster.step Frame.library) (.new 1000 .RTU) (ModbusRtuMaster.exchangeRun
        (Frame.readRequest 5 9 1) [1, 3, 2, 0, 7, 0, 0]) = some m ∧
      c.view.Accounted [Frame.readRequest 5 9 1] 0 ∧
      m.view.Accounted [Frame.readRequest 5 9 1] 1 := by
  obtain ⟨htcp, hrtu⟩ := accounted_exec Frame.library 1000
  have hanswered : (record (ModbusTcpClient.step Frame.library)
      (ModbusTcpClient.lost Frame.library) (.new 1000) (ModbusTcpClient.exchangeRun
        (Frame.readRequest 5 9 1) (Frame.readReply 1 1 7))).length = 0 := by decide +kernel
  have hrefused : (record (ModbusRtuMaster.step Frame.library)
      (ModbusRtuMaster.lost Frame.library) (.new 1000 .RTU) (ModbusRtuMaster.exchangeRun
        (Frame.readRequest 5 9 1) [1, 3, 2, 0, 7, 0, 0])).length = 1 := by decide +kernel
  obtain ⟨c, hc⟩ : ∃ c, exec (ModbusTcpClient.step Frame.library) (.new 1000)
      (ModbusTcpClient.exchangeRun (Frame.readRequest 5 9 1) (Frame.readReply 1 1 7)) = some c :=
    ⟨_, rfl⟩
  obtain ⟨m, hm⟩ : ∃ m, exec (ModbusRtuMaster.step Frame.library) (.new 1000 .RTU)
      (ModbusRtuMaster.exchangeRun (Frame.readRequest 5 9 1) [1, 3, 2, 0, 7, 0, 0]) = some m :=
    ⟨_, rfl⟩
  refine ⟨c, m, hc, hm, ?_, ?_⟩
  · rw [← hanswered]
    exact htcp _ c hc
  · rw [← hrefused]
    exact hrtu .RTU _ m hm

/-! ### A master at rest -/

namespace ModbusTcpClient

variable {mb : Modbus β} {c c' : ModbusTcpClient β}

/-- A run that gives nothing up, in which no size is refused and no connect fails for nothing,
waits for whatever is queued or in process. -/
theorem waiting_exec {timeout : Milliseconds} {es : List (Event β)}
    (hrun : exec (step mb) (new timeout) es = some c)
    (hsizes : along (step mb) (sizeAccepted mb) (new timeout) es = true)
    (hfails : along (step mb) failsAlone (new timeout) es = true) :
    c.RequestOutstanding ∧ c.QueueServed := by
  have hwaiting := invariant_along
    (I := fun c => Control c ∧ c.RequestOutstanding ∧ c.QueueServed) (fun c e c' h hP hs => by
      obtain ⟨hctl, hreq, hserved⟩ := h
      obtain ⟨hsize, hfail⟩ := Bool.and_eq_true_iff.mp hP
      exact ⟨control_step hctl hs, requestOutstanding_step hctl hreq hsize hs,
        queueServed_step hctl hreq hserved hsize hfail hs⟩)
    es _ _ ⟨control_new timeout, requestOutstanding_of_none rfl, fun hne => absurd rfl hne⟩
    (along_and hsizes hfails) hrun
  exact hwaiting.2

end ModbusTcpClient

namespace ModbusRtuMaster

variable {mb : Modbus β} {m m' : ModbusRtuMaster β}

/-- An event that gives nothing up runs the handler of no failed operation. -/
theorem failsUnqueued_of_lost {e : Event β} (hctl : Control m) (h : (m.lost mb e).isNone = true) :
    m.failsUnqueued e = true := by
  cases e with
  | handle i now =>
    cases ht : m.serialPort.ops.take i with
    | none => simp only [failsUnqueued, ht]
    | some taken =>
      obtain ⟨op, result, ops⟩ := taken
      have hcur := (take_outstanding hctl ht).1
      simp only [failsUnqueued, ht]
      cases hec : result.ec.failed with
      | false => rfl
      | true =>
        -- the request in process would be given up
        cases op with
        | write n modbusBuffer =>
          rw [lost_write ht, if_pos hec, Option.isNone_iff_eq_none] at h
          rw [h] at hcur
          cases hcur
        | read n =>
          rw [lost_read ht, if_pos hec, Option.isNone_iff_eq_none] at h
          rw [h] at hcur
          cases hcur
  | _ => rfl

/-- A run that gives nothing up, and in which no size is refused, waits for whatever is queued or
in process. -/
theorem waiting_exec {timeout : Milliseconds} {frameType : FrameType} {es : List (Event β)}
    (hrun : exec (step mb) (new timeout frameType) es = some m)
    (hsizes : along (step mb) (sizeAccepted mb) (new timeout frameType) es = true)
    (hlost : record (step mb) (lost mb) (new timeout frameType) es = []) :
    m.RequestOutstanding ∧ m.QueueServed := by
  have hwaiting := invariant_along
    (I := fun m => Control m ∧ m.RequestOutstanding ∧ m.QueueServed) (fun m e m' h hP hs => by
      obtain ⟨hctl, hreq, hserved⟩ := h
      obtain ⟨hsize, hkeeps⟩ := Bool.and_eq_true_iff.mp hP
      exact ⟨control_step hctl hs, requestOutstanding_step hctl hreq hsize hs,
        queueServed_step hctl hreq hserved hsize (failsUnqueued_of_lost hctl hkeeps) hs⟩)
    es _ _ ⟨control_new timeout frameType, requestOutstanding_of_none rfl,
      fun hne => absurd rfl hne⟩
    (along_and hsizes (along_of_record_nil hlost)) hrun
  exact hwaiting.2

end ModbusRtuMaster

/-- **A master at rest has served everything.**  In a run of either master that gives no request
up, in which no receive or read succeeds with a size that is refused, and no connect fails while
requests are queued and nothing else is outstanding: as soon as no operation is outstanding, all
requests received have left the queue, and those that have not expired in it have been written
and answered, in that order and each once. -/
theorem served_exec {β : Type} (mb : Modbus β) (timeout : Milliseconds) :
    (∀ es c, exec (ModbusTcpClient.step mb) (.new timeout) es = some c →
      record (ModbusTcpClient.step mb) (ModbusTcpClient.lost mb) (.new timeout) es = [] →
      along (ModbusTcpClient.step mb) (ModbusTcpClient.sizeAccepted mb) (.new timeout) es = true →
      along (ModbusTcpClient.step mb) ModbusTcpClient.failsAlone (.new timeout) es = true →
      c.socket.ops = [] → c.view.Served (es.filterMap ModbusTcpClient.Event.message)) ∧
    ∀ frameType es m, exec (ModbusRtuMaster.step mb) (.new timeout frameType) es = some m →
      record (ModbusRtuMaster.step mb) (ModbusRtuMaster.lost mb) (.new timeout frameType) es = [] →
      along (ModbusRtuMaster.step mb) (ModbusRtuMaster.sizeAccepted mb) (.new timeout frameType)
        es = true →
      m.serialPort.ops = [] → m.view.Served (es.filterMap ModbusRtuMaster.Event.message) := by
  constructor
  · intro es c hrun hlost hsizes hfails hrest
    obtain ⟨hreq, hserved⟩ := ModbusTcpClient.waiting_exec hrun hsizes hfails
    have haccounted := ModbusTcpClient.accounted_run hrun
    rw [hlost] at haccounted
    refine haccounted.served ?_ ?_
    · by_contra hne
      exact hserved hne hrest
    · by_contra hcur
      have hdata := hreq (Option.isSome_iff_ne_none.mpr hcur)
      rw [ModbusTcpClient.dataOps, hrest] at hdata
      cases hdata
  · intro frameType es m hrun hlost hsizes hrest
    obtain ⟨hreq, hserved⟩ := ModbusRtuMaster.waiting_exec hrun hsizes hlost
    have haccounted := ModbusRtuMaster.accounted_run hrun
    rw [hlost] at haccounted
    refine haccounted.served ?_ ?_
    · by_contra hne
      exact hserved hne hrest
    · by_contra hcur
      have hdata := hreq (Option.isSome_iff_ne_none.mpr hcur)
      rw [ModbusRtuMaster.outstanding, hrest] at hdata
      cases hdata

/-- A request that either master has served. -/
theorem served_reply :
    ∃ c m,
      exec (ModbusTcpClient.step Frame.library) (.new 1000) (ModbusTcpClient.exchangeRun
        (Frame.readRequest 5 9 1) (Frame.readReply 1 1 7)) = some c ∧
      exec (ModbusRtuMaster.step Frame.library) (.new 1000 .RTU) (ModbusRtuMaster.exchangeRun
        (Frame.readRequest 5 9 1) (Frame.rtu 1 [3, 2, 0, 7]).bytes) = some m ∧
      c.view.Served [Frame.readRequest 5 9 1] ∧ m.view.Served [Frame.readRequest 5 9 1] := by
  obtain ⟨htcp, hrtu⟩ := served_exec Frame.library 1000
  obtain ⟨c, hc, hrestc⟩ : ∃ c, exec (ModbusTcpClient.step Frame.library) (.new 1000)
      (ModbusTcpClient.exchangeRun (Frame.readRequest 5 9 1) (Frame.readReply 1 1 7)) = some c ∧
        c.socket.ops = [] :=
    ⟨_, rfl, by decide +kernel⟩
  obtain ⟨m, hm, hrestm⟩ : ∃ m, exec (ModbusRtuMaster.step Frame.library) (.new 1000 .RTU)
      (ModbusRtuMaster.exchangeRun (Frame.readRequest 5 9 1) (Frame.rtu 1 [3, 2, 0, 7]).bytes) =
        some m ∧ m.serialPort.ops = [] :=
    ⟨_, rfl, by decide +kernel⟩
  refine ⟨c, m, hc, hm, ?_, ?_⟩
  · exact htcp _ c hc (by decide +kernel) (by decide +kernel) (by decide +kernel) hrestc
  · exact hrtu .RTU _ m hm (by decide +kernel) (by decide +kernel) hrestm

end ModbusGateway
