import ModbusGateway.Transport.MasterAccounts

/-!
# What a master does with the requests it holds

A request that a master has taken in is in its queue or in process until the master has done
with it: it answers it, it drops it because it has expired, or it gives it up.  None goes in any
other way, in whatever order the events of the master come.

## Main definitions

* `MasterView.held` — the requests that a master has taken in and not done with.
* `MasterView.Keeps` — nothing that is held goes without a trace.

## Main results

* `ModbusTcpClient.keeps_step`, `ModbusRtuMaster.keeps_step` — **a step of a master keeps what it
  holds and takes in**, up to what it answers, what has expired and what it gives up.
-/

namespace ModbusGateway

open Proactor

variable {β : Type}

/-- The request that an effect does with: one that has expired, or one that is answered. -/
def MasterEffect.finished : MasterEffect β → Option ModbusMessageInfo
  | .expire message => some message.modbusMessageInfo
  | .send _ message => some message.modbusMessageInfo
  | _ => none

namespace MasterView

variable {v v' v'' : MasterView β} {received : List ModbusMessageInfo}
  {lost : Option ModbusMessageInfo}

/-- The requests that a master has taken in and not done with: the one in process and those in
the queue. -/
def held (v : MasterView β) : List ModbusMessageInfo :=
  (v.currentMessage.map (·.modbusMessage.modbusMessageInfo)).toList ++
    v.messageQueue.queue.map (·.modbusMessageInfo)

/-- What is held before and what is received is held after, unless an effect does with it or it
is lost. -/
def Keeps (v v' : MasterView β) (received : List ModbusMessageInfo)
    (lost : Option ModbusMessageInfo) : Prop :=
  ∃ new, v'.effects = v.effects ++ new ∧ ∀ info ∈ v.held ++ received,
    info ∈ v'.held ∨ info ∈ new.filterMap MasterEffect.finished ∨ lost = some info

namespace Keeps

theorem of_eq (hheld : v'.held = v.held) (heffects : v'.effects = v.effects) :
    Keeps v v' [] lost := by
  refine ⟨[], by rw [heffects, List.append_nil], fun info hinfo => Or.inl ?_⟩
  rw [List.append_nil] at hinfo
  rw [hheld]
  exact hinfo

/-- An effect may be noted. -/
theorem note (hheld : v'.held = v.held) {e : MasterEffect β}
    (heffects : v'.effects = v.effects ++ [e]) : Keeps v v' [] lost := by
  refine ⟨[e], heffects, fun info hinfo => Or.inl ?_⟩
  rw [List.append_nil] at hinfo
  rw [hheld]
  exact hinfo

/-- One change after another, of which the second one receives nothing and loses nothing. -/
theorem trans (h : Keeps v v' received lost) (h' : Keeps v' v'' [] none) :
    Keeps v v'' received lost := by
  obtain ⟨new, heq, hkept⟩ := h
  obtain ⟨new', heq', hkept'⟩ := h'
  refine ⟨new ++ new', by rw [heq', heq, List.append_assoc], fun info hinfo => ?_⟩
  rw [List.filterMap_append, List.mem_append]
  rcases hkept info hinfo with hheld | hfinished | hlost
  · have hmem : info ∈ v'.held ++ [] := by
      rw [List.append_nil]
      exact hheld
    rcases hkept' info hmem with hheld' | hfinished' | hlost'
    · exact Or.inl hheld'
    · exact Or.inr (Or.inl (Or.inr hfinished'))
    · cases hlost'
  · exact Or.inr (Or.inl (Or.inl hfinished))
  · exact Or.inr (Or.inr hlost)

end Keeps

/-- The requests that leave the queue because they have expired are done with. -/
theorem keeps_popExpired (v : MasterView β) (now : Nanoseconds) :
    Keeps v (v.popExpired now) [] none := by
  refine ⟨_, rfl, fun info hinfo => ?_⟩
  rw [List.append_nil, held, List.mem_append] at hinfo
  rcases hinfo with hcurrent | hqueue
  · exact Or.inl (List.mem_append_left _ hcurrent)
  · obtain ⟨message, hmessage, rfl⟩ := List.mem_map.mp hqueue
    rw [← List.takeWhile_append_dropWhile (p := expired v.timeout now)
      (l := v.messageQueue.queue), List.mem_append] at hmessage
    rcases hmessage with hexpired | hleft
    · refine Or.inr (Or.inl (List.mem_filterMap.mpr ⟨.expire message, ?_, rfl⟩))
      exact List.mem_map_of_mem hexpired
    · exact Or.inl (List.mem_append_right _ (List.mem_map_of_mem hleft))

/-- The request that becomes the current one stays with the master. -/
theorem keeps_start (frame : ModbusMessage β → TransactionId → β) {message : ModbusMessage β}
    (hcur : v.currentMessage = none) (hfront : v.messageQueue.front? = some message)
    (id : TransactionId) : Keeps v (v.start frame message id) [] none := by
  refine ⟨_, rfl, fun info hinfo => Or.inl ?_⟩
  rw [List.append_nil, held, hcur, Option.map_none, Option.toList_none, List.nil_append,
    LimitQueue.queue_of_front? hfront, List.map_cons, List.mem_cons] at hinfo
  rw [held, List.mem_append]
  rcases hinfo with rfl | hqueue
  · exact Or.inl List.mem_cons_self
  · exact Or.inr hqueue

/-- A request that is received is held. -/
theorem keeps_push (hlimit : v.messageQueue.maxSize = 2 ^ 64 - 1) (message : ModbusMessage β) :
    Keeps v (v.push message) [message.modbusMessageInfo] none := by
  have hqueue := LimitQueue.push_queue_of_default hlimit message
  refine ⟨_, rfl, fun info hinfo => Or.inl ?_⟩
  rw [held, push, hqueue, List.map_append]
  rw [held, List.append_assoc] at hinfo
  exact hinfo

/-- The request in process may be given up. -/
theorem keeps_giveUp {current : ModbusCurrentMessage β} (hcur : v.currentMessage = some current)
    (hqueue : v'.messageQueue = v.messageQueue) (heffects : v'.effects = v.effects) :
    Keeps v v' [] (some current.modbusMessage.modbusMessageInfo) := by
  refine ⟨[], by rw [heffects, List.append_nil], fun info hinfo => ?_⟩
  rw [List.append_nil, held, hcur, Option.map_some, Option.toList_some, List.singleton_append,
    List.mem_cons] at hinfo
  rw [held, hqueue, List.mem_append]
  rcases hinfo with rfl | hmem
  · exact Or.inr (Or.inr rfl)
  · exact Or.inl (Or.inr hmem)

/-- The request in process may be answered. -/
theorem keeps_answer {current : ModbusCurrentMessage β} (hcur : v.currentMessage = some current)
    (hqueue : v'.messageQueue = v.messageQueue) {actorId : ActorId} {modbusBuffer : β}
    (heffects : v'.effects = v.effects ++
      [.send actorId ⟨current.modbusMessage.modbusMessageInfo, modbusBuffer⟩]) :
    Keeps v v' [] none := by
  refine ⟨_, heffects, fun info hinfo => ?_⟩
  rw [List.append_nil, held, hcur, Option.map_some, Option.toList_some, List.singleton_append,
    List.mem_cons] at hinfo
  rw [held, hqueue, List.mem_append]
  rcases hinfo with rfl | hmem
  · exact Or.inr (Or.inl List.mem_cons_self)
  · exact Or.inl (Or.inr hmem)

end MasterView

open MasterView

/-- The message info of a request that is given up. -/
def lostInfo (lost : Option (ModbusCurrentMessage β)) : Option ModbusMessageInfo :=
  lost.map (·.modbusMessage.modbusMessageInfo)

/-! ### The TCP client -/

namespace ModbusTcpClient

variable {mb : Modbus β} {c c' : ModbusTcpClient β}

theorem keeps_queueProcessUnsafe (mb : Modbus β) (c : ModbusTcpClient β) (now : Nanoseconds) :
    Keeps c.view (c.queueProcessUnsafe mb now).view [] none := by
  have hexpired : Keeps c.view (c.popExpired now).view [] none := keeps_popExpired c.view now
  rcases queueProcessUnsafe_cases mb c now with
    ⟨heq, -⟩ | ⟨heq, -, -⟩ | ⟨heq, -, -, -⟩ | ⟨message, heq, -, hcur, hfront⟩ <;> rw [heq]
  · exact .of_eq rfl rfl
  · exact .note rfl rfl
  · exact hexpired
  · have hstart : Keeps (c.popExpired now).view ((c.popExpired now).view.start (frame mb) message
        (c.transactionIdGenerator + 1)) [] none := keeps_start (frame mb) hcur hfront _
    obtain ⟨new, heffects, hkept⟩ := hstart
    exact hexpired.trans ⟨new, heffects, hkept⟩

/-- What a receive that has succeeded does to the request in process. -/
theorem keeps_received (mb : Modbus β) (c : ModbusTcpClient β)
    (hcur : c.currentMessage.isSome = true) (data : List UInt8) :
    Keeps c.view (c.received mb data).view [] (lostInfo (c.currentMessage.filter
      (refuses mb data))) := by
  obtain ⟨current, hcurrent⟩ := Option.isSome_iff_exists.mp hcur
  rcases received_cases mb c data with
    ⟨heq, hwhy⟩ | ⟨current', modbusBuffer, hcur', hread, heq, hwhy⟩ |
    ⟨current', modbusBuffer, hcur', hread, heq, hcheck, hid⟩ <;> rw [heq]
  · exact .of_eq rfl rfl
  · have hrefuses : refuses mb data current' = true := by simp [refuses, hread, hwhy]
    rw [hcur', Option.filter_some, hrefuses]
    exact keeps_giveUp hcur' rfl rfl
  · have hanswers : refuses mb data current' = false := by simp [refuses, hread, hcheck, hid]
    rw [hcur', Option.filter_some, hanswers]
    exact keeps_answer hcur' rfl rfl

/-- **A step of the client keeps what it holds and takes in.** -/
theorem keeps_step {e : Event β} (hctl : Control c)
    (hlimit : c.messageQueue.maxSize = 2 ^ 64 - 1) (hs : step mb c e = some c') :
    Keeps c.view c'.view (e.message.map (·.modbusMessageInfo)).toList
      (lostInfo (c.lost mb e)) := by
  cases step_branch hctl.exchange hs with
  | receive message now =>
    have hpush : Keeps c.view (c.pushMessage message).view [message.modbusMessageInfo] none :=
      keeps_push (v := c.view) hlimit message
    exact hpush.trans (keeps_queueProcessUnsafe mb (c.pushMessage message) now)
  | @connected i result ops ht hec now =>
    rw [lost_connect ht]
    exact keeps_queueProcessUnsafe mb { c.withOps ops with state := .Connected } now
  | @sendFailed i n buffer result ops ht hec peerGone now =>
    obtain ⟨current, hcurrent⟩ :=
      Option.isSome_iff_exists.mp ((take_data hctl ht).2.2 n rfl).1
    obtain ⟨state, socket, heq, -⟩ := dropCurrent_eq (c.withOps ops) result.ec
    rw [lost_send ht, if_pos hec, hcurrent, heq]
    exact keeps_giveUp (v := c.view) hcurrent rfl rfl
  | @receiveFailed i n result ops ht hec peerGone now =>
    obtain ⟨current, hcurrent⟩ :=
      Option.isSome_iff_exists.mp ((take_data hctl ht).2.2 n rfl).1
    obtain ⟨state, socket, heq, -⟩ :=
      dropCurrent_eq { c.withOps ops with timer := c.timer.cancel } result.ec
    rw [lost_receive ht, if_pos hec, hcurrent, heq]
    exact keeps_giveUp (v := c.view) hcurrent rfl rfl
  | @received i n result ops ht hec peerGone now =>
    have hcur := ((take_data hctl ht).2.2 n rfl).1
    have hreceived := keeps_received mb (c.withOps ops) hcur result.data
    rw [lost_receive ht, hec]
    exact hreceived.trans (keeps_queueProcessUnsafe mb _ now)
  | timeout ht => exact .note rfl rfl
  | _ => exact .of_eq rfl rfl

end ModbusTcpClient

/-! ### The RTU master -/

namespace ModbusRtuMaster

variable {mb : Modbus β} {m m' : ModbusRtuMaster β}

theorem keeps_queueProcessUnsafe (mb : Modbus β) (m : ModbusRtuMaster β) (now : Nanoseconds) :
    Keeps m.view (m.queueProcessUnsafe mb now).view [] none := by
  have hexpired : Keeps m.view (m.popExpired now).view [] none := keeps_popExpired m.view now
  rcases queueProcessUnsafe_cases mb m now with
    ⟨heq, -⟩ | ⟨heq, -, -⟩ | ⟨message, heq, hcur, hfront⟩ <;> rw [heq]
  · exact .of_eq rfl rfl
  · exact hexpired
  · have hstart : Keeps (m.popExpired now).view ((m.popExpired now).view.start
        (frame mb m.frameType) message (m.transactionIdGenerator + 1)) [] none :=
      keeps_start (frame mb m.frameType) hcur hfront _
    obtain ⟨new, heffects, hkept⟩ := hstart
    exact hexpired.trans ⟨new, heffects, hkept⟩

/-- What a read that has succeeded does to the request in process. -/
theorem keeps_answered (mb : Modbus β) (m : ModbusRtuMaster β)
    (hcur : m.currentMessage.isSome = true) (data : List UInt8) :
    Keeps m.view (m.answered mb data).view []
      (lostInfo (m.currentMessage.filter fun _ => m.refuses mb data)) := by
  obtain ⟨current, hcurrent⟩ := Option.isSome_iff_exists.mp hcur
  rcases answered_cases mb m data with
    ⟨heq, hwhy⟩ | ⟨current', modbusBuffer, hcur', hread, heq, hwhy⟩ |
    ⟨current', modbusBuffer, hcur', hread, heq, hcheck⟩ <;> rw [heq]
  · exact .of_eq rfl rfl
  · have hrefuses : m.refuses mb data = true := by simp [refuses, hread, hwhy]
    rw [hcur', Option.filter_some, hrefuses]
    exact keeps_giveUp hcur' rfl rfl
  · have hanswers : m.refuses mb data = false := by simp [refuses, hread, hcheck]
    rw [hcur', Option.filter_some, hanswers]
    exact keeps_answer hcur' rfl rfl

/-- **A step of the master keeps what it holds and takes in.** -/
theorem keeps_step {e : Event β} (hctl : Control m)
    (hlimit : m.messageQueue.maxSize = 2 ^ 64 - 1) (hs : step mb m e = some m') :
    Keeps m.view m'.view (e.message.map (·.modbusMessageInfo)).toList
      (lostInfo (m.lost mb e)) := by
  cases step_branch hctl.exchange hs with
  | receive message now =>
    have hpush : Keeps m.view (m.pushMessage message).view [message.modbusMessageInfo] none :=
      keeps_push (v := m.view) hlimit message
    exact hpush.trans (keeps_queueProcessUnsafe mb (m.pushMessage message) now)
  | writeFailed ht hec now =>
    obtain ⟨current, hcurrent⟩ := Option.isSome_iff_exists.mp (take_outstanding hctl ht).1
    rw [lost_write ht, if_pos hec, hcurrent]
    exact keeps_giveUp (v := m.view) hcurrent rfl rfl
  | readFailed ht hec now =>
    obtain ⟨current, hcurrent⟩ := Option.isSome_iff_exists.mp (take_outstanding hctl ht).1
    rw [lost_read ht, if_pos hec, hcurrent]
    exact keeps_giveUp (v := m.view) hcurrent rfl rfl
  | @read i n result ops ht hec now =>
    have hcur := (take_outstanding hctl ht).1
    have hanswered := keeps_answered mb (m.withOps ops) hcur result.data
    rw [lost_read ht, hec]
    exact hanswered.trans (keeps_queueProcessUnsafe mb _ now)
  | timeout ht => exact .note rfl rfl
  | _ => exact .of_eq rfl rfl

end ModbusRtuMaster

end ModbusGateway
