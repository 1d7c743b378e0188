import Mathlib.Data.List.TakeWhile
import ModbusGateway.Library.Dispatch
import ModbusGateway.Transport.MasterView

/-!
# The queue discipline of the masters

Both masters are a desk that serves one request at a time: requests arrive, wait in
`messageQueue_`, and at the front are either thrown away as expired or become
`currentMessage_`, which is given up for one reason or another.  What a desk keeps,
every run of the masters keeps.

## Main definitions

* `MasterView.desk v` — the desk of a master.
* `Late`, `InTime` — `TimeoutReached` at the clock reading of an event.
* `QueueDiscipline` — the discipline, in one state of a master.

## Main results

* `MasterView.desk_step` — **every step of the masters is a run of the desk.**
* `queueDiscipline_exec` — **the queue discipline of every run of both masters.**
-/

namespace ModbusGateway

open Proactor Execution Transaction Dispatch Relation

variable {β : Type}

/-- `TimeoutReached` is true of the request at the clock reading of an event, if it has one. -/
def Late (timeout : Milliseconds) (clock : Option Nanoseconds) (message : ModbusMessage β) : Prop :=
  ∃ now, clock = some now ∧ expired timeout now message = true

/-- `TimeoutReached` is false of the request at the clock reading of an event, if it has one. -/
def InTime (timeout : Milliseconds) (clock : Option Nanoseconds) (message : ModbusMessage β) :
    Prop :=
  ∃ now, clock = some now ∧ expired timeout now message = false

namespace MasterView

variable {frame : ModbusMessage β → TransactionId → β} {clock : Option Nanoseconds}
  {now : Nanoseconds} {v v' : MasterView β}

/-- The desk of a master: its requests arrive when they are received, they leave the queue
when they expire or are written, and the one in process is the one written last. -/
def desk (v : MasterView β) : Desk (ModbusMessage β) where
  arrived := v.effects.filterMap MasterEffect.arrival
  departed := v.effects.filterMap MasterEffect.departure
  waiting := v.messageQueue.queue
  serving := if v.currentMessage.isSome then (lastRequest v.effects).map Prod.fst else none

/-- Effects that move no request. -/
theorem filterMap_still {es : List (MasterEffect β)} (h : ∀ e ∈ es, e.still = true) :
    es.filterMap MasterEffect.arrival = [] ∧ es.filterMap MasterEffect.departure = [] := by
  constructor
  · refine List.filterMap_eq_nil_iff.mpr fun e he => ?_
    exact Option.isNone_iff_eq_none.mp (Bool.and_eq_true_iff.mp (h e he)).1
  · refine List.filterMap_eq_nil_iff.mpr fun e he => ?_
    exact Option.isNone_iff_eq_none.mp (Bool.and_eq_true_iff.mp (h e he)).2

/-! ### Steps of the desk -/

/-- A quiet change leaves the desk alone, or it is done with its request. -/
theorem desk_quiet (h : Quiet v v') :
    v'.desk = v.desk ∨ v'.desk = { v.desk with serving := none } := by
  obtain ⟨es, heq, hstill⟩ := h.effects
  obtain ⟨harrival, hdeparture⟩ := filterMap_still hstill
  have hlast : lastRequest v'.effects = lastRequest v.effects := by
    rw [lastRequest, h.requests, lastRequest]
  rcases h.currentMessage with hsame | hnone
  · refine Or.inl ?_
    simp only [desk, hlast, hsame, h.messageQueue]
    simp only [heq, List.filterMap_append, harrival, hdeparture, List.append_nil]
  · refine Or.inr ?_
    simp only [desk, hnone, h.messageQueue]
    simp only [heq, List.filterMap_append, harrival, hdeparture, List.append_nil]
    rfl

/-- A request that is received waits behind the others. -/
theorem desk_push (hlimit : v.messageQueue.maxSize = 2 ^ 64 - 1) (message : ModbusMessage β) :
    (v.push message).desk = { v.desk with
      arrived := v.desk.arrived ++ [message], waiting := v.desk.waiting ++ [message] } := by
  simp only [desk, push, lastRequest, requests_receive, List.filterMap_append,
    LimitQueue.push_queue_of_default hlimit]
  simp [MasterEffect.arrival, MasterEffect.departure]

/-- The requests that expire leave the queue. -/
theorem desk_popExpired (now : Nanoseconds) :
    (v.popExpired now).desk = { v.desk with
      departed := v.desk.departed ++
        (v.messageQueue.queue.takeWhile (expired v.timeout now)).map (false, ·)
      waiting := v.messageQueue.queue.dropWhile (expired v.timeout now) } := by
  have harrival : ∀ messages : List (ModbusMessage β),
      (messages.map MasterEffect.expire).filterMap MasterEffect.arrival = [] := fun messages => by
    rw [List.filterMap_map]
    exact List.filterMap_eq_nil_iff.mpr fun _ _ => rfl
  have hdeparture : ∀ messages : List (ModbusMessage β),
      (messages.map MasterEffect.expire).filterMap MasterEffect.departure =
        messages.map (false, ·) := fun messages => by
    rw [List.filterMap_map]
    exact congrFun List.filterMap_eq_map messages
  simp only [desk, popExpired, lastRequest, requests_expire, List.filterMap_append, harrival,
    hdeparture, List.append_nil]
  rfl

/-- The request that is started is served. -/
theorem desk_start (message : ModbusMessage β) (id : TransactionId) :
    (v.start frame message id).desk = { v.desk with
      departed := v.desk.departed ++ [(true, message)]
      waiting := v.messageQueue.pop.queue
      serving := some message } := by
  simp [desk, start, lastRequest, requests_write, MasterEffect.arrival, MasterEffect.departure]

theorem steps_popExpired (now : Nanoseconds) :
    ReflTransGen (Dispatch.Step (Late v.timeout (some now)) (InTime v.timeout (some now)))
      v.desk (v.popExpired now).desk := by
  rw [desk_popExpired]
  refine steps_drop _ v.desk List.takeWhile_append_dropWhile.symm fun message hmem => ?_
  exact ⟨now, rfl, List.mem_takeWhile_imp hmem⟩

theorem steps_processed (hp : Processed frame now v v') :
    ReflTransGen (Dispatch.Step (Late v.timeout (some now)) (InTime v.timeout (some now)))
      v.desk v'.desk := by
  cases hp with
  | quiet hquiet =>
    rcases desk_quiet hquiet with heq | heq <;> rw [heq]
    exact .single .finish
  | expired => exact steps_popExpired now
  | @started message id hcur hfront =>
    refine (steps_popExpired now).tail ?_
    rw [desk_start]
    refine .serve (LimitQueue.queue_of_front? hfront) ?_ ?_
    · exact ⟨now, rfl, LimitQueue.front?_popWhile hfront⟩
    · simp [desk, popExpired, hcur]

/-- **Every step of a master is a run of its desk.** -/
theorem desk_step {input : Option (ModbusMessage β)}
    (hlimit : v.messageQueue.maxSize = 2 ^ 64 - 1) (hs : Step frame clock v input v') :
    ReflTransGen (Dispatch.Step (Late v.timeout clock) (InTime v.timeout clock))
      v.desk v'.desk := by
  cases hs with
  | quiet hquiet =>
    rcases desk_quiet hquiet with heq | heq <;> rw [heq]
    exact .single .finish
  | @process v₁ _ now hclock hquiet hprocessed =>
    rw [hclock]
    have hsteps := steps_processed hprocessed
    rw [hquiet.timeout] at hsteps
    rcases desk_quiet hquiet with heq | heq <;> rw [heq] at hsteps
    · exact hsteps
    · exact .head .finish hsteps
  | @receive _ now message hclock hprocessed =>
    rw [hclock]
    have hsteps := steps_processed hprocessed
    rw [desk_push hlimit] at hsteps
    exact .head (.arrive message) hsteps

/-! ### The invariant -/

/-- What the desk of a master rests on: the limit of its queue is the default, and the
request in process is the one written last. -/
structure Kept (frame : ModbusMessage β → TransactionId → β) (timeout : Milliseconds)
    (v : MasterView β) : Prop where
  timeout : v.timeout = timeout
  limit : v.messageQueue.maxSize = 2 ^ 64 - 1
  alive : Alive frame v
  sound : v.desk.Sound

/-- No step changes the timeout or the limit of the queue. -/
theorem frame_processed (hp : Processed frame now v v') :
    v'.timeout = v.timeout ∧ v'.messageQueue.maxSize = v.messageQueue.maxSize := by
  cases hp with
  | quiet hquiet => exact ⟨hquiet.timeout, by rw [hquiet.messageQueue]⟩
  | expired => exact ⟨rfl, rfl⟩
  | started id hcur hfront => exact ⟨rfl, rfl⟩

theorem frame_step {input : Option (ModbusMessage β)} (hs : Step frame clock v input v') :
    v'.timeout = v.timeout ∧ v'.messageQueue.maxSize = v.messageQueue.maxSize := by
  cases hs with
  | quiet hquiet => exact ⟨hquiet.timeout, by rw [hquiet.messageQueue]⟩
  | process hclock hquiet hprocessed =>
    obtain ⟨htimeout, hlimit⟩ := frame_processed hprocessed
    exact ⟨htimeout.trans hquiet.timeout, by rw [hlimit, hquiet.messageQueue]⟩
  | receive message hclock hprocessed =>
    obtain ⟨htimeout, hlimit⟩ := frame_processed hprocessed
    exact ⟨htimeout, hlimit.trans (LimitQueue.push_maxSize _ _)⟩

theorem kept_step {timeout : Milliseconds} {input : Option (ModbusMessage β)}
    (h : Kept frame timeout v) (hs : Step frame clock v input v') : Kept frame timeout v' where
  timeout := (frame_step hs).1.trans h.timeout
  limit := (frame_step hs).2.trans h.limit
  alive := alive_step h.alive hs
  sound := sound_steps h.sound (desk_step h.limit hs)

/-- Only the request that the event receives arrives. -/
theorem arrived_step {input : Option (ModbusMessage β)} (hs : Step frame clock v input v') :
    v'.desk.arrived = v.desk.arrived ++ input.toList := by
  have hquiet : ∀ {v v' : MasterView β}, Quiet v v' → v'.desk.arrived = v.desk.arrived :=
    fun hq => by rcases desk_quiet hq with heq | heq <;> rw [heq]
  have hprocessed : ∀ {v v' : MasterView β} {now}, Processed frame now v v' →
      v'.desk.arrived = v.desk.arrived := fun hp => by
    cases hp with
    | quiet hq => exact hquiet hq
    | expired => rw [desk_popExpired]
    | started id hcur hfront => rw [desk_start, desk_popExpired]
  cases hs with
  | quiet hq => rw [hquiet hq, Option.toList_none, List.append_nil]
  | process hclock hq hp => rw [hprocessed hp, hquiet hq, Option.toList_none, List.append_nil]
  | receive message hclock hp =>
    rw [hprocessed hp]
    simp [desk, push, MasterEffect.arrival]

/-- The requests that the desk has served are those that have been written. -/
theorem served_desk (v : MasterView β) : v.desk.served = (requests v.effects).map Prod.fst := by
  unfold desk Desk.served
  induction v.effects with
  | nil => rfl
  | cons e es ih =>
    rw [← List.singleton_append, requests_append, List.map_append, ← ih]
    cases e <;> rfl

end MasterView

open MasterView

/-- The queue discipline, in one state of a master: `arrived` are the requests passed to
`Receive`, oldest first. -/
structure QueueDiscipline (frame : ModbusMessage β → TransactionId → β) (v : MasterView β)
    (arrived : List (ModbusMessage β)) : Prop where
  /-- The desk has been given the requests received. -/
  arrivals : v.desk.arrived = arrived
  /-- Each of them is in exactly one place, and the queue holds those that are queued. -/
  orderly : v.desk.Orderly
  /-- The current message is the request being served, framed. -/
  current : ∀ current, v.currentMessage = some current → ∃ message,
    v.desk.serving = some message ∧
    current.modbusMessage = ⟨message.modbusMessageInfo, frame message current.id⟩
  /-- Without a current message none is being served. -/
  free : v.currentMessage = none → v.desk.serving = none
  /-- The requests put on the wire are, in order, some of those received. -/
  wire : List.Sublist ((requests v.effects).map Prod.fst) arrived

theorem queueDiscipline_of_kept {frame : ModbusMessage β → TransactionId → β}
    {timeout : Milliseconds} {v : MasterView β} {arrived : List (ModbusMessage β)}
    (h : Kept frame timeout v) (harrived : v.desk.arrived = arrived) :
    QueueDiscipline frame v arrived where
  arrivals := harrived
  orderly := h.sound.orderly
  current current hcur := by
    obtain ⟨message, hlast, hframed⟩ := h.alive.current current hcur
    refine ⟨message, ?_, hframed⟩
    simp [desk, hcur, hlast]
  free hnone := by simp [desk, hnone]
  wire := by
    rw [← served_desk, ← harrived]
    exact h.sound.orderly.served

/-! ### Both masters -/

theorem ModbusTcpClient.kept_new (mb : Modbus β) (timeout : Milliseconds) :
    Control (new timeout : ModbusTcpClient β) ∧
      Kept (frame mb) timeout (new timeout : ModbusTcpClient β).view := by
  refine ⟨control_new timeout, rfl, rfl, .of_idle rfl rfl, ⟨rfl, ?_⟩⟩
  intro a h; cases h

theorem ModbusTcpClient.kept_event {mb : Modbus β} {timeout : Milliseconds}
    {c c' : ModbusTcpClient β} {e : Event β} (h : Control c ∧ Kept (frame mb) timeout c.view)
    (hs : step mb c e = some c') : Control c' ∧ Kept (frame mb) timeout c'.view :=
  ⟨control_step h.1 hs, kept_step h.2 (view_step h.1 hs)⟩

theorem ModbusTcpClient.kept_exec {mb : Modbus β} {timeout : Milliseconds}
    {es : List (ModbusTcpClient.Event β)} {c : ModbusTcpClient β}
    (hrun : exec (ModbusTcpClient.step mb) (.new timeout) es = some c) :
    (Control c ∧ Kept (frame mb) timeout c.view) ∧
      c.view.desk.arrived = es.filterMap Event.message := by
  have hnew := kept_new mb timeout
  refine ⟨invariant (fun _ _ _ => kept_event) es _ _ hnew hrun, ?_⟩
  exact exec_collect (f := fun s => s.view.desk.arrived) (fun _ _ _ => kept_event)
    (fun s e s' h hs => arrived_step (view_step h.1 hs)) es _ _ hnew hrun

theorem ModbusRtuMaster.kept_exec {mb : Modbus β} {timeout : Milliseconds} {frameType : FrameType}
    {es : List (ModbusRtuMaster.Event β)} {m : ModbusRtuMaster β}
    (hrun : exec (ModbusRtuMaster.step mb) (.new timeout frameType) es = some m) :
    (Control m ∧ m.frameType = frameType ∧ Kept (frame mb frameType) timeout m.view) ∧
      m.view.desk.arrived = es.filterMap Event.message := by
  have hstep : ∀ s e s',
      Control s ∧ s.frameType = frameType ∧ Kept (frame mb frameType) timeout s.view →
      ModbusRtuMaster.step mb s e = some s' →
      Control s' ∧ s'.frameType = frameType ∧ Kept (frame mb frameType) timeout s'.view := by
    rintro s e s' ⟨hctl, rfl, h⟩ hs
    exact ⟨control_step hctl hs, frameType_step hctl hs, kept_step h (view_step hctl hs)⟩
  have hnew : Control (new timeout frameType : ModbusRtuMaster β) ∧ frameType = frameType ∧
      Kept (frame mb frameType) timeout (new timeout frameType : ModbusRtuMaster β).view := by
    refine ⟨control_new timeout frameType, rfl, rfl, rfl, .of_idle rfl rfl, ⟨rfl, ?_⟩⟩
    intro a h; cases h
  refine ⟨invariant hstep es _ _ hnew hrun, ?_⟩
  refine exec_collect (f := fun s => s.view.desk.arrived) hstep ?_ es _ _ hnew hrun
  rintro s e s' ⟨hctl, rfl, -⟩ hs
  exact arrived_step (view_step hctl hs)

/-- **The queue discipline of both masters.**  In every state of every run the requests
received so far are each in exactly one place; every step moves them only to places they
can get to, drops only requests for which `TimeoutReached` is true, and writes only
requests for which it is false. -/
theorem queueDiscipline_exec {β : Type} (mb : Modbus β) (timeout : Milliseconds) :
    (∀ es c, exec (ModbusTcpClient.step mb) (.new timeout) es = some c →
      QueueDiscipline (ModbusTcpClient.frame mb) c.view
        (es.filterMap ModbusTcpClient.Event.message) ∧
      ∀ e c', c.step mb e = some c' →
        Advances (Late timeout e.clock) (InTime timeout e.clock) c.view.desk c'.view.desk) ∧
    (∀ frameType es m, exec (ModbusRtuMaster.step mb) (.new timeout frameType) es = some m →
      QueueDiscipline (ModbusRtuMaster.frame mb frameType) m.view
        (es.filterMap ModbusRtuMaster.Event.message) ∧
      ∀ e m', m.step mb e = some m' →
        Advances (Late timeout e.clock) (InTime timeout e.clock) m.view.desk m'.view.desk) := by
  constructor
  · intro es c hrun
    obtain ⟨⟨hctl, hkept⟩, harrived⟩ := ModbusTcpClient.kept_exec hrun
    refine ⟨queueDiscipline_of_kept hkept harrived, fun e c' hs => ?_⟩
    have hsteps := desk_step hkept.limit (ModbusTcpClient.view_step hctl hs)
    rw [hkept.timeout] at hsteps
    exact advances_of_steps hkept.sound hsteps
  · intro frameType es m hrun
    obtain ⟨⟨hctl, rfl, hkept⟩, harrived⟩ := ModbusRtuMaster.kept_exec hrun
    refine ⟨queueDiscipline_of_kept hkept harrived, fun e m' hs => ?_⟩
    have hsteps := desk_step hkept.limit (ModbusRtuMaster.view_step hctl hs)
    rw [hkept.timeout] at hsteps
    exact advances_of_steps hkept.sound hsteps

/-- Two requests of either master, the first in process and the second in the queue. -/
theorem queueDiscipline_queued :
    ∃ c m,
      exec (ModbusTcpClient.step Frame.library) (.new 1000) ModbusTcpClient.queuedRun = some c ∧
      exec (ModbusRtuMaster.step Frame.library) (.new 1000 .RTU) ModbusRtuMaster.queuedRun =
        some m ∧
      QueueDiscipline (ModbusTcpClient.frame Frame.library) c.view
        [Frame.readRequest 5 9 1, Frame.readRequest 6 9 1] ∧
      QueueDiscipline (ModbusRtuMaster.frame Frame.library .RTU) m.view
        [Frame.readRequest 5 9 1, Frame.readRequest 6 9 1] := by
  obtain ⟨htcp, hrtu⟩ := queueDiscipline_exec Frame.library 1000
  exact ⟨_, _, rfl, rfl, (htcp ModbusTcpClient.queuedRun _ rfl).1,
    (hrtu .RTU ModbusRtuMaster.queuedRun _ rfl).1⟩

end ModbusGateway
