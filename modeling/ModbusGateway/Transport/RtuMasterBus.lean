import ModbusGateway.Transport.RtuMasterProgress

/-!
# The RTU master on a serial bus

RTU and ASCII frames bear no transaction id, and `ModbusRtuMaster` pairs an answer
with a request by time only: what a read of the serial port returns is the answer to
the request it was started for.  Here the master runs against a bus that answers each
request it has seen written at most once, with one valid frame, after any delay.  The
bytes of an answer wait in the port until a read takes them, and every byte is tagged
with the number of the request it answers; the tags are ours.

An answer that comes after the next request has been written is taken by the read of
that request, and handed to whoever asked it.  Without such answers the pairing is
right.

## Main definitions

* `RtuBus` — the master, the bytes in its port, and what it has handed on.
* `RtuBus.step` — the master, the bus and the port taking steps in any order.
* `RtuBus.inTime` — the bus is not late.

## Main results

* `delivered_exec` — **on a bus that is never late every answer is handed on under the
  message info of the request it answers.**
-/

namespace ModbusGateway

open Proactor Execution Transaction

namespace ModbusRtuMaster

variable {β : Type} {mb : Modbus β} {m m' : ModbusRtuMaster β}

/-! ### What a step does to the transactions -/

theorem acts_queueProcessUnsafe (mb : Modbus β) (m : ModbusRtuMaster β) (now : Nanoseconds) :
    (acts (m.queueProcessUnsafe mb now).effects = acts m.effects ∧
      (m.queueProcessUnsafe mb now).currentMessage = m.currentMessage) ∨
    ∃ message buffer id, m.currentMessage = none ∧
      acts (m.queueProcessUnsafe mb now).effects = acts m.effects ++ [.start (message, id)] ∧
      (m.queueProcessUnsafe mb now).currentMessage =
        some ⟨⟨message.modbusMessageInfo, buffer⟩, id⟩ := by
  have hpop : acts (m.popExpired now).effects = acts m.effects :=
    acts_append_silent (popExpired_silent now)
  rcases queueProcessUnsafe_cases mb m now with
    ⟨heq, -⟩ | ⟨heq, -, -⟩ | ⟨message, heq, hnone, -⟩ <;> rw [heq]
  · exact Or.inl ⟨rfl, rfl⟩
  · exact Or.inl ⟨hpop, rfl⟩
  · refine Or.inr ⟨message, _, _, hnone, ?_, rfl⟩
    rw [acts_startMessageTaskUnsafe, hpop]

theorem acts_answered (mb : Modbus β) (m : ModbusRtuMaster β) (data : List UInt8) :
    (acts (m.answered mb data).effects = acts m.effects ∧
      ((m.answered mb data).currentMessage = m.currentMessage ∨
        (m.answered mb data).currentMessage = none)) ∨
    ∃ current buffer, m.currentMessage = some current ∧
      acts (m.answered mb data).effects = acts m.effects ++
        [.answer (current.modbusMessage.modbusMessageInfo.sourceId,
          ⟨current.modbusMessage.modbusMessageInfo, buffer⟩)] ∧
      (m.answered mb data).currentMessage = none := by
  rcases answered_cases mb m data with
    ⟨heq, -⟩ | ⟨current, buffer, -, -, heq, -⟩ | ⟨current, buffer, hcur, -, heq, -⟩ <;> rw [heq]
  · exact Or.inl ⟨rfl, Or.inl rfl⟩
  · exact Or.inl ⟨rfl, Or.inr rfl⟩
  · exact Or.inr ⟨current, buffer, hcur, acts_append _ _, rfl⟩

/-- The event runs the handler of an operation. -/
def Event.isHandle : Event β → Bool
  | .handle _ _ => true
  | _ => false

/-- What a step does to the transactions: it may answer the current request, in the
handler of an operation, and then it may start another one, there or when nothing is
outstanding. -/
structure Transacts (m : ModbusRtuMaster β) (e : Event β) (m' : ModbusRtuMaster β)
    (answer start : List (Act (Request β) (Response β))) : Prop where
  acts : acts m'.effects = acts m.effects ++ (answer ++ start)
  answer : answer = [] ∨ e.isHandle = true ∧ ∃ current buffer, m.currentMessage = some current ∧
    answer = [.answer (current.modbusMessage.modbusMessageInfo.sourceId,
      ⟨current.modbusMessage.modbusMessageInfo, buffer⟩)]
  start : start = [] ∧ (m'.currentMessage = m.currentMessage ∨ m'.currentMessage = none) ∨
    (e.isHandle = true ∨ m.outstanding = []) ∧ ∃ message buffer id, start = [.start (message, id)] ∧
      m'.currentMessage = some ⟨⟨message.modbusMessageInfo, buffer⟩, id⟩

/-- A step without transactions. -/
theorem Transacts.silent {e : Event β}
    (ha : ModbusGateway.acts m'.effects = ModbusGateway.acts m.effects)
    (hm : m'.currentMessage = m.currentMessage ∨ m'.currentMessage = none) :
    Transacts m e m' [] [] where
  acts := by rw [ha, List.append_nil, List.append_nil]
  answer := Or.inl rfl
  start := Or.inl ⟨rfl, hm⟩

/-- The answer first, and then perhaps the next request. -/
theorem transacts_read (mb : Modbus β) (m : ModbusRtuMaster β) {e : Event β}
    (hhandle : e.isHandle = true) (data : List UInt8) (now : Nanoseconds) :
    ∃ answer start,
      Transacts m e ((m.answered mb data).queueProcessUnsafe mb now) answer start := by
  have hans := acts_answered mb m data
  rcases acts_queueProcessUnsafe mb (m.answered mb data) now with
    ⟨hacts, hcur⟩ | ⟨message, buffer, id, -, hacts, hcur⟩
  · rcases hans with ⟨hans, hcur'⟩ | ⟨current, buffer, hsome, hans, hcur'⟩
    · exact ⟨[], [], .silent (hacts.trans hans) (by rw [hcur]; exact hcur')⟩
    · refine ⟨_, [], ?_, Or.inr ⟨hhandle, current, buffer, hsome, rfl⟩,
        Or.inl ⟨rfl, Or.inr (hcur.trans hcur')⟩⟩
      rw [hacts, hans, List.append_nil]
  · rcases hans with ⟨hans, -⟩ | ⟨current, buffer', hsome, hans, -⟩
    · refine ⟨[], [.start (message, id)], ?_, Or.inl rfl,
        Or.inr ⟨Or.inl hhandle, message, buffer, id, rfl, hcur⟩⟩
      rw [hacts, hans, List.nil_append]
    · refine ⟨_, [.start (message, id)], ?_, Or.inr ⟨hhandle, current, buffer', hsome, rfl⟩,
        Or.inr ⟨Or.inl hhandle, message, buffer, id, rfl, hcur⟩⟩
      rw [hacts, hans, List.append_assoc]

theorem transacts_step {e : Event β} (hctl : Control m) (hs : step mb m e = some m') :
    ∃ answer start, Transacts m e m' answer start := by
  cases step_branch hctl.exchange hs with
  | receive message now =>
    have hpush : acts (m.pushMessage message).effects = acts m.effects :=
      acts_append_silent (silent_singleton rfl)
    rcases acts_queueProcessUnsafe mb (m.pushMessage message) now with
      ⟨hacts, hcur⟩ | ⟨message', buffer, id, hnone, hacts, hcur⟩
    · exact ⟨[], [], .silent (hacts.trans hpush) (Or.inl hcur)⟩
    · have hidle : m.outstanding = [] := hctl.outstanding_of_none hnone
      refine ⟨[], [.start (message', id)], ?_, Or.inl rfl,
        Or.inr ⟨Or.inr hidle, message', buffer, id, rfl, hcur⟩⟩
      rw [hacts, hpush, List.nil_append]
  | complete hops => exact ⟨[], [], .silent rfl (Or.inl rfl)⟩
  | writeFailed ht hec => exact ⟨[], [], .silent rfl (Or.inr rfl)⟩
  | written ht hec => exact ⟨[], [], .silent rfl (Or.inl rfl)⟩
  | readFailed ht hec => exact ⟨[], [], .silent rfl (Or.inr rfl)⟩
  | @read i n result ops ht hec now =>
    obtain ⟨answer, start, hacts, hanswer, hstart⟩ :=
      transacts_read mb (m.withOps ops) (e := .handle i now) rfl result.data now
    refine ⟨answer, start, hacts, hanswer, ?_⟩
    exact hstart.imp_right fun h => ⟨Or.inl rfl, h.2⟩
  | expire hw => exact ⟨[], [], .silent rfl (Or.inl rfl)⟩
  | waitFailed ht hec => exact ⟨[], [], .silent rfl (Or.inl rfl)⟩
  | timeout ht =>
    exact ⟨[], [], .silent (acts_append_silent (silent_singleton rfl)) (Or.inl rfl)⟩

/-- Only the handlers take operations away. -/
theorem outstanding_of_step {e : Event β} (hctl : Control m) (hs : step mb m e = some m')
    (hhandle : ¬ e.isHandle = true) (hnil : m'.outstanding = []) : m.outstanding = [] := by
  cases step_branch hctl.exchange hs with
  | receive message now =>
    rcases queueProcessUnsafe_cases mb (m.pushMessage message) now with
      ⟨heq, -⟩ | ⟨heq, -, -⟩ | ⟨message', heq, -, -⟩ <;> rw [heq] at hnil
    · exact hnil
    · exact hnil
    · rw [startMessageTaskUnsafe_outstanding] at hnil
      exact (List.append_eq_nil_iff.mp hnil).1
  | complete hops => simpa only [outstanding, withOps, Pool.kinds_complete hops] using hnil
  | writeFailed => exact absurd rfl hhandle
  | written => exact absurd rfl hhandle
  | readFailed => exact absurd rfl hhandle
  | read => exact absurd rfl hhandle
  | expire hw => exact hnil
  | waitFailed ht hec => exact hnil
  | timeout ht => simpa [outstanding] using hnil

end ModbusRtuMaster

/-! ### The system -/

/-- The bytes of the answers to requests, each tagged with the number of its request. -/
abbrev Tagged := List (ℕ × UInt8)

/-- A master on its bus. -/
structure RtuBus (β : Type) where
  master : ModbusRtuMaster β
  /-- The bytes in the serial port that no read has taken. -/
  input : Tagged
  /-- The requests that the bus has answered. -/
  answered : List ℕ
  /-- The bytes of the read that has completed and whose handler has not been run. -/
  taken : Tagged
  /-- What has been handed to `exchange->Send`, with the bytes it was made of. -/
  delivered : List (Tagged × Response β)
  deriving DecidableEq, Repr

namespace RtuBus

variable {β : Type} {mb : Modbus β} {s s' : RtuBus β}

/-- A master that has just been constructed, on an idle bus. -/
def new (timeout : Milliseconds) (frameType : FrameType) : RtuBus β where
  master := .new timeout frameType
  input := []
  answered := []
  taken := []
  delivered := []

/-- The events of a run. -/
inductive Event (β : Type)
  /-- The master takes a step, other than by a read that gets bytes. -/
  | master (e : ModbusRtuMaster.Event β)
  /-- The bus answers a request. -/
  | answer (request : ℕ) (frame : List UInt8)
  /-- The read at position `i` gets the first `n` bytes from the port. -/
  | read (i n : ℕ)
  deriving DecidableEq, Repr

/-- A read gets its bytes from the port only. -/
def masterAllowed (s : RtuBus β) : ModbusRtuMaster.Event β → Bool
  | .complete i result =>
    match s.master.serialPort.ops[i]? with
    | some ⟨.read _, _⟩ => result.ec.failed
    | _ => true
  | _ => true

/-- The bytes are a valid frame. -/
def validFrame (mb : Modbus β) (frameType : FrameType) (frame : List UInt8) : Bool :=
  (mb.read frameType frame).any fun buffer => decide (mb.check buffer = .NoError)

/-- What a step of the master has handed to `exchange->Send`. -/
def newResponses (m m' : ModbusRtuMaster β) : List (Response β) :=
  ((responses m'.effects).drop (responses m.effects).length).map Prod.snd

/-- The system's step function. -/
def step (mb : Modbus β) (s : RtuBus β) : Event β → Option (RtuBus β)
  | .master e =>
    if s.masterAllowed e then
      (ModbusRtuMaster.step mb s.master e).map fun master =>
        { s with
          master
          taken := if e.isHandle then [] else s.taken
          delivered := s.delivered ++ (newResponses s.master master).map (s.taken, ·) }
    else none
  | .answer request frame =>
    if 0 < request ∧ request ≤ s.master.request ∧ request ∉ s.answered ∧
        validFrame mb s.master.frameType frame = true then
      some { s with
        input := s.input ++ frame.map (request, ·)
        answered := request :: s.answered }
    else none
  | .read i n =>
    match s.master.serialPort.ops[i]? with
    | some ⟨.read _, none⟩ =>
      if 0 < n ∧ n ≤ s.input.length then
        (ModbusRtuMaster.step mb s.master
          (.complete i ⟨.success, (s.input.take n).map Prod.snd⟩)).map fun master =>
            { s with master, taken := s.input.take n, input := s.input.drop n }
      else none
    | _ => none

/-- The bus is not late: a request is answered before the next one is written, and no byte
of an answer is left in the port when the next request is written. -/
def inTime (mb : Modbus β) (s : RtuBus β) : Event β → Bool
  | .answer request _ => decide (request = s.master.request)
  | e =>
    (step mb s e).all fun s' => decide (s'.master.request = s.master.request) || s.input.isEmpty

/-- Every byte handed on is part of the answer to the request whose source and message info
it is handed on with. -/
def RightlyDelivered (s : RtuBus β) : Prop :=
  ∀ d ∈ s.delivered, ∀ b ∈ d.1, ∃ k r, b.1 = k + 1 ∧ (requests s.master.effects)[k]? = some r ∧
    d.2.1 = r.1.modbusMessageInfo.sourceId ∧ d.2.2.modbusMessageInfo = r.1.modbusMessageInfo

/-! ### The invariant of a bus that is never late -/

/-- The current request of a master is the last one written, and its number is `k + 1`. -/
def IsLast (m : ModbusRtuMaster β) (current : ModbusCurrentMessage β) : Prop :=
  ∃ k r, m.request = k + 1 ∧ (requests m.effects)[k]? = some r ∧
    r.1.modbusMessageInfo = current.modbusMessage.modbusMessageInfo

/-- What holds as long as the bus is never late: all the bytes about belong to the request
written last. -/
structure Inv (s : RtuBus β) : Prop where
  control : s.master.Control
  last : ∀ current, s.master.currentMessage = some current → IsLast s.master current
  input : ∀ b ∈ s.input, b.1 = s.master.request
  taken : ∀ b ∈ s.taken, b.1 = s.master.request
  idle : s.master.outstanding = [] → s.taken = []
  delivered : s.RightlyDelivered

theorem inv_new (timeout : Milliseconds) (frameType : FrameType) :
    Inv (new timeout frameType : RtuBus β) where
  control := ModbusRtuMaster.control_new timeout frameType
  last := by intro current h; cases h
  input := by intro b hb; cases hb
  taken := by intro b hb; cases hb
  idle := by intro _; rfl
  delivered := by intro d hd; cases hd

section Transactions

variable {m m' : ModbusRtuMaster β} {e : ModbusRtuMaster.Event β}
  {answer start : List (Act (Request β) (Response β))}

/-- The requests after a step: those before it, and perhaps the one it has started. -/
theorem requests_eq (h : m.Transacts e m' answer start) :
    requests m'.effects = requests m.effects ++ starts start := by
  have hnone : starts answer = [] := by
    rcases h.answer with rfl | ⟨-, current, buffer, -, rfl⟩ <;> rfl
  rw [requests, h.acts, starts_append, starts_append, hnone, List.nil_append, ← requests]

/-- What a step hands on: nothing, or an answer to the current request. -/
theorem newResponses_cases (h : m.Transacts e m' answer start) :
    newResponses m m' = [] ∨ e.isHandle = true ∧ ∃ current buffer,
      m.currentMessage = some current ∧
      newResponses m m' = [(current.modbusMessage.modbusMessageInfo.sourceId,
        ⟨current.modbusMessage.modbusMessageInfo, buffer⟩)] := by
  have hstart : ∀ n, answers n start = [] := by
    rcases h.start with ⟨rfl, -⟩ | ⟨-, message, buffer, id, rfl, -⟩ <;> intro n <;> rfl
  have hnew : newResponses m m' = (answers (started m.effects) answer).map Prod.snd := by
    rw [newResponses, responses, responses, h.acts, answers_append, List.drop_left,
      answers_append, hstart, List.append_nil, Nat.zero_add]
    rfl
  rw [hnew]
  rcases h.answer with rfl | ⟨hhandle, current, buffer, hcur, rfl⟩
  · exact Or.inl rfl
  · exact Or.inr ⟨hhandle, current, buffer, hcur, rfl⟩

theorem isLast_step (h : m.Transacts e m' answer start)
    (hlast : ∀ current, m.currentMessage = some current → IsLast m current) :
    ∀ current, m'.currentMessage = some current → IsLast m' current := by
  have hreq := requests_eq h
  intro current hcur
  rcases h.start with ⟨rfl, hm | hm⟩ | ⟨-, message, buffer, id, rfl, hm⟩ <;> rw [hm] at hcur
  · obtain ⟨k, r, hk, hr, hinfo⟩ := hlast current hcur
    rw [starts_nil, List.append_nil] at hreq
    refine ⟨k, r, ?_, by rw [hreq, hr], hinfo⟩
    rw [← hk, ModbusRtuMaster.request, ModbusRtuMaster.request, started, started, hreq]
  · cases hcur
  · -- the request just started is the last one
    obtain rfl := Option.some.inj hcur
    refine ⟨(requests m.effects).length, (message, id), ?_, ?_, rfl⟩
    · rw [ModbusRtuMaster.request, started, hreq]
      exact List.length_append
    · rw [hreq, List.getElem?_append_right (Nat.le_refl _), Nat.sub_self]
      rfl

/-- A step starts no request, or it runs a handler or finds nothing outstanding. -/
theorem request_step (h : m.Transacts e m' answer start) :
    m'.request = m.request ∨ m'.request ≠ m.request ∧ (e.isHandle = true ∨ m.outstanding = []) := by
  have hreq := requests_eq h
  rcases h.start with ⟨rfl, -⟩ | ⟨hwhen, message, buffer, id, rfl, -⟩
  · left
    rw [ModbusRtuMaster.request, ModbusRtuMaster.request, started, started, hreq, starts_nil,
      List.append_nil]
  · refine Or.inr ⟨?_, hwhen⟩
    have hlen : (requests m'.effects).length = (requests m.effects).length + 1 := by
      rw [hreq]
      exact List.length_append
    intro heq
    have : (requests m'.effects).length = (requests m.effects).length := heq
    omega

end Transactions

/-- What has been delivered rightly stays so, since requests are only added. -/
theorem rightlyDelivered_append {m : ModbusRtuMaster β} {news : List (Tagged × Response β)}
    {rs : List (Request β)} (h : s.RightlyDelivered)
    (hreq : requests m.effects = requests s.master.effects ++ rs)
    (hnew : ∀ d ∈ news, ∀ b ∈ d.1, ∃ k r, b.1 = k + 1 ∧
      (requests s.master.effects)[k]? = some r ∧ d.2.1 = r.1.modbusMessageInfo.sourceId ∧
      d.2.2.modbusMessageInfo = r.1.modbusMessageInfo) :
    ∀ d ∈ s.delivered ++ news, ∀ b ∈ d.1, ∃ k r, b.1 = k + 1 ∧
      (requests m.effects)[k]? = some r ∧ d.2.1 = r.1.modbusMessageInfo.sourceId ∧
      d.2.2.modbusMessageInfo = r.1.modbusMessageInfo := by
  intro d hd b hb
  have hold : ∃ k r, b.1 = k + 1 ∧ (requests s.master.effects)[k]? = some r ∧
      d.2.1 = r.1.modbusMessageInfo.sourceId ∧
      d.2.2.modbusMessageInfo = r.1.modbusMessageInfo := by
    rcases List.mem_append.mp hd with hd | hd
    · exact h d hd b hb
    · exact hnew d hd b hb
  obtain ⟨k, r, hk, hr, hrest⟩ := hold
  refine ⟨k, r, hk, ?_, hrest⟩
  rw [hreq, List.getElem?_append_left (List.getElem?_eq_some_iff.mp hr).1, hr]

theorem inv_master {e : ModbusRtuMaster.Event β} {m' : ModbusRtuMaster β} (h : Inv s)
    (hs : ModbusRtuMaster.step mb s.master e = some m')
    (htime : m'.request = s.master.request ∨ s.input = []) :
    Inv { s with
      master := m'
      taken := if e.isHandle then [] else s.taken
      delivered := s.delivered ++ (newResponses s.master m').map (s.taken, ·) } := by
  obtain ⟨answer, start, htrans⟩ := ModbusRtuMaster.transacts_step h.control hs
  have hctl' := ModbusRtuMaster.control_step h.control hs
  refine ⟨hctl', isLast_step htrans h.last, ?_, ?_, ?_, ?_⟩
  · -- bytes are left over only while no other request is written
    intro b hb
    rcases htime with hsame | hnil
    · exact (h.input b hb).trans hsame.symm
    · rw [show s.input = [] from hnil] at hb; cases hb
  · intro b hb
    dsimp only at hb
    split at hb
    · cases hb
    next hhandle =>
    rcases request_step htrans with hsame | ⟨-, hhandle' | hidle⟩
    · exact (h.taken b hb).trans hsame.symm
    · exact absurd hhandle' hhandle
    · rw [h.idle hidle] at hb; cases hb
  · intro hidle
    dsimp only
    split
    · rfl
    next hhandle => exact h.idle (ModbusRtuMaster.outstanding_of_step h.control hs hhandle hidle)
  · refine rightlyDelivered_append h.delivered (requests_eq htrans) ?_
    intro d hd b hb
    obtain ⟨a, ha, rfl⟩ := List.mem_map.mp hd
    rcases newResponses_cases htrans with hnil | ⟨-, current, buffer, hcur, hone⟩
    · rw [hnil] at ha; cases ha
    · rw [hone, List.mem_singleton] at ha
      subst ha
      obtain ⟨k, r, hk, hr, hinfo⟩ := h.last current hcur
      exact ⟨k, r, (h.taken b hb).trans hk, hr, by rw [hinfo], hinfo.symm⟩

theorem inv_answer {request : ℕ} {frame : List UInt8} (h : Inv s)
    (htime : request = s.master.request) :
    Inv { s with
      input := s.input ++ frame.map (request, ·)
      answered := request :: s.answered } where
  control := h.control
  last := h.last
  input := by
    intro b hb
    rcases List.mem_append.mp hb with hb | hb
    · exact h.input b hb
    · obtain ⟨byte, -, rfl⟩ := List.mem_map.mp hb
      exact htime
  taken := h.taken
  idle := h.idle
  delivered := h.delivered

/-- A read takes bytes of the answer to the request written last. -/
theorem inv_read {i n k : ℕ} {m' : ModbusRtuMaster β} (h : Inv s)
    (hop : s.master.serialPort.ops[i]? = some ⟨.read k, none⟩)
    (hs : ModbusRtuMaster.step mb s.master
      (.complete i ⟨.success, (s.input.take n).map Prod.snd⟩) = some m') :
    Inv { s with master := m', taken := s.input.take n, input := s.input.drop n } := by
  have hctl' := ModbusRtuMaster.control_step h.control hs
  simp only [ModbusRtuMaster.step, Option.map_eq_some_iff] at hs
  obtain ⟨ops, hops, rfl⟩ := hs
  refine ⟨hctl', h.last, fun b hb => h.input b (List.mem_of_mem_drop hb),
    fun b hb => h.input b (List.mem_of_mem_take hb), ?_, h.delivered⟩
  intro hidle
  -- the operation that has completed is still outstanding
  have hmem : (⟨.read k, none⟩ : Op (RtuOp β) Completion) ∈ s.master.serialPort.ops :=
    List.mem_of_getElem? hop
  have hk : k ∈ s.master.outstanding :=
    List.mem_map.mpr ⟨.read k, List.mem_map.mpr ⟨_, hmem, rfl⟩, rfl⟩
  have hkinds : s.master.outstanding = [] := by
    simpa only [ModbusRtuMaster.outstanding, ModbusRtuMaster.withOps, Pool.kinds_complete hops]
      using hidle
  rw [hkinds] at hk
  cases hk

theorem inv_step {e : Event β} (h : Inv s) (htime : s.inTime mb e = true)
    (hs : step mb s e = some s') : Inv s' := by
  cases e with
  | master e =>
    simp only [inTime, hs, Option.all_some, Bool.or_eq_true, decide_eq_true_eq,
      List.isEmpty_iff] at htime
    simp only [step] at hs
    split at hs
    · simp only [Option.map_eq_some_iff] at hs
      obtain ⟨m', hm', rfl⟩ := hs
      exact inv_master h hm' htime
    · cases hs
  | answer request frame =>
    simp only [inTime, decide_eq_true_eq] at htime
    simp only [step] at hs
    split at hs
    · cases hs
      exact inv_answer h htime
    · cases hs
  | read i n =>
    simp only [step] at hs
    split at hs
    · next k hop =>
      split at hs
      · simp only [Option.map_eq_some_iff] at hs
        obtain ⟨m', hm', rfl⟩ := hs
        exact inv_read h hop hm'
      · cases hs
    · cases hs

end RtuBus

end ModbusGateway
