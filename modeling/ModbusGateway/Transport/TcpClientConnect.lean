import ModbusGateway.Transport.TcpClientProgress

/-!
# How the TCP client connects

`ModbusTcpClient::State` has a value for a connect under way, and `QueueProcessUnsafe`
waits in it, but no function assigns it: while the connect is outstanding the client
stays `Idle`, and every request received in that time starts another one.  Whatever
arrives first completes the connection, and the handlers of the others rewrite the
state in the middle of a request.

What the client needs is that no request is received while it connects.  Then it has
two phases: either a connect is all that is outstanding and the client is idle, or no
connect is outstanding, and an idle client has no connection.

## Main definitions

* `Linked` — a client with whether its socket is connected, and `Linked.step`.
* `waitConnectExact`, `connectSingle` — what the states and the connects should be.
* `receiveUnconnecting` — no request is received while a connect is outstanding.
* `Phase`, `Single` — the two phases, and the invariant.

## Main results

* `single_step` — every step that receives nothing while connecting keeps the invariant.
* `connects_along` — **the client connects as its states say in no run that receives a
  request, and it connects once at a time in exactly the runs that receive none while a
  connect is outstanding.**
-/

namespace ModbusGateway

open Proactor Execution

/-- The start of a connect. -/
def MasterEffect.isConnect {β : Type} : MasterEffect β → Bool
  | .connect => true
  | _ => false

namespace ModbusTcpClient

variable {β : Type} {mb : Modbus β} {c c' : ModbusTcpClient β}

/-- The outstanding connects. -/
def connectOps (c : ModbusTcpClient β) : List (ClientOp β) :=
  c.socket.ops.kinds.filter (·.data.isNone)

/-- How many connects have been started. -/
def connectsStarted (c : ModbusTcpClient β) : ℕ := c.effects.countP MasterEffect.isConnect

/-- The event completes a connect without an error. -/
def completesConnect (c : ModbusTcpClient β) : Event β → Bool
  | .complete i result =>
    match c.socket.ops[i]? with
    | some ⟨.connect, none⟩ => !result.ec.failed
    | _ => false
  | _ => false

/-- The event runs the handler of a connect. -/
def handlesConnect (c : ModbusTcpClient β) : Event β → Bool
  | .handle i _ _ =>
    match c.socket.ops.take i with
    | some (.connect, _, _) => true
    | _ => false
  | _ => false

/-- A client, and whether its socket is connected: a connect has completed without an
error and the socket has not been closed since.  The second is ours. -/
structure Linked (β : Type) where
  client : ModbusTcpClient β
  connected : Bool

namespace Linked

/-- A new client. -/
def new (timeout : Milliseconds) : Linked β := ⟨.new timeout, false⟩

/-- The client's step function, with the connection. -/
def step (mb : Modbus β) (s : Linked β) (e : Event β) : Option (Linked β) :=
  (s.client.step mb e).map fun c =>
    ⟨c, (s.connected || s.client.completesConnect e) && c.socket.isOpen⟩

/-- After the event, `state_` is `WaitConnect` exactly while a connect is outstanding. -/
def waitConnectExact (mb : Modbus β) (s : Linked β) (e : Event β) : Bool :=
  (s.step mb e).all fun s' =>
    decide (s'.client.state = .WaitConnect ↔ s'.client.connectOps ≠ [])

/-- At most one connect is outstanding after the event; it starts none while the socket
is connected or a request is in process, and runs no connect handler while a request is. -/
def connectSingle (mb : Modbus β) (s : Linked β) (e : Event β) : Bool :=
  (s.step mb e).all fun s' =>
    decide (s'.client.connectOps.length ≤ 1) &&
    (decide (s'.client.connectsStarted = s.client.connectsStarted) ||
      !s.connected && s.client.currentMessage.isNone) &&
    (!s.client.handlesConnect e || s.client.currentMessage.isNone)

/-- The event receives no request. -/
def noReceive (_ : Linked β) : Event β → Bool
  | .receive _ _ => false
  | _ => true

/-- The event receives no request while a connect is outstanding. -/
def receiveUnconnecting (s : Linked β) : Event β → Bool
  | .receive _ _ => s.client.connectOps.isEmpty
  | _ => true

/-- The phases of a client that receives nothing while it connects. -/
inductive Phase (s : Linked β) : Prop
  /-- A connect is all that is outstanding; once the socket is connected, it has
  completed without an error. -/
  | connecting (result : Option Completion) (hops : s.client.socket.ops = [⟨.connect, result⟩])
      (hstate : s.client.state = .Idle) (hcur : s.client.currentMessage = none)
      (hlinked : s.connected = true → ∃ data, result = some ⟨.success, data⟩)
  /-- No connect is outstanding, and an idle client has no connection. -/
  | settled (hops : s.client.connectOps = [])
      (hidle : s.client.state = .Idle → s.client.currentMessage = none ∧ s.connected = false)

/-- The invariant of such a client. -/
structure Single (s : Linked β) : Prop where
  control : Control s.client
  phase : Phase s

end Linked

/-! ### The connects of the functions -/

theorem connectOps_nil : c.connectOps = [] ↔ ∀ op ∈ c.socket.ops.kinds, op.data.isSome = true := by
  simp [connectOps, List.filter_eq_nil_iff, Option.isSome_iff_ne_none]

/-- Without connects and data operations nothing is outstanding. -/
theorem ops_nil (hconnect : c.connectOps = []) (hdata : c.dataOps = []) : c.socket.ops = [] := by
  have hkinds : c.socket.ops.kinds = [] := by
    refine List.eq_nil_iff_forall_not_mem.mpr fun op hop => ?_
    have hsome := connectOps_nil.mp hconnect op hop
    obtain ⟨n, hn⟩ := Option.isSome_iff_exists.mp hsome
    have hmem : n ∈ c.dataOps := List.mem_filterMap.mpr ⟨op, hop, hn⟩
    rw [hdata] at hmem
    cases hmem
  exact List.map_eq_nil_iff.mp hkinds

/-- Operations may go, and data operations may come. -/
theorem connectOps_nil_mono (h : c.connectOps = [])
    (hsub : ∀ op ∈ c'.socket.ops.kinds, op ∈ c.socket.ops.kinds ∨ op.data.isSome = true) :
    c'.connectOps = [] := by
  refine connectOps_nil.mpr fun op hop => ?_
  rcases hsub op hop with hold | hdata
  · exact connectOps_nil.mp h op hold
  · exact hdata

theorem connectsStarted_note (es : List (MasterEffect β)) (h : ∀ e ∈ es, e.isConnect = false) :
    (c.note es).connectsStarted = c.connectsStarted := by
  have hzero : es.countP MasterEffect.isConnect = 0 :=
    List.countP_eq_zero.mpr fun e he => by simp [h e he]
  unfold connectsStarted note
  rw [List.countP_append, hzero, Nat.add_zero]

theorem connectsStarted_note_singleton {e : MasterEffect β} (he : e.isConnect = false) :
    (c.note [e]).connectsStarted = c.connectsStarted :=
  connectsStarted_note [e] fun e' h => by rw [List.mem_singleton.mp h, he]

/-- A connect is started by an idle client only. -/
theorem queueProcessUnsafe_connectsStarted (mb : Modbus β) (c : ModbusTcpClient β)
    (now : Nanoseconds) (hstate : c.state ≠ .Idle) :
    (c.queueProcessUnsafe mb now).connectsStarted = c.connectsStarted := by
  have hpop : (c.popExpired now).connectsStarted = c.connectsStarted := by
    refine connectsStarted_note _ fun e he => ?_
    obtain ⟨message, -, rfl⟩ := List.mem_map.mp he
    rfl
  rcases queueProcessUnsafe_cases mb c now with
    ⟨heq, -⟩ | ⟨-, hidle, -⟩ | ⟨heq, -, -, -⟩ | ⟨message, heq, -, -, -⟩
  · rw [heq]
  · exact absurd hidle hstate
  · rw [heq, hpop]
  · rw [heq, ← hpop]
    exact connectsStarted_note_singleton (c := { c.popExpired now with
      state := _, currentMessage := _, transactionIdGenerator := _, messageQueue := _ }) rfl

theorem received_connectsStarted (mb : Modbus β) (c : ModbusTcpClient β) (data : List UInt8) :
    (c.received mb data).connectsStarted = c.connectsStarted := by
  rcases received_cases mb c data with
    ⟨heq, -⟩ | ⟨current, buffer, -, -, heq, -⟩ | ⟨current, buffer, -, -, heq, -⟩ <;> rw [heq]
  · rfl
  · rfl
  · exact connectsStarted_note_singleton
      (c := { c with timer := _, state := _, currentMessage := _ }) rfl

/-- A client that is not idle stays so, and starts no connect. -/
theorem queueProcessUnsafe_settled (mb : Modbus β) (now : Nanoseconds) (h : c.connectOps = [])
    (hstate : c.state ≠ .Idle) :
    (c.queueProcessUnsafe mb now).connectOps = [] ∧
      (c.queueProcessUnsafe mb now).state ≠ .Idle := by
  rcases queueProcessUnsafe_cases mb c now with
    ⟨heq, -⟩ | ⟨-, hidle, -⟩ | ⟨heq, -, -, -⟩ | ⟨message, heq, -, -, -⟩
  · rw [heq]
    exact ⟨h, hstate⟩
  · exact absurd hidle hstate
  · rw [heq]
    exact ⟨h, hstate⟩
  · rw [heq]
    refine ⟨connectOps_nil_mono h fun op hop => ?_, by simp [startMessage]⟩
    -- the send of the request is the only new operation
    simp only [startMessage, note_socket, Stream.start_kinds, List.mem_append,
      List.mem_singleton] at hop
    exact hop.imp id fun heq => by rw [heq]; rfl

/-- An error that leaves the client idle closes its socket. -/
theorem dropCurrent_idle {ec : ErrorCode} (h : (c.dropCurrent ec).state = .Idle) :
    (c.dropCurrent ec).socket.isOpen = false := by
  unfold dropCurrent closeSocket at h ⊢
  dsimp only at h ⊢
  split
  · split
    · rfl
    · next hopen => exact Bool.eq_false_iff.mpr hopen
  · next hec =>
    rw [if_neg hec] at h
    cases h

/-! ### The phases -/

namespace Linked

variable {s s' : Linked β}

theorem single_new (timeout : Milliseconds) : Single (new timeout : Linked β) where
  control := control_new timeout
  phase := .settled rfl fun _ => ⟨rfl, rfl⟩

/-- A client that is not idle, without a connect. -/
theorem Phase.of_not_idle (hops : s.client.connectOps = []) (hstate : s.client.state ≠ .Idle) :
    Phase s :=
  .settled hops fun h => absurd h hstate

/-- The error exits lead to a settled state. -/
theorem phase_dropCurrent {ec : ErrorCode} (hops : c.connectOps = []) (linked : Bool) :
    Phase ⟨c.dropCurrent ec, linked && (c.dropCurrent ec).socket.isOpen⟩ := by
  obtain ⟨state, socket, heq, hkinds⟩ := dropCurrent_eq c ec
  refine .settled (connectOps_nil_mono hops fun op hop => Or.inl ?_) fun hstate => ⟨?_, ?_⟩
  · rw [heq] at hop
    exact hkinds ▸ hop
  · rw [heq]
  · rw [dropCurrent_idle hstate, Bool.and_false]

/-- What completes is no connect when none is outstanding. -/
theorem completesConnect_eq_false (hops : c.connectOps = []) (e : Event β) :
    c.completesConnect e = false := by
  unfold completesConnect
  split
  · split
    · next hget =>
      have hsome := connectOps_nil.mp hops _ (List.mem_map_of_mem (List.mem_of_getElem? hget))
      cases hsome
    · rfl
  · rfl

/-- An idle client that is settled starts to connect when it receives a request. -/
theorem phase_receive (hctl : Control c) (hops : c.connectOps = []) (hstate : c.state = .Idle)
    (hcur : c.currentMessage = none) (message : ModbusMessage β) (now : Nanoseconds) :
    Phase ⟨c.messageProcess mb message now, false⟩ := by
  unfold messageProcess
  rcases queueProcessUnsafe_cases mb (c.pushMessage message) now with
    ⟨heq, -⟩ | ⟨heq, -, -⟩ | ⟨-, hcon, -, -⟩ | ⟨_, -, hcon, -, -⟩
  · rw [heq]
    exact .settled hops fun _ => ⟨hcur, rfl⟩
  · -- the connect is all that is outstanding
    rw [heq]
    have hnil := ops_nil hops (hctl.dataOps_of_none hcur)
    refine .connecting none ?_ hstate hcur (by intro h; cases h)
    simp [startConnectTaskUnsafe, Stream.asyncConnect, pushMessage, note, hnil, Pool.start]
  · rw [show c.state = .Connected from hcon] at hstate
    cases hstate
  · rw [show c.state = .Connected from hcon] at hstate
    cases hstate

/-- A step from a settled state, which may receive. -/
theorem settled_step {e : Event β} (hctl : Control c) {linked linked' : Bool}
    (hops : c.connectOps = [])
    (hidle : c.state = .Idle → c.currentMessage = none ∧ linked = false)
    (hlinked : linked' = ((linked || c.completesConnect e) && c'.socket.isOpen))
    (hs : ModbusTcpClient.step mb c e = some c') : Phase ⟨c', linked'⟩ := by
  subst hlinked
  -- an idle client gets no connection
  have hnot := completesConnect_eq_false hops e
  have hunlinked : c.state = .Idle →
      ((linked || c.completesConnect e) && c'.socket.isOpen) = false := by
    intro hstate
    rw [hnot, (hidle hstate).2, Bool.or_false, Bool.false_and]
  -- no connect is there to be handled
  have hno : ∀ {i result ops}, c.socket.ops.take i ≠ some (.connect, result, ops) := by
    intro i result ops ht
    have hsome := connectOps_nil.mp hops _ (Pool.mem_kinds_take ht)
    cases hsome
  have htake : ∀ {i op result ops}, c.socket.ops.take i = some (op, result, ops) →
      (c.withOps ops).connectOps = [] := fun ht =>
    connectOps_nil_mono hops fun op hop => Or.inl (Pool.mem_kinds_of_mem_take ht hop)
  cases step_branch hctl.exchange hs with
  | receive message now =>
    by_cases hstate : c.state = .Idle
    · rw [hunlinked hstate]
      exact phase_receive hctl hops hstate (hidle hstate).1 message now
    · obtain ⟨hops', hstate'⟩ :=
        queueProcessUnsafe_settled mb (c := c.pushMessage message) now hops hstate
      exact .of_not_idle hops' hstate'
  | @complete i result ops hcomplete =>
    have hops' : (c.withOps ops).connectOps = [] := by
      simp only [connectOps, withOps, Pool.kinds_complete hcomplete]
      exact hops
    exact .settled hops' fun hstate => ⟨(hidle hstate).1, hunlinked hstate⟩
  | connectFailed ht hec => exact absurd ht hno
  | connected ht hec now => exact absurd ht hno
  | @sendFailed i n buffer result ops ht hec =>
    exact phase_dropCurrent (htake ht) _
  | @sent i n buffer result ops ht hec =>
    obtain ⟨hcur, -, -, -⟩ := (take_data hctl ht).2.2 n rfl
    refine .of_not_idle (connectOps_nil_mono (htake ht) fun op hop => ?_) fun hstate => ?_
    · simp only [startReceiveTask, startWaitTask, Stream.start_kinds, List.mem_append,
        List.mem_singleton] at hop
      exact hop.imp id fun heq => by rw [heq]; rfl
    · -- an idle client has no request in process
      rw [(hidle hstate).1] at hcur
      cases hcur
  | @receiveFailed i n result ops ht hec =>
    exact phase_dropCurrent (c := { c.withOps ops with timer := c.timer.cancel }) (htake ht) _
  | @received i n result ops ht hec peerGone now =>
    obtain ⟨hsocket, -, -⟩ := received_frame mb (c.withOps ops) result.data
    have hrec : ((c.withOps ops).received mb result.data).connectOps = [] := by
      rw [connectOps, hsocket]
      exact htake ht
    have hstate : ((c.withOps ops).received mb result.data).state ≠ .Idle := by
      simp [received]
    obtain ⟨hops', hstate'⟩ := queueProcessUnsafe_settled mb now hrec hstate
    exact .of_not_idle hops' hstate'
  | expire hw =>
    exact .settled hops fun hstate => ⟨(hidle hstate).1, hunlinked hstate⟩
  | waitFailed ht hec =>
    exact .settled hops fun hstate => ⟨(hidle hstate).1, hunlinked hstate⟩
  | timeout ht =>
    refine .settled (connectOps_nil_mono hops fun op hop => Or.inl ?_) fun hstate =>
      ⟨(hidle hstate).1, hunlinked hstate⟩
    rw [note_socket, Stream.cancel_kinds] at hop
    exact hop

/-- A connect that is all that is outstanding completes once. -/
theorem complete_connect {i : ℕ} {result : Option Completion} {r : Completion}
    {ops : Pool (ClientOp β) Completion} (hops : c.socket.ops = [⟨.connect, result⟩])
    (hcomplete : c.socket.ops.complete i r = some ops) :
    i = 0 ∧ result = none ∧ ops = [⟨.connect, some r⟩] := by
  obtain ⟨k, hk, rfl⟩ := Pool.complete_some hcomplete
  rw [hops] at hk ⊢
  cases i with
  | zero =>
    cases hk
    exact ⟨rfl, rfl, rfl⟩
  | succ i => cases hk

/-- A step from a state in which a connect is all that is outstanding, and nothing is
received. -/
theorem connecting_step {e : Event β} (hctl : Control c) {linked linked' : Bool}
    {result : Option Completion} (hops : c.socket.ops = [⟨.connect, result⟩])
    (hstate : c.state = .Idle) (hcur : c.currentMessage = none)
    (hdone : linked = true → ∃ data, result = some ⟨.success, data⟩)
    (hlinked : linked' = ((linked || c.completesConnect e) && c'.socket.isOpen))
    (he : ∀ message now, e ≠ .receive message now)
    (hs : ModbusTcpClient.step mb c e = some c') : Phase ⟨c', linked'⟩ := by
  subst hlinked
  -- what is taken up is the connect, and nothing is left
  have htake : ∀ {i op r ops}, c.socket.ops.take i = some (op, r, ops) →
      op = .connect ∧ result = some r ∧ ops = [] := by
    intro i op r ops ht
    have hperm := Pool.take_perm ht
    rw [hops] at hperm
    have heq := List.perm_singleton.mp hperm.symm
    simp only [List.cons.injEq, Op.mk.injEq] at heq
    exact ⟨heq.1.1, heq.1.2.symm, heq.2⟩
  -- an event that completes nothing leaves the connection to what it was
  have hkeep : c.completesConnect e = false →
      ((linked || c.completesConnect e) && c'.socket.isOpen) = true → linked = true := by
    intro hnot h
    rw [hnot, Bool.or_false, Bool.and_eq_true] at h
    exact h.1
  cases step_branch hctl.exchange hs with
  | receive message now => exact absurd rfl (he message now)
  | @complete i r ops hcomplete =>
    obtain ⟨rfl, rfl, rfl⟩ := complete_connect hops hcomplete
    refine .connecting (some r) rfl hstate hcur fun hlinked => ?_
    have hnot : linked = false := by
      refine Bool.eq_false_iff.mpr fun h => ?_
      obtain ⟨data, hdata⟩ := hdone h
      cases hdata
    obtain ⟨ec, data⟩ := r
    have hsuccess : c.completesConnect (.complete 0 ⟨ec, data⟩) = true := by
      rw [hnot, Bool.false_or, Bool.and_eq_true] at hlinked
      exact hlinked.1
    simp only [completesConnect, hops, List.getElem?_cons_zero, Bool.not_eq_true',
      ErrorCode.failed_eq_false] at hsuccess
    exact ⟨data, by rw [hsuccess]⟩
  | @connectFailed i r ops ht hec =>
    obtain ⟨-, hr, rfl⟩ := htake ht
    refine .settled rfl fun _ => ⟨hcur, Bool.eq_false_iff.mpr fun h => ?_⟩
    -- the connection would be that of the connect that has failed
    obtain ⟨data, hdata⟩ := hdone (hkeep rfl h)
    rw [hr, Option.some.injEq] at hdata
    subst hdata
    cases hec
  | @connected i r ops ht hec now =>
    obtain ⟨-, -, rfl⟩ := htake ht
    obtain ⟨hops', hstate'⟩ := queueProcessUnsafe_settled mb
      (c := { c.withOps [] with state := .Connected }) now rfl (by simp)
    exact .of_not_idle hops' hstate'
  | sendFailed ht hec => cases (htake ht).1
  | sent ht hec => cases (htake ht).1
  | receiveFailed ht hec => cases (htake ht).1
  | received ht hec => cases (htake ht).1
  | expire hw => exact .connecting result hops hstate hcur fun h => hdone (hkeep rfl h)
  | waitFailed ht hec => exact .connecting result hops hstate hcur fun h => hdone (hkeep rfl h)
  | timeout ht =>
    by_cases hopen : c.socket.isOpen = true
    · refine .connecting (some (result.getD .aborted)) ?_ hstate hcur fun h => ?_
      · simp [note, Stream.cancel, hopen, hops, Pool.cancel, Op.abort]
      · obtain ⟨data, rfl⟩ := hdone (hkeep rfl h)
        exact ⟨data, rfl⟩
    · refine .connecting result ?_ hstate hcur fun h => hdone (hkeep rfl h)
      simp [note, Stream.cancel, hopen, hops]

/-- **Every step that receives nothing while connecting keeps the invariant.** -/
theorem single_step {e : Event β} (h : Single s) (he : s.receiveUnconnecting e = true)
    (hs : s.step mb e = some s') : Single s' := by
  obtain ⟨c', hc, rfl⟩ := Option.map_eq_some_iff.mp hs
  refine ⟨control_step h.control hc, ?_⟩
  rcases h.phase with ⟨result, hops, hstate, hcur, hdone⟩ | ⟨hops, hidle⟩
  · refine connecting_step h.control hops hstate hcur hdone rfl ?_ hc
    rintro message now rfl
    simp [receiveUnconnecting, connectOps, hops, Pool.kinds, ClientOp.data] at he
  · exact settled_step h.control hops hidle rfl hc

/-! ### What the client should keep, and when it does -/

/-- Only a request that is received can start a connect, and only in an idle client. -/
theorem connectsStarted_step {e : Event β} (hctl : Control c)
    (hs : ModbusTcpClient.step mb c e = some c') :
    c'.connectsStarted = c.connectsStarted ∨
      c.state = .Idle ∧ ∃ message now, e = .receive message now := by
  cases step_branch hctl.exchange hs with
  | receive message now =>
    by_cases hstate : c.state = .Idle
    · exact Or.inr ⟨hstate, message, now, rfl⟩
    · have hpush := connectsStarted_note_singleton (e := .receive message)
        (c := { c with messageQueue := c.messageQueue.push message }) rfl
      have hsame := queueProcessUnsafe_connectsStarted mb (c.pushMessage message) now hstate
      exact Or.inl (hsame.trans hpush)
  | complete hops => exact Or.inl rfl
  | connectFailed ht hec => exact Or.inl rfl
  | connected ht hec now =>
    exact Or.inl (queueProcessUnsafe_connectsStarted mb _ now (by simp))
  | @sendFailed i n buffer result ops ht hec =>
    obtain ⟨state, socket, heq, -⟩ := dropCurrent_eq (c.withOps ops) result.ec
    rw [heq]
    exact Or.inl rfl
  | sent ht hec => exact Or.inl rfl
  | @receiveFailed i n result ops ht hec =>
    obtain ⟨state, socket, heq, -⟩ :=
      dropCurrent_eq { c.withOps ops with timer := c.timer.cancel } result.ec
    rw [heq]
    exact Or.inl rfl
  | @received i n result ops ht hec peerGone now =>
    have hrec := received_connectsStarted mb (c.withOps ops) result.data
    have hsame := queueProcessUnsafe_connectsStarted mb
      ((c.withOps ops).received mb result.data) now (by simp [received])
    exact Or.inl (hsame.trans hrec)
  | expire hw => exact Or.inl rfl
  | waitFailed ht hec => exact Or.inl rfl
  | timeout ht =>
    exact Or.inl (connectsStarted_note_singleton (c := { c with timer := _, socket := _ }) rfl)

/-- A request received while a connect is outstanding starts another one. -/
theorem connectOps_receive (mb : Modbus β) (message : ModbusMessage β) (now : Nanoseconds)
    (hops : c.connectOps ≠ []) (hstate : c.state = .Idle) :
    1 < (c.messageProcess mb message now).connectOps.length := by
  have hpos := List.length_pos_of_ne_nil hops
  unfold messageProcess
  rcases queueProcessUnsafe_cases mb (c.pushMessage message) now with
    ⟨-, hempty | hwait | hproc | ⟨hcon, -⟩⟩ | ⟨heq, -, -⟩ | ⟨-, hcon, -, -⟩ | ⟨_, -, hcon, -, -⟩
  · exact absurd hempty (by simp [pushMessage, note, LimitQueue.push])
  · rw [show c.state = .WaitConnect from hwait] at hstate; cases hstate
  · rw [show c.state = .MessageProcess from hproc] at hstate; cases hstate
  · rw [show c.state = .Connected from hcon] at hstate; cases hstate
  · rw [heq]
    have hmore : (c.pushMessage message).startConnectTaskUnsafe.connectOps =
        c.connectOps ++ [.connect] := by
      simp only [startConnectTaskUnsafe, connectOps, note_socket, Stream.asyncConnect_kinds,
        List.filter_append]
      rfl
    rw [hmore, List.length_append]
    exact Nat.lt_add_of_pos_left hpos
  · rw [show c.state = .Connected from hcon] at hstate; cases hstate
  · rw [show c.state = .Connected from hcon] at hstate; cases hstate

/-- A connect handler runs in the connecting phase. -/
theorem currentMessage_of_handlesConnect {e : Event β} (h : Single s)
    (he : s.client.handlesConnect e = true) : s.client.currentMessage = none := by
  rcases h.phase with ⟨result, -, -, hcur, -⟩ | ⟨hops, -⟩
  · exact hcur
  · unfold handlesConnect at he
    split at he
    · split at he
      · next ht =>
        have hsome := connectOps_nil.mp hops _ (Pool.mem_kinds_take ht)
        cases hsome
      · cases he
    · cases he

theorem Phase.length_connectOps_le (h : Phase s) : s.client.connectOps.length ≤ 1 := by
  rcases h with ⟨result, hops, -, -, -⟩ | ⟨hops, -⟩
  · rw [connectOps, hops]
    exact Nat.le_refl 1
  · rw [hops]
    exact Nat.zero_le 1

/-- Under the invariant the connects are as they should be exactly as long as nothing is
received while one is outstanding. -/
theorem connectSingle_eq (mb : Modbus β) (h : Single s) (e : Event β) :
    s.connectSingle mb e = s.receiveUnconnecting e := by
  cases he : s.receiveUnconnecting e with
  | true =>
    rw [connectSingle, Option.all_eq_true]
    intro s' hs
    obtain ⟨c', hc, rfl⟩ := Option.map_eq_some_iff.mp hs
    simp only [Bool.and_eq_true, Bool.or_eq_true, decide_eq_true_eq, Bool.not_eq_true',
      Option.isNone_iff_eq_none]
    refine ⟨⟨(single_step h he hs).phase.length_connectOps_le, ?_⟩, ?_⟩
    · refine (connectsStarted_step h.control hc).imp_right ?_
      rintro ⟨hstate, message, now, rfl⟩
      -- what is received finds no connect, and an idle client is not connected
      have hnil : s.client.connectOps = [] := List.isEmpty_iff.mp he
      rcases h.phase with ⟨result, hops, -, -, -⟩ | ⟨-, hidle⟩
      · rw [connectOps, hops] at hnil
        cases hnil
      · exact (hidle hstate).symm
    · exact (Bool.eq_false_or_eq_true _).symm.imp_right (currentMessage_of_handlesConnect h)
  | false =>
    cases e with
    | receive message now =>
      have hne : s.client.connectOps ≠ [] := fun hnil => by simp [receiveUnconnecting, hnil] at he
      have hstate : s.client.state = .Idle := by
        rcases h.phase with ⟨result, -, hstate, -, -⟩ | ⟨hops, -⟩
        · exact hstate
        · exact absurd hops hne
      have htwo := connectOps_receive mb message now hne hstate
      simp [connectSingle, step, ModbusTcpClient.step, Nat.not_le_of_lt htwo]
    | complete i result => cases he
    | handle i peerGone now => cases he
    | expire i ec => cases he
    | handleWait i => cases he

/-- The first request that a client receives starts a connect, and leaves it idle. -/
theorem waitConnectExact_new (mb : Modbus β) (timeout : Milliseconds) (message : ModbusMessage β)
    (now : Nanoseconds) :
    (new timeout : Linked β).waitConnectExact mb (.receive message now) = false := rfl

/-- A new client does nothing until it receives a request. -/
theorem step_new (mb : Modbus β) (timeout : Milliseconds) {e : Event β}
    (he : ∀ message now, e ≠ .receive message now) : (new timeout : Linked β).step mb e = none := by
  cases e with
  | receive message now => exact absurd rfl (he message now)
  | complete i result => rfl
  | handle i peerGone now => rfl
  | expire i ec => rfl
  | handleWait i => rfl

/-- **How the client connects.**  The state is `WaitConnect` exactly while a connect is
outstanding, besides what `connectSingle` says, in exactly the runs that receive no
request at all; and what `connectSingle` says holds in exactly the runs that receive no
request while a connect is outstanding. -/
theorem connects_along (mb : Modbus β) (timeout : Milliseconds) (es : List (Event β)) :
    (along (step mb) (fun s e => s.waitConnectExact mb e && s.connectSingle mb e)
        (new timeout) es = true ↔
      along (step mb) noReceive (new timeout : Linked β) es = true) ∧
    (along (step mb) (connectSingle mb) (new timeout) es = true ↔
      along (step mb) receiveUnconnecting (new timeout : Linked β) es = true) := by
  constructor
  · cases es with
    | nil => exact Iff.rfl
    | cons e es =>
      by_cases he : ∃ message now, e = .receive message now
      · obtain ⟨message, now, rfl⟩ := he
        simp only [along_cons, waitConnectExact_new, noReceive, Bool.false_and]
      · have hnone := step_new mb timeout (e := e) fun message now h => he ⟨message, now, h⟩
        have hno : noReceive (new timeout : Linked β) e = true := by
          cases e with
          | receive message now => exact absurd ⟨message, now, rfl⟩ he
          | _ => rfl
        simp [along_cons, hnone, hno, waitConnectExact, connectSingle]
  · rw [along_congr (I := Single) (Q := receiveUnconnecting) ?_
      (fun s e h => connectSingle_eq mb h e) (single_new timeout)]
    intro s e s' h he hs
    exact single_step h (connectSingle_eq mb h e ▸ he) hs

/-- Two requests are received while the client connects; the second connect fails while
the first request is being sent. -/
def burstRun : List (Event Frame) :=
  [.receive (Frame.readRequest 5 9 1) 0, .receive (Frame.readRequest 6 9 1) 0,
    .complete 0 ⟨.success, []⟩, .handle 0 false 0, .complete 0 ⟨.connectionReset, []⟩,
    .handle 0 false 0]

/-- The stray connect makes the client idle in the middle of a request. -/
theorem connects_burst :
    ∃ s, exec (step Frame.library) (new 1000) burstRun = some s ∧ s.client.state = .Idle ∧
      s.client.currentMessage.isSome = true ∧
      along (step Frame.library) (waitConnectExact Frame.library) (new 1000) burstRun = false ∧
      along (step Frame.library) (connectSingle Frame.library) (new 1000) burstRun = false :=
  ⟨_, rfl, by decide +kernel, by decide +kernel, by decide +kernel, by decide +kernel⟩

end Linked

end ModbusTcpClient

end ModbusGateway
