import ModbusGateway.Transport.TcpServerTable

/-!
# Stopping the TCP server

`Stop()` cancels the accept that is pending, so that its handler gets
`operation_aborted` and returns, and it removes all clients.  An accept that has
completed when `Stop()` is called is not cancelled.  If its handler runs after `Stop()`,
it registers a client and starts the next accept, or starts the next accept after an
error; the server has been stopped in vain.

The handler of a successful accept registers the client with the mutex held, and starts
the client and the next accept after that.  `Stop()`, called by another thread, may come
between the two; `Threaded` is the server with the handlers that are under way.  What
`Stop()` does before it takes the mutex is not told apart from the rest: a handler that
registers its client in between has registered it before `Stop()`, and one that starts
its accept in between has started it after `Stop()`, as far as can be seen later.

## Main definitions

* `Threaded`, `Threaded.Event`, `Threaded.step` — the server and its handlers under way.
* `Stopped` — there is no client left, and no accept that may complete.
* `Threaded.settled` — the event is no handler of an accept that was not cancelled.

## Main results

* `Threaded.undisturbed_step` — both parts of a handler in one go are the handler.
* `Threaded.stopped_step` — **what keeps a stopped server stopped.**
* `Threaded.stopped_iff` — **`Stop()` is final exactly if no handler of an accept that had
  completed before runs or goes on after it.**
-/

namespace ModbusGateway

open Proactor Execution

variable {β : Type} {mb : Modbus β}

namespace ModbusTcpServer

/-- The part of the accept handler with the mutex held. -/
def register (s : ModbusTcpServer β) (id : ActorId) : ModbusTcpServer β :=
  { s with
    connections := s.connections ++ [.new s.id id]
    actors := (id, s.connections.length) :: s.actors
    clientDb := (id, s.connections.length) :: s.clientDb.filter fun a => decide (a.1 ≠ id) }

/-- The rest of the accept handler: connection `k` and the next accept are started; `peerGone`
says that `remote_endpoint()` throws. -/
def startClient (s : ModbusTcpServer β) (k : ℕ) (peerGone : Bool) : ModbusTcpServer β :=
  if peerGone then { s with terminated := true }
  else { s with connections := s.connections.modify k (·.startReceiveTask) }.acceptTask

/-- There is no client left, and no accept that may complete. -/
structure Stopped (s : ModbusTcpServer β) : Prop where
  clientDb : s.clientDb = []
  actors : s.actors = []
  acceptor : ∀ o ∈ s.acceptor, o.result.isSome = true

/-- The event does not run the handler of an accept that was not cancelled, unless an exception
ends it. -/
def settled (s : ModbusTcpServer β) : Posted.Event β → Bool
  | .server (.handleAccept i _ peerGone _) =>
    match s.acceptor.take i with
    | some (_, ec, _) => decide (ec = .operationAborted) || (!ec.failed && peerGone)
    | none => true
  | _ => true

/-- The server, with the connections that accept handlers have registered and not yet started. -/
structure Threaded (β : Type) where
  posted : Posted β
  handlers : List ℕ

namespace Threaded

/-- A server that has been started. -/
def new (id : ActorId) (router : Router) (masters : List ActorId) : Threaded β :=
  ⟨.new id router masters, []⟩

/-- The server of the state. -/
def server (t : Threaded β) : ModbusTcpServer β := t.posted.server

/-- The state with the server replaced. -/
def withServer (t : Threaded β) (s : ModbusTcpServer β) : Threaded β :=
  { t with posted := { t.posted with server := s } }

/-- The events of a run. -/
inductive Event (β : Type)
  | posted (e : Posted.Event β)
  /-- The handler of a successful accept registers its client. -/
  | register (i : ℕ) (id : ActorId)
  /-- A handler that has registered its client goes on. -/
  | startClient (j : ℕ) (peerGone : Bool)
  deriving DecidableEq

/-- `Stop()` is called. -/
def Event.stop : Event β := .posted (.server .stop)

/-- The step function. -/
def step (mb : Modbus β) (t : Threaded β) : Event β → Option (Threaded β)
  | .posted e => (Posted.step mb t.posted e).map fun posted => { t with posted }
  | .register i id =>
    if t.server.terminated then none
    else
      match t.server.acceptor.take i with
      | some (_, .success, acceptor) =>
        if t.server.exchange && t.server.idFree id then
          some { t.withServer ({ t.server with acceptor }.register id) with
            handlers := t.handlers ++ [t.server.connections.length] }
        else none
      | _ => none
  | .startClient j peerGone =>
    if t.server.terminated then none
    else (t.handlers[j]?).map fun k =>
      { t.withServer (t.server.startClient k peerGone) with handlers := t.handlers.eraseIdx j }

/-- The event does not run the handler of an accept that was not cancelled, nor does a handler
that has registered its client go on, unless an exception ends it. -/
def settled (t : Threaded β) : Event β → Bool
  | .posted e => t.server.settled e
  | .register _ _ => false
  | .startClient _ peerGone => peerGone

end Threaded

/-! ### Handlers in one go -/

/-- The accept handler is its two parts. -/
theorem acceptHandler_eq {s : ModbusTcpServer β} (hx : s.exchange = true) (id : ActorId)
    (startPeerGone : Bool) : s.acceptHandler .success id false startPeerGone =
      (s.register id).startClient s.connections.length startPeerGone := by
  have hmodify : (s.connections ++ [(.new s.id id : ModbusTcpConnection β)]).modify
      s.connections.length (·.startReceiveTask) =
        s.connections ++ [(.new s.id id : ModbusTcpConnection β).startReceiveTask] := by
    rw [List.modify_eq_take_cons_drop (by simp)]
    simp
  cases startPeerGone with
  | true => simp [acceptHandler, hx, register, startClient, ModbusTcpConnection.start]
  | false =>
    simp [acceptHandler, hx, register, startClient, ModbusTcpConnection.start, setConnection,
      acceptTask, hmodify]

namespace Threaded

variable {t t' : Threaded β}

/-- **Both parts of a handler in one go are the handler.** -/
theorem undisturbed_step {s : ModbusTcpServer β} {notices : List Notice} {i : ℕ} {id : ActorId}
    {startPeerGone : Bool} {acceptor : Pool Unit ErrorCode}
    (htake : s.acceptor.take i = some ((), .success, acceptor)) (hx : s.exchange = true) :
    exec (step mb) ⟨⟨s, notices⟩, []⟩ [.register i id, .startClient 0 startPeerGone] =
      exec (step mb) ⟨⟨s, notices⟩, []⟩
        [.posted (.server (.handleAccept i id false startPeerGone))] := by
  by_cases hterm : s.terminated = true
  · simp [step, server, Posted.step, ModbusTcpServer.step, hterm]
  · by_cases hfree : s.idFree id = true
    · have hregister : step mb ⟨⟨s, notices⟩, []⟩ (.register i id) =
          some ⟨⟨{ s with acceptor }.register id, notices⟩, [s.connections.length]⟩ := by
        simp [step, server, withServer, hterm, htake, hx, hfree]
      have hstart : step mb ⟨⟨{ s with acceptor }.register id, notices⟩, [s.connections.length]⟩
          (.startClient 0 startPeerGone) = some ⟨⟨({ s with acceptor }.register id).startClient
            s.connections.length startPeerGone, notices⟩, []⟩ := by
        simp [step, server, withServer, register, hterm]
      have hhandle : step mb ⟨⟨s, notices⟩, []⟩
          (.posted (.server (.handleAccept i id false startPeerGone))) =
            some ⟨⟨{ s with acceptor }.acceptHandler .success id false startPeerGone, notices⟩,
              []⟩ := by
        simp [step, Posted.step, ModbusTcpServer.step, hterm, htake, hfree]
      have hparts := acceptHandler_eq (s := { s with acceptor }) hx id startPeerGone
      rw [exec_cons, hregister, Option.elim_some, exec_cons, hstart, exec_cons, hhandle, hparts]
    · simp [step, server, Posted.step, ModbusTcpServer.step, hterm, htake, hfree]

/-! ### Any run -/

/-- What does not concern the table and the accepts. -/
structure SameTable (s s' : ModbusTcpServer β) : Prop where
  exchange : s'.exchange = s.exchange
  clientDb : s'.clientDb = s.clientDb
  actors : s'.actors = s.actors
  acceptor : s'.acceptor = s.acceptor

theorem SameTable.trans {s₁ s₂ s₃ : ModbusTcpServer β} (h : SameTable s₁ s₂)
    (h' : SameTable s₂ s₃) : SameTable s₁ s₃ :=
  ⟨h'.exchange.trans h.exchange, h'.clientDb.trans h.clientDb, h'.actors.trans h.actors,
    h'.acceptor.trans h.acceptor⟩

theorem sameTable_send (s : ModbusTcpServer β) (k : ℕ) (actorId : ActorId)
    (message : ModbusMessage β) : SameTable s (s.send mb k actorId message) := by
  unfold send
  split
  · exact ⟨rfl, rfl, rfl, rfl⟩
  split
  · exact ⟨rfl, rfl, rfl, rfl⟩
  split <;> exact ⟨rfl, rfl, rfl, rfl⟩

theorem sameTable_reply (s : ModbusTcpServer β) (request : Pending β) (modbusBuffer : Option β) :
    SameTable s (s.reply mb request modbusBuffer) := by
  unfold reply
  dsimp only
  split
  · exact ⟨rfl, rfl, rfl, rfl⟩
  split <;> exact ⟨rfl, rfl, rfl, rfl⟩

theorem sameTable_foldl_perform (k : ℕ) (effects : List (ConnectionEffect β)) :
    ∀ p : Posted β, SameTable p.server (effects.foldl (Posted.perform mb k) p).server := by
  induction effects with
  | nil =>
    intro p
    exact ⟨rfl, rfl, rfl, rfl⟩
  | cons effect effects ih =>
    intro p
    have hone : SameTable p.server (p.perform mb k effect).server := by
      cases effect with
      | send actorId message => exact sameTable_send _ k actorId message
      | disconnect actorId message => exact ⟨rfl, rfl, rfl, rfl⟩
      | write modbusBuffer => exact ⟨rfl, rfl, rfl, rfl⟩
    exact hone.trans (ih _)

/-- An event that does not concern the table and the accepts. -/
def quiet : Posted.Event β → Bool
  | .server (.connection _ _) => true
  | .server (.reply _ _) => true
  | .server (.drop _) => true
  | _ => false

/-- What an event does to the table and the accepts. -/
inductive Moved (s : ModbusTcpServer β) : Posted.Event β → ModbusTcpServer β → Prop
  | quiet {e s'} (h : SameTable s s') (he : quiet e = true) : Moved s e s'
  | accept {i ec acceptor} (h : s.acceptor.complete i ec = some acceptor) :
      Moved s (.server (.accept i ec)) { s with acceptor }
  | handleAccept {i id peerGone startPeerGone ec acceptor}
      (htake : s.acceptor.take i = some ((), ec, acceptor)) (hfree : s.idFree id = true) :
      Moved s (.server (.handleAccept i id peerGone startPeerGone))
        ({ s with acceptor }.acceptHandler ec id peerGone startPeerGone)
  | stop : Moved s (.server .stop) s.stop
  | deliver {i n} : Moved s (.deliver i) (s.receive n)

theorem moved_step {p p' : Posted β} {e : Posted.Event β} (h : Posted.step mb p e = some p') :
    Moved p.server e p'.server := by
  cases Posted.step_branch h with
  | deliver hn => exact .deliver
  | dead hc hdead => exact .quiet ⟨rfl, rfl, rfl, rfl⟩ rfl
  | @connection k c c' e hc halive hstep =>
    have hset : SameTable p.server (p.server.setConnection k c') := ⟨rfl, rfl, rfl, rfl⟩
    exact .quiet (hset.trans (sameTable_foldl_perform k _
      { p with server := p.server.setConnection k c' })) rfl
  | server he hb =>
    cases hb with
    | accept hacc => exact .accept hacc
    | handleAccept htake hfree => exact .handleAccept htake hfree
    | dead => exact absurd rfl (he _ _)
    | connection => exact absurd rfl (he _ _)
    | @reply i request hi modbusBuffer =>
      have herase : SameTable p.server { p.server with pending := p.server.pending.eraseIdx i } :=
        ⟨rfl, rfl, rfl, rfl⟩
      exact .quiet (herase.trans (sameTable_reply _ request modbusBuffer)) rfl
    | drop hi => exact .quiet ⟨rfl, rfl, rfl, rfl⟩ rfl
    | stop => exact .stop

/-- The branches an event can take, each with the server after it. -/
inductive Branch (mb : Modbus β) (s : ModbusTcpServer β) : Event β → ModbusTcpServer β → Prop
  | posted {e s'} (hm : Moved s e s') : Branch mb s (.posted e) s'
  | register {i id acceptor} (htake : s.acceptor.take i = some ((), .success, acceptor))
      (hx : s.exchange = true) (hfree : s.idFree id = true) :
    Branch mb s (.register i id) ({ s with acceptor }.register id)
  | startClient {j peerGone} (k : ℕ) :
    Branch mb s (.startClient j peerGone) (s.startClient k peerGone)

/-- **What a step can do** to the server. -/
theorem step_branch {e : Event β} (hs : step mb t e = some t') :
    Branch mb t.server e t'.server := by
  cases e with
  | posted e =>
    obtain ⟨p, hp, rfl⟩ := Option.map_eq_some_iff.mp hs
    exact .posted (moved_step hp)
  | register i id =>
    simp only [step] at hs
    split at hs
    · cases hs
    split at hs
    · next acceptor htake =>
      split at hs
      · next hfree =>
        cases hs
        obtain ⟨hx, hfree⟩ := Bool.and_eq_true_iff.mp hfree
        exact .register htake hx hfree
      · cases hs
    · cases hs
  | startClient j peerGone =>
    simp only [step] at hs
    split at hs
    · cases hs
    obtain ⟨k, -, rfl⟩ := Option.map_eq_some_iff.mp hs
    exact .startClient k

/-- What `Stop()` relies on: every connection in the exchange is in `clientDb_`. -/
structure Recorded (s : ModbusTcpServer β) : Prop where
  exchange : s.exchange = true
  held : ∀ a ∈ s.actors, a ∈ s.clientDb

theorem recorded_register {s : ModbusTcpServer β} (h : Recorded s) {id : ActorId}
    (hfree : s.idFree id = true) : Recorded (s.register id) where
  exchange := h.exchange
  held := by
    simp only [idFree, Bool.and_eq_true, decide_eq_true_eq] at hfree
    intro a ha
    rcases List.mem_cons.mp ha with rfl | hmem
    · exact List.mem_cons_self
    · refine List.mem_cons_of_mem _ (List.mem_filter.mpr ⟨h.held a hmem, decide_eq_true ?_⟩)
      exact fun heq => hfree.2 (heq ▸ List.mem_map_of_mem hmem)

theorem recorded_startClient {s : ModbusTcpServer β} (h : Recorded s) (k : ℕ) (peerGone : Bool) :
    Recorded (s.startClient k peerGone) := by
  unfold startClient
  split <;> exact ⟨h.exchange, h.held⟩

/-- What the accept handler can do: nothing, since it was cancelled; start the next accept after
another error; end the program, since the peer is gone; or register a client and start it. -/
theorem acceptHandler_cases {s : ModbusTcpServer β} (hx : s.exchange = true) (ec : ErrorCode)
    (id : ActorId) (peerGone startPeerGone : Bool) :
    (ec = .operationAborted ∧ s.acceptHandler ec id peerGone startPeerGone = s) ∨
    (ec.failed = true ∧ ec ≠ .operationAborted ∧
      s.acceptHandler ec id peerGone startPeerGone = s.acceptTask) ∨
    (ec.failed = false ∧ peerGone = true ∧
      s.acceptHandler ec id peerGone startPeerGone = { s with terminated := true }) ∨
    (ec.failed = false ∧ peerGone = false ∧ s.acceptHandler ec id peerGone startPeerGone =
      (s.register id).startClient s.connections.length startPeerGone) := by
  by_cases hfailed : ec.failed = true
  · by_cases haborted : ec = .operationAborted
    · exact Or.inl ⟨haborted, by simp [acceptHandler, haborted]⟩
    · exact Or.inr (Or.inl ⟨hfailed, haborted, by
        rw [acceptHandler, if_neg (by simp [hx]), if_pos hfailed, if_neg haborted]⟩)
  · rw [Bool.not_eq_true] at hfailed
    obtain rfl : ec = .success := ErrorCode.failed_eq_false.mp hfailed
    cases peerGone with
    | true => exact Or.inr (Or.inr (Or.inl ⟨rfl, rfl, by simp [acceptHandler, hx]⟩))
    | false => exact Or.inr (Or.inr (Or.inr ⟨rfl, rfl, acceptHandler_eq hx id startPeerGone⟩))

theorem recorded_acceptHandler {s : ModbusTcpServer β} (h : Recorded s) {ec : ErrorCode}
    {id : ActorId} {peerGone startPeerGone : Bool} (hfree : s.idFree id = true) :
    Recorded (s.acceptHandler ec id peerGone startPeerGone) := by
  rcases acceptHandler_cases h.exchange ec id peerGone startPeerGone with
    ⟨-, heq⟩ | ⟨-, -, heq⟩ | ⟨-, -, heq⟩ | ⟨-, -, heq⟩ <;> rw [heq]
  · exact h
  · exact ⟨h.exchange, h.held⟩
  · exact ⟨h.exchange, h.held⟩
  · exact recorded_startClient (recorded_register h hfree) _ startPeerGone

theorem recorded_moved {s s' : ModbusTcpServer β} {e : Posted.Event β} (h : Recorded s)
    (hm : Moved s e s') : Recorded s' := by
  cases hm with
  | quiet hsame => exact ⟨hsame.exchange.trans h.exchange, hsame.actors ▸ hsame.clientDb ▸ h.held⟩
  | accept => exact ⟨h.exchange, h.held⟩
  | @handleAccept i id peerGone startPeerGone ec acceptor htake hfree =>
    have hacc : Recorded { s with acceptor } := ⟨h.exchange, h.held⟩
    exact recorded_acceptHandler hacc hfree
  | stop =>
    refine ⟨h.exchange, fun a ha => ?_⟩
    simp only [ModbusTcpServer.stop, h.exchange, if_true, List.mem_filter,
      decide_eq_true_eq] at ha
    exact absurd (List.mem_map_of_mem (h.held a ha.1)) ha.2
  | @deliver i n =>
    unfold receive
    split
    · refine ⟨h.exchange, fun a ha => ?_⟩
      simp only [clientDisconnect, h.exchange, if_true] at ha
      obtain ⟨ha, hne⟩ := List.mem_filter.mp ha
      exact List.mem_filter.mpr ⟨h.held a ha, hne⟩
    · exact h

theorem recorded_step {e : Event β} (h : Recorded t.server) (hs : step mb t e = some t') :
    Recorded t'.server := by
  have hb := step_branch hs
  generalize t'.server = s' at hb ⊢
  cases hb with
  | posted hm => exact recorded_moved h hm
  | @register i id acceptor htake hx hfree =>
    have hacc : Recorded { t.server with acceptor } := ⟨h.exchange, h.held⟩
    exact recorded_register hacc hfree
  | @startClient j peerGone k => exact recorded_startClient h k peerGone

/-! ### A stopped server -/

/-- `Stop()` leaves no client and no accept that may complete. -/
theorem stopped_stop {s : ModbusTcpServer β} (h : Recorded s) : s.stop.Stopped where
  clientDb := rfl
  actors := by
    rw [ModbusTcpServer.stop, h.exchange, if_pos rfl, List.filter_eq_nil_iff]
    intro a ha hnot
    exact of_decide_eq_true hnot (List.mem_map_of_mem (h.held a ha))
  acceptor := by
    intro o ho
    obtain ⟨o', -, rfl⟩ := Pool.mem_cancel.mp ho
    rfl

/-- Starting an accept, or a client, is no way to stay stopped. -/
theorem not_stopped_acceptTask (s : ModbusTcpServer β) : ¬ s.acceptTask.Stopped := by
  intro h
  have hnew := h.acceptor ⟨(), none⟩ (Pool.mem_start.mpr (Or.inr rfl))
  cases hnew

theorem not_stopped_register (s : ModbusTcpServer β) (id : ActorId) :
    ¬ (s.register id).Stopped := fun h => List.cons_ne_nil _ _ h.actors

theorem stopped_startClient {s : ModbusTcpServer β} (h : s.Stopped) (k : ℕ) (peerGone : Bool) :
    peerGone = true ↔ (s.startClient k peerGone).Stopped := by
  cases peerGone with
  | true => exact ⟨fun _ => ⟨h.clientDb, h.actors, h.acceptor⟩, fun _ => rfl⟩
  | false =>
    refine ⟨fun hfalse => absurd hfalse Bool.false_ne_true, fun hs => ?_⟩
    exact absurd hs (not_stopped_acceptTask _)

/-- The accept handler leaves a server stopped exactly if the accept was cancelled, or the peer is
gone. -/
theorem stopped_acceptHandler {s : ModbusTcpServer β} (h : s.Stopped) (hx : s.exchange = true)
    (ec : ErrorCode) (id : ActorId) (peerGone startPeerGone : Bool) :
    (decide (ec = .operationAborted) || (!ec.failed && peerGone)) = true ↔
      (s.acceptHandler ec id peerGone startPeerGone).Stopped := by
  rcases acceptHandler_cases hx ec id peerGone startPeerGone with
    ⟨rfl, heq⟩ | ⟨hfailed, hec, heq⟩ | ⟨hfailed, rfl, heq⟩ | ⟨hfailed, rfl, heq⟩ <;> rw [heq]
  · exact ⟨fun _ => h, fun _ => rfl⟩
  · refine ⟨fun hP => ?_, fun hs => absurd hs (not_stopped_acceptTask _)⟩
    simp [hfailed, hec] at hP
  · exact ⟨fun _ => ⟨h.clientDb, h.actors, h.acceptor⟩, fun _ => by simp [hfailed]⟩
  · obtain rfl : ec = .success := ErrorCode.failed_eq_false.mp hfailed
    refine ⟨fun hP => by simp at hP, fun hs => ?_⟩
    -- the client stays registered, whatever comes of its start
    have hactors : ((s.register id).startClient s.connections.length startPeerGone).actors =
        (s.register id).actors := by cases startPeerGone <;> rfl
    exact absurd (hactors.symm.trans hs.actors) (List.cons_ne_nil _ _)

theorem stopped_moved {s s' : ModbusTcpServer β} {e : Posted.Event β} (hrec : Recorded s)
    (h : s.Stopped) (hm : Moved s e s') : s.settled e = true ↔ s'.Stopped := by
  cases hm with
  | quiet hsame he =>
    have hsettled : s.settled e = true := by
      cases e with
      | deliver i => rfl
      | server e => cases e <;> first | rfl | cases he
    refine ⟨fun _ => ?_, fun _ => hsettled⟩
    exact ⟨hsame.clientDb.trans h.clientDb, hsame.actors.trans h.actors,
      hsame.acceptor ▸ h.acceptor⟩
  | accept hcomplete =>
    -- no accept is pending
    obtain ⟨k, hk, -⟩ := Pool.complete_some hcomplete
    have hpending := h.acceptor _ (List.mem_of_getElem? hk)
    cases hpending
  | @handleAccept i id peerGone startPeerGone ec acceptor htake hfree =>
    have hacc : Stopped { s with acceptor } :=
      ⟨h.clientDb, h.actors, fun o ho => h.acceptor o (Pool.mem_of_mem_take htake ho)⟩
    rw [ModbusTcpServer.settled, htake]
    exact stopped_acceptHandler hacc hrec.exchange ec id peerGone startPeerGone
  | stop => exact ⟨fun _ => stopped_stop hrec, fun _ => rfl⟩
  | @deliver i n =>
    refine ⟨fun _ => ?_, fun _ => rfl⟩
    unfold receive
    split
    · refine ⟨?_, ?_, h.acceptor⟩
      · rw [clientDisconnect, h.clientDb]
        rfl
      · rw [clientDisconnect, h.actors]
        simp
    · exact h

/-- **What keeps a stopped server stopped.** -/
theorem stopped_step {e : Event β} (hrec : Recorded t.server) (h : t.server.Stopped)
    (hs : step mb t e = some t') : t.settled e = true ↔ t'.server.Stopped := by
  have hb := step_branch hs
  generalize t'.server = s' at hb ⊢
  cases hb with
  | posted hm => exact stopped_moved hrec h hm
  | @register i id acceptor htake hx hfree =>
    refine ⟨fun hP => absurd hP Bool.false_ne_true, fun hstopped => ?_⟩
    exact absurd hstopped (not_stopped_register _ id)
  | @startClient j peerGone k => exact stopped_startClient h k peerGone

/-- **`Stop()` is final** exactly if no handler of an accept that had completed before runs, or
goes on, after it. -/
theorem stopped_iff {id : ActorId} {router : Router} {masters : List ActorId}
    {es₁ es₂ : List (Event β)} {u v : Threaded β}
    (hrun : exec (step mb) (new id router masters) es₁ = some t)
    (hstop : step mb t .stop = some u) (hrun' : exec (step mb) u es₂ = some v) :
    (∀ es w, es <+: es₂ → exec (step mb) u es = some w → w.server.Stopped) ↔
      along (step mb) settled u es₂ = true := by
  have hrec : Recorded t.server := invariant (I := fun t => Recorded t.server)
    (fun _ _ _ h hs => recorded_step h hs) es₁ _ t
    ⟨rfl, fun a ha => absurd ha List.not_mem_nil⟩ hrun
  have hstopped : u.server.Stopped := by
    have hb := step_branch hstop
    generalize u.server = s' at hb ⊢
    cases hb with
    | posted hm =>
      cases hm with
      | quiet hsame he => cases he
      | stop => exact stopped_stop hrec
  refine (along_iff_initial (I := fun t => Recorded t.server) (fun s e s' hI hgood hs => ?_)
    es₂ u v (recorded_step hrec hstop) hstopped hrun').symm
  exact ⟨recorded_step hI hs, stopped_step hI hgood hs⟩

/-- A server that is stopped while the disconnect message of its only client is on its way. -/
def closing : Threaded Frame :=
  (exec (step Frame.library) (new 1 (.new 7) [7])
    [.posted (.server (.accept 0 .success)), .posted (.server (.handleAccept 0 2 false false)),
      .posted (.server (.connection 0 (.complete 0 ⟨.eof, []⟩))),
      .posted (.server (.connection 0 (.handle 0 0 0)))]).get (by decide +kernel)

/-- The server after `Stop()`. -/
def halted : Threaded Frame := (step Frame.library closing .stop).get (by decide +kernel)

/-- The handler of the accept that was cancelled, and the disconnect message, come after
`Stop()`. -/
theorem stopped_cancelled :
    ∃ t, exec (step Frame.library) halted
        [.posted (.server (.handleAccept 0 3 false false)), .posted (.deliver 0)] = some t ∧
      t.server.Stopped := by
  have hrun : (exec (step Frame.library) halted
      [.posted (.server (.handleAccept 0 3 false false)), .posted (.deliver 0)]).isSome = true := by
    decide +kernel
  obtain ⟨t, ht⟩ := Option.isSome_iff_exists.mp hrun
  refine ⟨t, ht, ?_⟩
  exact (stopped_iff (Option.some_get _).symm (Option.some_get _).symm ht).mpr
    (by decide +kernel) _ t (List.prefix_refl _) ht

/-- An accept has completed when `Stop()` is called: its handler registers the client and starts
the next accept. -/
theorem stopped_queued :
    ∃ t, exec (step Frame.library) (new 1 (.new 7) [7])
        [.posted (.server (.accept 0 .success)), .stop,
          .posted (.server (.handleAccept 0 2 false false))] = some t ∧
      t.server.clientDb = [(2, 0)] ∧ t.server.acceptor = [⟨(), none⟩] ∧ ¬ t.server.Stopped := by
  have hrun : (exec (step Frame.library) (new 1 (.new 7) [7])
      [.posted (.server (.accept 0 .success)), .stop,
        .posted (.server (.handleAccept 0 2 false false))]).map
          (fun t => (t.server.clientDb, t.server.acceptor)) = some ([(2, 0)], [⟨(), none⟩]) := by
    decide +kernel
  obtain ⟨t, ht, hserver⟩ := Option.map_eq_some_iff.mp hrun
  obtain ⟨hdb, hacceptor⟩ := Prod.mk.inj hserver
  exact ⟨t, ht, hdb, hacceptor, fun h => List.cons_ne_nil _ _ (hdb.symm.trans h.clientDb)⟩

end Threaded

end ModbusTcpServer

end ModbusGateway
