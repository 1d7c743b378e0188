import ModbusGateway.Library.Registry
import ModbusGateway.Transport.TcpServerAccept
import ModbusGateway.Transport.TcpServerIsolation

/-!
# The client table of the TCP server

A connection whose client is gone tells the server so, and the server takes it out of
`clientDb_` and of the exchange.  The `ClientDisconnectMessage` names the connection by
its actor id only, and the exchange may deliver it at any later time.  Until then the id
stays registered, so that `Add` cannot give it to another connection.

`Posted` is the server with the disconnect messages on their way, each with the
connection that has sent it; `ModbusTcpServer` is the case in which they are delivered
at once.

## Main definitions

* `Posted`, `Posted.Event`, `Posted.step` — the server and its disconnect messages.
* `Posted.Exact` — `clientDb_` and the exchange agree, and each connection receives or is
  about to be removed.

## Main results

* `Posted.prompt_step` — a step of the server is a step here, and the delivery of what it
  posts.
* `Posted.tabled_step` — **every step keeps the table right.**
* `Posted.exact_exec` — **the table is exact in every run without `Stop()`**, and a
  disconnect message removes the connection that has sent it.
-/

namespace ModbusGateway

open Proactor Execution

variable {β : Type} {mb : Modbus β}

/-! ### Connections -/

/-- The operation is a receive. -/
def ConnectionOp.isReceive : ConnectionOp β → Bool
  | .receive => true
  | .send _ => false

namespace ModbusTcpConnection

variable {c c' : ModbusTcpConnection β}

/-- The number of receives outstanding. -/
def receives (c : ModbusTcpConnection β) : ℕ := c.socket.ops.kinds.countP ConnectionOp.isReceive

/-- The connection belongs to the given server under the given id. -/
structure Serves (serverId id : ActorId) (c : ModbusTcpConnection β) : Prop where
  exchange : c.exchange = true
  serverId : c.serverId = serverId
  id : c.id = id

theorem receives_startReceiveTask (c : ModbusTcpConnection β) :
    c.startReceiveTask.receives = c.receives + 1 := by
  simp [receives, startReceiveTask, ConnectionOp.isReceive]

/-- A message that is sent to a connection does not touch its receive. -/
theorem serves_startSendTask {serverId id : ActorId} (mb : Modbus β) (h : c.Serves serverId id)
    (message : ModbusMessage (Option β)) :
    (c.startSendTask mb message).Serves serverId id ∧
      (c.startSendTask mb message).receives = c.receives := by
  rcases startSendTask_cases mb c message with
    ⟨heq, -⟩ | ⟨-, -, -, -, -, heq⟩ | ⟨_, _, -, -, -, -, heq⟩ <;> rw [heq]
  · exact ⟨h, rfl⟩
  · exact ⟨⟨h.exchange, h.serverId, h.id⟩, rfl⟩
  · refine ⟨⟨h.exchange, h.serverId, h.id⟩, ?_⟩
    simp [receives, note, ConnectionOp.isReceive]

/-- **A step of a connection**: nothing is handed to the exchange, or a request, and the receive
stays outstanding; or the receive ends, and the server is told that the client is gone. -/
theorem serves_step {serverId id : ActorId} {router : Router} {e : Event}
    (h : c.Serves serverId id) (hs : c.step mb router e = some c') :
    c'.Serves serverId id ∧
    (c'.effects = c.effects ∧ c'.receives = c.receives ∨
      (∃ actorId message, c'.effects = c.effects ++ [.send actorId message] ∧
        c'.receives = c.receives) ∨
      c'.effects = c.effects ++ [.disconnect serverId ⟨id⟩] ∧
        c.receives = c'.receives + 1) := by
  -- the handler of a receive has used it up
  have htaken : ∀ {i result ops}, c.socket.ops.take i = some (.receive, result, ops) →
      c.receives = (c.withOps ops).receives + 1 := fun ht =>
    ((Pool.kinds_take ht).countP_eq ConnectionOp.isReceive).trans List.countP_cons
  cases step_branch hs with
  | complete hops =>
    refine ⟨⟨h.exchange, h.serverId, h.id⟩, Or.inl ⟨rfl, ?_⟩⟩
    exact congrArg (List.countP ConnectionOp.isReceive) (Pool.kinds_complete hops)
  | sent ht =>
    have hkinds := (Pool.kinds_take ht).countP_eq ConnectionOp.isReceive
    exact ⟨⟨h.exchange, h.serverId, h.id⟩, Or.inl ⟨rfl, hkinds.symm⟩⟩
  | detached ht hx => exact absurd (h.exchange.symm.trans hx) (by decide)
  | gone ht hec =>
    refine ⟨⟨h.exchange, h.serverId, h.id⟩, Or.inr (Or.inr ⟨?_, htaken ht⟩)⟩
    rw [← h.serverId, ← h.id]
    rfl
  | receiveFailed ht hec =>
    refine ⟨⟨h.exchange, h.serverId, h.id⟩, Or.inl ⟨rfl, ?_⟩⟩
    rw [receives_startReceiveTask, htaken ht]
  | refused ht hreq =>
    refine ⟨⟨h.exchange, h.serverId, h.id⟩, Or.inl ⟨rfl, ?_⟩⟩
    rw [receives_startReceiveTask, htaken ht]
  | @accepted i data ops now message ht hreq pastEnd =>
    refine ⟨⟨h.exchange, h.serverId, h.id⟩, Or.inr (Or.inl ⟨_, message, rfl, ?_⟩)⟩
    rw [receives_startReceiveTask, htaken ht]
    rfl

/-- A connection keeps its server and its id. -/
theorem Serves.step {serverId id : ActorId} {router : Router} {e : Event}
    (h : c.Serves serverId id) (hs : c.step mb router e = some c') : c'.Serves serverId id :=
  (serves_step h hs).1

end ModbusTcpConnection

/-! ### The server and its disconnect messages -/

namespace ModbusTcpServer

/-- A `ClientDisconnectMessage` on its way to the actor it was sent to, with the number of the
connection that has sent it. -/
structure Notice where
  connection : ℕ
  actorId : ActorId
  message : ClientDisconnectMessage
  deriving DecidableEq, Repr

/-- The connection that has sent a disconnect message, under the id in it. -/
def Notice.sender (n : Notice) : ActorId × ℕ := (n.message.clientId, n.connection)

/-- The server, with the disconnect messages that the exchange has yet to deliver. -/
structure Posted (β : Type) where
  server : ModbusTcpServer β
  notices : List Notice

/-- `exchange` calls `Receive` of the actor a disconnect message was sent to; connections and
masters ignore it. -/
def receive (s : ModbusTcpServer β) (notice : Notice) : ModbusTcpServer β :=
  if notice.actorId = s.id then s.clientDisconnect notice.message.clientId else s

namespace Posted

/-- A server that has been started. -/
def new (id : ActorId) (router : Router) (masters : List ActorId) : Posted β :=
  ⟨(ModbusTcpServer.new id router masters).start, []⟩

/-- What comes of what connection `k` hands to the exchange: a disconnect message is delivered
later. -/
def perform (mb : Modbus β) (k : ℕ) (p : Posted β) : ConnectionEffect β → Posted β
  | .send actorId message => { p with server := p.server.send mb k actorId message }
  | .disconnect actorId message => { p with notices := p.notices ++ [⟨k, actorId, message⟩] }
  | .write _ => p

/-- The events of a run. -/
inductive Event (β : Type)
  | server (e : ModbusTcpServer.Event β)
  /-- The exchange delivers a disconnect message. -/
  | deliver (i : ℕ)
  deriving DecidableEq

/-- The step function: that of the server, except that a disconnect message is put on its way. -/
def step (mb : Modbus β) (p : Posted β) : Event β → Option (Posted β)
  | .server (.connection k e) =>
    if p.server.terminated then none
    else
      match p.server.connections[k]? with
      | none => none
      | some c =>
        if p.server.alive k then
          (c.step mb p.server.router e).map fun c' =>
            (c'.effects.drop c.effects.length).foldl (perform mb k)
              { p with server := p.server.setConnection k c' }
        else some p
  | .server e => (ModbusTcpServer.step mb p.server e).map fun server => { p with server }
  | .deliver i =>
    if p.server.terminated then none
    else (p.notices[i]?).map fun notice => ⟨p.server.receive notice, p.notices.eraseIdx i⟩

/-- The number of disconnect messages of a connection that are on their way. -/
def disconnects (p : Posted β) (k : ℕ) : ℕ := p.notices.countP fun n => decide (n.connection = k)

/-- The event is not a call of `Stop()`. -/
def unstopped (_ : Posted β) : Event β → Bool
  | .server .stop => false
  | _ => true

/-- The event does not run the handler of a successful accept whose peer is gone. -/
def peerPresent (p : Posted β) : Event β → Bool
  | .server e => p.server.peerPresent e
  | .deliver _ => true

/-- The client table is exact. -/
structure Exact (p : Posted β) : Prop where
  /-- No key occurs twice. -/
  unique : (p.server.clientDb.map Prod.fst).Nodup
  /-- The keys are the ids under which connections are registered, and each maps to the
  connection registered under it. -/
  lookup : ∀ id k, (id, k) ∈ p.server.clientDb ↔ p.server.lookup id = some k
  /-- Each registered connection has exactly one receive outstanding, or exactly one disconnect
  message on its way. -/
  served : ∀ a ∈ p.server.actors, ∃ c, p.server.connections[a.2]? = some c ∧
    (c.receives = 1 ∧ p.disconnects a.2 = 0 ∨ c.receives = 0 ∧ p.disconnects a.2 = 1)

/-- The registry of the connections, with the notices that some of them have left. -/
def registry (p : Posted β) : Registry ActorId ℕ :=
  ⟨p.server.actors, p.notices.map Notice.sender⟩

/-- What keeps the table exact. -/
structure Tabled (p : Posted β) : Prop where
  running : p.server.terminated = false
  exchange : p.server.exchange = true
  table : p.server.clientDb = p.server.actors
  sound : p.registry.Sound
  /-- Disconnect messages go to the server. -/
  addressed : ∀ n ∈ p.notices, n.actorId = p.server.id
  served : ∀ a ∈ p.server.actors, ∃ c, p.server.connections[a.2]? = some c ∧
    c.Serves p.server.id a.1 ∧ c.receives + p.disconnects a.2 = 1

variable {p p' : Posted β}

/-- The branches an event can take, each with the state after it. -/
inductive Branch (mb : Modbus β) (p : Posted β) : Event β → Posted β → Prop
  | server {e : ModbusTcpServer.Event β} {server : ModbusTcpServer β}
      (he : ∀ k e', e ≠ .connection k e') (hb : ModbusTcpServer.Branch mb p.server e server) :
    Branch mb p (.server e) { p with server }
  | dead {k : ℕ} {c : ModbusTcpConnection β} (hc : p.server.connections[k]? = some c)
      (hdead : p.server.alive k = false) (e : ModbusTcpConnection.Event) :
    Branch mb p (.server (.connection k e)) p
  | connection {k : ℕ} {c c' : ModbusTcpConnection β} {e : ModbusTcpConnection.Event}
      (hc : p.server.connections[k]? = some c) (halive : p.server.alive k = true)
      (hstep : c.step mb p.server.router e = some c') :
    Branch mb p (.server (.connection k e))
      ((c'.effects.drop c.effects.length).foldl (perform mb k)
        { p with server := p.server.setConnection k c' })
  | deliver {i : ℕ} {n : Notice} (hn : p.notices[i]? = some n) :
    Branch mb p (.deliver i) ⟨p.server.receive n, p.notices.eraseIdx i⟩

/-- **What a step can do.** -/
theorem step_branch {e : Event β} (hs : step mb p e = some p') : Branch mb p e p' := by
  cases e with
  | deliver i =>
    simp only [step] at hs
    split at hs
    · cases hs
    obtain ⟨n, hn, rfl⟩ := Option.map_eq_some_iff.mp hs
    exact .deliver hn
  | server e =>
    cases e with
    | connection k e =>
      simp only [step] at hs
      split at hs
      · cases hs
      split at hs
      · cases hs
      next c hc =>
      split at hs
      · next halive =>
        obtain ⟨c', hstep, rfl⟩ := Option.map_eq_some_iff.mp hs
        exact .connection hc halive hstep
      next hdead =>
      cases hs
      exact .dead hc (Bool.not_eq_true _ ▸ hdead) e
    | _ =>
      obtain ⟨server, hserver, rfl⟩ := Option.map_eq_some_iff.mp hs
      exact .server (fun k e' heq => by cases heq) (ModbusTcpServer.step_branch hserver)

theorem tabled_new (id : ActorId) (router : Router) (masters : List ActorId) :
    Tabled (new id router masters : Posted β) where
  running := rfl
  exchange := rfl
  table := rfl
  sound := Registry.sound_nil
  addressed := by intro n hn; cases hn
  served := by intro a ha; cases ha

theorem lookup_eq_some_iff {s : ModbusTcpServer β} (h : (s.actors.map Prod.fst).Nodup)
    {id : ActorId} {k : ℕ} : s.lookup id = some k ↔ (id, k) ∈ s.actors := by
  refine ⟨mem_of_lookup, fun hmem => ?_⟩
  cases hfind : s.actors.find? fun a => a.1 == id with
  | none =>
    have hne := List.find?_eq_none.mp hfind (id, k) hmem
    exact absurd (beq_self_eq_true id) hne
  | some a =>
    have hname := List.find?_some hfind
    rw [beq_iff_eq] at hname
    have ha := List.mem_of_find?_eq_some hfind
    obtain rfl : a = (id, k) := List.inj_on_of_nodup_map h ha hmem hname
    rw [ModbusTcpServer.lookup, hfind]
    rfl

theorem Tabled.exact (h : p.Tabled) : p.Exact where
  unique := by
    rw [h.table]
    exact h.sound.names
  lookup id k := by
    rw [lookup_eq_some_iff h.sound.names, h.table]
  served a ha := by
    obtain ⟨c, hc, -, hsum⟩ := h.served a ha
    exact ⟨c, hc, by omega⟩

/-- A connection that is alive is registered, under its own id. -/
theorem Tabled.registered_of_alive (h : p.Tabled) {k : ℕ} {c : ModbusTcpConnection β}
    (halive : p.server.alive k = true) (hc : p.server.connections[k]? = some c) :
    (c.id, k) ∈ p.server.actors := by
  have hmem : k ∈ p.server.actors.map Prod.snd := by
    simpa [alive, h.table] using halive
  obtain ⟨a, ha, rfl⟩ := List.mem_map.mp hmem
  obtain ⟨c', hc', hserves, -⟩ := h.served a ha
  obtain rfl : c' = c := Option.some.inj (hc'.symm.trans hc)
  rw [hserves.id]
  exact ha

/-- The connection that has sent a notice is registered under the id in it. -/
theorem Tabled.mem_of_notice (h : p.Tabled) {n : Notice} (hn : n ∈ p.notices) :
    n.sender ∈ p.server.actors :=
  h.sound.members _ (List.mem_map_of_mem hn)

/-- A connection is registered once. -/
theorem Tabled.eq_of_connection (h : p.Tabled) {a b : ActorId × ℕ} (ha : a ∈ p.server.actors)
    (hb : b ∈ p.server.actors) (hk : a.2 = b.2) : a = b := by
  obtain ⟨c, hc, hserves, -⟩ := h.served a ha
  obtain ⟨d, hd, hserves', -⟩ := h.served b hb
  rw [hk] at hc
  obtain rfl : c = d := Option.some.inj (hc.symm.trans hd)
  exact Prod.ext (hserves.id.symm.trans hserves'.id) hk

/-! ### What leaves the table alone -/

/-- The table is as it was, and each connection is as it was for the table. -/
structure Keeps (s s' : ModbusTcpServer β) : Prop where
  running : s'.terminated = s.terminated
  exchange : s'.exchange = s.exchange
  id : s'.id = s.id
  table : s'.clientDb = s.clientDb
  actors : s'.actors = s.actors
  connections : ∀ (k : ℕ) (c : ModbusTcpConnection β) serverId id, s.connections[k]? = some c →
    c.Serves serverId id → ∃ c' : ModbusTcpConnection β, s'.connections[k]? = some c' ∧
      c'.Serves serverId id ∧ c'.receives = c.receives

theorem Tabled.keeps {notices : List Notice} {s s' : ModbusTcpServer β}
    (h : Tabled ⟨s, notices⟩) (hk : Keeps s s') : Tabled ⟨s', notices⟩ where
  running := hk.running.trans h.running
  exchange := hk.exchange.trans h.exchange
  table := hk.table.trans (h.table.trans hk.actors.symm)
  sound := by
    have := h.sound
    rwa [registry, ← hk.actors] at this
  addressed n hn := (h.addressed n hn).trans hk.id.symm
  served a ha := by
    obtain ⟨c, hc, hserves, hsum⟩ := h.served a (hk.actors ▸ ha)
    obtain ⟨c', hc', hserves', hreceives⟩ := hk.connections _ c _ _ hc hserves
    exact ⟨c', hc', hk.id ▸ hserves', by rw [hreceives]; exact hsum⟩

theorem keeps_of_connections {s s' : ModbusTcpServer β} (hr : s'.terminated = s.terminated)
    (hx : s'.exchange = s.exchange) (hid : s'.id = s.id) (ht : s'.clientDb = s.clientDb)
    (ha : s'.actors = s.actors) (hc : s'.connections = s.connections) : Keeps s s' :=
  ⟨hr, hx, hid, ht, ha, fun _ c _ _ hk hserves => ⟨c, hc ▸ hk, hserves, rfl⟩⟩

/-- A connection changes, but not for the table. -/
theorem keeps_setConnection {s : ModbusTcpServer β} {k : ℕ} {c c' : ModbusTcpConnection β}
    (hc : s.connections[k]? = some c) (hserves : ∀ serverId id, c.Serves serverId id →
      c'.Serves serverId id ∧ c'.receives = c.receives) : Keeps s (s.setConnection k c') := by
  refine ⟨rfl, rfl, rfl, rfl, rfl, fun j d serverId id hd hd' => ?_⟩
  by_cases hj : j = k
  · subst hj
    obtain rfl : c = d := Option.some.inj (hc.symm.trans hd)
    exact ⟨c', List.getElem?_set_self (List.getElem?_eq_some_iff.mp hc).1, hserves serverId id hd'⟩
  · exact ⟨d, (List.getElem?_set_ne (Ne.symm hj)).trans hd, hd', rfl⟩

theorem keeps_startSendTask {s : ModbusTcpServer β} {k : ℕ} {c : ModbusTcpConnection β}
    (mb : Modbus β) (hc : s.connections[k]? = some c) (message : ModbusMessage (Option β)) :
    Keeps s (s.setConnection k (c.startSendTask mb message)) :=
  keeps_setConnection hc fun _ _ h => ModbusTcpConnection.serves_startSendTask mb h message

theorem keeps_send (s : ModbusTcpServer β) (k : ℕ) (actorId : ActorId)
    (message : ModbusMessage β) : Keeps s (s.send mb k actorId message) := by
  unfold send
  split
  · exact keeps_of_connections rfl rfl rfl rfl rfl rfl
  split
  · exact keeps_of_connections rfl rfl rfl rfl rfl rfl
  split
  · exact keeps_of_connections rfl rfl rfl rfl rfl rfl
  next c hc => exact keeps_startSendTask mb hc _

theorem keeps_reply (s : ModbusTcpServer β) (request : Pending β) (modbusBuffer : Option β) :
    Keeps s (s.reply mb request modbusBuffer) := by
  unfold reply
  dsimp only
  split
  · exact keeps_of_connections rfl rfl rfl rfl rfl rfl
  split
  · exact keeps_of_connections rfl rfl rfl rfl rfl rfl
  next c hc =>
    have hset := keeps_startSendTask mb hc ⟨request.message.modbusMessageInfo, modbusBuffer⟩
    exact ⟨hset.running, hset.exchange, hset.id, hset.table, hset.actors, hset.connections⟩

/-! ### What changes the table -/

/-- A connection whose receive ends posts a disconnect message. -/
theorem tabled_disconnect (h : p.Tabled) {k : ℕ} {c c' : ModbusTcpConnection β}
    (hc : p.server.connections[k]? = some c) (hmem : (c.id, k) ∈ p.server.actors)
    (hserves : c'.Serves p.server.id c.id) (hreceives : c.receives = c'.receives + 1) :
    Tabled ⟨p.server.setConnection k c', p.notices ++ [⟨k, p.server.id, ⟨c.id⟩⟩]⟩ := by
  have hset : (p.server.setConnection k c').connections[k]? = some c' :=
    List.getElem?_set_self (List.getElem?_eq_some_iff.mp hc).1
  have hcount : ∀ j, disconnects ⟨p.server.setConnection k c',
      p.notices ++ [⟨k, p.server.id, ⟨c.id⟩⟩]⟩ j = p.disconnects j + if k = j then 1 else 0 := by
    intro j
    simp [disconnects, List.countP_append, List.countP_singleton]
  obtain ⟨d, hd, -, hsum⟩ := h.served _ hmem
  obtain rfl : c = d := Option.some.inj (hc.symm.trans hd)
  -- the receive was the connection's one obligation, so that no message of it is on its way
  have hnone : p.disconnects k = 0 := by
    have hsum : c.receives + p.disconnects k = 1 := hsum
    omega
  refine ⟨h.running, h.exchange, h.table, ?_, ?_, ?_⟩
  · have hleave : (p.registry.leave (c.id, k)).Sound := by
      refine h.sound.leave hmem fun hnotice => ?_
      obtain ⟨n, hn, heq⟩ := List.mem_map.mp hnotice
      have hk := List.countP_eq_zero.mp hnone n hn
      exact hk (decide_eq_true (congrArg Prod.snd heq))
    have hnotices : (p.notices ++ [(⟨k, p.server.id, ⟨c.id⟩⟩ : Notice)]).map Notice.sender =
        p.registry.notices ++ [(c.id, k)] := List.map_append
    rw [registry, hnotices]
    exact hleave
  · intro n hn
    rcases List.mem_append.mp hn with hn | hn
    · exact h.addressed n hn
    · rw [List.mem_singleton.mp hn]
      rfl
  · intro a ha
    by_cases hk : a.2 = k
    · obtain rfl : a = (c.id, k) := h.eq_of_connection ha hmem hk
      refine ⟨c', hset, hserves, ?_⟩
      rw [hcount, hnone, if_pos rfl]
      omega
    · obtain ⟨d, hd, hserves', hsum'⟩ := h.served a ha
      refine ⟨d, (List.getElem?_set_ne (Ne.symm hk)).trans hd, hserves', ?_⟩
      rw [hcount, if_neg (Ne.symm hk)]
      exact hsum'

/-- A new connection is registered under an id that is free, and receives. -/
theorem tabled_register (h : p.Tabled) {c : ModbusTcpConnection β} {id : ActorId}
    (hfree : p.server.idFree id = true) (hserves : c.Serves p.server.id id)
    (hreceives : c.receives = 1) {s : ModbusTcpServer β}
    (hr : s.terminated = p.server.terminated) (hx : s.exchange = p.server.exchange)
    (hid : s.id = p.server.id) (hc : s.connections = p.server.connections ++ [c])
    (ha : s.actors = (id, p.server.connections.length) :: p.server.actors)
    (hd : s.clientDb = (id, p.server.connections.length) ::
      p.server.clientDb.filter fun a => decide (a.1 ≠ id)) :
    Tabled ⟨s, p.notices⟩ := by
  have hnew : id ∉ p.server.actors.map Prod.fst := by
    simp only [idFree, Bool.and_eq_true, decide_eq_true_eq] at hfree
    exact hfree.2
  have hlt : ∀ a ∈ p.server.actors, a.2 < p.server.connections.length := by
    intro a ha
    obtain ⟨c, hc, -⟩ := h.served a ha
    exact (List.getElem?_eq_some_iff.mp hc).1
  refine ⟨hr.trans h.running, hx.trans h.exchange, ?_, ?_,
    fun n hn => (h.addressed n hn).trans hid.symm, ?_⟩
  · -- the id is free, so that there is nothing of it in the table
    rw [hd, ha, h.table, List.filter_eq_self.mpr]
    intro a hmem
    exact decide_eq_true fun heq => hnew (heq ▸ List.mem_map_of_mem hmem)
  · have hjoin : (p.registry.join (id, p.server.connections.length)).Sound := h.sound.join hnew
    rw [Registry.join] at hjoin
    rw [registry, ha]
    exact hjoin
  · intro a hmem
    rw [ha] at hmem
    rw [hc, hid]
    rcases List.mem_cons.mp hmem with rfl | hmem
    · -- the messages on their way are of connections with smaller numbers
      refine ⟨c, List.getElem?_concat_length, hserves, ?_⟩
      have hnone : disconnects ⟨s, p.notices⟩ p.server.connections.length = 0 := by
        refine List.countP_eq_zero.mpr fun n hn hk => ?_
        have hk : n.connection = p.server.connections.length := of_decide_eq_true hk
        exact absurd hk (Nat.ne_of_lt (hlt _ (h.mem_of_notice hn)))
      rw [hnone, hreceives]
    · obtain ⟨d, hd, hserves', hsum⟩ := h.served a hmem
      exact ⟨d, (List.getElem?_append_left (hlt a hmem)).trans hd, hserves', hsum⟩

/-- **A disconnect message removes the connection that has sent it.** -/
theorem receive_eq (h : p.Tabled) {n : Notice} (hn : n ∈ p.notices) :
    p.server.receive n = { p.server with
      actors := p.server.actors.filter fun a => decide (a ≠ n.sender)
      clientDb := p.server.clientDb.filter fun a => decide (a ≠ n.sender) } := by
  have hremoved : Registry.removed p.server.actors n.message.clientId =
      p.server.actors.filter fun a => decide (a ≠ n.sender) :=
    h.sound.removed_eq (List.mem_map_of_mem hn)
  rw [receive, if_pos (h.addressed n hn), clientDisconnect, if_pos h.exchange, h.table, ← hremoved]
  rfl

theorem tabled_deliver (h : p.Tabled) {i : ℕ} {n : Notice} (hi : p.notices[i]? = some n) :
    Tabled ⟨p.server.receive n, p.notices.eraseIdx i⟩ := by
  have hn : n ∈ p.notices := List.mem_of_getElem? hi
  -- the other connections have as many messages on their way as before
  have hcount : ∀ k, k ≠ n.connection →
      disconnects ⟨p.server, p.notices.eraseIdx i⟩ k = p.disconnects k := by
    intro k hk
    obtain ⟨hlt, rfl⟩ := List.getElem?_eq_some_iff.mp hi
    have hperm := (List.getElem_cons_eraseIdx_perm hlt).countP_eq
      fun m => decide (m.connection = k)
    rw [List.countP_cons, if_neg (by simpa using Ne.symm hk)] at hperm
    exact hperm
  rw [receive_eq h hn]
  refine ⟨h.running, h.exchange, ?_, ?_, ?_, ?_⟩
  · rw [h.table]
  · have hhandle : p.registry.handle i = some ⟨Registry.removed p.server.actors n.message.clientId,
        (p.notices.eraseIdx i).map Notice.sender⟩ := by
      simp [Registry.handle, registry, hi, List.eraseIdx_map, Notice.sender]
    have hremoved : Registry.removed p.server.actors n.message.clientId =
        p.server.actors.filter fun a => decide (a ≠ n.sender) :=
      h.sound.removed_eq (List.mem_map_of_mem hn)
    rw [hremoved] at hhandle
    exact h.sound.handle hhandle
  · exact fun m hm => h.addressed m (List.mem_of_mem_eraseIdx hm)
  · intro a ha
    obtain ⟨ha, hne⟩ := List.mem_filter.mp ha
    obtain ⟨c, hc, hserves, hsum⟩ := h.served a ha
    refine ⟨c, hc, hserves, ?_⟩
    have hk : a.2 ≠ n.connection := fun hk => of_decide_eq_true hne
      (h.eq_of_connection ha (h.mem_of_notice hn) hk)
    exact (congrArg (c.receives + ·) (hcount a.2 hk)).trans hsum

/-! ### Runs -/

theorem tabled_acceptHandler (h : p.Tabled) {ec : ErrorCode} {id : ActorId}
    {peerGone startPeerGone : Bool} (hfree : p.server.idFree id = true)
    (hpeer : (ec.failed || !(peerGone || startPeerGone)) = true) :
    Tabled ⟨p.server.acceptHandler ec id peerGone startPeerGone, p.notices⟩ := by
  unfold acceptHandler
  rw [if_neg (by simp [h.exchange])]
  by_cases hfailed : ec.failed = true
  · rw [if_pos hfailed]
    split
    · exact h
    · exact h.keeps (keeps_of_connections rfl rfl rfl rfl rfl rfl)
  · have hpresent : peerGone = false ∧ startPeerGone = false := by simpa [hfailed] using hpeer
    obtain ⟨rfl, rfl⟩ := hpresent
    rw [if_neg hfailed, if_neg (by simp)]
    refine tabled_register h (c := (.new p.server.id id : ModbusTcpConnection β).startReceiveTask)
      hfree ⟨rfl, rfl, rfl⟩ rfl rfl rfl rfl ?_ rfl rfl
    simp [ModbusTcpConnection.start, setConnection, acceptTask]

/-- A step of a connection, with what comes of it elsewhere. -/
theorem tabled_connection (h : p.Tabled) {k : ℕ} {c c' : ModbusTcpConnection β}
    {e : ModbusTcpConnection.Event} (hc : p.server.connections[k]? = some c)
    (halive : p.server.alive k = true) (hs : c.step mb p.server.router e = some c') :
    Tabled ((c'.effects.drop c.effects.length).foldl (perform mb k)
      { p with server := p.server.setConnection k c' }) := by
  have hmem := h.registered_of_alive halive hc
  obtain ⟨d, hd, hserves, -⟩ := h.served _ hmem
  obtain rfl : c = d := Option.some.inj (hc.symm.trans hd)
  obtain ⟨hserves', ⟨heff, hreceives⟩ | ⟨actorId, message, heff, hreceives⟩ | ⟨heff, hreceives⟩⟩ :=
    ModbusTcpConnection.serves_step hserves hs
  · rw [heff, List.drop_length]
    exact h.keeps (keeps_setConnection hc fun _ _ hany => ⟨hany.step hs, hreceives⟩)
  · rw [heff, List.drop_left]
    have hset : Tabled ⟨p.server.setConnection k c', p.notices⟩ :=
      h.keeps (keeps_setConnection hc fun _ _ hany => ⟨hany.step hs, hreceives⟩)
    exact hset.keeps (keeps_send _ k actorId message)
  · rw [heff, List.drop_left]
    exact tabled_disconnect h hc hmem hserves' hreceives

/-- **Every step without `Stop()` keeps the table right**, if the peer of the connection it
accepts is there. -/
theorem tabled_step {e : Event β} (h : p.Tabled) (hstop : p.unstopped e = true)
    (hpeer : p.peerPresent e = true) (hs : step mb p e = some p') : p'.Tabled := by
  cases step_branch hs with
  | deliver hn => exact tabled_deliver h hn
  | dead hc hdead => exact h
  | connection hc halive hstep => exact tabled_connection h hc halive hstep
  | server he hb =>
    cases hb with
    | accept hacc => exact h.keeps (keeps_of_connections rfl rfl rfl rfl rfl rfl)
    | @handleAccept i id ec acceptor htake hfree peerGone startPeerGone =>
      simp only [peerPresent, ModbusTcpServer.peerPresent] at hpeer
      rw [htake] at hpeer
      have hacc : Tabled ⟨{ p.server with acceptor }, p.notices⟩ :=
        h.keeps (keeps_of_connections rfl rfl rfl rfl rfl rfl)
      exact tabled_acceptHandler hacc hfree hpeer
    | dead => exact absurd rfl (he _ _)
    | connection => exact absurd rfl (he _ _)
    | @reply i request hi modbusBuffer =>
      have herase : Tabled ⟨{ p.server with pending := p.server.pending.eraseIdx i }, p.notices⟩ :=
        h.keeps (keeps_of_connections rfl rfl rfl rfl rfl rfl)
      exact herase.keeps (keeps_reply _ request modbusBuffer)
    | drop hi => exact h.keeps (keeps_of_connections rfl rfl rfl rfl rfl rfl)
    | stop => cases hstop

/-- **The client table is exact** in every run without `Stop()` in which the clients are
connected when their accept handlers run; and a disconnect message removes precisely the
connection that has sent it. -/
theorem exact_exec {id : ActorId} {router : Router} {masters : List ActorId}
    {es : List (Event β)} (hrun : exec (step mb) (new id router masters) es = some p)
    (hstop : along (step mb) unstopped (new id router masters) es = true)
    (hpeer : along (step mb) peerPresent (new id router masters) es = true) :
    p.Exact ∧ ∀ i n, p.notices[i]? = some n →
      n.sender ∈ p.server.actors ∧ n.sender ∈ p.server.clientDb ∧
      step mb p (.deliver i) = some ⟨{ p.server with
        actors := p.server.actors.filter fun a => decide (a ≠ n.sender)
        clientDb := p.server.clientDb.filter fun a => decide (a ≠ n.sender) },
        p.notices.eraseIdx i⟩ := by
  have htabled : p.Tabled := by
    refine invariant_along (I := Tabled) (fun s e s' h hP hs => ?_) es _ _
      (tabled_new id router masters) (along_and hstop hpeer) hrun
    obtain ⟨hstop, hpeer⟩ := Bool.and_eq_true_iff.mp hP
    exact tabled_step h hstop hpeer hs
  refine ⟨htabled.exact, fun i n hn => ?_⟩
  have hmem := htabled.mem_of_notice (List.mem_of_getElem? hn)
  refine ⟨hmem, htabled.table ▸ hmem, ?_⟩
  rw [step, if_neg (by simp [htabled.running]), hn, Option.map_some,
    receive_eq htabled (List.mem_of_getElem? hn)]

/-- A client connects and gets the given id. -/
def accepts (id : ActorId) : List (Event Frame) :=
  [.server (.accept 0 .success), .server (.handleAccept 0 id false false)]

/-- The client of connection `k` closes it, and the disconnect message is on its way. -/
def closes (k : ℕ) : List (Event Frame) :=
  [.server (.connection k (.complete 0 ⟨.eof, []⟩)), .server (.connection k (.handle 0 0 0))]

/-- A client closes its connection, its id goes to the next one once the disconnect message has
been delivered, and that one is closed as well. -/
theorem exact_reusedId :
    ∃ p, exec (step Frame.library) (new 1 (.new 7) [7])
        (accepts 2 ++ accepts 3 ++ closes 0 ++ [.deliver 0] ++ accepts 2 ++ closes 1 ++ closes 2) =
          some p ∧
      p.notices.map Notice.sender = [(3, 1), (2, 2)] ∧ p.Exact := by
  obtain ⟨p, hp, hnotices⟩ : ∃ p, exec (step Frame.library) (new 1 (.new 7) [7])
      (accepts 2 ++ accepts 3 ++ closes 0 ++ [.deliver 0] ++ accepts 2 ++ closes 1 ++ closes 2) =
        some p ∧ p.notices.map Notice.sender = [(3, 1), (2, 2)] := ⟨_, rfl, by decide +kernel⟩
  exact ⟨p, hp, hnotices, (exact_exec hp (by decide +kernel) (by decide +kernel)).1⟩

/-! ### Disconnect messages that are delivered at once -/

/-- **A step of the server is a step here**, and the delivery of what it posts. -/
theorem prompt_step {s s' : ModbusTcpServer β} {e : ModbusTcpServer.Event β}
    (hs : ModbusTcpServer.step mb s e = some s') :
    exec (step mb) ⟨s, []⟩ [.server e] = some ⟨s', []⟩ ∨
      exec (step mb) ⟨s, []⟩ [.server e, .deliver 0] = some ⟨s', []⟩ := by
  cases e with
  | connection k e =>
    have hrunning := running_of_step hs
    cases ModbusTcpServer.step_branch hs with
    | dead hc hdead => exact Or.inl (by simp [step, hrunning, hc, hdead])
    | @connection k c c' e hc halive hc' =>
      have hstep : step mb ⟨s, []⟩ (.server (.connection k e)) =
          some ((c'.effects.drop c.effects.length).foldl (perform mb k)
            ⟨s.setConnection k c', []⟩) := by
        simp [step, hrunning, hc, halive, hc']
      obtain ⟨-, ⟨heff, -⟩ | ⟨heff, -⟩ | ⟨_, _, _, _, _, _, _, _, _, _, heff⟩⟩ :=
        ModbusTcpConnection.step_cases hc' <;> rw [heff] at hstep ⊢
      · rw [List.drop_length] at hstep ⊢
        exact Or.inl (by rw [exec_cons, hstep]; rfl)
      · -- the disconnect message is delivered next
        rw [List.drop_left] at hstep ⊢
        refine Or.inr ?_
        rw [exec_cons, hstep]
        simp only [List.foldl_cons, List.foldl_nil, perform, Option.elim_some, exec_cons, step]
        have hset : ¬ (s.setConnection k c').terminated = true := by
          simp [setConnection, hrunning]
        rw [if_neg hset]
        rfl
      · rw [List.drop_left] at hstep ⊢
        exact Or.inl (by rw [exec_cons, hstep]; rfl)
  | accept i ec => exact Or.inl (by simp [step, hs])
  | handleAccept i id peerGone startPeerGone => exact Or.inl (by simp [step, hs])
  | reply i modbusBuffer => exact Or.inl (by simp [step, hs])
  | drop i => exact Or.inl (by simp [step, hs])
  | stop => exact Or.inl (by simp [step, hs])

end Posted

end ModbusTcpServer

end ModbusGateway
