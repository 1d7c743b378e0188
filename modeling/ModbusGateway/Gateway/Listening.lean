import ModbusGateway.Gateway.EndToEnd

/-!
# The gateway keeps listening

The side of the clients, in every run of the gateway: a server waits for the next client with one
accept, a connection for the next request with one receive, and an RTU slave with one read.
Nothing that a client sends or a peer does stops that.  A server stops only when its accept is
aborted, an RTU slave only when its serial port reports the end of the file, a reset or an abort;
a connection that stops is gone, from the exchange and from the table of its server.

## Main definitions

* `Participant.listeners` — the operations with which an actor waits for its clients.
* `Network.silenced` — the events that silence a server or an RTU slave.
* `Network.Listening` — who listens, and who knows whom.

## Main results

* `Network.listening_exec` — **whoever is registered listens**, unless it has been silenced.
-/

namespace ModbusGateway

open Proactor Execution

variable {β : Type}

/-! ### The actors -/

/-- A connection waits for its client. -/
def ConnectionOp.listens : ConnectionOp β → Bool
  | .receive => true
  | .send _ => false

/-- An RTU slave waits for its client. -/
def SlaveOp.listens : SlaveOp β → Bool
  | .read => true
  | .write _ => false

namespace Participant

/-- How many operations wait for a client. -/
def listeners : Participant β → ℕ
  | .tcpServer s => s.acceptor.length
  | .connection c => c.socket.ops.kinds.countP ConnectionOp.listens
  | .rtuSlave s => s.serialPort.ops.kinds.countP SlaveOp.listens
  | _ => 0

/-- The event runs the handler of a read after which an RTU slave does not read again. -/
def stopsReading : Participant β → Event β → Bool
  | .rtuSlave s, .rtuSlave (.handle i _ _) =>
    match s.serialPort.ops.take i with
    | some (.read, result, _) => ModbusRtuSlave.cancelled result.ec
    | _ => false
  | _, _ => false

/-- The clients in the table of a server. -/
def clients : Participant β → List ActorId
  | .tcpServer s => s.clientDb
  | _ => []

/-- The server of a connection. -/
def server : Participant β → Option ActorId
  | .connection c => some c.serverId
  | _ => none

variable {mb : Modbus β} {router : Router} {id : ActorId} {p p' : Participant β}

/-- A message changes neither who listens nor whom a connection belongs to. -/
theorem listeners_receive (mb : Modbus β) (p : Participant β) (now : Nanoseconds)
    (message : ModbusMessage β) : (p.receive mb now message).listeners = p.listeners ∧
      (p.receive mb now message).server = p.server ∧
      (p.receive mb now message).clients = p.clients := by
  cases p with
  | connection c =>
    rcases ModbusTcpConnection.startSendTask_cases mb c
        ⟨message.modbusMessageInfo, some message.modbusBuffer⟩ with
      ⟨heq, -⟩ | ⟨lastInfo, -, -, -, hnull, -⟩ | ⟨lastInfo, buffer, -, -, -, -, heq⟩
    · rw [receive, heq]
      exact ⟨rfl, rfl, rfl⟩
    · cases hnull
    · rw [receive, heq]
      refine ⟨?_, rfl, rfl⟩
      simp [listeners, ModbusTcpConnection.note, ConnectionOp.listens]
  | rtuSlave s =>
    rcases ModbusRtuSlave.startWriteTask_cases mb s
        ⟨message.modbusMessageInfo, some message.modbusBuffer⟩ with
      ⟨heq, -⟩ | ⟨lastInfo, -, -, -, hnull, -⟩ | ⟨lastInfo, buffer, -, -, -, -, heq⟩
    · rw [receive, heq]
      exact ⟨rfl, rfl, rfl⟩
    · cases hnull
    · rw [receive, heq]
      refine ⟨?_, rfl, rfl⟩
      simp [listeners, ModbusRtuSlave.note, SlaveOp.listens]
  | _ => exact ⟨rfl, rfl, rfl⟩

/-- What a connection that does something by itself becomes: it listens as before; or it says to
its server that its client is gone, and does not listen any more. -/
theorem listeners_connection {c c' : ModbusTcpConnection β} {e : ModbusTcpConnection.Event}
    (hx : c.exchange = true) (hs : c.step mb router e = some c') :
    ∃ new, (connection c').deeds = (connection c).deeds ++ new ∧
      (connection c').listeners + (new.filterMap Deed.notice).length =
        (connection c).listeners ∧
      c'.serverId = c.serverId ∧ ∀ n ∈ new.filterMap Deed.notice, n = (c.serverId, ⟨c.id⟩) := by
  have htake : ∀ {i : ℕ} {result : Completion} {ops : Pool (ConnectionOp β) Completion},
      c.socket.ops.take i = some (.receive, result, ops) →
      c.socket.ops.kinds.countP ConnectionOp.listens =
        ops.kinds.countP ConnectionOp.listens + 1 := by
    intro i result ops ht
    rw [(Pool.kinds_take ht).countP_eq]
    exact List.countP_cons_of_pos rfl
  cases ModbusTcpConnection.step_branch hs with
  | complete hops =>
    refine ⟨[], (List.append_nil _).symm, ?_, rfl, List.forall_mem_nil _⟩
    simp only [listeners, ModbusTcpConnection.withOps, Pool.kinds_complete hops]
    rfl
  | sent ht now pastEnd =>
    refine ⟨[], (List.append_nil _).symm, ?_, rfl, List.forall_mem_nil _⟩
    simp only [listeners, ModbusTcpConnection.withOps, (Pool.kinds_take ht).countP_eq]
    rfl
  | detached ht hdetached =>
    rw [hx] at hdetached
    cases hdetached
  | gone ht hec =>
    refine ⟨[.connection (.disconnect c.serverId ⟨c.id⟩)], List.map_append, ?_, rfl,
      fun n hn => List.mem_singleton.mp hn⟩
    exact (htake ht).symm
  | receiveFailed ht hec =>
    refine ⟨[], (List.append_nil _).symm, ?_, rfl, List.forall_mem_nil _⟩
    have hkinds := htake ht
    simp [listeners, ModbusTcpConnection.startReceiveTask, ModbusTcpConnection.withOps, hkinds,
      ConnectionOp.listens]
  | refused ht hreq =>
    refine ⟨[], (List.append_nil _).symm, ?_, rfl, List.forall_mem_nil _⟩
    have hkinds := htake ht
    simp [listeners, ModbusTcpConnection.startReceiveTask, ModbusTcpConnection.withOps, hkinds,
      ConnectionOp.listens]
  | accepted ht hreq pastEnd =>
    refine ⟨[.connection (.send _ _)], List.map_append, ?_, rfl, List.forall_mem_nil _⟩
    have hkinds := htake ht
    simp [listeners, ModbusTcpConnection.startReceiveTask, ModbusTcpConnection.withOps,
      ModbusTcpConnection.note, hkinds, ConnectionOp.listens, Deed.notice]

/-- An RTU slave that does something by itself listens as before, unless it stops reading. -/
theorem listeners_rtuSlave {s s' : ModbusRtuSlave β} {e : ModbusRtuSlave.Event}
    (hx : s.exchange = true) (hs : s.step mb router e = some s') :
    (rtuSlave s').listeners + (if stopsReading (rtuSlave s) (.rtuSlave e) then 1 else 0) =
      (rtuSlave s).listeners := by
  cases e with
  | complete i result =>
    obtain ⟨ops, hops, rfl⟩ := Option.map_eq_some_iff.mp hs
    simp [listeners, stopsReading, ModbusRtuSlave.withOps, Pool.kinds_complete hops]
  | handle i now pastEnd =>
    simp only [ModbusRtuSlave.step] at hs
    split at hs
    · cases hs
    · next modbusBuffer result ops ht =>
      cases hs
      have hkinds : s.serialPort.ops.kinds.countP SlaveOp.listens =
          ops.kinds.countP SlaveOp.listens := by
        rw [(Pool.kinds_take ht).countP_eq]
        exact List.countP_cons_of_neg Bool.false_ne_true
      simp [listeners, stopsReading, ModbusRtuSlave.withOps, ht, hkinds]
    · next result ops ht =>
      cases hs
      have hkinds : s.serialPort.ops.kinds.countP SlaveOp.listens =
          ops.kinds.countP SlaveOp.listens + 1 := by
        rw [(Pool.kinds_take ht).countP_eq]
        exact List.countP_cons_of_pos rfl
      obtain ⟨ec, data⟩ := result
      have hx' : (s.withOps ops).exchange = true := hx
      simp only [listeners, stopsReading, ht, hkinds, ModbusRtuSlave.readHandler, hx']
      cases hec : ec.failed with
      | true =>
        cases hcancelled : ModbusRtuSlave.cancelled ec with
        | true => simp [ModbusRtuSlave.withOps]
        | false =>
          simp [ModbusRtuSlave.startReadTask, ModbusRtuSlave.withOps, SlaveOp.listens]
      | false =>
        rw [ErrorCode.failed_eq_false] at hec
        subst hec
        rcases ModbusRtuSlave.makeRequest_cases mb (s.withOps ops) data now with
          heq | ⟨buffer, -, -, heq⟩ <;> rw [heq] <;>
          simp [ModbusRtuSlave.cancelled, ModbusRtuSlave.startReadTask,
            ModbusRtuSlave.withOps, ModbusRtuSlave.note, SlaveOp.listens]

/-- A master gives no notice. -/
theorem notice_master (effects new : List (MasterEffect β)) :
    (new.map Deed.master).filterMap Deed.notice = [] ∧
      (effects ++ new).map Deed.master = effects.map .master ++ new.map .master := by
  refine ⟨?_, List.map_append⟩
  rw [List.filterMap_map]
  exact List.filterMap_eq_nil_iff.mpr fun _ _ => rfl

/-- **What an actor does by itself.**  It listens as before, unless it is an RTU slave that stops
reading, or a connection that says to its server that its client is gone. -/
theorem listeners_step {e : Event β} (h : p.Sound mb id) (hs : p.step mb router e = some p') :
    ∃ new, p'.deeds = p.deeds ++ new ∧
      p'.listeners + (new.filterMap Deed.notice).length + (if p.stopsReading e then 1 else 0) =
        p.listeners ∧
      p'.server = p.server ∧ p'.clients = p.clients ∧
      ∀ n ∈ new.filterMap Deed.notice, ∃ serverId, p.server = some serverId ∧
        n = (serverId, ⟨id⟩) := by
  cases p with
  | tcpClient c =>
    cases e with
    | tcpClient e =>
      obtain ⟨c', hc, rfl⟩ := Option.map_eq_some_iff.mp hs
      obtain ⟨new, heq, -, -⟩ := ModbusTcpClient.adds_step h.1 hc
      obtain ⟨hnone, hdeeds⟩ := notice_master c.effects new
      rw [← heq] at hdeeds
      refine ⟨new.map .master, hdeeds, ?_, rfl, rfl, ?_⟩ <;> rw [hnone]
      · rfl
      · exact List.forall_mem_nil _
    | _ => cases hs
  | rtuMaster m =>
    cases e with
    | rtuMaster e =>
      obtain ⟨m', hm, rfl⟩ := Option.map_eq_some_iff.mp hs
      obtain ⟨new, heq, -, -⟩ := ModbusRtuMaster.adds_step h.1 hm
      obtain ⟨hnone, hdeeds⟩ := notice_master m.effects new
      rw [← heq] at hdeeds
      refine ⟨new.map .master, hdeeds, ?_, rfl, rfl, ?_⟩ <;> rw [hnone]
      · rfl
      · exact List.forall_mem_nil _
    | _ => cases hs
  | tcpServer s =>
    cases e with
    | accept i ec =>
      obtain ⟨acceptor, hacceptor, rfl⟩ := Option.map_eq_some_iff.mp hs
      refine ⟨[], rfl, ?_, rfl, rfl, List.forall_mem_nil _⟩
      have hlength := congrArg List.length (Pool.kinds_complete hacceptor)
      simpa [Pool.kinds, listeners, stopsReading] using hlength
    | _ => cases hs
  | connection c =>
    cases e with
    | connection e =>
      obtain ⟨c', hc, rfl⟩ := Option.map_eq_some_iff.mp hs
      obtain ⟨new, hdeeds, hlisteners, hserver, hnotices⟩ := listeners_connection h.1 hc
      refine ⟨new, hdeeds, hlisteners, congrArg some hserver, rfl, fun n hn => ?_⟩
      refine ⟨c.serverId, rfl, ?_⟩
      rw [hnotices n hn, h.2]
    | _ => cases hs
  | rtuSlave s =>
    cases e with
    | rtuSlave e =>
      obtain ⟨s', hs', rfl⟩ := Option.map_eq_some_iff.mp hs
      obtain ⟨new, hreaction⟩ := reaction_rtuSlave h hs'
      have hnone : new.filterMap Deed.notice = [] := by
        refine List.filterMap_eq_nil_iff.mpr fun d hd => ?_
        have hfits := hreaction.fits d hd
        cases d with
        | connection e =>
          cases e with
          | disconnect serverId message => cases hfits.1
          | _ => rfl
        | _ => rfl
      refine ⟨new, hreaction.deeds, ?_, rfl, rfl, ?_⟩ <;> rw [hnone]
      · exact listeners_rtuSlave h.1 hs'
      · exact List.forall_mem_nil _
    | _ => cases hs

end Participant

/-! ### The gateway -/

namespace Network

/-- The server or RTU slave that an event silences: its accept is aborted, or it stops reading. -/
def silenced (s : Network β) : Event β → Option ActorId
  | .actor id e _ => if (s.actors id).any (·.stopsReading e) then some id else none
  | .handleAccept serverId i _ _ _ =>
    match s.actors serverId with
    | some (.tcpServer server) =>
      match server.acceptor.take i with
      | some (_, ec, _) => if ec = .operationAborted then some serverId else none
      | none => none
    | _ => none

/-- Every actor on the side of the clients listens, unless it has been silenced, or is about to
leave; and the tables of the servers hold their connections. -/
structure Listening (s₀ : Network β) (sender : ActorId) (pending : List (Deed β))
    (silent : List ActorId) (s : Network β) : Prop where
  listeners : ∀ id p, s.actors id = some p → p.role.isMaster = false →
    p.listeners + (if id = sender then (pending.filterMap Deed.notice).length else 0) =
      if id ∈ silent then 0 else 1
  silent : ∀ id ∈ silent, s₀.role id ≠ .connection
  known : ∀ id p k, s.actors id = some p → p.server = some k →
    ∃ q, s.actors k = some q ∧ id ∈ q.clients
  clients : ∀ k q, s.actors k = some q → ∀ id ∈ q.clients,
    ∃ p, s.actors id = some p ∧ p.server = some k
  notices : ∀ n ∈ pending.filterMap Deed.notice, n.2.clientId = sender ∧
    ∀ p, s.actors sender = some p → p.server = some n.1

variable {mb : Modbus β} {s₀ s s' : Network β} {sender id : ActorId} {pending : List (Deed β)}
  {silent : List ActorId}

/-- An actor changes, but neither its connections nor its server. -/
theorem Listening.replace (h : Listening s₀ sender pending silent s) {p p' : Participant β}
    (hp : s.actors id = some p) (hserver : p'.server = p.server) (hclients : p'.clients = p.clients)
    {sender' : ActorId} {pending' : List (Deed β)} {silent' : List ActorId}
    (hself : p'.role.isMaster = false → p'.listeners + (if id = sender' then
      (pending'.filterMap Deed.notice).length else 0) = if id ∈ silent' then 0 else 1)
    (hother : ∀ k q, k ≠ id → s.actors k = some q → q.role.isMaster = false →
      q.listeners + (if k = sender' then (pending'.filterMap Deed.notice).length else 0) =
        if k ∈ silent' then 0 else 1)
    (hsilent : ∀ k ∈ silent', s₀.role k ≠ .connection)
    (hnotices : ∀ n ∈ pending'.filterMap Deed.notice, n.2.clientId = sender' ∧
      ∀ q, Function.update s.actors id (some p') sender' = some q → q.server = some n.1) :
    Listening s₀ sender' pending' silent' (s.setActor id p') := by
  have hcases : ∀ {k q}, (s.setActor id p').actors k = some q →
      ∃ q₀, s.actors k = some q₀ ∧ q.server = q₀.server ∧ q.clients = q₀.clients ∧
        (k = id ∧ q = p' ∨ k ≠ id ∧ q = q₀) := by
    intro k q hq
    by_cases heq : k = id
    · subst heq
      rw [setActor_self] at hq
      obtain rfl := Option.some.inj hq
      exact ⟨p, hp, hserver, hclients, Or.inl ⟨rfl, rfl⟩⟩
    · rw [setActor_of_ne heq] at hq
      exact ⟨q, hq, rfl, rfl, Or.inr ⟨heq, rfl⟩⟩
  have hstays : ∀ {k q₀}, s.actors k = some q₀ →
      ∃ q, (s.setActor id p').actors k = some q ∧ q.server = q₀.server ∧
        q.clients = q₀.clients := by
    intro k q₀ hq
    by_cases heq : k = id
    · subst heq
      obtain rfl := Option.some.inj (hp.symm.trans hq)
      exact ⟨p', setActor_self s k p', hserver, hclients⟩
    · exact ⟨q₀, (setActor_of_ne heq s p').trans hq, rfl, rfl⟩
  refine ⟨fun k q hq hslave => ?_, hsilent, fun k q server hq hs => ?_,
    fun k q hq client hmem => ?_, hnotices⟩
  · obtain ⟨q₀, hq₀, -, -, ⟨rfl, rfl⟩ | ⟨hne, rfl⟩⟩ := hcases hq
    · exact hself hslave
    · exact hother k q hne hq₀ hslave
  · obtain ⟨q₀, hq₀, hserver₀, -, -⟩ := hcases hq
    obtain ⟨r₀, hr₀, hmem⟩ := h.known k q₀ server hq₀ (hserver₀ ▸ hs)
    obtain ⟨r, hr, -, hclients₀⟩ := hstays hr₀
    exact ⟨r, hr, hclients₀ ▸ hmem⟩
  · obtain ⟨q₀, hq₀, -, hclients₀, -⟩ := hcases hq
    obtain ⟨r₀, hr₀, hs⟩ := h.clients k q₀ hq₀ client (hclients₀ ▸ hmem)
    obtain ⟨r, hr, hserver₀, -⟩ := hstays hr₀
    exact ⟨r, hr, hserver₀.trans hs⟩

/-- Only who is registered and what is pending matter. -/
theorem Listening.congr (h : Listening s₀ sender pending silent s) (hactors : s'.actors = s.actors)
    {pending' : List (Deed β)}
    (hnotices : pending'.filterMap Deed.notice = pending.filterMap Deed.notice) :
    Listening s₀ sender pending' silent s' where
  listeners := by
    rw [hactors, hnotices]
    exact h.listeners
  silent := h.silent
  known := by
    rw [hactors]
    exact h.known
  clients := by
    rw [hactors]
    exact h.clients
  notices := by
    rw [hactors, hnotices]
    exact h.notices

/-- A connection leaves, and its server takes it out of its table. -/
theorem Listening.leave {d : Deed β} {k : ActorId}
    (h : Listening s₀ sender (d :: pending) silent s)
    (hnotice : d.notice = some (k, ⟨sender⟩)) {server : TcpServer}
    (hserver : s.actors k = some (.tcpServer server)) :
    Listening s₀ sender pending silent
      ({ s with actors := Function.update s.actors sender none }.setActor k
        (.tcpServer (server.eraseClient sender))) := by
  have hpending := List.filterMap_cons_some (l := pending) hnotice
  have hnotices := h.notices
  rw [hpending] at hnotices
  have hbelongs := (hnotices _ List.mem_cons_self).2
  have hne : k ≠ sender := by
    rintro rfl
    cases hbelongs _ hserver
  -- who is still registered, and what has become of it
  have hcases : ∀ {x q}, ({ s with actors := Function.update s.actors sender none }.setActor k
      (.tcpServer (server.eraseClient sender)) : Network β).actors x = some q →
      x ≠ sender ∧ (x = k ∧ q = .tcpServer (server.eraseClient sender) ∨
        x ≠ k ∧ s.actors x = some q) := by
    intro x q hq
    by_cases heq : x = k
    · subst heq
      rw [setActor_self] at hq
      exact ⟨hne, Or.inl ⟨rfl, (Option.some.inj hq).symm⟩⟩
    · rw [setActor_of_ne heq] at hq
      have hx : x ≠ sender := by
        rintro rfl
        simp only [Function.update_self] at hq
        cases hq
      simp only [Function.update_of_ne hx] at hq
      exact ⟨hx, Or.inr ⟨heq, hq⟩⟩
  have hstays : ∀ {x q}, x ≠ sender → x ≠ k → s.actors x = some q →
      ({ s with actors := Function.update s.actors sender none }.setActor k
        (.tcpServer (server.eraseClient sender)) : Network β).actors x = some q := by
    intro x q hx hxk hq
    rw [setActor_of_ne hxk]
    simp only [Function.update_of_ne hx]
    exact hq
  refine ⟨fun x q hq hslave => ?_, h.silent, fun x q y hq hy => ?_, fun x q hq y hmem => ?_,
    fun n hn => ⟨(hnotices n (List.mem_cons_of_mem _ hn)).1, fun q hq => absurd rfl (hcases hq).1⟩⟩
  · obtain ⟨hx, ⟨rfl, rfl⟩ | ⟨hxk, hold⟩⟩ := hcases hq
    · have hlisteners := h.listeners x _ hserver rfl
      rw [if_neg hx] at hlisteners ⊢
      exact hlisteners
    · have hlisteners := h.listeners x q hold hslave
      rw [if_neg hx] at hlisteners ⊢
      exact hlisteners
  · obtain ⟨hx, ⟨rfl, rfl⟩ | ⟨hxk, hold⟩⟩ := hcases hq
    · cases hy
    · obtain ⟨r, hr, hmem⟩ := h.known x q y hold hy
      by_cases heq : y = k
      · subst heq
        obtain rfl := Option.some.inj (hserver.symm.trans hr)
        exact ⟨_, setActor_self _ y _, List.mem_filter.mpr ⟨hmem, decide_eq_true hx⟩⟩
      · have hy' : y ≠ sender := by
          -- a connection is no server
          rintro rfl
          cases r with
          | tcpServer server' => cases hbelongs _ hr
          | _ => cases hmem
        exact ⟨r, hstays hy' heq hr, hmem⟩
  · obtain ⟨hx, ⟨rfl, rfl⟩ | ⟨hxk, hold⟩⟩ := hcases hq
    · obtain ⟨hmem, hy⟩ := List.mem_filter.mp hmem
      obtain ⟨r, hr, hs⟩ := h.clients x _ hserver y hmem
      have hyk : y ≠ x := by
        rintro rfl
        obtain rfl := Option.some.inj (hserver.symm.trans hr)
        cases hs
      exact ⟨r, hstays (of_decide_eq_true hy) hyk hr, hs⟩
    · obtain ⟨r, hr, hs⟩ := h.clients x q hold y hmem
      have hyk : y ≠ k := by
        rintro rfl
        obtain rfl := Option.some.inj (hserver.symm.trans hr)
        cases hs
      have hy : y ≠ sender := by
        -- it would belong to the server that it has told
        rintro rfl
        have hsame := (hbelongs r hr).symm.trans hs
        exact hxk (Option.some.inj hsame).symm
      exact ⟨r, hstays hy hyk hr, hs⟩

/-- **Every deed that is performed leaves the others listening.** -/
theorem listening_perform {d : Deed β} (hinv : Inv mb s₀ sender (d :: pending) s)
    (h : Listening s₀ sender (d :: pending) silent s) (now : Nanoseconds) :
    Listening s₀ sender pending silent (s.perform mb now d) := by
  unfold perform
  split
  · next actorId message hsent =>
    have hnotice : d.notice = none := by
      cases d with
      | master e => rfl
      | connection e =>
        cases e with
        | disconnect _ _ => cases hsent
        | _ => rfl
      | rtuSlave e => rfl
    have hpending := List.filterMap_cons_none (l := pending) hnotice
    have hskip : Listening s₀ sender pending silent s := h.congr rfl hpending.symm
    unfold send
    split
    · exact hskip
    next p hp =>
    obtain ⟨hlisteners, hserver, hclients⟩ := Participant.listeners_receive mb p now message
    obtain ⟨new, hreaction, -⟩ := Participant.reaction_receive s.router
      (hinv.sound actorId p hp) now message
    have hset : Listening s₀ sender pending silent
        (s.setActor actorId (p.receive mb now message)) := by
      refine hskip.replace hp hserver hclients (fun hslave => ?_)
        (fun k q _ hq hslave => hskip.listeners k q hq hslave) hskip.silent fun n hn => ?_
      · rw [hlisteners]
        exact hskip.listeners actorId p hp (hreaction.role ▸ hslave)
      · refine ⟨(hskip.notices n hn).1, fun q hq => ?_⟩
        by_cases heq : sender = actorId
        · subst heq
          rw [Function.update_self] at hq
          obtain rfl := Option.some.inj hq
          exact hserver.trans ((hskip.notices n hn).2 p hp)
        · rw [Function.update_of_ne heq] at hq
          exact (hskip.notices n hn).2 q hq
    have hactors : (s.update actorId p (p.receive mb now message)).actors =
        (s.setActor actorId (p.receive mb now message)).actors := rfl
    exact hset.congr hactors rfl
  · next actorId message hsent hnotice =>
    have hnotices := h.notices
    rw [List.filterMap_cons_some hnotice] at hnotices
    obtain ⟨hclient, hbelongs⟩ := hnotices _ List.mem_cons_self
    obtain ⟨clientId⟩ := message
    dsimp only at hclient
    subst hclient
    unfold disconnect
    split
    · next server hserver => exact h.leave hnotice hserver
    next hnone =>
    -- a client whose server is unknown is unknown itself
    have hgone : s.actors clientId = none := by
      refine Option.eq_none_iff_forall_ne_some.mpr fun p hp => ?_
      obtain ⟨q, hq, hmem⟩ := h.known clientId p actorId hp (hbelongs p hp)
      cases q with
      | tcpServer server => exact hnone server hq
      | _ => cases hmem
    refine ⟨fun x q hq hslave => ?_, h.silent, h.known, h.clients,
      fun n hn => hnotices n (List.mem_cons_of_mem _ hn)⟩
    have hx : x ≠ clientId := by
      rintro rfl
      rw [hgone] at hq
      cases hq
    have hlisteners := h.listeners x q hq hslave
    rw [if_neg hx] at hlisteners ⊢
    exact hlisteners
  · next hsent hnotice => exact h.congr rfl (List.filterMap_cons_none hnotice).symm

theorem listening_foldl_perform (now : Nanoseconds) : ∀ {s : Network β},
    Inv mb s₀ sender pending s → Listening s₀ sender pending silent s →
      Listening s₀ sender [] silent (pending.foldl (perform mb now) s) := by
  induction pending with
  | nil => exact fun _ h => h
  | cons d pending ih =>
    exact fun hinv h => ih (inv_perform hinv now) (listening_perform hinv h now)

/-- Between the handlers nobody is about to leave. -/
theorem Listening.listeners_eq (h : Listening s₀ sender [] silent s) {p : Participant β}
    (hp : s.actors id = some p) (hslave : p.role.isMaster = false) :
    p.listeners = if id ∈ silent then 0 else 1 := by
  have hlisteners := h.listeners id p hp hslave
  rw [List.filterMap_nil, List.length_nil, ite_self] at hlisteners
  exact hlisteners

theorem Listening.release (h : Listening s₀ sender [] silent s) (sender' : ActorId) :
    Listening s₀ sender' [] silent s := by
  refine ⟨fun x q hq hslave => ?_, h.silent, h.known, h.clients, List.forall_mem_nil _⟩
  rw [List.filterMap_nil, List.length_nil, ite_self]
  exact h.listeners_eq hq hslave

/-- Who stops reading has listened, and is silent then. -/
theorem silent_append {n : ℕ} {stops : Bool} (hbefore : n = if id ∈ silent then 0 else 1)
    {l : ℕ} (hafter : l + (if stops then 1 else 0) = n) :
    l = if id ∈ silent ++ (if stops then some id else none).toList then 0 else 1 := by
  cases stops with
  | false =>
    simp only [Bool.false_eq_true, if_false, Option.toList_none, List.append_nil] at hafter ⊢
    omega
  | true =>
    simp only [if_true, Option.toList_some, List.mem_append, List.mem_singleton,
      or_true] at hafter ⊢
    split at hbefore <;> omega

/-- Whoever is silenced now is one who was not before. -/
theorem mem_silent_of_ne {k : ActorId} (hk : k ≠ id) {o : Option ActorId}
    (ho : ∀ x, o = some x → x = id) : k ∈ silent ++ o.toList ↔ k ∈ silent := by
  rw [List.mem_append, Option.mem_toList]
  refine ⟨fun h => h.resolve_right fun hsome => hk (ho k hsome), Or.inl⟩

/-- An actor that does something by itself goes on listening, or is silenced, or says that it
leaves. -/
theorem listening_react (hinv : Inv mb s₀ sender [] s) (h : Listening s₀ sender [] silent s)
    {e : Participant.Event β} {p p' : Participant β} {new : List (Deed β)}
    (hp : s.actors id = some p) (hreaction : Reaction mb s.router id p p' new [])
    (hs : p.step mb s.router e = some p') :
    Listening s₀ id new (silent ++ (if p.stopsReading e then some id else none).toList)
      (s.update id p p') := by
  obtain ⟨new', hdeeds, hlisteners, hserver, hclients, hnotices⟩ :=
    Participant.listeners_step (hinv.sound id p hp) hs
  obtain rfl := List.append_cancel_left (hreaction.deeds.symm.trans hdeeds)
  have hset : Listening s₀ id new
      (silent ++ (if p.stopsReading e then some id else none).toList) (s.setActor id p') := by
    refine h.replace hp hserver hclients (fun hslave => ?_) (fun k q hk hq hslave => ?_)
      (fun k hk => ?_) fun n hn => ?_
    · rw [if_pos rfl]
      exact silent_append (h.listeners_eq hp (hreaction.role ▸ hslave)) hlisteners
    · rw [if_neg hk, h.listeners_eq hq hslave]
      refine if_congr (mem_silent_of_ne hk fun x hx => ?_).symm rfl rfl
      split at hx
      · exact (Option.some.inj hx).symm
      · cases hx
    · rcases List.mem_append.mp hk with hold | hnow
      · exact h.silent k hold
      · -- only an RTU slave stops reading
        rw [Option.mem_toList] at hnow
        split at hnow
        · next hstops =>
          obtain rfl := Option.some.inj hnow
          rw [← hinv.roles _ p hp]
          intro hrole
          cases p with
          | connection c => cases hstops
          | _ => cases hrole
        · cases hnow
    · obtain ⟨serverId, hbelongs, rfl⟩ := hnotices n hn
      refine ⟨rfl, fun q hq => ?_⟩
      rw [Function.update_self] at hq
      obtain rfl := Option.some.inj hq
      exact hserver.trans hbelongs
  have hactors : (s.update id p p').actors = (s.setActor id p').actors := rfl
  exact hset.congr hactors rfl

/-- A server goes on with another accept, or is silenced. -/
theorem Listening.set_server (h : Listening s₀ sender [] silent s) (hinv : Inv mb s₀ sender [] s)
    {server : TcpServer} (hserver : s.actors id = some (.tcpServer server))
    (acceptor : Pool Unit ErrorCode) {stops : Bool}
    (hlength : acceptor.length + (if stops then 1 else 0) = server.acceptor.length) :
    Listening s₀ sender [] (silent ++ (if stops then some id else none).toList)
      (s.setActor id (.tcpServer { server with acceptor })) := by
  have hsame : (.tcpServer { server with acceptor } : Participant β).server =
    (.tcpServer server : Participant β).server := rfl
  apply h.replace hserver hsame rfl
  case hnotices => exact List.forall_mem_nil _
  · intro hslave
    rw [List.filterMap_nil, List.length_nil, ite_self]
    exact silent_append (h.listeners_eq hserver rfl) hlength
  · intro k q hk hq hslave
    rw [List.filterMap_nil, List.length_nil, ite_self, Nat.add_zero, h.listeners_eq hq hslave]
    refine if_congr (mem_silent_of_ne hk fun x hx => ?_).symm rfl rfl
    split at hx
    · exact (Option.some.inj hx).symm
    · cases hx
  · intro k hk
    rcases List.mem_append.mp hk with hold | hnow
    · exact h.silent k hold
    · rw [Option.mem_toList] at hnow
      split at hnow
      · obtain rfl := Option.some.inj hnow
        rw [← hinv.roles _ _ hserver]
        intro hrole
        cases hrole
      · cases hnow

/-- A connection comes, and its server puts it into its table. -/
theorem Listening.join (h : Listening s₀ sender [] silent s) {k : ActorId}
    {server server' : TcpServer} (hserver : s.actors k = some (.tcpServer server))
    (hfree : s.actors id = none) (hrole : s₀.role id = .connection)
    (hacceptor : server'.acceptor.length = server.acceptor.length)
    (hclients : server'.clientDb = server.clientDb.insert id)
    {c : ModbusTcpConnection β} (hbelongs : c.serverId = k)
    (hlisteners : (Participant.connection c).listeners = 1) :
    Listening s₀ sender [] silent ((s.setActor id (.connection c)).setActor k
      (.tcpServer server')) := by
  have hne : id ≠ k := by
    rintro rfl
    rw [hfree] at hserver
    cases hserver
  have hcases : ∀ {x q}, ((s.setActor id (.connection c)).setActor k
      (.tcpServer server') : Network β).actors x = some q →
      x = k ∧ q = .tcpServer server' ∨ x = id ∧ q = .connection c ∨
        x ≠ k ∧ x ≠ id ∧ s.actors x = some q := by
    intro x q hq
    by_cases hk : x = k
    · subst hk
      rw [setActor_self] at hq
      exact Or.inl ⟨rfl, (Option.some.inj hq).symm⟩
    rw [setActor_of_ne hk] at hq
    by_cases hid : x = id
    · subst hid
      rw [setActor_self] at hq
      exact Or.inr (Or.inl ⟨rfl, (Option.some.inj hq).symm⟩)
    · rw [setActor_of_ne hid] at hq
      exact Or.inr (Or.inr ⟨hk, hid, hq⟩)
  have hstays : ∀ {x q}, x ≠ k → s.actors x = some q →
      ((s.setActor id (.connection c)).setActor k
        (.tcpServer server') : Network β).actors x = some q := by
    intro x q hk hq
    have hid : x ≠ id := by
      rintro rfl
      rw [hfree] at hq
      cases hq
    rw [setActor_of_ne hk, setActor_of_ne hid]
    exact hq
  have hnew : ((s.setActor id (.connection c)).setActor k
      (.tcpServer server') : Network β).actors id = some (.connection c) := by
    rw [setActor_of_ne hne, setActor_self]
  refine ⟨fun x q hq hslave => ?_, h.silent, fun x q y hq hy => ?_, fun x q hq y hmem => ?_,
    fun n hn => by cases hn⟩
  · rw [List.filterMap_nil, List.length_nil, ite_self, Nat.add_zero]
    rcases hcases hq with ⟨rfl, rfl⟩ | ⟨rfl, rfl⟩ | ⟨-, -, hold⟩
    · exact hacceptor.trans (h.listeners_eq hserver rfl)
    · rw [if_neg fun hmem => h.silent x hmem hrole]
      exact hlisteners
    · exact h.listeners_eq hold hslave
  · rcases hcases hq with ⟨rfl, rfl⟩ | ⟨rfl, rfl⟩ | ⟨hxk, -, hold⟩
    · cases hy
    · obtain rfl := Option.some.inj hy
      subst hbelongs
      refine ⟨_, setActor_self _ _ _, ?_⟩
      rw [Participant.clients, hclients]
      exact List.mem_insert_self
    · obtain ⟨r, hr, hmem⟩ := h.known x q y hold hy
      by_cases hyk : y = k
      · subst hyk
        obtain rfl := Option.some.inj (hserver.symm.trans hr)
        refine ⟨_, setActor_self _ _ _, ?_⟩
        rw [Participant.clients, hclients]
        exact List.mem_insert_of_mem hmem
      · exact ⟨r, hstays hyk hr, hmem⟩
  · rcases hcases hq with ⟨rfl, rfl⟩ | ⟨rfl, rfl⟩ | ⟨hxk, -, hold⟩
    · rw [Participant.clients, hclients] at hmem
      rcases List.mem_insert_iff.mp hmem with rfl | hold
      · exact ⟨_, hnew, congrArg some hbelongs⟩
      · obtain ⟨r, hr, hs⟩ := h.clients x _ hserver y hold
        have hyx : y ≠ x := by
          rintro rfl
          obtain rfl := Option.some.inj (hserver.symm.trans hr)
          cases hs
        exact ⟨r, hstays hyx hr, hs⟩
    · cases hmem
    · obtain ⟨r, hr, hs⟩ := h.clients x q hold y hmem
      have hyk : y ≠ k := by
        rintro rfl
        obtain rfl := Option.some.inj (hserver.symm.trans hr)
        cases hs
      exact ⟨r, hstays hyk hr, hs⟩

/-- **Every step leaves the gateway listening**, up to whom it silences. -/
theorem listening_step {e : Event β} (hinv : Inv mb s₀ sender [] s)
    (h : Listening s₀ sender [] silent s) (hs : step mb s e = some s') :
    Listening s₀ sender [] (silent ++ (s.silenced e).toList) s' := by
  cases step_branch hs with
  | @actor id e p p' hp hself hact now =>
    obtain ⟨new, hreaction⟩ := Participant.reaction_step (hinv.sound id p hp) hself hact
    have hsilenced : s.silenced (.actor id e now) = if p.stopsReading e then some id else none := by
      rw [silenced, hp]
      rfl
    rw [hsilenced, hreaction.deeds, List.drop_left]
    exact (listening_foldl_perform now (hinv.react hp hreaction)
      (listening_react hinv h hp hreaction hact)).release sender
  | @acceptAborted serverId i server acceptor hserver htake =>
    have hsilenced : ∀ clientId peerGone startPeerGone,
        s.silenced (.handleAccept serverId i clientId peerGone startPeerGone) =
          if true then some serverId else none := by
      intro clientId peerGone startPeerGone
      simp only [silenced, hserver, htake, if_true]
    rw [hsilenced]
    refine h.set_server hinv hserver acceptor ?_
    have hlength := (Pool.take_perm htake).length_eq
    rw [List.length_cons] at hlength
    exact hlength.symm
  | @acceptFailed serverId i server ec acceptor hserver htake hec hne =>
    have hsilenced : ∀ clientId peerGone startPeerGone,
        s.silenced (.handleAccept serverId i clientId peerGone startPeerGone) =
          if false then some serverId else none := by
      intro clientId peerGone startPeerGone
      simp only [silenced, hserver, htake, if_neg hne, Bool.false_eq_true, if_false]
    rw [hsilenced]
    refine h.set_server hinv hserver (acceptor.start ()) ?_
    have hlength := (Pool.take_perm htake).length_eq
    rw [List.length_cons] at hlength
    rw [Pool.start, List.length_append, hlength]
    rfl
  | @accepted serverId clientId i server acceptor hserver htake hfree =>
    have hsilenced : s.silenced (.handleAccept serverId i clientId false false) = none := by
      simp [silenced, hserver, htake]
    have hnone : s.actors clientId = none :=
      Option.isNone_iff_eq_none.mp (Bool.and_eq_true_iff.mp hfree).1
    have hrole : s₀.role clientId = .connection := by
      by_contra hrole
      have hsome := hinv.registered clientId hrole
      rw [hnone] at hsome
      cases hsome
    have hlength := (Pool.take_perm htake).length_eq
    rw [List.length_cons] at hlength
    rw [hsilenced, Option.toList_none, List.append_nil]
    refine h.join hserver hnone hrole ?_ rfl rfl rfl
    rw [hlength]
    exact List.length_append

/-- Before the first event there are no connections. -/
theorem listening_initial (h : s₀.Initial) (sender : ActorId) : Listening s₀ sender [] [] s₀ where
  listeners id p hp hslave := by
    have hfresh := h.fresh id p hp
    rw [List.filterMap_nil, List.length_nil, ite_self, if_neg List.not_mem_nil]
    cases p with
    | tcpClient c => cases hslave
    | rtuMaster m => cases hslave
    | tcpServer s =>
      obtain rfl := hfresh
      rfl
    | connection c => exact hfresh.elim
    | rtuSlave s =>
      obtain ⟨frameType, rfl⟩ := hfresh
      rfl
  silent := List.forall_mem_nil _
  known id p k hp hserver := by
    cases p with
    | connection c => exact (h.fresh id _ hp).elim
    | _ => cases hserver
  clients k q hq id hmem := by
    cases q with
    | tcpServer s =>
      obtain rfl : s = TcpServer.new.start := h.fresh k _ hq
      cases hmem
    | _ => cases hmem
  notices := List.forall_mem_nil _

/-- **Whoever is registered listens**, in every run of the gateway and whatever clients, devices
and the system do.  A server or RTU slave waits with one operation unless it has been silenced; a
connection waits with one receive; and the connections that are registered are the clients in the
tables of the servers. -/
theorem listening_exec {β : Type} (mb : Modbus β) {s₀ s : Network β} (h : s₀.Initial)
    {es : List (Event β)} (hrun : exec (step mb) s₀ es = some s) :
    (∀ id p, s.actors id = some p → p.role.isMaster = false →
      p.listeners = if id ∈ record (step mb) silenced s₀ es then 0 else 1) ∧
    (∀ id ∈ record (step mb) silenced s₀ es, ∃ p, s₀.actors id = some p) ∧
    (∀ id p, s₀.actors id = some p → (s.actors id).isSome = true) ∧
    (∀ id c, s.actors id = some (.connection c) →
      ∃ server, s.actors c.serverId = some (.tcpServer server) ∧ id ∈ server.clientDb) ∧
    ∀ k server, s.actors k = some (.tcpServer server) → ∀ id ∈ server.clientDb,
      ∃ c, s.actors id = some (.connection c) ∧ c.serverId = k := by
  have hrole : ∀ {id}, s₀.role id ≠ .connection ↔ ∃ p, s₀.actors id = some p := by
    intro id
    rw [role]
    cases hp : s₀.actors id with
    | none => simp
    | some p =>
      have hfresh := h.fresh id p hp
      cases p with
      | connection c => exact hfresh.elim
      | _ => simp [Participant.role]
  have hboth : Inv mb s₀ 0 [] s ∧ Listening s₀ 0 [] ([] ++ record (step mb) silenced s₀ es) s := by
    refine invariant_record (I := fun s silent => Inv mb s₀ 0 [] s ∧ Listening s₀ 0 [] silent s)
      (fun s silent e s' hs hse => ?_) es _ _ [] ⟨inv_initial h mb 0, listening_initial h 0⟩ hrun
    exact ⟨inv_step hs.1 hse, listening_step hs.1 hs.2 hse⟩
  obtain ⟨hinv, hlistening⟩ := hboth
  rw [List.nil_append] at hlistening
  refine ⟨fun id p hp hslave => hlistening.listeners_eq hp hslave,
    fun id hid => hrole.mp (hlistening.silent id hid),
    fun id p hp => hinv.registered id (hrole.mpr ⟨p, hp⟩), fun id c hc => ?_,
    fun k server hk id hmem => ?_⟩
  · obtain ⟨q, hq, hmem⟩ := hlistening.known id _ c.serverId hc rfl
    cases q with
    | tcpServer server => exact ⟨server, hq, hmem⟩
    | _ => cases hmem
  · obtain ⟨p, hp, hserver⟩ := hlistening.clients k _ hk id hmem
    cases p with
    | connection c => exact ⟨c, hp, Option.some.inj hserver⟩
    | _ => cases hserver

set_option maxRecDepth 2000 in
/-- The client of the sample run is answered, and both it and the next client are waited for. -/
theorem listening_serial :
    ∃ s server c, exec (step Frame.library) serialDevice serialRun = some s ∧
      s.actors 2 = some (.tcpServer server) ∧ server.acceptor.length = 1 ∧
      s.actors 5 = some (.connection c) ∧ (Participant.connection c).listeners = 1 ∧
      5 ∈ server.clientDb := by
  obtain ⟨s, server, c, hrun, hserver, hc, hserverId, hsilenced⟩ : ∃ s server c,
      exec (step Frame.library) serialDevice serialRun = some s ∧
        s.actors 2 = some (.tcpServer server) ∧ s.actors 5 = some (.connection c) ∧
        c.serverId = 2 ∧ record (step Frame.library) silenced serialDevice serialRun = [] :=
    ⟨_, _, _, rfl, rfl, rfl, by decide +kernel, by decide +kernel⟩
  obtain ⟨hlisteners, -, -, hknown, -⟩ :=
    listening_exec Frame.library initial_serialDevice hrun
  rw [hsilenced] at hlisteners
  obtain ⟨server', hserver', hmem⟩ := hknown 5 c hc
  rw [hserverId, hserver] at hserver'
  cases hserver'
  exact ⟨s, server, c, hrun, hserver, hlisteners 2 _ hserver rfl, hc, hlisteners 5 _ hc rfl, hmem⟩

end Network

end ModbusGateway
