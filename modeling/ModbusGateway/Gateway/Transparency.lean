import ModbusGateway.Gateway.System
import ModbusGateway.ModbusFrame
import ModbusGateway.Transport.TcpClientRelay

/-!
# The gateway is transparent

A request keeps its unit id and its PDU on its way to a device, and so does a reply on
its way to a client.  The transaction id is a different matter: the master writes a
request under an id of its own, and the connection writes the reply under the one it
finds in the message info, which the master has copied from the request.

The router is the weak point.  For unit id 255 it reads past the end of its table, and
when what lies there happens to be the id of the connection itself, the request comes
straight back and is written to the client as its own reply.

## Main definitions

* `connectionEffects s id`, `masterEffects s id` — the histories of the actors.
* `Transparent mb s` — what has been written to devices and to clients is what was
  accepted and what was answered.
* `sentOn` — the event does not send a request back to its own connection.

## Main results

* `inv_request`, `inv_reply` — the two calls of `exchange->Send` keep the invariant.
* `transparent_exec` — **the gateway is transparent in every run in which no request is
  sent back to its own connection.**
-/

namespace ModbusGateway

open Proactor Execution

namespace Gateway

variable {β : Type} {mb : Modbus β} {s s' : Gateway β}

/-! ### Histories -/

/-- What a connection has done, oldest first; nothing where `id` is no connection's. -/
def connectionEffects (s : Gateway β) (id : ActorId) : List (ConnectionEffect β) :=
  match s.actors id with
  | some (.connection c) => c.effects
  | _ => []

/-- What a master has done, oldest first; nothing where `id` is no master's. -/
def masterEffects (s : Gateway β) (id : ActorId) : List (MasterEffect β) :=
  match s.actors id with
  | some (.master m) => m.effects
  | _ => []

/-- A frame that was written to a connection's socket: it answers a request accepted on the
connection, with a frame that has passed `Check` at the master that received the request. -/
def Relayed (mb : Modbus β) (s : Gateway β) (id : ActorId) (frame : β) : Prop :=
  ∃ masterId request reply,
    .send masterId request ∈ s.connectionEffects id ∧
    .receive request ∈ s.masterEffects masterId ∧
    .send id reply ∈ s.masterEffects masterId ∧
    mb.tcpCheck reply.modbusBuffer = .NoError ∧
    mb.getUnitId frame = mb.getUnitId reply.modbusBuffer ∧
    mb.pdu frame = mb.pdu reply.modbusBuffer ∧
    mb.getTransactionId frame = mb.getTransactionId request.modbusBuffer

/-- What has been written to devices and to clients is what was accepted and what was
answered. -/
structure Transparent (mb : Modbus β) (s : Gateway β) : Prop where
  /-- What a master writes has the unit id and the PDU of a request that was accepted on some
  connection and routed to the master. -/
  toDevice : ∀ masterId message transactionId frame,
    .write message transactionId frame ∈ s.masterEffects masterId →
    ∃ id request, .send masterId request ∈ s.connectionEffects id ∧
      mb.getUnitId frame = mb.getUnitId request.modbusBuffer ∧
      mb.pdu frame = mb.pdu request.modbusBuffer
  /-- What a connection writes is a reply, under the transaction id of its request. -/
  toClient : ∀ id frame, .write frame ∈ s.connectionEffects id → s.Relayed mb id frame

/-- The event does not make a connection accept a request that a read past the end of the
router's table, for unit id 255, sends back to the connection itself. -/
def sentOn (mb : Modbus β) (s : Gateway β) : Event β → Bool
  | .connection id (.handle i now pastEnd) _ =>
    match s.actors id with
    | some (.connection c) =>
      match c.socket.ops.take i with
      | some (.receive, ⟨.success, data⟩, _) =>
        (ModbusTcpConnection.makeRequest mb data c.id now).all fun message =>
          decide (mb.getUnitId message.modbusBuffer ≠ 255) || decide (pastEnd ≠ c.id)
      | _ => true
    | _ => true
  | _ => true

theorem connectionEffects_of {id : ActorId} {c : ModbusTcpConnection β}
    (h : s.actors id = some (.connection c)) : s.connectionEffects id = c.effects := by
  rw [connectionEffects, h]

theorem masterEffects_of {id : ActorId} {m : ModbusTcpClient β}
    (h : s.actors id = some (.master m)) : s.masterEffects id = m.effects := by
  rw [masterEffects, h]

/-- Only a connection has the history of one. -/
theorem exists_connection {id : ActorId} {e : ConnectionEffect β}
    (h : e ∈ s.connectionEffects id) : ∃ c, s.actors id = some (.connection c) ∧ e ∈ c.effects := by
  unfold connectionEffects at h
  split at h
  · next c hc => exact ⟨c, hc, h⟩
  · cases h

/-- Only a master has the history of one. -/
theorem exists_master {id : ActorId} {e : MasterEffect β}
    (h : e ∈ s.masterEffects id) : ∃ m, s.actors id = some (.master m) ∧ e ∈ m.effects := by
  unfold masterEffects at h
  split at h
  · next m hm => exact ⟨m, hm, h⟩
  · cases h

@[simp] theorem setActor_self (s : Gateway β) (id : ActorId) (a : Actor β) :
    (s.setActor id a).actors id = some a :=
  Function.update_self ..

@[simp] theorem setActor_of_ne {id k : ActorId} (h : k ≠ id) (s : Gateway β) (a : Actor β) :
    (s.setActor id a).actors k = s.actors k :=
  Function.update_of_ne h ..

/-- An actor after a change is the new one or an old one. -/
theorem setActor_cases {id k : ActorId} {a b : Actor β}
    (h : (s.setActor id a).actors k = some b) :
    k = id ∧ b = a ∨ k ≠ id ∧ s.actors k = some b := by
  by_cases hk : k = id
  · subst hk
    rw [setActor_self] at h
    exact Or.inl ⟨rfl, (Option.some.inj h).symm⟩
  · rw [setActor_of_ne hk] at h
    exact Or.inr ⟨hk, h⟩

theorem masterEffects_eq_nil {id : ActorId} (h : ∀ m, s.actors id ≠ some (.master m)) :
    s.masterEffects id = [] := by
  unfold masterEffects
  split
  · next m hm => exact absurd hm (h m)
  · rfl

/-- A connection says nothing of the masters. -/
theorem masterEffects_setConnection {id : ActorId} (h : s.masterEffects id = [])
    (c : ModbusTcpConnection β) (k : ActorId) :
    (s.setActor id (.connection c)).masterEffects k = s.masterEffects k := by
  by_cases hk : k = id
  · subst hk
    rw [h, masterEffects, setActor_self]
  · rw [masterEffects, setActor_of_ne hk, ← masterEffects]

/-- A master says nothing of the connections. -/
theorem connectionEffects_setMaster {id : ActorId} (h : s.connectionEffects id = [])
    (m : ModbusTcpClient β) (k : ActorId) :
    (s.setActor id (.master m)).connectionEffects k = s.connectionEffects k := by
  by_cases hk : k = id
  · subst hk
    rw [h, connectionEffects, setActor_self]
  · rw [connectionEffects, setActor_of_ne hk, ← connectionEffects]

theorem connectionEffects_setActor_of_ne {id k : ActorId} (h : k ≠ id) (a : Actor β) :
    (s.setActor id a).connectionEffects k = s.connectionEffects k := by
  rw [connectionEffects, setActor_of_ne h, ← connectionEffects]

theorem masterEffects_setActor_of_ne {id k : ActorId} (h : k ≠ id) (a : Actor β) :
    (s.setActor id a).masterEffects k = s.masterEffects k := by
  rw [masterEffects, setActor_of_ne h, ← masterEffects]

/-! ### The invariant -/

/-- What keeps the gateway transparent. -/
structure Inv (mb : Modbus β) (s : Gateway β) : Prop where
  /-- A connection knows its id. -/
  connection : ∀ id c, s.actors id = some (.connection c) → c.id = id
  /-- A master passes on what it has received only. -/
  master : ∀ id m, s.actors id = some (.master m) → m.Control ∧ m.Relays mb
  /-- The router's table names masters. -/
  table : ∀ unitId pastEnd, unitId.toNat < 255 →
    (∃ m, s.actors (s.router.route unitId pastEnd) = some (.master m)) ∨
      s.router.route unitId pastEnd = s.defaultId
  default : ∀ c, s.actors s.defaultId ≠ some (.connection c)
  /-- A request bears the id of its connection, and the transaction id of its frame. -/
  accepted : ∀ id actorId message, .send actorId message ∈ s.connectionEffects id →
    message.modbusMessageInfo.sourceId = id ∧
      message.modbusMessageInfo.transactionId = mb.getTransactionId message.modbusBuffer
  /-- Masters get requests from connections only. -/
  received : ∀ id message, .receive message ∈ s.masterEffects id →
    ∃ k, .send id message ∈ s.connectionEffects k
  relayed : ∀ id frame, .write frame ∈ s.connectionEffects id → s.Relayed mb id frame

/-- The histories of one state are part of those of another. -/
def Grows (s s' : Gateway β) : Prop :=
  ∀ id, s.connectionEffects id ⊆ s'.connectionEffects id ∧ s.masterEffects id ⊆ s'.masterEffects id

theorem Relayed.mono {id : ActorId} {frame : β} (h : s.Relayed mb id frame) (hg : Grows s s') :
    s'.Relayed mb id frame := by
  obtain ⟨masterId, request, reply, hsend, hrec, hreply, hcheck⟩ := h
  exact ⟨masterId, request, reply, (hg id).1 hsend, (hg masterId).2 hrec, (hg masterId).2 hreply,
    hcheck⟩

theorem inv_new {defaultId serverId : ActorId} {masters : List (ActorId × Milliseconds)}
    {routes : Routes defaultId (masters.map Prod.fst)} :
    Inv mb (new serverId masters routes : Gateway β) := by
  have hmaster : ∀ id a, (new serverId masters routes : Gateway β).actors id = some a →
      ∃ timeout, a = .master (.new timeout) := by
    intro id a ha
    obtain ⟨p, -, rfl⟩ := Option.map_eq_some_iff.mp ha
    exact ⟨p.2, rfl⟩
  have hcon : ∀ id, (new serverId masters routes : Gateway β).connectionEffects id = [] := by
    intro id
    refine List.eq_nil_iff_forall_not_mem.mpr fun e he => ?_
    obtain ⟨c, hc, -⟩ := exists_connection he
    obtain ⟨timeout, heq⟩ := hmaster id _ hc
    cases heq
  refine ⟨?_, ?_, ?_, ?_, ?_, ?_, ?_⟩
  · intro id c hc
    obtain ⟨timeout, heq⟩ := hmaster id _ hc
    cases heq
  · intro id m hm
    obtain ⟨timeout, heq⟩ := hmaster id _ hm
    cases heq
    exact ⟨ModbusTcpClient.control_new timeout, ModbusTcpClient.relays_new timeout⟩
  · intro unitId pastEnd hunit
    refine (routes.served unitId pastEnd hunit).imp_left fun hmem => ?_
    -- the first entry of the list with this id is the one that is registered
    obtain ⟨p, hp, hid⟩ := List.mem_map.mp hmem
    have hsome : (masters.find? fun q => q.1 == routes.router.route unitId pastEnd).isSome = true :=
      List.find?_isSome.mpr ⟨p, hp, beq_iff_eq.mpr hid⟩
    obtain ⟨q, hq⟩ := Option.isSome_iff_exists.mp hsome
    exact ⟨.new q.2, Option.map_eq_some_iff.mpr ⟨q, hq, rfl⟩⟩
  · intro c hc
    obtain ⟨timeout, heq⟩ := hmaster _ _ hc
    cases heq
  · intro id actorId message h
    rw [hcon] at h
    cases h
  · intro id message h
    obtain ⟨m, hm, hmem⟩ := exists_master h
    obtain ⟨timeout, heq⟩ := hmaster id _ hm
    cases heq
    cases hmem
  · intro id frame h
    rw [hcon] at h
    cases h

/-! ### Actors change -/

/-- The histories grow when a connection adds to that of its id. -/
theorem grows_setConnection {id : ActorId} {c' : ModbusTcpConnection β}
    {new : List (ConnectionEffect β)} (hno : ∀ m, s.actors id ≠ some (.master m))
    (heff : c'.effects = s.connectionEffects id ++ new) :
    Grows s (s.setActor id (.connection c')) := by
  intro k
  rw [masterEffects_setConnection (masterEffects_eq_nil hno) c']
  refine ⟨?_, List.Subset.refl _⟩
  by_cases hk : k = id
  · subst hk
    rw [connectionEffects_of (setActor_self ..), heff]
    exact List.subset_append_left ..
  · rw [connectionEffects_setActor_of_ne hk]
    exact List.Subset.refl _

/-- The histories grow when a master adds to its own. -/
theorem grows_setMaster {id : ActorId} {m m' : ModbusTcpClient β} {new : List (MasterEffect β)}
    (hm : s.actors id = some (.master m)) (heff : m'.effects = m.effects ++ new) :
    Grows s (s.setActor id (.master m')) := by
  intro k
  have hnil : s.connectionEffects id = [] := by rw [connectionEffects, hm]
  rw [connectionEffects_setMaster hnil m']
  refine ⟨List.Subset.refl _, ?_⟩
  by_cases hk : k = id
  · subst hk
    rw [masterEffects_of (setActor_self ..), masterEffects_of hm, heff]
    exact List.subset_append_left ..
  · rw [masterEffects_setActor_of_ne hk]
    exact List.Subset.refl _

/-- A registered master stays one, whatever happens to the connections. -/
theorem Inv.table_setConnection (h : Inv mb s) {id : ActorId} {c' : ModbusTcpConnection β}
    (hid : ∀ m, s.actors id ≠ some (.master m)) (unitId : UnitId) (pastEnd : ActorId)
    (hunit : unitId.toNat < 255) :
    (∃ m, (s.setActor id (.connection c')).actors (s.router.route unitId pastEnd) =
      some (.master m)) ∨ s.router.route unitId pastEnd = s.defaultId := by
  refine (h.table unitId pastEnd hunit).imp_left fun hm => ?_
  obtain ⟨m, hm⟩ := hm
  have hne : s.router.route unitId pastEnd ≠ id := fun heq => hid m (heq ▸ hm)
  exact ⟨m, (setActor_of_ne hne ..).trans hm⟩

/-- A connection is put under an id that is no master's, with the history of that id and what
it adds to it. -/
theorem inv_putConnection (h : Inv mb s) {id : ActorId} {c' : ModbusTcpConnection β}
    {new : List (ConnectionEffect β)} (hno : ∀ m, s.actors id ≠ some (.master m))
    (hdefault : id ≠ s.defaultId) (hid : c'.id = id)
    (heff : c'.effects = s.connectionEffects id ++ new)
    (hsend : ∀ actorId message, .send actorId message ∈ new →
      message.modbusMessageInfo.sourceId = id ∧
        message.modbusMessageInfo.transactionId = mb.getTransactionId message.modbusBuffer)
    (hwrite : ∀ frame, .write frame ∈ new → s.Relayed mb id frame) :
    Inv mb (s.setActor id (.connection c')) := by
  have hmasters := masterEffects_setConnection (masterEffects_eq_nil hno) c'
  have hself : (s.setActor id (.connection c')).connectionEffects id =
      s.connectionEffects id ++ new := by
    rw [connectionEffects_of (setActor_self ..), heff]
  -- what the connections have done is what they had done, or new and done by this one
  have hcases : ∀ {k e}, e ∈ (s.setActor id (.connection c')).connectionEffects k →
      e ∈ s.connectionEffects k ∨ k = id ∧ e ∈ new := by
    intro k e he
    by_cases hk : k = id
    · subst hk
      rw [hself] at he
      exact (List.mem_append.mp he).imp_right fun he => ⟨rfl, he⟩
    · rw [connectionEffects_setActor_of_ne hk] at he
      exact Or.inl he
  have hgrows : Grows s (s.setActor id (.connection c')) := grows_setConnection hno heff
  refine ⟨?_, ?_, h.table_setConnection hno, ?_, ?_, ?_, ?_⟩
  · intro k d hd
    rcases setActor_cases hd with ⟨rfl, heq⟩ | ⟨-, hd⟩
    · cases heq
      exact hid
    · exact h.connection k d hd
  · intro k m hm
    rcases setActor_cases hm with ⟨rfl, heq⟩ | ⟨-, hm⟩
    · cases heq
    · exact h.master k m hm
  · intro d hd
    rcases setActor_cases hd with ⟨heq, -⟩ | ⟨-, hd⟩
    · exact hdefault heq.symm
    · exact h.default d hd
  · intro k actorId message hmem
    rcases hcases hmem with hold | ⟨rfl, hnew⟩
    · exact h.accepted k actorId message hold
    · exact hsend actorId message hnew
  · intro k message hmem
    rw [hmasters] at hmem
    obtain ⟨j, hj⟩ := h.received k message hmem
    exact ⟨j, (hgrows j).1 hj⟩
  · intro k frame hmem
    rcases hcases hmem with hold | ⟨rfl, hnew⟩
    · exact (h.relayed k frame hold).mono hgrows
    · exact (hwrite frame hnew).mono hgrows

/-- A connection that adds to its history. -/
theorem inv_setConnection (h : Inv mb s) {id : ActorId} {c c' : ModbusTcpConnection β}
    {new : List (ConnectionEffect β)} (hc : s.actors id = some (.connection c)) (hid : c'.id = c.id)
    (heff : c'.effects = c.effects ++ new)
    (hsend : ∀ actorId message, .send actorId message ∈ new →
      message.modbusMessageInfo.sourceId = id ∧
        message.modbusMessageInfo.transactionId = mb.getTransactionId message.modbusBuffer)
    (hwrite : ∀ frame, .write frame ∈ new → s.Relayed mb id frame) :
    Inv mb (s.setActor id (.connection c')) := by
  refine inv_putConnection h (fun m hm => ?_) (fun heq => ?_) (hid.trans (h.connection id c hc))
    (by rw [heff, connectionEffects_of hc]) hsend hwrite
  · rw [hc] at hm
    cases hm
  · exact h.default c (heq ▸ hc)

/-- A new connection has an id that is nobody else's. -/
theorem inv_accept (h : Inv mb s) {id : ActorId} (hfree : s.idFree id = true) :
    Inv mb (s.setActor id
      (.connection (ModbusTcpConnection.new s.serverId id).startReceiveTask)) := by
  simp only [idFree, Bool.and_eq_true, Option.isNone_iff_eq_none, decide_eq_true_eq] at hfree
  obtain ⟨⟨hnone, -⟩, hdefault⟩ := hfree
  have hnil : s.connectionEffects id = [] := by rw [connectionEffects, hnone]
  refine inv_putConnection h (fun m hm => ?_) hdefault rfl (by rw [hnil]; rfl)
    (fun _ _ hmem => by cases hmem) (fun _ hmem => by cases hmem)
  rw [hnone] at hm
  cases hm

/-- A master that has received one message at most, which a connection has sent to it. -/
theorem inv_setMaster (h : Inv mb s) {id : ActorId} {m m' : ModbusTcpClient β}
    {message : Option (ModbusMessage β)} (hm : s.actors id = some (.master m))
    (hctl : m'.Control) (hrelays : m'.Relays mb) (hext : m.Extends m' message)
    (hmessage : ∀ request, message = some request → ∃ k, .send id request ∈ s.connectionEffects k) :
    Inv mb (s.setActor id (.master m')) := by
  have hnil : s.connectionEffects id = [] := by rw [connectionEffects, hm]
  have hcons := connectionEffects_setMaster hnil m'
  have hself : (s.setActor id (.master m')).masterEffects id = m'.effects :=
    masterEffects_of (setActor_self ..)
  have hgrows : Grows s (s.setActor id (.master m')) := by
    obtain ⟨new, heq, -⟩ := hext
    exact grows_setMaster hm heq
  refine ⟨?_, ?_, ?_, ?_, ?_, ?_, ?_⟩
  · intro k c hc
    rcases setActor_cases hc with ⟨rfl, heq⟩ | ⟨-, hc⟩
    · cases heq
    · exact h.connection k c hc
  · intro k n hn
    rcases setActor_cases hn with ⟨rfl, heq⟩ | ⟨-, hn⟩
    · cases heq
      exact ⟨hctl, hrelays⟩
    · exact h.master k n hn
  · intro unitId pastEnd hunit
    refine (h.table unitId pastEnd hunit).imp_left fun hn => ?_
    by_cases hroute : s.router.route unitId pastEnd = id
    · exact ⟨m', hroute ▸ setActor_self s id (.master m')⟩
    · obtain ⟨n, hn⟩ := hn
      exact ⟨n, (setActor_of_ne hroute ..).trans hn⟩
  · intro c hc
    rcases setActor_cases hc with ⟨-, heq⟩ | ⟨-, hc⟩
    · cases heq
    · exact h.default c hc
  · intro k actorId request hmem
    rw [hcons] at hmem
    exact h.accepted k actorId request hmem
  · intro k request hmem
    have hsent : ∃ j, .send k request ∈ s.connectionEffects j := by
      by_cases hk : k = id
      · subst hk
        rw [hself] at hmem
        rcases hext.received_or hmem with hold | hnew
        · exact h.received k request (masterEffects_of hm ▸ hold)
        · exact hmessage request hnew
      · rw [masterEffects_setActor_of_ne hk] at hmem
        exact h.received k request hmem
    obtain ⟨j, hj⟩ := hsent
    exact ⟨j, (hgrows j).1 hj⟩
  · intro k frame hmem
    rw [hcons] at hmem
    exact (h.relayed k frame hmem).mono hgrows

/-! ### The two calls of `exchange->Send` -/

/-- **A request on its way to a master.**  Where its connection has not sent it to itself, a
connection that gets it refuses it, since the request bears the id of the sender. -/
theorem inv_request (h : Inv mb s) (now : Nanoseconds) {id actorId : ActorId}
    {message : ModbusMessage β} (hsent : .send actorId message ∈ s.connectionEffects id)
    (hne : actorId ≠ id) : Inv mb (s.send mb now actorId message) := by
  unfold send
  split
  · exact h
  · next m hm =>
    obtain ⟨hctl, hrelays⟩ := h.master actorId m hm
    have hstep : ModbusTcpClient.step mb m (.receive message now) =
        some (m.messageProcess mb message now) := rfl
    obtain ⟨hrelays', hext⟩ := ModbusTcpClient.relays_step hctl hrelays hstep
    refine inv_setMaster h hm (ModbusTcpClient.control_step hctl hstep) hrelays' hext ?_
    rintro request heq
    obtain rfl : message = request := Option.some.inj heq
    exact ⟨id, hsent⟩
  · next c hc =>
    obtain ⟨hsource, -⟩ := h.accepted id actorId message hsent
    rcases ModbusTcpConnection.startSendTask_cases mb c
        ⟨message.modbusMessageInfo, some message.modbusBuffer⟩ with
      ⟨heq, -⟩ | ⟨-, -, -, -, hnone, -⟩ | ⟨lastInfo, buffer, hid, -⟩
    · rw [heq]
      have hnil : c.effects = c.effects ++ [] := (List.append_nil _).symm
      exact inv_setConnection h hc rfl hnil (fun _ _ hmem => by cases hmem)
        (fun _ hmem => by cases hmem)
    · cases hnone
    · exact absurd (h.connection actorId c hc ▸ hid.symm.trans hsource) hne

/-- A reply goes to the connection that accepted the request it answers. -/
theorem Inv.exists_request (h : Inv mb s) {id actorId : ActorId} {reply : ModbusMessage β}
    (hsent : .send actorId reply ∈ s.masterEffects id) :
    ∃ c request, s.actors actorId = some (.connection c) ∧
      .send id request ∈ s.connectionEffects actorId ∧ .receive request ∈ s.masterEffects id ∧
      reply.modbusMessageInfo.transactionId = mb.getTransactionId request.modbusBuffer ∧
      mb.tcpCheck reply.modbusBuffer = .NoError := by
  obtain ⟨m, hm, hmem⟩ := exists_master hsent
  obtain ⟨-, hrelays⟩ := h.master id m hm
  obtain ⟨hactor, hcheck, request, hreceived, hinfo⟩ := hrelays.send actorId reply hmem
  have hreceived' : .receive request ∈ s.masterEffects id := by
    rw [masterEffects_of hm]
    exact hreceived
  obtain ⟨k, hk⟩ := h.received id request hreceived'
  obtain ⟨hsource, htransaction⟩ := h.accepted k id request hk
  -- the master has copied the info of the request, and with it the way back
  have hkactor : k = actorId := by rw [hactor, ← hinfo, hsource]
  subst hkactor
  obtain ⟨c, hc, -⟩ := exists_connection hk
  exact ⟨c, request, hc, hk, hreceived', by rw [← hinfo, htransaction], hcheck⟩

/-- **A reply on its way to a connection.** -/
theorem inv_reply (hmb : mb.Lawful) (h : Inv mb s) (now : Nanoseconds) {id actorId : ActorId}
    {reply : ModbusMessage β} (hsent : .send actorId reply ∈ s.masterEffects id) :
    Inv mb (s.send mb now actorId reply) ∧
      ∀ k, (s.send mb now actorId reply).masterEffects k = s.masterEffects k := by
  obtain ⟨c, request, hc, hk, hreceived, htransaction, hcheck⟩ := h.exists_request hsent
  have hnil : s.masterEffects actorId = [] := by rw [masterEffects, hc]
  simp only [send, hc]
  refine ⟨?_, masterEffects_setConnection hnil _⟩
  rcases ModbusTcpConnection.startSendTask_cases mb c
      ⟨reply.modbusMessageInfo, some reply.modbusBuffer⟩ with
    ⟨heq, -⟩ | ⟨-, -, -, -, hnone, -⟩ | ⟨lastInfo, buffer, -, -, -, hbuffer, heq⟩
  · rw [heq]
    exact inv_setConnection h hc rfl (List.append_nil _).symm (fun _ _ hmem => by cases hmem)
      (fun _ hmem => by cases hmem)
  · cases hnone
  · obtain rfl := Option.some.inj hbuffer
    rw [heq]
    refine inv_setConnection h hc rfl rfl (fun _ _ hmem => by simp at hmem) fun frame hmem => ?_
    obtain rfl := ConnectionEffect.write.inj (List.mem_singleton.mp hmem)
    refine ⟨id, request, reply, hk, hreceived, hsent, hcheck, ?_, ?_, ?_⟩
    · exact hmb.getUnitId_toTcp ..
    · exact hmb.pdu_toTcp ..
    · rw [hmb.getTransactionId_toTcp, htransaction]

/-- What comes of a master's effects, one after the other. -/
theorem inv_replies (hmb : mb.Lawful) (now : Nanoseconds) {id : ActorId}
    {es : List (MasterEffect β)} :
    ∀ {s : Gateway β}, Inv mb s → (∀ e ∈ es, e ∈ s.masterEffects id) →
      Inv mb (es.foldl (ofMaster mb now) s) := by
  induction es with
  | nil => exact fun h _ => h
  | cons e es ih =>
    intro s h hes
    have hrest : ∀ e ∈ es, e ∈ s.masterEffects id := fun e he => hes e (List.mem_cons_of_mem _ he)
    cases e with
    | send actorId reply =>
      obtain ⟨hreply, hsame⟩ := inv_reply hmb h now (hes _ List.mem_cons_self)
      exact ih hreply fun e he => (hsame id).symm ▸ hrest e he
    | receive | expire | connect | write | timeout => exact ih h hrest

/-! ### Runs -/

/-- A step of a master, with what comes of it elsewhere. -/
theorem inv_masterStep (hmb : mb.Lawful) (h : Inv mb s) (now : Nanoseconds) {id : ActorId}
    {m m' : ModbusTcpClient β} {e : ModbusTcpClient.Event β} (hm : s.actors id = some (.master m))
    (hallowed : masterAllowed e = true) (hs : ModbusTcpClient.step mb m e = some m') :
    Inv mb ((m'.effects.drop m.effects.length).foldl (ofMaster mb now)
      (s.setActor id (.master m'))) := by
  obtain ⟨hctl, hrelays⟩ := h.master id m hm
  obtain ⟨hrelays', hext⟩ := ModbusTcpClient.relays_step hctl hrelays hs
  have hset : Inv mb (s.setActor id (.master m')) := by
    refine inv_setMaster h hm (ModbusTcpClient.control_step hctl hs) hrelays' hext ?_
    intro request heq
    cases e with
    | receive => cases hallowed
    | complete | handle | expire | handleWait => cases heq
  have hmem : ∀ e ∈ m'.effects.drop m.effects.length,
      e ∈ (s.setActor id (.master m')).masterEffects id := by
    intro e he
    rw [masterEffects_of (setActor_self ..)]
    exact List.mem_of_mem_drop he
  exact inv_replies hmb now hset hmem

/-- A step of a connection, with what comes of it elsewhere. -/
theorem inv_connectionStep (h : Inv mb s) (now : Nanoseconds) {id : ActorId}
    {c c' : ModbusTcpConnection β} {e : ModbusTcpConnection.Event}
    (hc : s.actors id = some (.connection c)) (hon : s.sentOn mb (.connection id e now) = true)
    (hs : c.step mb s.router e = some c') :
    Inv mb ((c'.effects.drop c.effects.length).foldl (ofConnection mb now)
      (s.setActor id (.connection c'))) := by
  have hcid : c.id = id := h.connection id c hc
  obtain ⟨hid, ⟨heff, -⟩ | ⟨heff, -⟩ |
    ⟨i, clock, pastEnd, data, ops, message, rfl, ht, hreq, -, heff⟩⟩ :=
    ModbusTcpConnection.step_cases hs
  · -- nothing is handed to the exchange
    rw [heff, List.drop_length]
    exact inv_setConnection h hc hid (by rw [heff, List.append_nil]) (fun _ _ hmem => by cases hmem)
      (fun _ hmem => by cases hmem)
  · -- the client is gone
    rw [heff, List.drop_left]
    exact inv_setConnection h hc hid heff (fun _ _ hmem => by simp at hmem)
      (fun _ hmem => by simp at hmem)
  · -- a request is accepted and sent on
    rw [heff, List.drop_left]
    obtain ⟨-, -, hinfo⟩ := ModbusTcpConnection.makeRequest_some hreq
    have hset : Inv mb (s.setActor id (.connection c')) := by
      refine inv_setConnection h hc hid heff (fun actorId request hmem => ?_)
        (fun _ hmem => by simp at hmem)
      cases List.mem_singleton.mp hmem
      rw [hinfo]
      exact ⟨hcid, rfl⟩
    have hroute : s.router.route (mb.getUnitId message.modbusBuffer) pastEnd ≠ id := by
      by_cases hunit : (mb.getUnitId message.modbusBuffer).toNat < 255
      · intro heq
        rcases h.table _ pastEnd hunit with ⟨m, hm⟩ | hdefault
        · rw [heq, hc] at hm
          cases hm
        · exact h.default c (hdefault ▸ heq ▸ hc)
      · -- the read past the end yields the id of another actor
        have hpast : s.router.route (mb.getUnitId message.modbusBuffer) pastEnd = pastEnd :=
          dif_neg hunit
        have hmax : mb.getUnitId message.modbusBuffer = 255 := by
          have hlt := (mb.getUnitId message.modbusBuffer).toNat_lt
          apply UInt8.toNat_inj.mp
          change _ = 255
          omega
        simp only [sentOn, hc, ht, hreq, Option.all_some, Bool.or_eq_true, decide_eq_true_eq] at hon
        rw [hpast, ← hcid]
        exact hon.resolve_left (not_not.mpr hmax)
    apply inv_request hset now _ hroute
    rw [connectionEffects_of (setActor_self ..), heff]
    exact List.mem_append_right _ List.mem_cons_self

theorem inv_step (hmb : mb.Lawful) {e : Event β} (h : Inv mb s) (hon : s.sentOn mb e = true)
    (hs : step mb s e = some s') : Inv mb s' := by
  cases e with
  | accept id =>
    simp only [step] at hs
    split at hs
    · next hfree =>
      cases hs
      exact inv_accept h hfree
    · cases hs
  | connection id e now =>
    simp only [step] at hs
    split at hs
    · next c hc =>
      simp only [Option.map_eq_some_iff] at hs
      obtain ⟨c', hc', rfl⟩ := hs
      exact inv_connectionStep h now hc hon hc'
    · cases hs
  | master id e now =>
    simp only [step] at hs
    split at hs
    · next m hm =>
      split at hs
      · next hallowed =>
        simp only [Option.map_eq_some_iff] at hs
        obtain ⟨m', hm', rfl⟩ := hs
        exact inv_masterStep hmb h now hm hallowed hm'
      · cases hs
    · cases hs

/-- What a master writes is a request it has received, framed under an id of its own. -/
theorem Inv.transparent (hmb : mb.Lawful) (h : Inv mb s) : Transparent mb s where
  toDevice := by
    intro masterId message transactionId frame hwrite
    obtain ⟨m, hm, hmem⟩ := exists_master hwrite
    obtain ⟨-, hrelays⟩ := h.master masterId m hm
    obtain ⟨hreceived, rfl⟩ := hrelays.write message transactionId frame hmem
    have hreceived' : .receive message ∈ s.masterEffects masterId := by
      rw [masterEffects_of hm]
      exact hreceived
    obtain ⟨id, hid⟩ := h.received masterId message hreceived'
    exact ⟨id, message, hid, hmb.getUnitId_toTcp .., hmb.pdu_toTcp ..⟩
  toClient := h.relayed

/-- **The gateway is transparent** in every run in which no connection accepts a request for
unit 255 that the read past the end of the router's table sends back to it. -/
theorem transparent_exec {defaultId serverId : ActorId} {masters : List (ActorId × Milliseconds)}
    {routes : Routes defaultId (masters.map Prod.fst)} {es : List (Event β)} (hmb : mb.Lawful)
    (hrun : exec (step mb) (new serverId masters routes) es = some s)
    (hon : along (step mb) (sentOn mb) (new serverId masters routes) es = true) :
    Transparent mb s :=
  (invariant_along (fun _ _ _ h hon hs => inv_step hmb h hon hs) es _ _ inv_new hon
    hrun).transparent hmb

/-- One master, with id 1, to which unit 7 is routed. -/
def oneMaster : Gateway Frame :=
  new 2 [(1, 1000)] ((Routes.new 0 (Or.inr rfl)).set 7 1 (by decide))

/-- A client connects under id 5 and sends a request to a unit. -/
def request (unitId : UnitId) (pastEnd : ActorId) : List (Event Frame) :=
  [.accept 5,
    .connection 5 (.complete 0 ⟨.success, (Frame.readRequest 5 9 unitId).modbusBuffer.bytes⟩) 0,
    .connection 5 (.handle 0 0 pastEnd) 0]

/-- The master connects, sends the request and receives a reply to it. -/
def reply : List (Event Frame) :=
  [.master 1 (.complete 0 ⟨.success, []⟩) 0, .master 1 (.handle 0 false 0) 0,
    .master 1 (.complete 0 ⟨.success, []⟩) 0, .master 1 (.handle 0 false 0) 0,
    .master 1 (.complete 0 ⟨.success, Frame.readReply 1 7 42⟩) 0, .master 1 (.handle 0 false 0) 0]

/-- A request reaches the master's device, and its reply the client, under the client's
transaction id. -/
theorem transparent_reply :
    ∃ s, exec (step Frame.library) oneMaster (request 7 5 ++ reply) = some s ∧
      s.connectionEffects 5 =
        [.send 1 (Frame.readRequest 5 9 7), .write (Frame.tcp 9 7 [3, 2, 0, 42])] ∧
      Transparent Frame.library s := by
  obtain ⟨s, hs, heffects⟩ : ∃ s,
      exec (step Frame.library) oneMaster (request 7 5 ++ reply) = some s ∧
      s.connectionEffects 5 =
        [.send 1 (Frame.readRequest 5 9 7), .write (Frame.tcp 9 7 [3, 2, 0, 42])] :=
    ⟨_, rfl, by decide +kernel⟩
  exact ⟨s, hs, heffects, transparent_exec Frame.library_lawful hs (by decide +kernel)⟩

/-- A request for unit 255 comes back to its client, when the read past the end of the router's
table yields the id of the connection. -/
theorem transparent_pastEnd :
    ∃ s, exec (step Frame.library) oneMaster (request 255 5) = some s ∧
      ¬ Transparent Frame.library s := by
  obtain ⟨s, hs, hcon, hmaster⟩ : ∃ s,
      exec (step Frame.library) oneMaster (request 255 5) = some s ∧
      s.connectionEffects 5 = [.send 5 (Frame.readRequest 5 9 255),
        .write (Frame.readRequest 5 9 255).modbusBuffer] ∧
      s.masterEffects 5 = [] :=
    ⟨_, rfl, by decide +kernel, by decide +kernel⟩
  refine ⟨s, hs, fun h => ?_⟩
  have hwrite : .write (Frame.readRequest 5 9 255).modbusBuffer ∈ s.connectionEffects 5 := by
    rw [hcon]
    exact List.mem_cons_of_mem _ List.mem_cons_self
  -- the only request of the connection was sent to the connection, which is no master
  obtain ⟨masterId, request, reply, hsend, -, hreply, -⟩ := h.toClient 5 _ hwrite
  rw [hcon] at hsend
  simp only [List.mem_cons, List.not_mem_nil, or_false, reduceCtorEq, ConnectionEffect.send.injEq]
    at hsend
  rw [hsend.1, hmaster] at hreply
  cases hreply

end Gateway

end ModbusGateway
