import ModbusGateway.ModbusFrame
import ModbusGateway.Transport.ModbusTcpServer

/-!
# The clients of the TCP server are kept apart

A reply finds its way back by the source id and the transaction id in its message
info.  Both can recur: the exchange gives the id of a connection that is gone to a
new one, and clients choose their transaction ids freely.  A reply to a request of the
old connection then passes every check of `MakeResponse` of the new one and is written
to its socket.

## Main definitions

* `Isolated s` — every reply was written to the connection its request was read on.
* `freshTransaction` — the event does not let a connection accept a request under the
  transaction id of an unanswered one that was read by another connection of its id.

## Main results

* `isolated_exec` — **the clients are kept apart in every run in which transaction ids
  are fresh in that sense.**
-/

namespace ModbusGateway

open Proactor Execution

namespace ModbusTcpServer

variable {β : Type} {mb : Modbus β} {s s' : ModbusTcpServer β}

/-- Every reply was written to the connection its request was read on. -/
def Isolated (s : ModbusTcpServer β) : Prop := ∀ r ∈ s.replies, r.1 = r.2

instance : Decidable s.Isolated := inferInstanceAs (Decidable (∀ r ∈ _, _))

/-- The transaction id of the request that the event makes a connection accept, with the
actor id of the connection. -/
def accepted (mb : Modbus β) (s : ModbusTcpServer β) (k i : ℕ) (now : Nanoseconds) :
    Option (ActorId × TransactionId) :=
  match s.connections[k]? with
  | none => none
  | some c =>
    match c.socket.ops.take i with
    | some (.receive, ⟨.success, data⟩, _) =>
      (ModbusTcpConnection.makeRequest mb data c.id now).map fun message =>
        (c.id, message.modbusMessageInfo.transactionId)
    | _ => none

/-- The event does not let a connection accept a request under the transaction id of an
unanswered request that was read by another connection with the same actor id. -/
def freshTransaction (mb : Modbus β) (s : ModbusTcpServer β) : Event β → Bool
  | .connection k (.handle i now _) =>
    (s.accepted mb k i now).all fun a => s.pending.all fun p =>
      decide (p.connection = k) || decide (p.message.modbusMessageInfo.sourceId ≠ a.1) ||
        decide (p.message.modbusMessageInfo.transactionId ≠ a.2)
  | _ => true

/-! ### The invariant -/

/-- What keeps the clients apart.  `Kept` is what holds of the connections and the registry
in every run, and `apart` is what freshness adds. -/
structure Kept (s : ModbusTcpServer β) : Prop where
  /-- A registered connection knows its id. -/
  registered : ∀ a ∈ s.actors, ∃ c, s.connections[a.2]? = some c ∧ c.id = a.1
  /-- No id is registered twice. -/
  unique : (s.actors.map Prod.fst).Nodup
  /-- `clientDb_` holds registered connections. -/
  held : ∀ a ∈ s.clientDb, a ∈ s.actors
  /-- A request bears the id of the connection it was read on. -/
  source : ∀ p ∈ s.pending, ∃ c, s.connections[p.connection]? = some c ∧
    c.id = p.message.modbusMessageInfo.sourceId
  /-- A connection whose id a request of another one bears does not wait for a reply with the
  transaction id of that request. -/
  apart : ∀ p ∈ s.pending, ∀ a ∈ s.actors, a.1 = p.message.modbusMessageInfo.sourceId →
    a.2 ≠ p.connection → ∀ c, s.connections[a.2]? = some c → ∀ info, c.syncRequestInfo = some info →
    info.transactionId ≠ p.message.modbusMessageInfo.transactionId
  isolated : s.Isolated

theorem kept_start (id : ActorId) (router : Router) (masters : List ActorId) :
    Kept (new id router masters : ModbusTcpServer β).start where
  registered := by intro a ha; cases ha
  unique := List.nodup_nil
  held := by intro a ha; cases ha
  source := by intro p hp; cases hp
  apart := by intro p hp; cases hp
  isolated := by intro r hr; cases hr

/-- The invariant does not read the acceptor. -/
theorem Kept.congr (h : Kept s) (hc : s'.connections = s.connections) (ha : s'.actors = s.actors)
    (hd : s'.clientDb = s.clientDb) (hp : s'.pending = s.pending) (hr : s'.replies = s.replies) :
    Kept s' where
  registered := by rw [ha, hc]; exact h.registered
  unique := by rw [ha]; exact h.unique
  held := by rw [hd, ha]; exact h.held
  source := by rw [hp, hc]; exact h.source
  apart := by rw [hp, ha, hc]; exact h.apart
  isolated := by rw [Isolated, hr]; exact h.isolated

theorem mem_of_lookup {id : ActorId} {k : ℕ} (h : s.lookup id = some k) : (id, k) ∈ s.actors := by
  simp only [lookup, Option.map_eq_some_iff] at h
  obtain ⟨a, ha, rfl⟩ := h
  have hid := List.find?_some ha
  rw [beq_iff_eq] at hid
  rw [← hid]
  exact List.mem_of_find?_eq_some ha

/-- Two registrations of one id are the same. -/
theorem Kept.eq_of_id (h : Kept s) {a b : ActorId × ℕ} (ha : a ∈ s.actors) (hb : b ∈ s.actors)
    (hid : a.1 = b.1) : a = b :=
  List.inj_on_of_nodup_map h.unique ha hb hid

/-- A connection that is alive is registered, under its own id. -/
theorem Kept.registered_of_alive (h : Kept s) {k : ℕ} {c : ModbusTcpConnection β}
    (halive : s.alive k = true) (hc : s.connections[k]? = some c) : (c.id, k) ∈ s.actors := by
  have hmem : k ∈ s.actors.map Prod.snd := by
    simp only [alive, Bool.or_eq_true, decide_eq_true_eq] at halive
    rcases halive with hmem | hmem
    · exact hmem
    · obtain ⟨a, ha, rfl⟩ := List.mem_map.mp hmem
      exact List.mem_map_of_mem (h.held a ha)
  obtain ⟨a, ha, rfl⟩ := List.mem_map.mp hmem
  obtain ⟨c', hc', hid⟩ := h.registered a ha
  obtain rfl : c' = c := Option.some.inj (hc'.symm.trans hc)
  rw [hid]
  exact ha

/-! ### Connections change -/

/-- What a change of a connection may do: keep its id, and keep or drop the request it waits
for a reply to. -/
def Weakens (c c' : ModbusTcpConnection β) : Prop :=
  c'.id = c.id ∧ (c'.syncRequestInfo = c.syncRequestInfo ∨ c'.syncRequestInfo = none)

theorem weakens_startSendTask (mb : Modbus β) (c : ModbusTcpConnection β)
    (message : ModbusMessage (Option β)) :
    Weakens c (c.startSendTask mb message) := by
  rcases ModbusTcpConnection.startSendTask_cases mb c message with
    ⟨heq, -⟩ | ⟨-, -, -, -, -, heq⟩ | ⟨_, _, -, -, -, -, heq⟩ <;> rw [heq]
  · exact ⟨rfl, Or.inl rfl⟩
  · exact ⟨rfl, Or.inr rfl⟩
  · exact ⟨rfl, Or.inr rfl⟩

/-- A connection of the changed list is the changed one or an old one. -/
theorem getElem?_setConnection {k j : ℕ} {c d : ModbusTcpConnection β}
    (h : (s.setConnection k c).connections[j]? = some d) :
    j = k ∧ d = c ∨ j ≠ k ∧ s.connections[j]? = some d := by
  rw [setConnection, List.getElem?_set] at h
  split at h
  · next hkj =>
    split at h
    · exact Or.inl ⟨hkj.symm, (Option.some.inj h).symm⟩
    · cases h
  · next hkj => exact Or.inr ⟨fun heq => hkj heq.symm, h⟩

/-- A connection that was there is there after the change, with the same id. -/
theorem exists_setConnection {k j : ℕ} {c c' d : ModbusTcpConnection β}
    (hc : s.connections[k]? = some c) (hid : c'.id = c.id) (h : s.connections[j]? = some d) :
    ∃ d', (s.setConnection k c').connections[j]? = some d' ∧ d'.id = d.id := by
  rw [setConnection, List.getElem?_set]
  by_cases hkj : k = j
  · subst hkj
    have hlt := (List.getElem?_eq_some_iff.mp hc).1
    obtain rfl : c = d := Option.some.inj (hc.symm.trans h)
    exact ⟨c', by rw [if_pos rfl, if_pos hlt], hid⟩
  · exact ⟨d, by rw [if_neg hkj]; exact h, rfl⟩

/-- Changing a connection keeps the registry and the sources right. -/
theorem Kept.setConnection_frame (h : Kept s) {k : ℕ} {c c' : ModbusTcpConnection β}
    (hc : s.connections[k]? = some c) (hid : c'.id = c.id) :
    (∀ a ∈ s.actors, ∃ d, (s.setConnection k c').connections[a.2]? = some d ∧ d.id = a.1) ∧
    ∀ p ∈ s.pending, ∃ d, (s.setConnection k c').connections[p.connection]? = some d ∧
      d.id = p.message.modbusMessageInfo.sourceId := by
  refine ⟨fun a ha => ?_, fun p hp => ?_⟩
  · obtain ⟨d, hd, hda⟩ := h.registered a ha
    obtain ⟨d', hd', hid'⟩ := exists_setConnection hc hid hd
    exact ⟨d', hd', hid'.trans hda⟩
  · obtain ⟨d, hd, hdp⟩ := h.source p hp
    obtain ⟨d', hd', hid'⟩ := exists_setConnection hc hid hd
    exact ⟨d', hd', hid'.trans hdp⟩

theorem kept_setConnection (h : Kept s) {k : ℕ} {c c' : ModbusTcpConnection β}
    (hc : s.connections[k]? = some c) (hweak : Weakens c c') : Kept (s.setConnection k c') where
  registered := (h.setConnection_frame hc hweak.1).1
  unique := h.unique
  held := h.held
  source := (h.setConnection_frame hc hweak.1).2
  apart := by
    intro p hp a ha hid hne d hd info hinfo
    rcases getElem?_setConnection hd with ⟨hk, rfl⟩ | ⟨-, hd⟩
    · rcases hweak.2 with hsame | hnone
      · exact h.apart p hp a ha hid hne c (by rw [hk]; exact hc) info (hsame ▸ hinfo)
      · rw [hnone] at hinfo; cases hinfo
    · exact h.apart p hp a ha hid hne d hd info hinfo
  isolated := h.isolated

/-! ### What comes of a connection's effects -/

/-- A request joins those unanswered, while only its own connection is registered under its
source. -/
theorem kept_pending (h : Kept s) {k : ℕ} {c : ModbusTcpConnection β} {message : ModbusMessage β}
    (halive : s.alive k = true) (hc : s.connections[k]? = some c)
    (hid : c.id = message.modbusMessageInfo.sourceId) :
    Kept { s with pending := s.pending ++ [⟨k, message⟩] } where
  registered := h.registered
  unique := h.unique
  held := h.held
  source := by
    intro p hp
    rcases List.mem_append.mp hp with hp | hp
    · exact h.source p hp
    · rw [List.mem_singleton.mp hp]
      exact ⟨c, hc, hid⟩
  apart := by
    intro p hp a ha hid' hne d hd info hinfo
    rcases List.mem_append.mp hp with hp | hp
    · exact h.apart p hp a ha hid' hne d hd info hinfo
    · -- the connection registered under the source is the one that has read the request
      obtain rfl := List.mem_singleton.mp hp
      have hk := h.registered_of_alive halive hc
      have heq := h.eq_of_id ha hk (hid'.trans hid.symm)
      rw [heq] at hne
      exact absurd rfl hne
  isolated := h.isolated

theorem kept_send (h : Kept s) {k : ℕ} {c : ModbusTcpConnection β} {actorId : ActorId}
    {message : ModbusMessage β} (halive : s.alive k = true) (hc : s.connections[k]? = some c)
    (hid : c.id = message.modbusMessageInfo.sourceId) :
    Kept (s.send mb k actorId message) := by
  unfold send
  split
  · exact kept_pending h halive hc hid
  split
  · exact h
  split
  · exact h
  next d hd => exact kept_setConnection h hd (weakens_startSendTask mb d _)

/-- Fewer registrations keep what holds of them. -/
theorem kept_unregister (h : Kept s) {actors clientDb : List (ActorId × ℕ)}
    (hactors : actors.Sublist s.actors) (hdb : ∀ a ∈ clientDb, a ∈ actors) :
    Kept { s with actors, clientDb } where
  registered := fun a ha => h.registered a (hactors.mem ha)
  unique := h.unique.sublist (hactors.map Prod.fst)
  held := hdb
  source := h.source
  apart := fun p hp a ha => h.apart p hp a (hactors.mem ha)
  isolated := h.isolated

theorem kept_clientDisconnect (h : Kept s) (clientId : ActorId) :
    Kept (s.clientDisconnect clientId) := by
  unfold clientDisconnect
  split
  · refine kept_unregister h List.filter_sublist fun a ha => ?_
    obtain ⟨ha, hne⟩ := List.mem_filter.mp ha
    exact List.mem_filter.mpr ⟨h.held a ha, hne⟩
  · exact kept_unregister h (List.Sublist.refl _) fun a ha => h.held a (List.mem_of_mem_filter ha)

/-- A connection accepts a request whose transaction id is fresh. -/
theorem kept_accepted (h : Kept s) {k : ℕ} {c c' : ModbusTcpConnection β}
    {message : ModbusMessage β} (hc : s.connections[k]? = some c) (hid : c'.id = c.id)
    (hsync : c'.syncRequestInfo = some message.modbusMessageInfo)
    (hfresh : ∀ p ∈ s.pending, p.connection = k ∨ p.message.modbusMessageInfo.sourceId ≠ c.id ∨
      p.message.modbusMessageInfo.transactionId ≠ message.modbusMessageInfo.transactionId) :
    Kept (s.setConnection k c') where
  registered := (h.setConnection_frame hc hid).1
  unique := h.unique
  held := h.held
  source := (h.setConnection_frame hc hid).2
  apart := by
    intro p hp a ha hsource hne d hd info hinfo
    rcases getElem?_setConnection hd with ⟨hk, rfl⟩ | ⟨-, hd⟩
    · obtain ⟨d, hd', hda⟩ := h.registered a ha
      rw [hk] at hd'
      obtain rfl : c = d := Option.some.inj (hc.symm.trans hd')
      obtain rfl : message.modbusMessageInfo = info := Option.some.inj (hsync.symm.trans hinfo)
      rcases hfresh p hp with hown | hother | htid
      · exact absurd (hk.trans hown.symm) hne
      · exact absurd (hsource.symm.trans hda.symm) hother
      · exact htid.symm
    · exact h.apart p hp a ha hsource hne d hd info hinfo
  isolated := h.isolated

/-- A step of a connection, with what comes of it elsewhere. -/
theorem kept_connection (h : Kept s) {k : ℕ} {c c' : ModbusTcpConnection β}
    {e : ModbusTcpConnection.Event} (hc : s.connections[k]? = some c) (halive : s.alive k = true)
    (hfresh : s.freshTransaction mb (.connection k e) = true)
    (hs : c.step mb s.router e = some c') :
    Kept ((c'.effects.drop c.effects.length).foldl (perform mb k) (s.setConnection k c')) := by
  obtain ⟨hid, ⟨heff, hsync⟩ | ⟨heff, hsync⟩ |
    ⟨i, now, pastEnd, data, ops, message, rfl, ht, hreq, hsync, heff⟩⟩ :=
    ModbusTcpConnection.step_cases hs
  · rw [heff, List.drop_length]
    exact kept_setConnection h hc ⟨hid, Or.inl hsync⟩
  · -- the client is gone
    rw [heff, List.drop_left]
    have hset : Kept (s.setConnection k c') := kept_setConnection h hc ⟨hid, Or.inl hsync⟩
    simp only [List.foldl_cons, List.foldl_nil, perform]
    split
    · exact kept_clientDisconnect hset _
    · exact hset
  · -- a request is accepted and sent on
    rw [heff, List.drop_left]
    obtain ⟨-, -, hinfo⟩ := ModbusTcpConnection.makeRequest_some hreq
    simp only [freshTransaction, accepted, hc, ht, hreq, Option.map_some, Option.all_some,
      List.all_eq_true, Bool.or_eq_true, decide_eq_true_eq, or_assoc] at hfresh
    have hset : Kept (s.setConnection k c') := kept_accepted h hc hid hsync hfresh
    have hc' : (s.setConnection k c').connections[k]? = some c' :=
      List.getElem?_set_self (List.getElem?_eq_some_iff.mp hc).1
    exact kept_send hset halive hc' (hid.trans (by rw [hinfo]; rfl))

/-! ### The server and the masters -/

/-- A new connection is registered under a free id. -/
theorem kept_register (h : Kept s) {c : ModbusTcpConnection β} {id : ActorId}
    (hfree : s.idFree id = true) (hid : c.id = id) (hsync : c.syncRequestInfo = none) :
    Kept { s with
      connections := s.connections ++ [c]
      actors := (id, s.connections.length) :: s.actors
      clientDb := (id, s.connections.length) :: s.clientDb.filter fun a => a.1 ≠ id } := by
  have hold : ∀ {j : ℕ} {d : ModbusTcpConnection β}, s.connections[j]? = some d →
      (s.connections ++ [c])[j]? = some d := by
    intro j d hd
    rw [List.getElem?_append_left (List.getElem?_eq_some_iff.mp hd).1]
    exact hd
  have hnew : (s.connections ++ [c])[s.connections.length]? = some c := by
    rw [List.getElem?_append_right (Nat.le_refl _), Nat.sub_self]
    rfl
  refine ⟨?_, ?_, ?_, ?_, ?_, h.isolated⟩
  · intro a ha
    rcases List.mem_cons.mp ha with rfl | ha
    · exact ⟨c, hnew, hid⟩
    · obtain ⟨d, hd, hda⟩ := h.registered a ha
      exact ⟨d, hold hd, hda⟩
  · simp only [idFree, Bool.and_eq_true, decide_eq_true_eq] at hfree
    exact List.nodup_cons.mpr ⟨hfree.2, h.unique⟩
  · intro a ha
    rcases List.mem_cons.mp ha with rfl | ha
    · exact List.mem_cons_self
    · exact List.mem_cons_of_mem _ (h.held a (List.mem_of_mem_filter ha))
  · intro p hp
    obtain ⟨d, hd, hdp⟩ := h.source p hp
    exact ⟨d, hold hd, hdp⟩
  · intro p hp a ha hsource hne d hd info hinfo
    rcases List.mem_cons.mp ha with rfl | ha
    · -- the new connection waits for nothing
      obtain rfl : c = d := Option.some.inj (hnew.symm.trans hd)
      rw [hsync] at hinfo
      cases hinfo
    · obtain ⟨d', hd', -⟩ := h.registered a ha
      obtain rfl : d' = d := Option.some.inj ((hold hd').symm.trans hd)
      exact h.apart p hp a ha hsource hne d' hd' info hinfo

theorem kept_acceptHandler (h : Kept s) {ec : ErrorCode} {id : ActorId}
    {peerGone startPeerGone : Bool} (hfree : s.idFree id = true) :
    Kept (s.acceptHandler ec id peerGone startPeerGone) := by
  unfold acceptHandler
  split
  · exact h
  split
  · split
    · exact h
    · exact h.congr rfl rfl rfl rfl rfl
  split
  · exact h.congr rfl rfl rfl rfl rfl
  -- a connection is added, and registered under an id that is free
  have hadd : ∀ c : ModbusTcpConnection β, c.id = id → c.syncRequestInfo = none →
      Kept { s with
        connections := s.connections ++ [c]
        actors := (id, s.connections.length) :: s.actors
        clientDb := (id, s.connections.length) :: s.clientDb.filter fun a => a.1 ≠ id } :=
    fun c hcid hsync => kept_register h hfree hcid hsync
  dsimp only
  split
  · exact (hadd (.new s.id id) rfl rfl).congr rfl rfl rfl rfl rfl
  next tcpClient hstart =>
  have hshape : tcpClient.id = id ∧ tcpClient.syncRequestInfo = none := by
    unfold ModbusTcpConnection.start at hstart
    split at hstart
    · cases hstart
    · cases hstart
      exact ⟨rfl, rfl⟩
  have hset : (s.connections ++ [ModbusTcpConnection.new s.id id]).set s.connections.length
      tcpClient = s.connections ++ [tcpClient] := by simp
  exact (hadd tcpClient hshape.1 hshape.2).congr hset rfl rfl rfl rfl

theorem kept_stop (h : Kept s) : Kept s.stop := by
  have hget : ∀ {j : ℕ} {d : ModbusTcpConnection β}, s.stop.connections[j]? = some d →
      ∃ c, s.connections[j]? = some c ∧ d.syncRequestInfo = c.syncRequestInfo := by
    intro j d hd
    simp only [stop, List.getElem?_mapIdx, Option.map_eq_some_iff] at hd
    obtain ⟨c, hc, rfl⟩ := hd
    refine ⟨c, hc, ?_⟩
    split <;> rfl
  have hexists : ∀ {j : ℕ} {c : ModbusTcpConnection β}, s.connections[j]? = some c →
      ∃ d, s.stop.connections[j]? = some d ∧ d.id = c.id := by
    intro j c hc
    simp only [stop, List.getElem?_mapIdx, hc, Option.map_some]
    refine ⟨_, rfl, ?_⟩
    split <;> rfl
  have hactors : s.stop.actors.Sublist s.actors := by
    simp only [stop]
    split
    · exact List.filter_sublist
    · exact List.Sublist.refl _
  refine ⟨?_, h.unique.sublist (hactors.map Prod.fst), ?_, ?_, ?_, h.isolated⟩
  · intro a ha
    obtain ⟨c, hc, hca⟩ := h.registered a (hactors.mem ha)
    obtain ⟨d, hd, hid⟩ := hexists hc
    exact ⟨d, hd, hid.trans hca⟩
  · intro a ha
    cases ha
  · intro p hp
    obtain ⟨c, hc, hcp⟩ := h.source p hp
    obtain ⟨d, hd, hid⟩ := hexists hc
    exact ⟨d, hd, hid.trans hcp⟩
  · intro p hp a ha hsource hne d hd info hinfo
    obtain ⟨c, hc, hsync⟩ := hget hd
    exact h.apart p hp a (hactors.mem ha) hsource hne c hc info (hsync.symm.trans hinfo)

/-- A request that is answered or given up is pending no more. -/
theorem kept_eraseIdx (h : Kept s) (i : ℕ) : Kept { s with pending := s.pending.eraseIdx i } where
  registered := h.registered
  unique := h.unique
  held := h.held
  source := fun p hp => h.source p (List.mem_of_mem_eraseIdx hp)
  apart := fun p hp => h.apart p (List.mem_of_mem_eraseIdx hp)
  isolated := h.isolated

/-- **A reply is written to the connection its request was read on**, or not at all. -/
theorem kept_reply (h : Kept s) {i : ℕ} {request : Pending β} (hi : s.pending[i]? = some request)
    (modbusBuffer : Option β) :
    Kept ({ s with pending := s.pending.eraseIdx i }.reply mb request modbusBuffer) := by
  have hpending := kept_eraseIdx h i
  unfold reply
  dsimp only
  split
  · exact hpending
  next j hj =>
  split
  · exact hpending
  next c hc =>
  have hset := kept_setConnection hpending hc
    (weakens_startSendTask mb c ⟨request.message.modbusMessageInfo, modbusBuffer⟩)
  refine ⟨hset.registered, hset.unique, hset.held, hset.source, hset.apart, ?_⟩
  intro r hr
  rcases List.mem_append.mp hr with hr | hr
  · exact h.isolated r hr
  obtain ⟨effect, heffect, rfl⟩ := List.mem_map.mp hr
  rcases ModbusTcpConnection.startSendTask_cases mb c
      ⟨request.message.modbusMessageInfo, modbusBuffer⟩ with
    ⟨heq, -⟩ | ⟨-, -, -, -, -, heq⟩ | ⟨lastInfo, buffer, -, hsync, htid, -, -⟩
  · rw [heq, List.drop_length] at heffect
    cases heffect
  · rw [heq, List.drop_length] at heffect
    cases heffect
  · -- the connection waits for this transaction id, so it is the request's own
    by_contra hne
    have hmem := mem_of_lookup hj
    exact h.apart request (List.mem_of_getElem? hi) _ hmem rfl (fun heq => hne heq.symm) c hc
      lastInfo hsync htid.symm

/-! ### Runs -/

theorem kept_step {e : Event β} (h : Kept s) (hfresh : s.freshTransaction mb e = true)
    (hs : step mb s e = some s') : Kept s' := by
  cases step_branch hs with
  | accept hacc => exact h.congr rfl rfl rfl rfl rfl
  | @handleAccept i id ec acceptor htake hfree peerGone startPeerGone =>
    have hacc : Kept { s with acceptor } := h.congr rfl rfl rfl rfl rfl
    exact kept_acceptHandler hacc hfree
  | dead hc hdead => exact h
  | connection hc halive hstep => exact kept_connection h hc halive hfresh hstep
  | reply hi modbusBuffer => exact kept_reply h hi modbusBuffer
  | @drop i hi => exact kept_eraseIdx h i
  | stop => exact kept_stop h

/-- **The clients are kept apart** in every run in which no connection accepts a request under
the transaction id of an unanswered one that another connection with its actor id has read. -/
theorem isolated_exec {id : ActorId} {router : Router} {masters : List ActorId}
    {es : List (Event β)} (hrun : exec (step mb) (new id router masters).start es = some s)
    (hfresh : along (step mb) (freshTransaction mb) (new id router masters).start es = true) :
    s.Isolated :=
  (invariant_along (fun _ _ _ h hfresh hs => kept_step h hfresh hs) es _ _
    (kept_start id router masters) hfresh hrun).isolated

/-- A client connects as connection `k` under the given id and sends a request to unit 1. -/
def clientRun (k : ℕ) (id : ActorId) (transactionId : TransactionId) : List (Event Frame) :=
  [.accept 0 .success, .handleAccept 0 id false false,
    .connection k
      (.complete 0 ⟨.success, (Frame.readRequest 0 transactionId 1).modbusBuffer.bytes⟩),
    .connection k (.handle 0 0 0)]

/-- Two clients with equal transaction ids, each answered. -/
theorem isolated_clients :
    ∃ s, exec (step Frame.library) (new 1 (.new 7) [7]).start (clientRun 0 2 9 ++ clientRun 1 3 9 ++
        [.reply 1 (some (Frame.tcp 0 1 [3, 2, 0, 8])),
          .reply 0 (some (Frame.tcp 0 1 [3, 2, 0, 7]))]) = some s ∧
      s.replies = [(1, 1), (0, 0)] ∧ s.Isolated := by
  obtain ⟨s, hs, hreplies⟩ : ∃ s, exec (step Frame.library) (new 1 (.new 7) [7]).start
      (clientRun 0 2 9 ++ clientRun 1 3 9 ++ [.reply 1 (some (Frame.tcp 0 1 [3, 2, 0, 8])),
        .reply 0 (some (Frame.tcp 0 1 [3, 2, 0, 7]))]) = some s ∧
      s.replies = [(1, 1), (0, 0)] := ⟨_, rfl, by decide +kernel⟩
  exact ⟨s, hs, hreplies, isolated_exec hs (by decide +kernel)⟩

/-- The first client closes its connection with its request unanswered, the second gets its
actor id and uses its transaction id, and the reply to the first goes to the second. -/
theorem isolated_reusedId :
    ∃ s, exec (step Frame.library) (new 1 (.new 7) [7]).start (clientRun 0 2 9 ++
        [.connection 0 (.complete 0 ⟨.eof, []⟩), .connection 0 (.handle 0 0 0)] ++
        clientRun 1 2 9 ++ [.reply 0 (some (Frame.tcp 0 1 [3, 2, 0, 7]))]) = some s ∧
      ¬ s.Isolated :=
  ⟨_, rfl, by decide +kernel⟩

end ModbusTcpServer

end ModbusGateway
