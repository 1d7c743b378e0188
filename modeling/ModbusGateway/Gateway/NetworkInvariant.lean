import ModbusGateway.Gateway.Participants

/-!
# What every run of the gateway keeps

The journal has everything the actors have done in one order.  Between the handlers each
message in it has been delivered: a master has taken in what has been addressed to it, in the
order in which it was addressed; a slave has written some of what has been addressed to it,
in that order and in its own frame.  Inside a handler some of its deeds are still `pending`.

An id keeps its role for the whole run.  Only connections come and go, and an id that one of
them has given back may be used by another.

## Main definitions

* `Network.Initial` — the gateway when the `io_context` starts to run.
* `Network.role` — the role of an id, registered or not.
* `Network.Inv` — the invariant, with the deeds that are still to be performed.

## Main results

* `Network.inv_perform` — every deed that is performed keeps the invariant.
* `Network.inv_step`, `Network.inv_exec` — **every run keeps the invariant.**
-/

namespace ModbusGateway

open Proactor Execution Transaction

variable {β : Type}

/-- An actor when the `io_context` starts to run: made, registered and, if a slave, started. -/
def Participant.Fresh (id : ActorId) : Participant β → Prop
  | .tcpClient c => ∃ timeout, c = .new timeout
  | .rtuMaster m => ∃ timeout frameType, m = .new timeout frameType
  | .tcpServer s => s = TcpServer.new.start
  | .connection _ => False
  | .rtuSlave s => ∃ frameType, s = (ModbusRtuSlave.new id frameType).start

theorem Participant.Fresh.sound {id : ActorId} {p : Participant β} (h : p.Fresh id)
    (mb : Modbus β) : p.Sound mb id := by
  cases p with
  | tcpClient c =>
    obtain ⟨timeout, rfl⟩ := h
    exact ⟨ModbusTcpClient.control_new timeout, ModbusTcpClient.history_new timeout,
      (ModbusTcpClient.kept_new mb timeout).2⟩
  | rtuMaster m =>
    obtain ⟨timeout, frameType, rfl⟩ := h
    refine ⟨ModbusRtuMaster.control_new timeout frameType,
      ⟨none, .nil, fun current hcur => by cases hcur⟩, rfl, rfl, .of_idle rfl rfl, rfl, ?_⟩
    intro message hmessage
    cases hmessage
  | tcpServer s => exact trivial
  | connection c => exact h.elim
  | rtuSlave s =>
    obtain ⟨frameType, rfl⟩ := h
    exact ⟨rfl, rfl⟩

theorem Participant.Fresh.deeds {id : ActorId} {p : Participant β} (h : p.Fresh id) :
    p.deeds = [] ∧ p.unanswered = 0 := by
  cases p with
  | tcpClient c =>
    obtain ⟨timeout, rfl⟩ := h
    exact ⟨rfl, rfl⟩
  | rtuMaster m =>
    obtain ⟨timeout, frameType, rfl⟩ := h
    exact ⟨rfl, rfl⟩
  | tcpServer s => exact ⟨rfl, rfl⟩
  | connection c => exact h.elim
  | rtuSlave s =>
    obtain ⟨frameType, rfl⟩ := h
    exact ⟨rfl, rfl⟩

namespace Network

/-- The gateway when the `io_context` starts to run. -/
structure Initial (s : Network β) : Prop where
  fresh : ∀ id p, s.actors id = some p → p.Fresh id
  journal : s.journal = []

/-- The role of an id, for a gateway that starts with the given actors: whoever is registered
later is a connection. -/
def role (s₀ : Network β) (id : ActorId) : Role :=
  ((s₀.actors id).map Participant.role).getD .connection

/-- What has been addressed to an id, oldest first, each message with its sender. -/
def addressed (s : Network β) (id : ActorId) : List (ActorId × ModbusMessage β) :=
  Journal.addressed Deed.sent s.journal id

/-- The messages to an id among some deeds. -/
def mail (sender id : ActorId) (deeds : List (Deed β)) : List (ActorId × ModbusMessage β) :=
  Journal.mail Deed.sent sender id deeds

/-- How many requests the actor under an id would still answer. -/
def unanswered (s : Network β) (id : ActorId) : ℕ := (s.actors id).elim 0 Participant.unanswered

/-- The invariant of a gateway that started as `s₀`; the deeds `pending` of `sender` are in the
journal but have not been performed. -/
structure Inv (mb : Modbus β) (s₀ : Network β) (sender : ActorId) (pending : List (Deed β))
    (s : Network β) : Prop where
  router : s.router = s₀.router
  roles : ∀ id p, s.actors id = some p → p.role = s₀.role id
  registered : ∀ id, s₀.role id ≠ .connection → (s.actors id).isSome = true
  sound : ∀ id p, s.actors id = some p → p.Sound mb id
  deeds : ∀ id p, s.actors id = some p → s₀.role id ≠ .connection → s.journal.of id = p.deeds
  fits : ∀ id d, (id, d) ∈ s.journal → d.Fits mb s₀.router (s₀.role id) id
  delivered : ∀ id, ∃ delivered, s.addressed id = delivered ++ mail sender id pending ∧
    (s₀.role id).Digests mb (delivered.map Prod.snd) (s.journal.of id)
  /-- Whatever is sent is about a request of a slave. -/
  sources : ∀ id, ∀ m ∈ s.addressed id,
    (s₀.role m.2.modbusMessageInfo.sourceId).isMaster = false
  answers : ∀ id, ((s.journal.of id).filterMap Deed.answer).length + s.unanswered id ≤
    ((s.journal.of id).filterMap Deed.sent).length
  pending : ∀ d ∈ pending, d.Fits mb s₀.router (s₀.role sender) sender

variable {mb : Modbus β} {s₀ s s' : Network β} {sender id : ActorId} {pending : List (Deed β)}

/-- A master is always registered. -/
theorem Inv.exists_master (h : Inv mb s₀ sender pending s) (hrole : (s₀.role id).isMaster = true) :
    ∃ p, s.actors id = some p := by
  refine Option.isSome_iff_exists.mp (h.registered id ?_)
  intro hconnection
  rw [hconnection] at hrole
  cases hrole

/-! ### The actors change -/

theorem update_journal {p p' : Participant β} {new : List (Deed β)}
    (h : p'.deeds = p.deeds ++ new) (s : Network β) (id : ActorId) :
    (s.update id p p').journal = s.journal.enter id new := by
  rw [update, h, List.drop_left]

/-- What is registered under an id may change as long as nothing is done: whoever stays has
done what was done before, and only connections come and go. -/
theorem Inv.replace (h : Inv mb s₀ sender pending s) (id : ActorId) (o : Option (Participant β))
    (hactor : ∀ p, o = some p → p.role = s₀.role id ∧ p.Sound mb id ∧
      (s₀.role id ≠ .connection → ∃ q, s.actors id = some q ∧ p.deeds = q.deeds))
    (hregistered : s₀.role id ≠ .connection → o.isSome = true)
    (hanswers : o.elim 0 Participant.unanswered ≤ s.unanswered id) :
    Inv mb s₀ sender pending { s with actors := Function.update s.actors id o } := by
  have hcases : ∀ {k p}, Function.update s.actors id o k = some p →
      k = id ∧ o = some p ∨ s.actors k = some p := by
    intro k p hp
    by_cases hk : k = id
    · subst hk
      rw [Function.update_self] at hp
      exact Or.inl ⟨rfl, hp⟩
    · rw [Function.update_of_ne hk] at hp
      exact Or.inr hp
  refine ⟨h.router, fun k p hp => ?_, fun k hk => ?_, fun k p hp => ?_, fun k p hp hk => ?_,
    h.fits, h.delivered, h.sources, fun k => ?_, h.pending⟩
  · rcases hcases hp with ⟨rfl, ho⟩ | hold
    · exact (hactor p ho).1
    · exact h.roles k p hold
  · by_cases heq : k = id
    · subst heq
      simp only [Function.update_self]
      exact hregistered hk
    · simp only [Function.update_of_ne heq]
      exact h.registered k hk
  · rcases hcases hp with ⟨rfl, ho⟩ | hold
    · exact (hactor p ho).2.1
    · exact h.sound k p hold
  · rcases hcases hp with ⟨rfl, ho⟩ | hold
    · obtain ⟨q, hq, heq⟩ := (hactor p ho).2.2 hk
      rw [heq]
      exact h.deeds k q hq hk
    · exact h.deeds k p hold hk
  · have hle : (Function.update s.actors id o k).elim 0 Participant.unanswered ≤
        s.unanswered k := by
      by_cases heq : k = id
      · subst heq
        rw [Function.update_self]
        exact hanswers
      · rw [Function.update_of_ne heq]
        exact Nat.le_refl _
    exact (Nat.add_le_add_left hle _).trans (h.answers k)

/-- A server is replaced by another state of it. -/
theorem Inv.set_server (h : Inv mb s₀ sender pending s) {serverId : ActorId}
    {server : TcpServer} (hserver : s.actors serverId = some (.tcpServer server))
    (server' : TcpServer) :
    Inv mb s₀ sender pending (s.setActor serverId (.tcpServer server')) := by
  have hrole : Role.tcpServer = s₀.role serverId := h.roles serverId _ hserver
  refine h.replace serverId _ (fun p hp => ?_) (fun _ => rfl) (Nat.zero_le _)
  obtain rfl := Option.some.inj hp
  exact ⟨hrole, trivial, fun _ => ⟨_, hserver, rfl⟩⟩

/-- A connection is registered under a free id. -/
theorem Inv.add_connection (h : Inv mb s₀ sender pending s) {clientId : ActorId}
    (hfree : s.actors clientId = none) {c : ModbusTcpConnection β} (hx : c.exchange = true)
    (hid : c.id = clientId) (hslot : c.syncRequestInfo = none) :
    Inv mb s₀ sender pending (s.setActor clientId (.connection c)) := by
  have hrole : s₀.role clientId = .connection := by
    by_contra hrole
    have hsome := h.registered clientId hrole
    rw [hfree] at hsome
    cases hsome
  refine h.replace clientId _ (fun p hp => ?_) (fun hne => absurd hrole hne) ?_
  · obtain rfl := Option.some.inj hp
    exact ⟨hrole.symm, ⟨hx, hid⟩, fun hne => absurd hrole hne⟩
  · rw [Option.elim_some, Participant.unanswered, hslot]
    exact Nat.zero_le _

/-- A connection is deleted. -/
theorem Inv.remove (h : Inv mb s₀ sender pending s) {clientId : ActorId}
    (hrole : s₀.role clientId = .connection) :
    Inv mb s₀ sender pending { s with actors := Function.update s.actors clientId none } := by
  refine h.replace clientId none (fun p hp => ?_) (fun hne => absurd hrole hne) (Nat.zero_le _)
  cases hp

/-! ### The deeds -/

/-- **An actor reacts.**  Before and after it everything that has been addressed has been
delivered, up to what is pending. -/
theorem Inv.update (h : Inv mb s₀ sender pending s) {p p' : Participant β}
    {new pending' : List (Deed β)} {sender' : ActorId}
    (received : List (ActorId × ModbusMessage β)) (hp : s.actors id = some p)
    (hr : Reaction mb s.router id p p' new (received.map Prod.snd))
    (hmail : ∀ k, mail sender k pending ++ mail id k new =
      (if k = id then received else []) ++ mail sender' k pending')
    (hsources : ∀ d ∈ new, ∀ actorId message, d.sent = some (actorId, message) →
      (s₀.role message.modbusMessageInfo.sourceId).isMaster = false)
    (hpending : ∀ d ∈ pending', d.Fits mb s₀.router (s₀.role sender') sender') :
    Inv mb s₀ sender' pending' (s.update id p p') := by
  have hrole := h.roles id p hp
  have hjournal := update_journal hr.deeds s id
  have hfits : ∀ d ∈ new, d.Fits mb s₀.router (s₀.role id) id := by
    rw [← hrole, ← h.router]
    exact hr.fits
  have hactor : (s.update id p p').actors id = some p' := setActor_self s id p'
  have hother : ∀ {k}, k ≠ id → (s.update id p p').actors k = s.actors k :=
    fun hk => setActor_of_ne hk s p'
  refine ⟨h.router, fun k q hq => ?_, fun k hk => ?_, fun k q hq => ?_, fun k q hq hk => ?_,
    fun k d hd => ?_, fun k => ?_, fun k m hm => ?_, fun k => ?_, hpending⟩
  · by_cases heq : k = id
    · subst heq
      rw [hactor] at hq
      obtain rfl := Option.some.inj hq
      exact hr.role.trans hrole
    · rw [hother heq] at hq
      exact h.roles k q hq
  · by_cases heq : k = id
    · subst heq
      rw [hactor]
      rfl
    · rw [hother heq]
      exact h.registered k hk
  · by_cases heq : k = id
    · subst heq
      rw [hactor] at hq
      obtain rfl := Option.some.inj hq
      exact hr.sound
    · rw [hother heq] at hq
      exact h.sound k q hq
  · rw [hjournal]
    by_cases heq : k = id
    · subst heq
      rw [hactor] at hq
      obtain rfl := Option.some.inj hq
      rw [Journal.of_enter_self, h.deeds k p hp hk, hr.deeds]
    · rw [hother heq] at hq
      rw [Journal.of_enter_of_ne (Ne.symm heq)]
      exact h.deeds k q hq hk
  · rw [hjournal, Journal.mem_enter] at hd
    rcases hd with hold | ⟨rfl, hnew⟩
    · exact h.fits k d hold
    · exact hfits d hnew
  · -- what was pending and what is new is what is received now and what is pending then
    obtain ⟨delivered, haddressed, hdigests⟩ := h.delivered k
    have hall : (s.update id p p').addressed k =
        delivered ++ ((if k = id then received else []) ++ mail sender' k pending') := by
      rw [addressed, hjournal, Journal.addressed_enter, ← hmail k, ← List.append_assoc,
        ← haddressed]
      rfl
    refine ⟨delivered ++ if k = id then received else [], by rw [hall, List.append_assoc], ?_⟩
    rw [hjournal]
    by_cases heq : k = id
    · subst heq
      rw [if_pos rfl, List.map_append, Journal.of_enter_self]
      exact hdigests.append (hrole ▸ hr.digests)
    · rw [if_neg heq, List.append_nil, Journal.of_enter_of_ne (Ne.symm heq)]
      exact hdigests
  · obtain ⟨x, message⟩ := m
    rw [addressed, hjournal, Journal.addressed_enter, List.mem_append] at hm
    rcases hm with hold | hnew
    · exact h.sources k _ hold
    · obtain ⟨-, d, hd, hsent⟩ := Journal.mem_mail.mp hnew
      exact hsources d hd _ message hsent
  · have hle := h.answers k
    rw [hjournal]
    by_cases heq : k = id
    · subst heq
      have hnew := hr.answers
      rw [unanswered, hp, Option.elim_some] at hle
      rw [unanswered, hactor, Option.elim_some, Journal.of_enter_self, List.filterMap_append,
        List.filterMap_append, List.length_append, List.length_append]
      omega
    · rw [unanswered, hother heq, Journal.of_enter_of_ne (Ne.symm heq)]
      exact hle

/-- A deed that sends nothing, or whose message nobody takes in, is performed. -/
theorem Inv.skip {d : Deed β} (h : Inv mb s₀ sender (d :: pending) s)
    (hlost : ∀ actorId message, d.sent = some (actorId, message) →
      (s₀.role actorId).isMaster = false) : Inv mb s₀ sender pending s := by
  refine ⟨h.router, h.roles, h.registered, h.sound, h.deeds, h.fits, fun k => ?_, h.sources,
    h.answers, fun d' hd => h.pending d' (List.mem_cons_of_mem _ hd)⟩
  obtain ⟨delivered, haddressed, hdigests⟩ := h.delivered k
  refine ⟨delivered ++ mail sender k [d], ?_, ?_⟩
  · rw [haddressed, mail, Journal.mail_cons, List.append_assoc]
    rfl
  cases hsent : d.sent with
  | none =>
    rw [mail, Journal.mail_of_none hsent, List.append_nil]
    exact hdigests
  | some m =>
    obtain ⟨actorId, message⟩ := m
    by_cases heq : actorId = k
    · subst heq
      have hignored : (s₀.role actorId).Digests mb [message] [] :=
        Role.digests_ignored (hlost _ _ hsent) _
      rw [mail, Journal.mail_of_some hsent, List.map_append]
      have hboth := hdigests.append hignored
      rw [List.append_nil] at hboth
      exact hboth
    · rw [mail, Journal.mail_of_ne hsent heq, List.append_nil]
      exact hdigests

/-- The client that is gone is the connection that says so. -/
theorem Inv.client_of_notice {d : Deed β} (h : Inv mb s₀ sender (d :: pending) s)
    {actorId : ActorId} {message : ClientDisconnectMessage}
    (hnotice : d.notice = some (actorId, message)) : s₀.role message.clientId = .connection := by
  have hfits := h.pending d List.mem_cons_self
  cases d with
  | connection e =>
    cases e with
    | disconnect serverId notice =>
      obtain ⟨-, rfl⟩ := Prod.mk.inj (Option.some.inj hnotice)
      rw [hfits.2]
      exact hfits.1
    | _ => cases hnotice
  | _ => cases hnotice

/-- **Every deed that is performed keeps the invariant.** -/
theorem inv_perform {d : Deed β} (h : Inv mb s₀ sender (d :: pending) s) (now : Nanoseconds) :
    Inv mb s₀ sender pending (s.perform mb now d) := by
  unfold perform
  split
  · next actorId message hsent =>
    unfold send
    split
    · next hnone =>
      -- nobody is registered, so that it is no master
      refine h.skip fun actorId' message' hsent' => ?_
      rw [hsent] at hsent'
      obtain ⟨rfl, rfl⟩ := Prod.mk.inj (Option.some.inj hsent')
      by_contra hmaster
      obtain ⟨p, hp⟩ := h.exists_master (Bool.not_eq_false _ ▸ hmaster)
      rw [hnone] at hp
      cases hp
    next p hp =>
    obtain ⟨new, hreaction, hsilent⟩ := Participant.reaction_receive s.router
      (h.sound actorId p hp) now message
    refine h.update [(sender, message)] hp hreaction (fun k => ?_)
      (fun e he _ _ hsent' => ?_) fun d' hd => h.pending d' (List.mem_cons_of_mem _ hd)
    case refine_2 =>
      rw [(hsilent e he).1] at hsent'
      cases hsent'
    have hnew : mail actorId k new = [] := Journal.mail_eq_nil (fun e he => (hsilent e he).1) _ _
    rw [hnew, List.append_nil, mail, Journal.mail_cons]
    by_cases heq : actorId = k
    · subst heq
      rw [Journal.mail_of_some hsent, if_pos rfl]
      rfl
    · rw [Journal.mail_of_ne hsent heq, if_neg (Ne.symm heq)]
      rfl
  · next actorId message hsent hnotice =>
    have hskip : Inv mb s₀ sender pending s := h.skip fun _ _ hsome => by
      rw [hsent] at hsome
      cases hsome
    unfold disconnect
    split
    · next server hserver =>
      have hclient := h.client_of_notice hnotice
      have hne : actorId ≠ message.clientId := by
        rintro rfl
        have hrole := h.roles _ _ hserver
        rw [hclient] at hrole
        cases hrole
      have hstays : Function.update s.actors message.clientId none actorId =
          some (.tcpServer server) := by
        rw [Function.update_of_ne hne]
        exact hserver
      exact (hskip.remove hclient).set_server hstays _
    · exact hskip
  · next hsent hnotice =>
    refine h.skip fun _ _ hsome => ?_
    rw [hsent] at hsome
    cases hsome

theorem inv_foldl_perform (now : Nanoseconds) : ∀ {s : Network β},
    Inv mb s₀ sender pending s → Inv mb s₀ sender [] (pending.foldl (perform mb now) s) := by
  induction pending with
  | nil => exact fun h => h
  | cons d pending ih => exact fun h => ih (inv_perform h now)

/-! ### The runs -/

/-- What an actor sends by itself is about a request of a slave: its own, or one that it has
received. -/
theorem Inv.sources_step (h : Inv mb s₀ sender [] s) {p p' : Participant β} {new : List (Deed β)}
    (hp : s.actors id = some p) (hr : Reaction mb s.router id p p' new []) :
    ∀ d ∈ new, ∀ actorId message, d.sent = some (actorId, message) →
      (s₀.role message.modbusMessageInfo.sourceId).isMaster = false := by
  intro d hd actorId message hsent
  have hrole := h.roles id p hp
  have hfits := hr.fits d hd
  cases hmaster : p.role.isMaster with
  | false =>
    have hsource := (hfits.routed hmaster hsent).source
    rw [hsource, ← hrole]
    exact hmaster
  | true =>
    have hconnection : s₀.role id ≠ .connection := hrole ▸ Role.ne_connection hmaster
    -- the answer has the message info of a request that has been received
    obtain ⟨effects, hdeeds, ⟨o, hpaired⟩, hreceived⟩ := hr.sound.history (hr.role ▸ hmaster)
    have hmem : d ∈ p'.deeds := by
      rw [hr.deeds]
      exact List.mem_append_right _ hd
    have hanswer : (actorId, message) ∈ p'.deeds.filterMap Deed.sent :=
      List.mem_filterMap.mpr ⟨d, hmem, hsent⟩
    rw [hdeeds, Participant.filterMap_sent] at hanswer
    obtain ⟨n, hn, heq⟩ := List.mem_map.mp hanswer
    obtain ⟨k, r, -, hget, hra⟩ := hpaired.answer_spec n hn
    rw [heq] at hra
    have harrived : r.1 ∈ effects.filterMap MasterEffect.arrival :=
      hreceived.subset (List.mem_map_of_mem (List.mem_of_getElem? hget))
    have harrivals : effects.filterMap MasterEffect.arrival =
        (p.deeds.filterMap Deed.effect).filterMap MasterEffect.arrival := by
      have hnew := (Role.digests_master hmaster).mp hr.digests
      have heffects : effects = p'.deeds.filterMap Deed.effect := by
        rw [hdeeds, List.filterMap_map]
        exact List.filterMap_some.symm
      rw [heffects, hr.deeds, List.filterMap_append, List.filterMap_append, hnew,
        List.append_nil]
    obtain ⟨delivered, haddressed, hdigests⟩ := h.delivered id
    rw [← hrole, Role.digests_master hmaster, h.deeds id p hp hconnection] at hdigests
    rw [harrivals, hdigests] at harrived
    obtain ⟨m, hm, hinfo⟩ := List.mem_map.mp harrived
    have hsource : (s₀.role m.2.modbusMessageInfo.sourceId).isMaster = false := by
      refine h.sources id m ?_
      rw [haddressed]
      exact List.mem_append_left _ hm
    rw [hinfo, ← hra.2] at hsource
    exact hsource

/-- An actor has done something by itself, which is still to be performed. -/
theorem Inv.react (h : Inv mb s₀ sender [] s) {p p' : Participant β} {new : List (Deed β)}
    (hp : s.actors id = some p) (hr : Reaction mb s.router id p p' new []) :
    Inv mb s₀ id new (s.update id p p') := by
  have hfits : ∀ d ∈ new, d.Fits mb s₀.router (s₀.role id) id := by
    rw [← h.roles id p hp, ← h.router]
    exact hr.fits
  refine h.update [] hp hr (fun k => ?_) (h.sources_step hp hr) hfits
  rw [ite_self]
  rfl

/-- **Every step keeps the invariant.**  Between the handlers nothing is pending. -/
theorem inv_step {e : Event β} (h : Inv mb s₀ sender [] s) (hs : step mb s e = some s') :
    Inv mb s₀ sender [] s' := by
  have hrelease : ∀ {sender' : ActorId} {t : Network β}, Inv mb s₀ sender' [] t →
      Inv mb s₀ sender [] t := fun h =>
    ⟨h.router, h.roles, h.registered, h.sound, h.deeds, h.fits, h.delivered, h.sources,
      h.answers, List.forall_mem_nil _⟩
  cases step_branch hs with
  | @actor id e p p' hp hself hstep now =>
    obtain ⟨new, hreaction⟩ := Participant.reaction_step (h.sound id p hp) hself hstep
    rw [hreaction.deeds, List.drop_left]
    exact hrelease (inv_foldl_perform now (h.react hp hreaction))
  | acceptAborted hserver htake => exact h.set_server hserver _
  | acceptFailed hserver htake hec => exact h.set_server hserver _
  | @accepted serverId clientId i server acceptor hserver htake hfree =>
    have hnone : s.actors clientId = none :=
      Option.isNone_iff_eq_none.mp (Bool.and_eq_true_iff.mp hfree).1
    have hne : serverId ≠ clientId := by
      rintro rfl
      rw [hserver] at hnone
      cases hnone
    have hstays := setActor_of_ne hne s
      (.connection (ModbusTcpConnection.new serverId clientId).startReceiveTask)
    exact (h.add_connection hnone rfl rfl rfl).set_server (hstays.trans hserver) _

theorem inv_initial (h : s₀.Initial) (mb : Modbus β) (sender : ActorId) :
    Inv mb s₀ sender [] s₀ where
  router := rfl
  roles id p hp := by rw [role, hp, Option.map_some, Option.getD_some]
  registered id hrole := by
    by_contra hnone
    rw [Option.not_isSome_iff_eq_none] at hnone
    rw [role, hnone] at hrole
    exact hrole rfl
  sound id p hp := (h.fresh id p hp).sound mb
  deeds id p hp _ := by
    rw [h.journal, (h.fresh id p hp).deeds.1]
    rfl
  fits id d hd := by
    rw [h.journal] at hd
    cases hd
  delivered id := by
    refine ⟨[], ?_, ?_⟩
    · rw [addressed, h.journal]
      rfl
    · rw [h.journal]
      exact Role.digests_nil _
  sources id m hm := by
    rw [addressed, h.journal] at hm
    cases hm
  answers id := by
    have hzero : s₀.unanswered id = 0 := by
      unfold unanswered
      cases hp : s₀.actors id with
      | none => rfl
      | some p => exact (h.fresh id p hp).deeds.2
    rw [hzero, h.journal]
    exact Nat.le_refl _
  pending := List.forall_mem_nil _

/-- **Every run keeps the invariant.** -/
theorem inv_exec {es : List (Event β)} (h : s₀.Initial)
    (hrun : exec (step mb) s₀ es = some s) (sender : ActorId) : Inv mb s₀ sender [] s :=
  invariant (fun _ _ _ => inv_step) es _ _ (inv_initial h mb sender) hrun

end Network

end ModbusGateway
