import ModbusGateway.Gateway.Rest
import ModbusGateway.Transport.SlaveSession

/-!
# Every actor for itself

What is proved of a single actor, in every run in which anything is sent to it and anything
happens to it, holds of the actor in the gateway: its part of a run of the gateway is a run of its
own, in which it is sent what the others have addressed to it.

## Main definitions

* `Participant.Input`, `Participant.given` — what an actor is given, and what it becomes.
* `Network.Born` — how the actor under an id came to be, and since when.
* `Network.StandsAlone` — the actor is what a run of its own makes of it.

## Main results

* `Network.standsAlone_exec` — **every actor of the gateway stands alone.**
-/

namespace ModbusGateway

open Proactor Execution

variable {β : Type}

/-! ### What an actor is given -/

/-- What corresponds one by one corresponds in what is read off it. -/
theorem filterMap_of_forall₂ {ε δ α : Type} {R : ε → δ → Prop} {f : ε → Option α}
    {g : δ → Option α} (hfg : ∀ e d, R e d → f e = g d) {es : List ε} {ds : List δ}
    (h : List.Forall₂ R es ds) : es.filterMap f = ds.filterMap g := by
  induction h with
  | nil => rfl
  | cons hR _ ih => rw [List.filterMap_cons, List.filterMap_cons, hfg _ _ hR, ih]

/-- A message of the gateway, as a session is sent it. -/
def ModbusMessage.posted (message : ModbusMessage β) : ModbusMessage (Option β) :=
  ⟨message.modbusMessageInfo, some message.modbusBuffer⟩

namespace Participant

/-- What an actor is given. -/
inductive Input (β : Type)
  /-- Something happens to it by itself. -/
  | own (e : Event β)
  /-- The exchange calls `Receive`, at clock reading `now`. -/
  | message (message : ModbusMessage β) (now : Nanoseconds)

/-- What happens to the actor by itself. -/
def Input.event : Input β → Option (Event β)
  | .own e => some e
  | .message _ _ => none

/-- The message that the actor is sent. -/
def Input.received : Input β → Option (ModbusMessage β)
  | .own _ => none
  | .message m _ => some m

/-- An actor after what it is given. -/
def given (mb : Modbus β) (router : Router) (p : Participant β) : Input β → Option (Participant β)
  | .own e => if e.byItself then p.step mb router e else none
  | .message message now => some (p.receive mb now message)

variable {mb : Modbus β} {router : Router} {p : Participant β}

/-- What a TCP client is given is an event of its own run. -/
inductive Input.TcpClient : Input β → ModbusTcpClient.Event β → Prop
  | own {e : ModbusTcpClient.Event β} (h : e.message = none) : TcpClient (.own (.tcpClient e)) e
  | message (message : ModbusMessage β) (now : Nanoseconds) :
    TcpClient (.message message now) (.receive message now)

/-- What an RTU master is given is an event of its own run. -/
inductive Input.RtuMaster : Input β → ModbusRtuMaster.Event β → Prop
  | own {e : ModbusRtuMaster.Event β} (h : e.message = none) : RtuMaster (.own (.rtuMaster e)) e
  | message (message : ModbusMessage β) (now : Nanoseconds) :
    RtuMaster (.message message now) (.receive message now)

/-- What a connection is given is an event of its session. -/
inductive Input.Connection : Input β → ModbusTcpConnection.SessionEvent β → Prop
  | own (e : ModbusTcpConnection.Event) : Connection (.own (.connection e)) (.io e)
  | message (message : ModbusMessage β) (now : Nanoseconds) :
    Connection (.message message now) (.receive message.posted)

/-- What an RTU slave is given is an event of its session. -/
inductive Input.RtuSlave : Input β → ModbusRtuSlave.SessionEvent β → Prop
  | own (e : ModbusRtuSlave.Event) : RtuSlave (.own (.rtuSlave e)) (.io e)
  | message (message : ModbusMessage β) (now : Nanoseconds) :
    RtuSlave (.message message now) (.receive message.posted)

theorem given_tcpClient {c : ModbusTcpClient β} {i : Input β}
    (h : (tcpClient c).given mb router i = some p) :
    ∃ c' e, tcpClient c' = p ∧ i.TcpClient e ∧ ModbusTcpClient.step mb c e = some c' := by
  cases i with
  | message message now =>
    obtain rfl := Option.some.inj h
    exact ⟨_, _, rfl, .message message now, rfl⟩
  | own e =>
    simp only [given] at h
    split at h
    · next hself =>
      cases e with
      | tcpClient e =>
        obtain ⟨c', hc, rfl⟩ := Option.map_eq_some_iff.mp h
        refine ⟨c', e, rfl, .own ?_, hc⟩
        cases e with
        | receive message now => cases hself
        | _ => rfl
      | _ => cases h
    · cases h

theorem given_rtuMaster {m : ModbusRtuMaster β} {i : Input β}
    (h : (rtuMaster m).given mb router i = some p) :
    ∃ m' e, rtuMaster m' = p ∧ i.RtuMaster e ∧ ModbusRtuMaster.step mb m e = some m' := by
  cases i with
  | message message now =>
    obtain rfl := Option.some.inj h
    exact ⟨_, _, rfl, .message message now, rfl⟩
  | own e =>
    simp only [given] at h
    split at h
    · next hself =>
      cases e with
      | rtuMaster e =>
        obtain ⟨m', hm, rfl⟩ := Option.map_eq_some_iff.mp h
        refine ⟨m', e, rfl, .own ?_, hm⟩
        cases e with
        | receive message now => cases hself
        | _ => rfl
      | _ => cases h
    · cases h

theorem given_connection {session : ModbusTcpConnection.Session β} {i : Input β}
    (h : (connection session.connection).given mb router i = some p) :
    ∃ session' e, connection session'.connection = p ∧ i.Connection e ∧
      ModbusTcpConnection.Session.step mb router session e = some session' := by
  have hstep : ∀ {e c'}, session.connection.fire mb router e = some c' →
      ∃ session', ModbusTcpConnection.Session.step mb router session e = some session' ∧
        session'.connection = c' := by
    intro e c' hc
    rw [ModbusTcpConnection.Session.step, hc]
    exact ⟨_, rfl, rfl⟩
  cases i with
  | message message now =>
    obtain rfl := Option.some.inj h
    obtain ⟨session', hs, heq⟩ := hstep (e := .receive message.posted) rfl
    exact ⟨session', _, congrArg connection heq, .message message now, hs⟩
  | own e =>
    simp only [given] at h
    split at h
    · cases e with
      | connection e =>
        obtain ⟨c', hc, rfl⟩ := Option.map_eq_some_iff.mp h
        obtain ⟨session', hs, heq⟩ := hstep (e := .io e) hc
        exact ⟨session', _, congrArg connection heq, .own e, hs⟩
      | _ => cases h
    · cases h

theorem given_rtuSlave {session : ModbusRtuSlave.Session β} {i : Input β}
    (h : (rtuSlave session.slave).given mb router i = some p) :
    ∃ session' e, rtuSlave session'.slave = p ∧ i.RtuSlave e ∧
      ModbusRtuSlave.Session.step mb router session e = some session' := by
  have hstep : ∀ {e s'}, session.slave.fire mb router e = some s' →
      ∃ session', ModbusRtuSlave.Session.step mb router session e = some session' ∧
        session'.slave = s' := by
    intro e s' hs
    rw [ModbusRtuSlave.Session.step, hs]
    exact ⟨_, rfl, rfl⟩
  cases i with
  | message message now =>
    obtain rfl := Option.some.inj h
    obtain ⟨session', hs, heq⟩ := hstep (e := .receive message.posted) rfl
    exact ⟨session', _, congrArg rtuSlave heq, .message message now, hs⟩
  | own e =>
    simp only [given] at h
    split at h
    · cases e with
      | rtuSlave e =>
        obtain ⟨s', hs, rfl⟩ := Option.map_eq_some_iff.mp h
        obtain ⟨session', hs', heq⟩ := hstep (e := .io e) hs
        exact ⟨session', _, congrArg rtuSlave heq, .own e, hs'⟩
      | _ => cases h
    · cases h

end Participant

/-! ### The gateway -/

/-- An event of the connection's socket. -/
def ModbusTcpConnection.SessionEvent.event :
    ModbusTcpConnection.SessionEvent β → Option ModbusTcpConnection.Event
  | .io e => some e
  | _ => none

/-- An event of the slave's serial port. -/
def ModbusRtuSlave.SessionEvent.event : ModbusRtuSlave.SessionEvent β → Option ModbusRtuSlave.Event
  | .io e => some e
  | _ => none

namespace Network

/-- How the actor under an id came to be in the run `past`, as `p₀`, with the events since then
and the messages that had been addressed to the id before.  It was there from the start, or a
client was accepted under the id. -/
inductive Born (mb : Modbus β) (s₀ : Network β) (k : ActorId) : List (Event β) → List (Event β) →
    List (ActorId × ModbusMessage β) → Participant β → Prop
  | started {p₀ : Participant β} (hstart : s₀.actors k = some p₀) (past : List (Event β)) :
    Born mb s₀ k past past [] p₀
  | accepted {serverId : ActorId} {i : ℕ} {before : List (Event β)} {s₁ : Network β}
      (hbefore : exec (step mb) s₀ (before ++ [.handleAccept serverId i k false false]) = some s₁)
      (since : List (Event β)) :
    Born mb s₀ k (before ++ .handleAccept serverId i k false false :: since) since
      (s₁.addressed k)
      (.connection (ModbusTcpConnection.new serverId k).startReceiveTask)

/-- The actor under an id is what it has been given since it came to be has made of it, up to what
is pending. -/
def Alone (mb : Modbus β) (s₀ : Network β) (k : ActorId) (past : List (Event β)) (sender : ActorId)
    (pending : List (Deed β)) (s : Network β) : Prop :=
  ∀ p, s.actors k = some p → ∃ p₀ inputs since earlier delivered,
    Born mb s₀ k past since earlier p₀ ∧
    exec (Participant.given mb s₀.router) p₀ inputs = some p ∧
    inputs.filterMap Participant.Input.event = since.filterMap (Event.of k) ∧
    s.addressed k = earlier ++ delivered ++ mail sender k pending ∧
    inputs.filterMap Participant.Input.received = delivered.map Prod.snd

variable {mb : Modbus β} {s₀ s s' : Network β} {sender id k : ActorId} {pending : List (Deed β)}
  {past : List (Event β)}

/-- One more event. -/
theorem Born.concat {since : List (Event β)} {earlier : List (ActorId × ModbusMessage β)}
    {p₀ : Participant β} (h : Born mb s₀ k past since earlier p₀) (e : Event β) :
    Born mb s₀ k (past ++ [e]) (since ++ [e]) earlier p₀ := by
  cases h with
  | started hstart => exact .started hstart _
  | accepted hbefore =>
    rw [List.append_assoc, List.cons_append]
    exact .accepted hbefore _

/-- Who is registered under the id and what has been addressed to it is all that matters. -/
theorem Alone.congr (h : Alone mb s₀ k past sender pending s) {sender' : ActorId}
    {pending' : List (Deed β)} (hactor : ∀ p, s'.actors k = some p → s.actors k = some p)
    {new : List (ActorId × ModbusMessage β)} (haddressed : s'.addressed k = s.addressed k ++ new)
    (hmail : mail sender k pending ++ new = mail sender' k pending') :
    Alone mb s₀ k past sender' pending' s' := by
  intro p hp
  obtain ⟨p₀, inputs, since, earlier, delivered, hborn, hrun, hown, hall, hreceived⟩ :=
    h p (hactor p hp)
  refine ⟨p₀, inputs, since, earlier, delivered, hborn, hrun, hown, ?_, hreceived⟩
  rw [haddressed, hall, List.append_assoc, hmail]

/-- An event happens elsewhere. -/
theorem Alone.wait (h : Alone mb s₀ k past sender pending s) {e : Event β} (he : e.of k = none) :
    Alone mb s₀ k (past ++ [e]) sender pending s := by
  intro p hp
  obtain ⟨p₀, inputs, since, earlier, delivered, hborn, hrun, hown, hall, hreceived⟩ := h p hp
  refine ⟨p₀, inputs, since ++ [e], earlier, delivered, hborn.concat e, hrun, ?_, hall, hreceived⟩
  rw [List.filterMap_append, List.filterMap_cons_none he, List.filterMap_nil, List.append_nil]
  exact hown

/-- Something happens to the actor by itself, and what it does is pending. -/
theorem Alone.act (h : Alone mb s₀ k past sender [] s) (hrouter : s.router = s₀.router)
    {p p' : Participant β} {e : Participant.Event β} {now : Nanoseconds} {new : List (Deed β)}
    (hp : s.actors k = some p) (hself : e.byItself = true)
    (hact : p.step mb s.router e = some p') (hdeeds : p'.deeds = p.deeds ++ new) :
    Alone mb s₀ k (past ++ [.actor k e now]) k new (s.update k p p') := by
  intro q hq
  rw [update, setActor_self] at hq
  obtain rfl := Option.some.inj hq
  obtain ⟨p₀, inputs, since, earlier, delivered, hborn, hrun, hown, hall, hreceived⟩ := h p hp
  have hgiven : p.given mb s₀.router (.own e) = some p' := by
    rw [Participant.given, if_pos hself, ← hrouter, hact]
  refine ⟨p₀, inputs ++ [.own e], since ++ [.actor k e now], earlier, delivered,
    hborn.concat _, exec_concat hrun hgiven, ?_, ?_, ?_⟩
  · rw [List.filterMap_append, List.filterMap_append, hown]
    have hof : Event.of k (.actor k e now) = some e := if_pos rfl
    rw [List.filterMap_cons_some hof, List.filterMap_nil]
    rfl
  · rw [addressed, update_journal hdeeds, Journal.addressed_enter]
    rw [mail, Journal.mail_nil, List.append_nil] at hall
    rw [← hall]
    rfl
  · rw [List.filterMap_append, hreceived]
    exact List.append_nil _

/-- The actor is sent a message, which was pending. -/
theorem Alone.take {d : Deed β} {message : ModbusMessage β} {p : Participant β}
    (h : Alone mb s₀ k past sender (d :: pending) s) (hsent : d.sent = some (k, message))
    (hp : s.actors k = some p) (now : Nanoseconds) {s' : Network β}
    (hself : s'.actors k = some (p.receive mb now message))
    (haddressed : s'.addressed k = s.addressed k) : Alone mb s₀ k past sender pending s' := by
  intro q hq
  rw [hself] at hq
  obtain rfl := Option.some.inj hq
  obtain ⟨p₀, inputs, since, earlier, delivered, hborn, hrun, hown, hall, hreceived⟩ := h p hp
  refine ⟨p₀, inputs ++ [.message message now], since, earlier, delivered ++ [(sender, message)],
    hborn, exec_concat hrun rfl, ?_, ?_, ?_⟩
  · rw [List.filterMap_append, hown]
    exact List.append_nil _
  · rw [haddressed, hall, mail, Journal.mail_cons, Journal.mail_of_some hsent, mail]
    simp
  · rw [List.filterMap_append, hreceived, List.map_append]
    rfl

theorem alone_perform {d : Deed β} (hserver : s₀.role k ≠ .tcpServer)
    (hinv : Inv mb s₀ sender (d :: pending) s) (h : Alone mb s₀ k past sender (d :: pending) s)
    (now : Nanoseconds) : Alone mb s₀ k past sender pending (s.perform mb now d) := by
  unfold perform
  split
  · next actorId message hsent =>
    by_cases heq : actorId = k
    · subst heq
      unfold send
      split
      · next hnone =>
        intro p hp
        rw [hnone] at hp
        cases hp
      next p hp =>
      obtain ⟨new, hreaction, hsilent⟩ := Participant.reaction_receive s.router
        (hinv.sound actorId p hp) now message
      refine h.take hsent hp now (setActor_self _ _ _) ?_
      rw [addressed, update_journal hreaction.deeds, Journal.addressed_enter,
        Journal.mail_eq_nil (fun e he => (hsilent e he).1), List.append_nil]
      rfl
    · have hmail : mail sender k (d :: pending) ++ [] = mail sender k pending := by
        rw [List.append_nil, mail, Journal.mail_cons, Journal.mail_of_ne hsent heq]
        rfl
      unfold send
      split
      · exact h.congr (fun _ hp => hp) (List.append_nil _).symm hmail
      next p hp =>
      obtain ⟨new, hreaction, hsilent⟩ := Participant.reaction_receive s.router
        (hinv.sound actorId p hp) now message
      refine h.congr (fun q hq => ?_) ?_ hmail
      · rw [update, setActor_of_ne (Ne.symm heq)] at hq
        exact hq
      · rw [addressed, update_journal hreaction.deeds, Journal.addressed_enter,
          Journal.mail_eq_nil (fun e he => (hsilent e he).1)]
        rfl
  · next actorId message hsent hnotice =>
    have hmail : mail sender k (d :: pending) ++ [] = mail sender k pending := by
      rw [List.append_nil, mail, Journal.mail_cons, Journal.mail_of_none hsent]
      rfl
    unfold disconnect
    split
    · next server hactor =>
      refine h.congr (fun p hp => ?_) (List.append_nil _).symm hmail
      have hk : k ≠ actorId := by
        rintro rfl
        exact hserver (hinv.roles _ _ hactor).symm
      rw [setActor_of_ne hk] at hp
      by_cases hgone : k = message.clientId
      · subst hgone
        simp only [Function.update_self] at hp
        cases hp
      · simp only [Function.update_of_ne hgone] at hp
        exact hp
    · exact h.congr (fun _ hp => hp) (List.append_nil _).symm hmail
  · next hsent hnotice =>
    refine h.congr (fun _ hp => hp) (List.append_nil _).symm ?_
    rw [List.append_nil, mail, Journal.mail_cons, Journal.mail_of_none hsent]
    rfl

theorem alone_foldl_perform (hserver : s₀.role k ≠ .tcpServer) (now : Nanoseconds) :
    ∀ {s : Network β}, Inv mb s₀ sender pending s → Alone mb s₀ k past sender pending s →
      Alone mb s₀ k past sender [] (pending.foldl (perform mb now) s) := by
  induction pending with
  | nil => exact fun _ h => h
  | cons d pending ih =>
    exact fun hinv h => ih (inv_perform hinv now) (alone_perform hserver hinv h now)

/-- A server changes, and the actor does not. -/
theorem Alone.set_server (h : Alone mb s₀ k past sender pending s) {serverId : ActorId}
    (hk : k ≠ serverId) (server : TcpServer) :
    Alone mb s₀ k past sender pending (s.setActor serverId (.tcpServer server)) := by
  refine h.congr (fun p hp => ?_) (List.append_nil _).symm (List.append_nil _)
  rw [setActor_of_ne hk] at hp
  exact hp

/-- **Every step lets the actor be what its own run makes of it.** -/
theorem alone_step {e : Event β} (hserver : s₀.role k ≠ .tcpServer) (hinv : Inv mb s₀ sender [] s)
    (hpast : exec (step mb) s₀ past = some s) (h : Alone mb s₀ k past sender [] s)
    (hs : step mb s e = some s') : Alone mb s₀ k (past ++ [e]) sender [] s' := by
  have hother : ∀ {serverId server}, s.actors serverId = some (.tcpServer server) →
      k ≠ serverId := by
    rintro serverId server hactor rfl
    exact hserver (hinv.roles _ _ hactor).symm
  have hnow := exec_concat hpast hs
  cases step_branch hs with
  | @actor id e p p' hp hself hact now =>
    obtain ⟨new, hreaction⟩ := Participant.reaction_step (hinv.sound id p hp) hself hact
    have hinv' := hinv.react hp hreaction
    have hupdate : Alone mb s₀ k (past ++ [.actor id e now]) id new (s.update id p p') := by
      by_cases heq : id = k
      · subst heq
        exact h.act hinv.router hp hself hact hreaction.deeds
      · have hof : Event.of k (.actor id e now) = none := if_neg heq
        refine (h.wait hof).congr (fun q hq => ?_) ?_ (List.nil_append _)
        · rw [update, setActor_of_ne (Ne.symm heq)] at hq
          exact hq
        · rw [addressed, update_journal hreaction.deeds, Journal.addressed_enter]
          rfl
    have hperformed := alone_foldl_perform hserver now hinv' hupdate
    rw [hreaction.deeds, List.drop_left]
    exact hperformed
  | acceptAborted hactor htake => exact (h.wait rfl).set_server (hother hactor) _
  | acceptFailed hactor htake hec => exact (h.wait rfl).set_server (hother hactor) _
  | @accepted serverId clientId i server acceptor hactor htake hfree =>
    have hk := hother hactor
    by_cases heq : k = clientId
    · -- a client is accepted under the id, and has been given nothing
      subst heq
      intro p hp
      rw [setActor_of_ne hk, setActor_self] at hp
      obtain rfl := Option.some.inj hp
      refine ⟨_, [], [], _, [], .accepted hnow [], rfl, rfl, ?_, rfl⟩
      rw [mail, Journal.mail_nil, List.append_nil, List.append_nil]
    · refine Alone.set_server (s := s.setActor clientId _) ?_ hk _
      refine (h.wait rfl).congr (fun p hp => ?_) (List.append_nil _).symm (List.append_nil _)
      rw [setActor_of_ne heq] at hp
      exact hp

theorem alone_initial (h : s₀.Initial) (mb : Modbus β) (k sender : ActorId) :
    Alone mb s₀ k [] sender [] s₀ := by
  intro p hp
  refine ⟨p, [], [], [], [], .started hp [], rfl, rfl, ?_, rfl⟩
  rw [addressed, h.journal]
  rfl

theorem alone_exec {es : List (Event β)} (h : s₀.Initial) (hrun : exec (step mb) s₀ es = some s)
    (hserver : s₀.role k ≠ .tcpServer) : Alone mb s₀ k es 0 [] s := by
  have hinvariant := invariant_record (g := fun _ e => some e)
    (I := fun s past => Inv mb s₀ 0 [] s ∧ exec (step mb) s₀ past = some s ∧
      Alone mb s₀ k past 0 [] s)
    (fun s past e s' hs hse => ⟨inv_step hs.1 hse, exec_concat hs.2.1 hse,
      alone_step hserver hs.1 hs.2.1 hs.2.2 hse⟩) es s₀ s []
    ⟨inv_initial h mb 0, rfl, alone_initial h mb k 0⟩ hrun
  rw [List.nil_append, record_of_events hrun, List.filterMap_some] at hinvariant
  exact hinvariant.2.2

/-! ### The actors by themselves -/

/-- The actor under an id is what a run of its own makes of it.  A master, or an RTU slave, has
been there from the start; what it has been sent is what has been addressed to it, in that order,
and what happens to it by itself are its events in the run `es` of the gateway.  A connection has
been accepted in one step of that run, and the same holds since then. -/
inductive StandsAlone (mb : Modbus β) (s₀ : Network β) (es : List (Event β)) (s : Network β)
    (k : ActorId) : Participant β → Prop
  | tcpClient {timeout : Milliseconds} {c : ModbusTcpClient β}
      {es' : List (ModbusTcpClient.Event β)}
      (hstart : s₀.actors k = some (.tcpClient (.new timeout)))
      (hrun : exec (ModbusTcpClient.step mb) (.new timeout) es' = some c)
      (hreceived : es'.filterMap ModbusTcpClient.Event.message = (s.addressed k).map Prod.snd)
      (hown : (es'.filter (·.message.isNone)).map .tcpClient = es.filterMap (Event.of k)) :
    StandsAlone mb s₀ es s k (.tcpClient c)
  | rtuMaster {timeout : Milliseconds} {frameType : FrameType} {m : ModbusRtuMaster β}
      {es' : List (ModbusRtuMaster.Event β)}
      (hstart : s₀.actors k = some (.rtuMaster (.new timeout frameType)))
      (hrun : exec (ModbusRtuMaster.step mb) (.new timeout frameType) es' = some m)
      (hreceived : es'.filterMap ModbusRtuMaster.Event.message = (s.addressed k).map Prod.snd)
      (hown : (es'.filter (·.message.isNone)).map .rtuMaster = es.filterMap (Event.of k)) :
    StandsAlone mb s₀ es s k (.rtuMaster m)
  | connection {serverId : ActorId} {session : ModbusTcpConnection.Session β}
      {before since : List (Event β)} {i : ℕ}
      {s₁ : Network β} {es' : List (ModbusTcpConnection.SessionEvent β)}
      (hes : es = before ++ .handleAccept serverId i k false false :: since)
      (hbefore : exec (step mb) s₀
        (before ++ [.handleAccept serverId i k false false]) = some s₁)
      (hrun : exec (ModbusTcpConnection.Session.step mb s₀.router)
        (.new serverId k) es' = some session)
      (hreceived : (s.addressed k).map (·.2.posted) =
        (s₁.addressed k).map (·.2.posted) ++
          es'.filterMap ModbusTcpConnection.SessionEvent.message)
      (hown : (es'.filterMap ModbusTcpConnection.SessionEvent.event).map .connection =
        since.filterMap (Event.of k)) :
    StandsAlone mb s₀ es s k (.connection session.connection)
  | rtuSlave {frameType : FrameType} {session : ModbusRtuSlave.Session β}
      {es' : List (ModbusRtuSlave.SessionEvent β)}
      (hstart : s₀.actors k = some (.rtuSlave (ModbusRtuSlave.new k frameType).start))
      (hrun : exec (ModbusRtuSlave.Session.step mb s₀.router) (.new k frameType) es' =
        some session)
      (hreceived : es'.filterMap ModbusRtuSlave.SessionEvent.message =
        (s.addressed k).map (·.2.posted))
      (hown : (es'.filterMap ModbusRtuSlave.SessionEvent.event).map .rtuSlave =
        es.filterMap (Event.of k)) :
    StandsAlone mb s₀ es s k (.rtuSlave session.slave)

/-- The events that satisfy a condition, one by one. -/
theorem map_filter_eq_filterMap {ε α : Type} (P : ε → Bool) (f : ε → α) (es : List ε) :
    (es.filter P).map f = es.filterMap fun e => if P e then some (f e) else none := by
  rw [← List.filterMap_eq_map, List.filterMap_filter]
  rfl

/-- **Every actor of the gateway stands alone**, in every run: what holds of every run of a
master, a connection or an RTU slave by itself, whatever happens to it and whatever it is sent,
holds of it in the gateway. -/
theorem standsAlone_exec {β : Type} (mb : Modbus β) {s₀ s : Network β} (h : s₀.Initial)
    {es : List (Event β)} (hrun : exec (step mb) s₀ es = some s) {k : ActorId}
    {p : Participant β} (hp : s.actors k = some p) (hserver : p.role ≠ .tcpServer) :
    StandsAlone mb s₀ es s k p := by
  have hinv : Inv mb s₀ 0 [] s := inv_exec h hrun 0
  rw [hinv.roles k p hp] at hserver
  obtain ⟨p₀, inputs, since, earlier, delivered, hborn, hgiven, hown, hall, hreceived⟩ :=
    alone_exec h hrun hserver p hp
  rw [mail, Journal.mail_nil, List.append_nil] at hall
  cases hborn with
  | started hstart =>
    rw [List.nil_append] at hall
    subst hall
    have hfresh := h.fresh k p₀ hstart
    cases p₀ with
    | tcpClient c =>
      obtain ⟨timeout, rfl⟩ := hfresh
      obtain ⟨c', es', rfl, hinputs, hrun'⟩ :=
        exec_lift (fun _ _ _ => Participant.given_tcpClient) hgiven
      refine .tcpClient hstart hrun' ?_ ?_
      · rw [← hreceived]
        refine (filterMap_of_forall₂ (fun i e hi => ?_) hinputs).symm
        cases hi with
        | own he => exact he.symm
        | message message now => rfl
      · rw [← hown, map_filter_eq_filterMap]
        refine (filterMap_of_forall₂ (fun i e hi => ?_) hinputs).symm
        cases hi with
        | own he =>
          rw [he]
          rfl
        | message message now => rfl
    | rtuMaster m =>
      obtain ⟨timeout, frameType, rfl⟩ := hfresh
      obtain ⟨m', es', rfl, hinputs, hrun'⟩ :=
        exec_lift (fun _ _ _ => Participant.given_rtuMaster) hgiven
      refine .rtuMaster hstart hrun' ?_ ?_
      · rw [← hreceived]
        refine (filterMap_of_forall₂ (fun i e hi => ?_) hinputs).symm
        cases hi with
        | own he => exact he.symm
        | message message now => rfl
      · rw [← hown, map_filter_eq_filterMap]
        refine (filterMap_of_forall₂ (fun i e hi => ?_) hinputs).symm
        cases hi with
        | own he =>
          rw [he]
          rfl
        | message message now => rfl
    | tcpServer server =>
      rw [role, hstart] at hserver
      exact absurd rfl hserver
    | connection c => exact hfresh.elim
    | rtuSlave slave =>
      obtain ⟨frameType, rfl⟩ := hfresh
      obtain ⟨session, es', rfl, hinputs, hrun'⟩ :=
        exec_lift (f := fun session : ModbusRtuSlave.Session β =>
            Participant.rtuSlave session.slave)
          (a := .new k frameType)
          (fun _ _ _ => Participant.given_rtuSlave) hgiven
      refine .rtuSlave hstart hrun' ?_ ?_
      · have hposted : (s.addressed k).map (·.2.posted) =
            inputs.filterMap fun i => i.received.map ModbusMessage.posted := by
          rw [← List.map_filterMap, hreceived, List.map_map]
          rfl
        rw [hposted]
        refine (filterMap_of_forall₂ (fun i e hi => ?_) hinputs).symm
        cases hi <;> rfl
      · rw [← hown, List.map_filterMap]
        refine (filterMap_of_forall₂ (fun i e hi => ?_) hinputs).symm
        cases hi <;> rfl
  | @accepted serverId i before s₁ hbefore =>
    obtain ⟨session, es', rfl, hinputs, hrun'⟩ :=
      exec_lift (f := fun session : ModbusTcpConnection.Session β =>
          Participant.connection session.connection)
        (a := .new serverId k)
        (fun _ _ _ => Participant.given_connection) hgiven
    refine .connection rfl hbefore hrun' ?_ ?_
    · have hposted : delivered.map (·.2.posted) =
          inputs.filterMap fun i => i.received.map ModbusMessage.posted := by
        rw [← List.map_filterMap, hreceived, List.map_map]
        rfl
      rw [hall, List.map_append, hposted]
      refine congrArg _ (filterMap_of_forall₂ (fun i e hi => ?_) hinputs)
      cases hi <;> rfl
    · rw [← hown, List.map_filterMap]
      refine (filterMap_of_forall₂ (fun i e hi => ?_) hinputs).symm
      cases hi <;> rfl

set_option maxRecDepth 2000 in
/-- The master and the connection of the sample run. -/
theorem standsAlone_serial :
    ∃ s m c, exec (step Frame.library) serialDevice serialRun = some s ∧
      s.actors 4 = some (.rtuMaster m) ∧ s.actors 5 = some (.connection c) ∧
      StandsAlone Frame.library serialDevice serialRun s 4 (.rtuMaster m) ∧
      StandsAlone Frame.library serialDevice serialRun s 5 (.connection c) := by
  obtain ⟨s, m, c, hrun, hm, hc⟩ : ∃ s m c,
      exec (step Frame.library) serialDevice serialRun = some s ∧
        s.actors 4 = some (.rtuMaster m) ∧ s.actors 5 = some (.connection c) :=
    ⟨_, _, _, rfl, rfl, rfl⟩
  exact ⟨s, m, c, hrun, hm, hc,
    standsAlone_exec Frame.library initial_serialDevice hrun hm (fun h => by cases h),
    standsAlone_exec Frame.library initial_serialDevice hrun hc (fun h => by cases h)⟩

end Network

end ModbusGateway
