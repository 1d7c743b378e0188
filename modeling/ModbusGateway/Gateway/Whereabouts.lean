import ModbusGateway.Gateway.EndToEnd
import ModbusGateway.Transport.MasterCustody

/-!
# Where the request is that a client waits for

A slave that has accepted a request waits for its answer, until the answer comes or the next
request does.  In every run of the gateway, whatever is connected to it and in whatever order
things happen, the request that is waited for has not vanished: it has been sent to an actor, and
if that is a master, the master holds it, in its queue or in process, or has dropped it because it
had expired, or has given it up at an event that the master can be blamed for by no one.

## Main definitions

* `Participant.held`, `Participant.waiting` — the requests a master has, and the one a slave
  waits for.
* `Custody` — what becomes of them when an actor reacts.
* `Network.Traced` — what has become of a request that was sent to an actor.

## Main results

* `Participant.custody_step`, `Participant.custody_receive` — no actor loses track of a request.
* `Network.whereabouts_exec` — **every request that is waited for can be traced.**
-/

namespace ModbusGateway

open Proactor Execution

variable {β : Type}

/-! ### The actors -/

/-- The request that a deed does with: one that has expired, or one that is answered. -/
def Deed.finished (d : Deed β) : Option ModbusMessageInfo := d.effect.bind MasterEffect.finished

namespace Participant

/-- The requests that a master has taken in and not done with. -/
def held (p : Participant β) : List ModbusMessageInfo := p.view.elim [] MasterView.held

/-- The request for whose answer a slave waits. -/
def waiting : Participant β → Option ModbusMessageInfo
  | .connection c => c.syncRequestInfo
  | .rtuSlave s => s.syncRequestInfo
  | _ => none

/-- The request that an event of a master gives up without an answer. -/
def lost (mb : Modbus β) : Participant β → Event β → Option ModbusMessageInfo
  | .tcpClient c, .tcpClient e => lostInfo (c.lost mb e)
  | .rtuMaster m, .rtuMaster e => lostInfo (m.lost mb e)
  | _, _ => none

end Participant

/-- What becomes of the requests that an actor holds, and of the one that it waits for, when it
does `new` and has received `received`. -/
structure Custody (id : ActorId) (p p' : Participant β) (new : List (Deed β))
    (received : List (ModbusMessage β)) (lost : Option ModbusMessageInfo) : Prop where
  /-- A master still holds what it has held and what it has received, unless it has done with it
  or has given it up. -/
  held : ∀ info, info ∈ p.held ∨
      p.role.isMaster = true ∧ info ∈ received.map (·.modbusMessageInfo) →
    info ∈ p'.held ∨ info ∈ new.filterMap Deed.finished ∨ lost = some info
  /-- A slave that waits has just sent the request on, or has waited for its answer before and
  has not received it. -/
  waiting : ∀ info, p'.waiting = some info →
    (∃ actorId message, (actorId, message) ∈ new.filterMap Deed.sent ∧
      message.modbusMessageInfo = info) ∨
    p.waiting = some info ∧
      (info.sourceId = id → info ∉ received.map (·.modbusMessageInfo))

namespace Participant

variable {mb : Modbus β} {router : Router} {id : ActorId} {p p' : Participant β}

/-- Whoever holds nothing has nothing to lose. -/
theorem custody_slave {new : List (Deed β)} {received : List (ModbusMessage β)}
    {lost : Option ModbusMessageInfo} (hslave : p.role.isMaster = false) (hheld : p.held = [])
    (hwaiting : ∀ info, p'.waiting = some info →
      (∃ actorId message, (actorId, message) ∈ new.filterMap Deed.sent ∧
        message.modbusMessageInfo = info) ∨
      p.waiting = some info ∧
        (info.sourceId = id → info ∉ received.map (·.modbusMessageInfo))) :
    Custody id p p' new received lost where
  held info hinfo := by
    rcases hinfo with hmem | ⟨hmaster, -⟩
    · rw [hheld] at hmem
      cases hmem
    · rw [hslave] at hmaster
      cases hmaster
  waiting := hwaiting

/-- A master keeps what it holds and takes in. -/
theorem custody_master {v v' : MasterView β} {received : List (ModbusMessage β)}
    {lost : Option ModbusMessageInfo} (hv : p.view = some v) (hv' : p'.view = some v')
    (hdeeds : p.deeds = v.effects.map .master) (hdeeds' : p'.deeds = v'.effects.map .master)
    (hwaiting : p'.waiting = none)
    (hkeeps : v.Keeps v' (received.map (·.modbusMessageInfo)) lost) :
    ∃ new, p'.deeds = p.deeds ++ new ∧ Custody id p p' new received lost := by
  obtain ⟨new, heffects, hkept⟩ := hkeeps
  have hfinished : (new.map Deed.master).filterMap Deed.finished =
      new.filterMap MasterEffect.finished := by
    rw [List.filterMap_map]
    rfl
  refine ⟨new.map .master, by rw [hdeeds', heffects, List.map_append, hdeeds], ?_, ?_⟩
  · intro info hinfo
    rw [held, hv', Option.elim_some, hfinished]
    refine hkept info (List.mem_append.mpr ?_)
    rw [held, hv, Option.elim_some] at hinfo
    exact hinfo.imp_right And.right
  · intro info hinfo
    rw [hwaiting] at hinfo
    cases hinfo

/-- A slave that does nothing waits on. -/
theorem custody_silent {received : List (ModbusMessage β)} {lost : Option ModbusMessageInfo}
    (hslave : p.role.isMaster = false) (hheld : p.held = []) (hdeeds : p'.deeds = p.deeds)
    (hwaiting : p'.waiting = p.waiting)
    (hrefused : ∀ info, p.waiting = some info → info.sourceId = id →
      info ∉ received.map (·.modbusMessageInfo)) :
    ∃ new, p'.deeds = p.deeds ++ new ∧ Custody id p p' new received lost := by
  refine ⟨[], by rw [hdeeds, List.append_nil], custody_slave hslave hheld fun info hinfo => ?_⟩
  rw [hwaiting] at hinfo
  exact Or.inr ⟨hinfo, hrefused info hinfo⟩

/-- **What an actor does by itself loses no track of a request.** -/
theorem custody_step {e : Event β} (h : p.Sound mb id) (hself : e.byItself = true)
    (hs : p.step mb router e = some p') :
    ∃ new, p'.deeds = p.deeds ++ new ∧ Custody id p p' new [] (p.lost mb e) := by
  cases p with
  | tcpClient c =>
    cases e with
    | tcpClient e =>
      obtain ⟨c', hc, rfl⟩ := Option.map_eq_some_iff.mp hs
      have hkeeps := ModbusTcpClient.keeps_step h.1 h.2.2.limit hc
      have hnone : e.message = none := by
        cases e with
        | receive message now => cases hself
        | _ => rfl
      rw [hnone] at hkeeps
      exact custody_master rfl rfl rfl rfl rfl hkeeps
    | _ => cases hs
  | rtuMaster m =>
    cases e with
    | rtuMaster e =>
      obtain ⟨m', hm, rfl⟩ := Option.map_eq_some_iff.mp hs
      have hkeeps := ModbusRtuMaster.keeps_step h.1 h.2.2.limit hm
      have hnone : e.message = none := by
        cases e with
        | receive message now => cases hself
        | _ => rfl
      rw [hnone] at hkeeps
      exact custody_master rfl rfl rfl rfl rfl hkeeps
    | _ => cases hs
  | tcpServer s =>
    cases e with
    | accept i ec =>
      obtain ⟨acceptor, -, rfl⟩ := Option.map_eq_some_iff.mp hs
      exact custody_silent rfl rfl rfl rfl fun info hinfo => by cases hinfo
    | _ => cases hs
  | connection c =>
    cases e with
    | connection e =>
      obtain ⟨c', hc, rfl⟩ := Option.map_eq_some_iff.mp hs
      cases ModbusTcpConnection.step_branch hc with
      | gone ht hec =>
        refine ⟨_, List.map_append, custody_slave rfl rfl fun info hinfo => ?_⟩
        exact Or.inr ⟨hinfo, fun _ => List.not_mem_nil⟩
      | @accepted i data ops now message ht hreq pastEnd =>
        refine ⟨_, List.map_append, custody_slave rfl rfl fun info hinfo => ?_⟩
        exact Or.inl ⟨_, message, List.mem_cons_self, Option.some.inj hinfo⟩
      | _ => exact custody_silent rfl rfl rfl rfl fun _ _ _ => List.not_mem_nil
    | _ => cases hs
  | rtuSlave s =>
    cases e with
    | rtuSlave e =>
      obtain ⟨s', hs', rfl⟩ := Option.map_eq_some_iff.mp hs
      cases ModbusRtuSlave.step_branch hs' with
      | @accepted i data ops now message ht hreq pastEnd =>
        refine ⟨_, List.map_append, custody_slave rfl rfl fun info hinfo => ?_⟩
        exact Or.inl ⟨_, message, List.mem_cons_self, Option.some.inj hinfo⟩
      | _ => exact custody_silent rfl rfl rfl rfl fun _ _ _ => List.not_mem_nil
    | _ => cases hs

/-- **What an actor does with a message loses no track of a request.** -/
theorem custody_receive (mb : Modbus β) (h : p.Sound mb id) (now : Nanoseconds)
    (message : ModbusMessage β) :
    ∃ new, (p.receive mb now message).deeds = p.deeds ++ new ∧
      Custody id p (p.receive mb now message) new [message] none := by
  -- a message that a slave refuses is not the answer that it waits for
  have hrefused : ∀ (slot : Option ModbusMessageInfo) (own : ActorId), own = id →
      (∀ lastInfo, slot = some lastInfo → ¬ (message.modbusMessageInfo.sourceId = own ∧
        message.modbusMessageInfo.transactionId = lastInfo.transactionId)) →
      ∀ info, slot = some info → info.sourceId = id →
        info ∉ [message].map (·.modbusMessageInfo) := by
    intro slot own hown hrefuses info hslot hsource hmem
    obtain rfl := List.mem_singleton.mp hmem
    exact hrefuses _ hslot ⟨hsource.trans hown.symm, rfl⟩
  cases p with
  | tcpClient c =>
    have hs : ModbusTcpClient.step mb c (.receive message now) =
      some (c.messageProcess mb message now) := rfl
    exact custody_master rfl rfl rfl rfl rfl (ModbusTcpClient.keeps_step h.1 h.2.2.limit hs)
  | rtuMaster m =>
    have hs : ModbusRtuMaster.step mb m (.receive message now) =
      some (m.messageProcess mb message now) := rfl
    exact custody_master rfl rfl rfl rfl rfl (ModbusRtuMaster.keeps_step h.1 h.2.2.limit hs)
  | tcpServer s => exact custody_silent rfl rfl rfl rfl fun info hinfo => by cases hinfo
  | connection c =>
    obtain ⟨hx, hid⟩ := h
    rcases ModbusTcpConnection.startSendTask_cases mb c
        ⟨message.modbusMessageInfo, some message.modbusBuffer⟩ with
      ⟨heq, hrefuses⟩ | ⟨lastInfo, -, -, -, hnull, -⟩ |
      ⟨lastInfo, buffer, -, hslot, -, hbuffer, heq⟩
    · rw [receive, heq]
      exact custody_silent rfl rfl rfl rfl (hrefused _ _ hid hrefuses)
    · cases hnull
    · rw [receive, heq]
      exact ⟨_, List.map_append, custody_slave rfl rfl fun info hinfo => by cases hinfo⟩
  | rtuSlave s =>
    obtain ⟨hx, hid⟩ := h
    rcases ModbusRtuSlave.startWriteTask_cases mb s
        ⟨message.modbusMessageInfo, some message.modbusBuffer⟩ with
      ⟨heq, hrefuses⟩ | ⟨lastInfo, -, -, -, hnull, -⟩ |
      ⟨lastInfo, buffer, -, hslot, -, hbuffer, heq⟩
    · rw [receive, heq]
      exact custody_silent rfl rfl rfl rfl (hrefused _ _ hid hrefuses)
    · cases hnull
    · rw [receive, heq]
      exact ⟨_, List.map_append, custody_slave rfl rfl fun info hinfo => by cases hinfo⟩

end Participant

/-! ### The gateway -/

namespace Network

/-- The requests that the actor under an id has taken in and not done with. -/
def held (s : Network β) (id : ActorId) : List ModbusMessageInfo :=
  (s.actors id).elim [] Participant.held

/-- The request for whose answer the actor under an id waits. -/
def waiting (s : Network β) (id : ActorId) : Option ModbusMessageInfo :=
  (s.actors id).bind Participant.waiting

/-- The request that an event of a master gives up, and the master. -/
def lost (mb : Modbus β) (s : Network β) : Event β → Option (ActorId × ModbusMessageInfo)
  | .actor id e _ => ((s.actors id).bind fun p => p.lost mb e).map (id, ·)
  | .handleAccept .. => none

/-- What has become of a request that was sent to the actor `k`, when the masters have given up
`lost`: the actor is no master; it holds the request; it has found that the request had expired;
or it has given it up. -/
def Traced (s₀ s : Network β) (lost : List (ActorId × ModbusMessageInfo)) (k : ActorId)
    (info : ModbusMessageInfo) : Prop :=
  (s₀.role k).isMaster = false ∨ info ∈ s.held k ∨
  (∃ message, (k, .master (.expire message)) ∈ s.journal ∧ message.modbusMessageInfo = info) ∨
  (k, info) ∈ lost

/-- The request that `id` has sent to `k`, or the answer to it, is among the deeds that are still
to be performed. -/
def InMail (sender : ActorId) (pending : List (Deed β)) (id k : ActorId)
    (message : ModbusMessage β) : Prop :=
  id = sender ∧ (k, message) ∈ pending.filterMap Deed.sent ∨
  k = sender ∧ ∃ reply, (id, reply) ∈ pending.filterMap Deed.sent ∧
    reply.modbusMessageInfo = message.modbusMessageInfo

/-- Every request that is waited for has been sent, and can be traced, or is in the mail. -/
structure Tracked (s₀ : Network β) (sender : ActorId) (pending : List (Deed β))
    (lost : List (ActorId × ModbusMessageInfo)) (s : Network β) : Prop where
  source : ∀ id info, s.waiting id = some info → info.sourceId = id
  request : ∀ id info, s.waiting id = some info → ∃ k message, (id, message) ∈ s.addressed k ∧
    message.modbusMessageInfo = info ∧
      (Traced s₀ s lost k info ∨ InMail sender pending id k message)

variable {mb : Modbus β} {s₀ s s' : Network β} {sender id : ActorId} {pending : List (Deed β)}
  {lost lost' : List (ActorId × ModbusMessageInfo)}

/-- A deed that does with a request has dropped it, or answers it. -/
theorem finished_cases {new : List (Deed β)} {info : ModbusMessageInfo}
    (h : info ∈ new.filterMap Deed.finished) :
    (∃ message, .master (.expire message) ∈ new ∧ message.modbusMessageInfo = info) ∨
    ∃ actorId reply, .master (.send actorId reply) ∈ new ∧ reply.modbusMessageInfo = info := by
  obtain ⟨d, hd, hfinished⟩ := List.mem_filterMap.mp h
  obtain ⟨e, heffect, he⟩ := Option.bind_eq_some_iff.mp hfinished
  cases d with
  | master e' =>
    obtain rfl := Option.some.inj heffect
    cases e' with
    | expire message => exact Or.inl ⟨message, hd, Option.some.inj he⟩
    | send actorId reply => exact Or.inr ⟨actorId, reply, hd, Option.some.inj he⟩
    | _ => cases he
  | _ => cases heffect

/-- Only a slave waits. -/
theorem slave_of_waiting {p : Participant β} {info : ModbusMessageInfo}
    (h : p.waiting = some info) : p.role.isMaster = false := by
  cases p with
  | connection c => rfl
  | rtuSlave s => rfl
  | _ => cases h

section Update

variable {p p' : Participant β} {new pending' : List (Deed β)} {sender' : ActorId}
  {received : List (ModbusMessage β)} {lostNow : Option ModbusMessageInfo}

/-- A request that an actor has held or has just received can still be traced, or the answer to
it is in the mail. -/
theorem custody_traced (s : Network β) (lost : List (ActorId × ModbusMessageInfo))
    (hc : Custody id p p' new received lostNow) (hrole : p.role = s₀.role id)
    (hdeeds : p'.deeds = p.deeds ++ new)
    (hfits : ∀ d ∈ new, d.Fits mb s₀.router (s₀.role id) id)
    (hnew : ∀ m ∈ new.filterMap Deed.sent, id = sender' ∧ m ∈ pending'.filterMap Deed.sent)
    {message : ModbusMessage β} {client : ActorId}
    (hsource : message.modbusMessageInfo.sourceId = client)
    (hheld : message.modbusMessageInfo ∈ p.held ∨ message ∈ received) :
    Traced s₀ (s.update id p p') (lost ++ (lostNow.map (id, ·)).toList) id
        message.modbusMessageInfo ∨
      InMail sender' pending' client id message := by
  cases hmaster : p.role.isMaster with
  | false => exact Or.inl (Or.inl (hrole ▸ hmaster))
  | true =>
    rcases hc.held message.modbusMessageInfo
        (hheld.imp_right fun hmem => ⟨hmaster, List.mem_map_of_mem hmem⟩) with
      hstays | hfinished | hlost
    · refine Or.inl (Or.inr (Or.inl ?_))
      rw [Network.held, Network.update, setActor_self]
      exact hstays
    · rcases finished_cases hfinished with
        ⟨dropped, hd, hinfo⟩ | ⟨actorId, reply, hd, hinfo⟩
      · refine Or.inl (Or.inr (Or.inr (Or.inl ⟨dropped, ?_, hinfo⟩)))
        rw [update_journal hdeeds]
        exact Journal.mem_enter.mpr (Or.inr ⟨rfl, hd⟩)
      · -- the answer goes to the source of the request
        obtain ⟨-, hactor, -⟩ := hfits _ hd
        obtain ⟨hsender, hpending⟩ :=
          hnew (actorId, reply) (List.mem_filterMap.mpr ⟨_, hd, rfl⟩)
        refine Or.inr (Or.inr ⟨hsender, reply, ?_, hinfo⟩)
        rw [← hsource, ← hinfo, ← hactor]
        exact hpending
    · refine Or.inl (Or.inr (Or.inr (Or.inr (List.mem_append_right _ ?_))))
      rw [hlost]
      exact List.mem_cons_self

/-- **An actor reacts**, and every request that is waited for can still be traced, or is in the
mail. -/
theorem Tracked.update (h : Tracked s₀ sender pending lost s) (sender' : ActorId)
    (pending' : List (Deed β)) (hp : s.actors id = some p)
    (hc : Custody id p p' new received lostNow) (hrole : p.role = s₀.role id)
    (hrole' : p'.role = p.role) (hdeeds : p'.deeds = p.deeds ++ new)
    (hfits : ∀ d ∈ new, d.Fits mb s₀.router (s₀.role id) id)
    (hnew : ∀ m ∈ new.filterMap Deed.sent, id = sender' ∧ m ∈ pending'.filterMap Deed.sent)
    (hmail : ∀ client k message, InMail sender pending client k message →
      InMail sender' pending' client k message ∨ k = id ∧ message ∈ received ∨
      client = id ∧ message.modbusMessageInfo ∈ received.map (·.modbusMessageInfo)) :
    Tracked s₀ sender' pending' (lost ++ (lostNow.map (id, ·)).toList) (s.update id p p') := by
  have hself : (s.update id p p').actors id = some p' := setActor_self s id p'
  have hother : ∀ {k}, k ≠ id → (s.update id p p').actors k = s.actors k :=
    fun hk => setActor_of_ne hk s p'
  have hjournal := update_journal hdeeds s id
  have haddressed : ∀ k post, post ∈ s.addressed k → post ∈ (s.update id p p').addressed k := by
    intro k post hpost
    rw [addressed, hjournal, Journal.addressed_enter]
    exact List.mem_append_left _ hpost
  -- a slave that still waits has waited before, or has just sent its request
  have hcases : ∀ client info, (s.update id p p').waiting client = some info →
      (s.waiting client = some info ∧ (client = id → info.sourceId = id →
        info ∉ received.map (·.modbusMessageInfo))) ∨
      client = id ∧ p'.waiting = some info ∧ ∃ actorId message,
        (actorId, message) ∈ new.filterMap Deed.sent ∧ message.modbusMessageInfo = info := by
    intro client info hwaiting
    by_cases heq : client = id
    · subst heq
      rw [waiting, hself, Option.bind_some] at hwaiting
      rcases hc.waiting info hwaiting with hsent | ⟨hbefore, hrefused⟩
      · exact Or.inr ⟨rfl, hwaiting, hsent⟩
      · refine Or.inl ⟨?_, fun _ => hrefused⟩
        rw [waiting, hp, Option.bind_some]
        exact hbefore
    · rw [waiting, hother heq] at hwaiting
      exact Or.inl ⟨hwaiting, fun hid => absurd hid heq⟩
  have hposted : ∀ actorId message, p'.waiting = some message.modbusMessageInfo →
      (actorId, message) ∈ new.filterMap Deed.sent →
      message.modbusMessageInfo.sourceId = id ∧
        (id, message) ∈ (s.update id p p').addressed actorId := by
    intro actorId message hwaiting hmem
    obtain ⟨d, hd, hsent⟩ := List.mem_filterMap.mp hmem
    constructor
    · have hslave := slave_of_waiting hwaiting
      rw [hrole', hrole] at hslave
      exact ((hfits d hd).routed hslave hsent).source
    · rw [addressed, hjournal, Journal.addressed_enter]
      exact List.mem_append_right _ (Journal.mem_mail.mpr ⟨rfl, d, hd, hsent⟩)
  constructor
  · intro client info hwaiting
    rcases hcases client info hwaiting with ⟨hbefore, -⟩ | ⟨rfl, hp', actorId, message, hmem, rfl⟩
    · exact h.source client info hbefore
    · exact (hposted actorId message hp' hmem).1
  · intro client info hwaiting
    rcases hcases client info hwaiting with
      ⟨hbefore, hrefused⟩ | ⟨rfl, hp', actorId, message, hmem, rfl⟩
    · have hsource := h.source client info hbefore
      obtain ⟨k, message, hpost, rfl, htraced⟩ := h.request client info hbefore
      refine ⟨k, message, haddressed k _ hpost, rfl, ?_⟩
      have hown := custody_traced s lost hc hrole hdeeds hfits hnew hsource
      rcases htraced with (hslave | hheld | ⟨dropped, hdropped, hinfo⟩ | hlost) | hinmail
      · exact Or.inl (Or.inl hslave)
      · by_cases heq : k = id
        · subst heq
          rw [Network.held, hp, Option.elim_some] at hheld
          exact hown (Or.inl hheld)
        · refine Or.inl (Or.inr (Or.inl ?_))
          rw [Network.held, hother heq]
          exact hheld
      · refine Or.inl (Or.inr (Or.inr (Or.inl ⟨dropped, ?_, hinfo⟩)))
        rw [hjournal]
        exact Journal.mem_enter.mpr (Or.inl hdropped)
      · exact Or.inl (Or.inr (Or.inr (Or.inr (List.mem_append_left _ hlost))))
      · rcases hmail client k message hinmail with hstays | ⟨rfl, hreceived⟩ | ⟨rfl, hreply⟩
        · exact Or.inr hstays
        · exact hown (Or.inr hreceived)
        · exact absurd hreply (hrefused rfl hsource)
    · obtain ⟨-, hpost⟩ := hposted actorId message hp' hmem
      obtain ⟨hsender, hpending⟩ := hnew _ hmem
      exact ⟨actorId, message, hpost, rfl, Or.inr (Or.inl ⟨hsender, hpending⟩)⟩

end Update

/-- What is registered under an id may change, if it waits for nothing, and nothing is held
there. -/
theorem Tracked.replace (h : Tracked s₀ sender pending lost s) (id : ActorId)
    (o : Option (Participant β)) (hwaiting : o.bind Participant.waiting = none)
    (hheld : s.held id = []) :
    Tracked s₀ sender pending lost { s with actors := Function.update s.actors id o } := by
  have hbefore : ∀ client info,
      ({ s with actors := Function.update s.actors id o } : Network β).waiting client = some info →
      s.waiting client = some info := by
    intro client info hinfo
    by_cases heq : client = id
    · subst heq
      rw [waiting] at hinfo
      simp only [Function.update_self, hwaiting] at hinfo
      cases hinfo
    · rw [waiting] at hinfo
      simp only [Function.update_of_ne heq] at hinfo
      exact hinfo
  refine ⟨fun client info hinfo => h.source client info (hbefore client info hinfo),
    fun client info hinfo => ?_⟩
  obtain ⟨k, message, hpost, rfl, htraced⟩ := h.request client info (hbefore client info hinfo)
  refine ⟨k, message, hpost, rfl, ?_⟩
  rcases htraced with (hslave | hmem | hgone) | hinmail
  · exact Or.inl (Or.inl hslave)
  · have hne : k ≠ id := by
      rintro rfl
      rw [hheld] at hmem
      cases hmem
    refine Or.inl (Or.inr (Or.inl ?_))
    rw [Network.held]
    simp only [Function.update_of_ne hne]
    exact hmem
  · exact Or.inl (Or.inr (Or.inr hgone))
  · exact Or.inr hinmail

/-- A deed is performed that sends nothing, or whose message reaches nobody. -/
theorem Tracked.skip {d : Deed β} (h : Tracked s₀ sender (d :: pending) lost s)
    (hregistered : ∀ k, (s₀.role k).isMaster = true → (s.actors k).isSome = true)
    (hnobody : ∀ actorId message, d.sent = some (actorId, message) → s.actors actorId = none) :
    Tracked s₀ sender pending lost s := by
  refine ⟨h.source, fun client info hinfo => ?_⟩
  obtain ⟨k, message, hpost, rfl, htraced⟩ := h.request client info hinfo
  refine ⟨k, message, hpost, rfl, ?_⟩
  have hsplit : ∀ {m}, m ∈ (d :: pending).filterMap Deed.sent →
      d.sent = some m ∨ m ∈ pending.filterMap Deed.sent := by
    intro m hm
    obtain ⟨d', hd, hsent⟩ := List.mem_filterMap.mp hm
    rcases List.mem_cons.mp hd with rfl | hd
    · exact Or.inl hsent
    · exact Or.inr (List.mem_filterMap.mpr ⟨d', hd, hsent⟩)
  rcases htraced with htraced | ⟨rfl, hrequest⟩ | ⟨rfl, reply, hreply, hreplies⟩
  · exact Or.inl htraced
  · rcases hsplit hrequest with hsent | hmem
    · -- a master is always registered
      refine Or.inl (Or.inl (Bool.eq_false_iff.mpr fun hmaster => ?_))
      have hsome := hregistered k hmaster
      rw [hnobody k message hsent] at hsome
      cases hsome
    · exact Or.inr (Or.inl ⟨rfl, hmem⟩)
  · rcases hsplit hreply with hsent | hmem
    · -- a slave that waits is registered
      rw [waiting, hnobody client reply hsent] at hinfo
      cases hinfo
    · exact Or.inr (Or.inr ⟨rfl, reply, hmem, hreplies⟩)

theorem Inv.isSome_of_master (h : Inv mb s₀ sender pending s) (k : ActorId)
    (hmaster : (s₀.role k).isMaster = true) : (s.actors k).isSome = true := by
  obtain ⟨p, hp⟩ := h.exists_master hmaster
  rw [hp]
  rfl

/-- Nothing is held by an actor that is no master. -/
theorem held_eq_nil {p : Participant β} (hp : s.actors id = some p)
    (hslave : p.role.isMaster = false) : s.held id = [] := by
  rw [held, hp, Option.elim_some]
  cases p with
  | tcpClient c => cases hslave
  | rtuMaster m => cases hslave
  | _ => rfl

/-- **Every deed that is performed leaves the requests traceable.** -/
theorem tracked_perform {d : Deed β} (hinv : Inv mb s₀ sender (d :: pending) s)
    (h : Tracked s₀ sender (d :: pending) lost s) (now : Nanoseconds) :
    Tracked s₀ sender pending lost (s.perform mb now d) := by
  unfold perform
  split
  · next actorId message hsent =>
    unfold send
    split
    · next hnone =>
      refine h.skip hinv.isSome_of_master fun actorId' message' hsent' => ?_
      rw [hsent] at hsent'
      obtain ⟨rfl, rfl⟩ := Prod.mk.inj (Option.some.inj hsent')
      exact hnone
    next p hp =>
    obtain ⟨new, hreaction, hsilent⟩ := Participant.reaction_receive s.router
      (hinv.sound actorId p hp) now message
    obtain ⟨new', hdeeds, hcustody⟩ := Participant.custody_receive mb
      (hinv.sound actorId p hp) now message
    obtain rfl := List.append_cancel_left (hreaction.deeds.symm.trans hdeeds)
    have hrole := hinv.roles actorId p hp
    have hfits : ∀ e ∈ new, e.Fits mb s₀.router (s₀.role actorId) actorId := by
      rw [← hrole, ← hinv.router]
      exact hreaction.fits
    have hupdate := h.update sender pending hp hcustody hrole
      hreaction.role hdeeds hfits (fun m hm => ?_) (fun client k request hinmail => ?_)
    · rw [Option.map_none, Option.toList_none, List.append_nil] at hupdate
      exact hupdate
    · obtain ⟨e, he, hsome⟩ := List.mem_filterMap.mp hm
      rw [(hsilent e he).1] at hsome
      cases hsome
    · -- what is in the mail is still there, or has just arrived
      rcases hinmail with ⟨rfl, hrequest⟩ | ⟨rfl, reply, hreply, hreplies⟩
      · rw [List.filterMap_cons_some hsent, List.mem_cons] at hrequest
        rcases hrequest with heq | hmem
        · obtain ⟨rfl, rfl⟩ := Prod.mk.inj heq
          exact Or.inr (Or.inl ⟨rfl, List.mem_cons_self⟩)
        · exact Or.inl (Or.inl ⟨rfl, hmem⟩)
      · rw [List.filterMap_cons_some hsent, List.mem_cons] at hreply
        rcases hreply with heq | hmem
        · obtain ⟨rfl, rfl⟩ := Prod.mk.inj heq
          refine Or.inr (Or.inr ⟨rfl, ?_⟩)
          rw [← hreplies]
          exact List.mem_cons_self
        · exact Or.inl (Or.inr ⟨rfl, reply, hmem, hreplies⟩)
  · next actorId message hsent hnotice =>
    have hskip : Tracked s₀ sender pending lost s := h.skip hinv.isSome_of_master
      fun _ _ hsome => by
        rw [hsent] at hsome
        cases hsome
    unfold disconnect
    split
    · next server hserver =>
      have hremoved := hskip.replace message.clientId none rfl
      have hclient : s.held message.clientId = [] := by
        cases hp : s.actors message.clientId with
        | none => rw [held, hp, Option.elim_none]
        | some p =>
          refine held_eq_nil hp ?_
          rw [hinv.roles _ p hp, hinv.client_of_notice hnotice]
          rfl
      refine (hremoved hclient).replace actorId _ rfl ?_
      by_cases heq : actorId = message.clientId
      · rw [heq, held]
        simp only [Function.update_self, Option.elim_none]
      · refine held_eq_nil (p := .tcpServer server) ?_ rfl
        simp only [Function.update_of_ne heq]
        exact hserver
    · exact hskip
  · next hsent hnotice =>
    refine h.skip hinv.isSome_of_master fun _ _ hsome => ?_
    rw [hsent] at hsome
    cases hsome

theorem tracked_foldl_perform (now : Nanoseconds) : ∀ {s : Network β},
    Inv mb s₀ sender pending s → Tracked s₀ sender pending lost s →
      Tracked s₀ sender [] lost (pending.foldl (perform mb now) s) := by
  induction pending with
  | nil => exact fun _ h => h
  | cons d pending ih =>
    exact fun hinv h => ih (inv_perform hinv now) (tracked_perform hinv h now)

/-- With an empty mail it does not matter who sends. -/
theorem Tracked.release (h : Tracked s₀ sender [] lost s) (sender' : ActorId) :
    Tracked s₀ sender' [] lost s := by
  refine ⟨h.source, fun client info hinfo => ?_⟩
  obtain ⟨k, message, hpost, hmessage, htraced⟩ := h.request client info hinfo
  refine ⟨k, message, hpost, hmessage, Or.inl ?_⟩
  rcases htraced with htraced | ⟨-, hmem⟩ | ⟨-, reply, hmem, -⟩
  · exact htraced
  · cases hmem
  · cases hmem

/-- **Every step leaves the requests traceable**, with what it gives up. -/
theorem tracked_step {e : Event β} (hinv : Inv mb s₀ sender [] s)
    (h : Tracked s₀ sender [] lost s) (hs : step mb s e = some s') :
    Tracked s₀ sender [] (lost ++ (s.lost mb e).toList) s' := by
  cases step_branch hs with
  | @actor id e p p' hp hself hstep now =>
    obtain ⟨new, hreaction⟩ := Participant.reaction_step (hinv.sound id p hp) hself hstep
    obtain ⟨new', hdeeds, hcustody⟩ :=
      Participant.custody_step (hinv.sound id p hp) hself hstep
    obtain rfl := List.append_cancel_left (hreaction.deeds.symm.trans hdeeds)
    have hinv' := hinv.react hp hreaction
    have hupdate := h.update id new hp hcustody
      (hinv.roles id p hp) hreaction.role hdeeds hinv'.pending (fun m hm => ⟨rfl, hm⟩)
      fun client k request hinmail => by
        rcases hinmail with ⟨-, hmem⟩ | ⟨-, reply, hmem, -⟩ <;> cases hmem
    have hlost : s.lost mb (.actor id e now) = (p.lost mb e).map (id, ·) := by
      rw [Network.lost, hp, Option.bind_some]
    rw [hlost, hreaction.deeds, List.drop_left]
    exact (tracked_foldl_perform now hinv' hupdate).release sender
  | @acceptAborted serverId i server acceptor hserver htake =>
    rw [Network.lost, Option.toList_none, List.append_nil]
    exact h.replace serverId _ rfl (held_eq_nil hserver rfl)
  | @acceptFailed serverId i server ec acceptor hserver htake hec =>
    rw [Network.lost, Option.toList_none, List.append_nil]
    exact h.replace serverId _ rfl (held_eq_nil hserver rfl)
  | @accepted serverId clientId i server acceptor hserver htake hfree =>
    rw [Network.lost, Option.toList_none, List.append_nil]
    have hnone : s.actors clientId = none :=
      Option.isNone_iff_eq_none.mp (Bool.and_eq_true_iff.mp hfree).1
    have hclient : s.held clientId = [] := by rw [held, hnone, Option.elim_none]
    refine (h.replace clientId (some (.connection
      (ModbusTcpConnection.new serverId clientId).startReceiveTask)) rfl hclient).replace
        serverId _ rfl ?_
    have hne : serverId ≠ clientId := by
      rintro rfl
      rw [hserver] at hnone
      cases hnone
    refine held_eq_nil (p := .tcpServer server) ?_ rfl
    simp only [Function.update_of_ne hne]
    exact hserver

theorem tracked_initial (h : s₀.Initial) (sender : ActorId) : Tracked s₀ sender [] [] s₀ := by
  have hnone : ∀ client, s₀.waiting client = none := by
    intro client
    cases hp : s₀.actors client with
    | none => rw [waiting, hp, Option.bind_none]
    | some p =>
      rw [waiting, hp, Option.bind_some]
      have hfresh := h.fresh client p hp
      cases p with
      | connection c => exact hfresh.elim
      | rtuSlave s =>
        obtain ⟨frameType, rfl⟩ := hfresh
        rfl
      | _ => rfl
  refine ⟨fun client info hinfo => ?_, fun client info hinfo => ?_⟩ <;>
  · rw [hnone] at hinfo
    cases hinfo

theorem tracked_exec {es : List (Event β)} (h : s₀.Initial)
    (hrun : exec (step mb) s₀ es = some s) (sender : ActorId) :
    Tracked s₀ sender [] (record (step mb) (Network.lost mb) s₀ es) s := by
  have hrecord := invariant_record (g := Network.lost mb) (I := fun s lost =>
    Inv mb s₀ sender [] s ∧ Tracked s₀ sender [] lost s)
    (fun s lost e s' h hs => ⟨inv_step h.1 hs, tracked_step h.1 h.2 hs⟩)
    es _ _ [] ⟨inv_initial h mb sender, tracked_initial h sender⟩ hrun
  rw [List.nil_append] at hrecord
  exact hrecord.2

/-- With an empty mail every request that is waited for can be traced. -/
theorem Tracked.traced (h : Tracked s₀ sender [] lost s) (hinv : Inv mb s₀ sender [] s)
    {info : ModbusMessageInfo} (hwaiting : s.waiting id = some info) :
    ∃ k message, Routed mb s₀.router (s₀.role id) id k message ∧
      (id, message) ∈ s.addressed k ∧ message.modbusMessageInfo = info ∧
      Traced s₀ s lost k info := by
  obtain ⟨k, message, hpost, hmessage, htraced⟩ := h.request id info hwaiting
  obtain ⟨p, hp, hwaits⟩ := Option.bind_eq_some_iff.mp hwaiting
  have hslave : (s₀.role id).isMaster = false := by
    rw [← hinv.roles id p hp]
    exact slave_of_waiting hwaits
  obtain ⟨d, hd, hsent⟩ := Journal.mem_addressed.mp hpost
  refine ⟨k, message, (hinv.fits id d hd).routed hslave hsent, hpost, hmessage, ?_⟩
  rcases htraced with htraced | ⟨-, hmem⟩ | ⟨-, reply, hmem, -⟩
  · exact htraced
  · cases hmem
  · cases hmem

/-- **Every request that is waited for can be traced.**  In every run of the gateway, from the
start and whatever happens: a slave that waits for an answer has read and accepted the request and
has sent it to the actor that the router names; and if that actor is a master, then the master
holds the request, has dropped it because it had expired, or has given it up. -/
theorem whereabouts_exec {β : Type} (mb : Modbus β) {s₀ s : Network β} (h : s₀.Initial)
    {es : List (Event β)} (hrun : exec (step mb) s₀ es = some s) {id : ActorId}
    {info : ModbusMessageInfo} (hwaiting : s.waiting id = some info) :
    ∃ k message, Posted mb s₀ es id k message ∧
      (id, message) ∈ s.addressed k ∧ message.modbusMessageInfo = info ∧
      Traced s₀ s (record (step mb) (Network.lost mb) s₀ es) k info := by
  obtain ⟨k, message, hrouted, hpost, hmessage, htraced⟩ :=
    (tracked_exec h hrun id).traced (inv_exec h hrun id) hwaiting
  exact ⟨k, message, posted_of_sent h hrun hrouted (mem_sent hpost), hpost, hmessage, htraced⟩

/-- While the device has not answered, the master holds the request of the client. -/
theorem whereabouts_serial :
    ∃ s info, exec (step Frame.library) serialDevice (serialRun.take 6) = some s ∧
      s.waiting 5 = some info ∧ s.held 4 = [info] ∧
      ∃ k message, Posted Frame.library serialDevice (serialRun.take 6) 5 k message ∧
        (5, message) ∈ s.addressed k ∧ message.modbusMessageInfo = info ∧
        Traced serialDevice s (record (step Frame.library) (Network.lost Frame.library)
          serialDevice (serialRun.take 6)) k info := by
  obtain ⟨s, hrun, hwaiting, hheld⟩ : ∃ s,
      exec (step Frame.library) serialDevice (serialRun.take 6) = some s ∧
        s.waiting 5 = some (.new 0 5 9) ∧ s.held 4 = [.new 0 5 9] :=
    ⟨_, rfl, by decide +kernel, by decide +kernel⟩
  exact ⟨s, _, hrun, hwaiting, hheld,
    whereabouts_exec Frame.library initial_serialDevice hrun hwaiting⟩

end Network

end ModbusGateway
