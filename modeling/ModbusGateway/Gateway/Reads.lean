import ModbusGateway.Gateway.NetworkInvariant
import ModbusGateway.Transport.SlaveFraming

/-!
# What the actors hand on they have read

Nothing that the gateway hands on is made up.  In every run a slave sends on those blocks that it
has read and accepts, each once and in their order; and a master answers a request with a block
that it has read for this request and accepts, if at all.

A block is what a receive or a read has ended with successfully, in the step in which its handler
runs.

## Main definitions

* `Participant.block`, `Participant.input` — the block that a master or a slave handles.
* `Network.blocks`, `Network.inputs` — the blocks of a run.
* `Network.Posted` — a request that a slave has read and sent on.

## Main results

* `Network.inputs_exec` — **the requests that a slave sends on are the blocks it accepts.**
* `Network.blocks_exec` — **every answer of a master is a block that was read for the request.**
-/

namespace ModbusGateway

open Proactor Execution Transaction

variable {β : Type}

/-! ### The actors -/

namespace Participant

/-- The block that a master has read and handles in an event, with the number of the request that
it was read for. -/
def block : Participant β → Event β → Option (ℕ × List UInt8)
  | .tcpClient c, .tcpClient e => c.block e
  | .rtuMaster m, .rtuMaster e => m.block e
  | _, _ => none

/-- The block that a slave has read and handles in an event. -/
def input : Participant β → Event β → Option (List UInt8)
  | .connection c, .connection e => (c.given (.io e)).bind SlaveInput.data
  | .rtuSlave s, .rtuSlave e => (s.given (.io e)).bind SlaveInput.data
  | _, _ => none

/-- The buffers of the messages that an actor has handed to the exchange. -/
def handed (p : Participant β) : List β := (p.deeds.filterMap Deed.sent).map (·.2.modbusBuffer)

/-- The answers of a master, each with the number of its request. -/
def responses (p : Participant β) : List (ℕ × Response β) :=
  ModbusGateway.responses (p.deeds.filterMap Deed.effect)

variable {mb : Modbus β} {router : Router} {id : ActorId} {p p' : Participant β}

theorem handed_connection (c : ModbusTcpConnection β) : (connection c).handed = c.requests := by
  rw [handed, deeds, ModbusTcpConnection.requests, List.filterMap_map, List.map_filterMap]
  refine List.filterMap_congr fun e _ => ?_
  cases e <;> rfl

theorem handed_rtuSlave (s : ModbusRtuSlave β) : (rtuSlave s).handed = s.requests := by
  rw [handed, deeds, ModbusRtuSlave.requests, List.filterMap_map, List.map_filterMap]
  refine List.filterMap_congr fun e _ => ?_
  cases e <;> rfl

/-- **A slave sends on the block that it handles**, if it accepts it. -/
theorem handed_step {e : Event β} (h : p.Sound mb id) (hslave : p.role.isMaster = false)
    (hs : p.step mb router e = some p') :
    p'.handed = p.handed ++ (p.input e).toList.filterMap (p.role.accept mb) := by
  cases p with
  | tcpClient c => cases hslave
  | rtuMaster m => cases hslave
  | tcpServer s =>
    cases e with
    | accept i ec =>
      obtain ⟨acceptor, -, rfl⟩ := Option.map_eq_some_iff.mp hs
      rfl
    | _ => cases hs
  | connection c =>
    cases e with
    | connection e =>
      obtain ⟨c', hc, rfl⟩ := Option.map_eq_some_iff.mp hs
      rw [handed_connection, handed_connection]
      exact ModbusTcpConnection.requests_fire (e := .io e) h.1 hc
    | _ => cases hs
  | rtuSlave s =>
    cases e with
    | rtuSlave e =>
      obtain ⟨s', hs', rfl⟩ := Option.map_eq_some_iff.mp hs
      rw [handed_rtuSlave, handed_rtuSlave]
      exact ModbusRtuSlave.requests_fire (e := .io e) h.1 hs'
    | _ => cases hs

theorem filterMap_effect (effects : List (MasterEffect β)) :
    (effects.map Deed.master).filterMap Deed.effect = effects := by
  rw [List.filterMap_map]
  exact List.filterMap_some

theorem responses_tcpClient (c : ModbusTcpClient β) :
    (tcpClient c).responses = ModbusGateway.responses c.effects :=
  congrArg ModbusGateway.responses (filterMap_effect c.effects)

theorem responses_rtuMaster (m : ModbusRtuMaster β) :
    (rtuMaster m).responses = ModbusGateway.responses m.effects :=
  congrArg ModbusGateway.responses (filterMap_effect m.effects)

/-- **A master answers with the block that it handles**, if it accepts it. -/
theorem responses_step {e : Event β} (h : p.Sound mb id) (hmaster : p.role.isMaster = true)
    (hs : p.step mb router e = some p') :
    ∃ answered : Option (ℕ × Response β), p'.responses = p.responses ++ answered.toList ∧
      ∀ a, answered = some a → ∃ r, p.block e = some r ∧ a.1 = r.1 ∧
        p.role.accept mb r.2 = some a.2.2.modbusBuffer := by
  cases p with
  | tcpClient c =>
    cases e with
    | tcpClient e =>
      obtain ⟨c', hc, rfl⟩ := Option.map_eq_some_iff.mp hs
      obtain ⟨hnumber, hresponses⟩ := ModbusTcpClient.responses_step h.1 hc
      rw [← responses_tcpClient c', ← responses_tcpClient c] at hresponses
      refine ⟨_, hresponses, fun a ha => ?_⟩
      obtain ⟨r, hr, hreply⟩ := Option.bind_eq_some_iff.mp ha
      obtain ⟨response, hresponse, rfl⟩ := Option.map_eq_some_iff.mp hreply
      exact ⟨r, hr, (hnumber r hr).symm, ModbusTcpClient.accept_of_reply hresponse⟩
    | _ => cases hs
  | rtuMaster m =>
    cases e with
    | rtuMaster e =>
      obtain ⟨m', hm, rfl⟩ := Option.map_eq_some_iff.mp hs
      obtain ⟨hnumber, hresponses⟩ := ModbusRtuMaster.responses_step h.1 hm
      rw [← responses_rtuMaster m', ← responses_rtuMaster m] at hresponses
      refine ⟨_, hresponses, fun a ha => ?_⟩
      obtain ⟨r, hr, hreply⟩ := Option.bind_eq_some_iff.mp ha
      obtain ⟨response, hresponse, rfl⟩ := Option.map_eq_some_iff.mp hreply
      obtain ⟨current, buffer, -, haccept, rfl⟩ := ModbusRtuMaster.reply_eq_some_iff.mp hresponse
      exact ⟨r, hr, (hnumber r hr).symm, haccept⟩
    | _ => cases hs
  | _ => cases hmaster

end Participant

/-! ### The gateway -/

/-- Deeds by which nothing is sent answer nothing. -/
theorem responses_append_of_unsent {effects : List (MasterEffect β)} {new : List (Deed β)}
    (h : ∀ d ∈ new, d.sent = none) :
    responses (effects ++ new.filterMap Deed.effect) = responses effects := by
  have hnone : ∀ n, answers n (acts (new.filterMap Deed.effect)) = [] := by
    intro n
    refine List.map_eq_nil_iff.mp ((map_snd_answers _ n).trans ?_)
    refine List.filterMap_eq_nil_iff.mpr fun act hact => ?_
    obtain ⟨e, he, hactOf⟩ := List.mem_filterMap.mp hact
    obtain ⟨d, hd, heffect⟩ := List.mem_filterMap.mp he
    have hsent := h d hd
    cases d with
    | master e' =>
      obtain rfl := Option.some.inj heffect
      cases e' <;> cases hactOf <;> [rfl; cases hsent]
    | _ => cases heffect
  rw [responses, acts_append, answers_append, hnone, List.append_nil]
  rfl

namespace Network

/-- What an actor has handed to the exchange, oldest first, each message with its recipient. -/
def sent (s : Network β) (id : ActorId) : List (ActorId × ModbusMessage β) :=
  (s.journal.of id).filterMap Deed.sent

/-- The answers of a master, oldest first, each with the number of its request. -/
def responses (s : Network β) (id : ActorId) : List (ℕ × Response β) :=
  ModbusGateway.responses ((s.journal.of id).filterMap Deed.effect)

/-- What an actor's own event yields. -/
def own {α : Type} (f : Participant β → Participant.Event β → Option α) (id : ActorId)
    (s : Network β) : Event β → Option α
  | .actor k e _ => if k = id then (s.actors k).bind fun p => f p e else none
  | .handleAccept .. => none

/-- The blocks that a master has read and handled in a run, oldest first, each with the number of
the request that it was read for. -/
def blocks (mb : Modbus β) (s₀ : Network β) (es : List (Event β)) (id : ActorId) :
    List (ℕ × List UInt8) :=
  record (step mb) (own Participant.block id) s₀ es

/-- The blocks that the slaves under an id have read and handled in a run, oldest first. -/
def inputs (mb : Modbus β) (s₀ : Network β) (es : List (Event β)) (id : ActorId) :
    List (List UInt8) :=
  record (step mb) (own Participant.input id) s₀ es

/-- A request that a slave has sent on: one of the blocks that it has read, which it accepts. -/
structure Posted (mb : Modbus β) (s₀ : Network β) (es : List (Event β)) (id actorId : ActorId)
    (message : ModbusMessage β) : Prop extends
    Routed mb s₀.router (s₀.role id) id actorId message where
  read : ∃ data ∈ s₀.inputs mb es id, (s₀.role id).accept mb data = some message.modbusBuffer

variable {mb : Modbus β} {s₀ s s' : Network β} {sender id : ActorId} {pending : List (Deed β)}
  {es : List (Event β)}

/-! ### Deeds that are performed -/

/-- Nothing is handed to the exchange while a deed is performed. -/
theorem journal_perform {d : Deed β} (h : Inv mb s₀ sender (d :: pending) s) (now : Nanoseconds) :
    ∃ k new, (s.perform mb now d).journal = s.journal.enter k new ∧ ∀ d ∈ new, d.sent = none := by
  have hnothing : ∃ k new, s.journal = s.journal.enter k new ∧ ∀ d ∈ new, d.sent = none :=
    ⟨sender, [], (Journal.enter_nil _ _).symm, List.forall_mem_nil _⟩
  unfold perform
  split
  · next actorId message hsent =>
    unfold send
    split
    · exact hnothing
    next p hp =>
    obtain ⟨new, hreaction, hsilent⟩ := Participant.reaction_receive s.router
      (h.sound actorId p hp) now message
    exact ⟨actorId, new, update_journal hreaction.deeds s actorId, fun d hd => (hsilent d hd).1⟩
  · next actorId message hsent hnotice =>
    unfold disconnect
    split
    · exact hnothing
    · exact hnothing
  · exact hnothing

/-- What the actors have handed to the exchange, and the answers among it, stay as they are while
deeds are performed. -/
theorem sent_foldl_perform (now : Nanoseconds) (id : ActorId) : ∀ {s : Network β},
    Inv mb s₀ sender pending s → (pending.foldl (perform mb now) s).sent id = s.sent id ∧
      (pending.foldl (perform mb now) s).responses id = s.responses id := by
  induction pending with
  | nil => exact fun _ => ⟨rfl, rfl⟩
  | cons d pending ih =>
    intro s h
    obtain ⟨hsent, hresponses⟩ := ih (inv_perform h now)
    obtain ⟨k, new, hjournal, hunsent⟩ := journal_perform h now
    rw [List.foldl_cons, hsent, hresponses, sent, responses, hjournal]
    by_cases hk : k = id
    · subst hk
      have hnone : new.filterMap Deed.sent = [] := List.filterMap_eq_nil_iff.mpr hunsent
      rw [Journal.of_enter_self, List.filterMap_append, List.filterMap_append, hnone,
        List.append_nil, responses_append_of_unsent hunsent]
      exact ⟨rfl, rfl⟩
    · rw [Journal.of_enter_of_ne hk]
      exact ⟨rfl, rfl⟩

/-! ### The runs -/

/-- What an actor has done in a step is added to its own deeds, and to no one else's. -/
theorem of_update {p p' : Participant β} {new : List (Deed β)} (hdeeds : p'.deeds = p.deeds ++ new)
    (s : Network β) (k id : ActorId) :
    (s.update k p p').journal.of id = s.journal.of id ++ if k = id then new else [] := by
  rw [update_journal hdeeds]
  by_cases hk : k = id
  · subst hk
    rw [Journal.of_enter_self, if_pos rfl]
  · rw [Journal.of_enter_of_ne hk, if_neg hk, List.append_nil]

/-- **A slave sends on the block that is handled in a step**, if it accepts it. -/
theorem inputs_step {e : Event β} (h : Inv mb s₀ sender [] s)
    (hslave : (s₀.role id).isMaster = false) (hs : step mb s e = some s') :
    (s'.sent id).map (·.2.modbusBuffer) = (s.sent id).map (·.2.modbusBuffer) ++
      (s.own Participant.input id e).toList.filterMap ((s₀.role id).accept mb) := by
  cases step_branch hs with
  | @actor k e p p' hp hself hstep now =>
    obtain ⟨new, hreaction⟩ := Participant.reaction_step (h.sound k p hp) hself hstep
    rw [hreaction.deeds, List.drop_left,
      (sent_foldl_perform now id (h.react hp hreaction)).1, sent, of_update hreaction.deeds,
      List.filterMap_append, List.map_append, sent]
    refine congrArg (_ ++ ·) ?_
    by_cases hk : k = id
    · subst hk
      rw [← h.roles k p hp] at hslave ⊢
      have hhanded := Participant.handed_step (h.sound k p hp) hslave hstep
      rw [Participant.handed, hreaction.deeds, List.filterMap_append, List.map_append] at hhanded
      rw [own, if_pos rfl, if_pos rfl, hp, Option.bind_some]
      exact List.append_cancel_left hhanded
    · rw [own, if_neg hk, if_neg hk]
      rfl
  | _ => exact (List.append_nil _).symm

/-- **A master answers with the block that is handled in a step**, if it accepts it. -/
theorem blocks_step {e : Event β} (h : Inv mb s₀ sender [] s)
    (hmaster : (s₀.role id).isMaster = true) (hs : step mb s e = some s') :
    ∃ answered : Option (ℕ × Response β), s'.responses id = s.responses id ++ answered.toList ∧
      ∀ a, answered = some a → ∃ r, s.own Participant.block id e = some r ∧ a.1 = r.1 ∧
        (s₀.role id).accept mb r.2 = some a.2.2.modbusBuffer := by
  have hquiet : s'.journal = s.journal → ∃ answered : Option (ℕ × Response β),
      s'.responses id = s.responses id ++ answered.toList ∧
      ∀ a, answered = some a → ∃ r, s.own Participant.block id e = some r ∧ a.1 = r.1 ∧
        (s₀.role id).accept mb r.2 = some a.2.2.modbusBuffer := by
    intro hjournal
    refine ⟨none, ?_, fun a ha => by cases ha⟩
    rw [responses, hjournal, Option.toList_none, List.append_nil]
    rfl
  cases step_branch hs with
  | @actor k e p p' hp hself hstep now =>
    obtain ⟨new, hreaction⟩ := Participant.reaction_step (h.sound k p hp) hself hstep
    rw [hreaction.deeds, List.drop_left]
    rw [(sent_foldl_perform now id (h.react hp hreaction)).2, responses,
      of_update hreaction.deeds]
    by_cases hk : k = id
    · subst hk
      -- the journal has all deeds of a master
      have hconnection := Role.ne_connection hmaster
      rw [responses, h.deeds k p hp hconnection, if_pos rfl, ← hreaction.deeds]
      rw [← h.roles k p hp] at hmaster ⊢
      obtain ⟨answered, heq, hread⟩ :=
        Participant.responses_step (h.sound k p hp) hmaster hstep
      refine ⟨answered, heq, fun a ha => ?_⟩
      rw [own, if_pos rfl, hp, Option.bind_some]
      exact hread a ha
    · refine ⟨none, ?_, fun a ha => by cases ha⟩
      rw [if_neg hk, List.append_nil, Option.toList_none, List.append_nil]
      rfl
  | acceptAborted hserver htake => exact hquiet rfl
  | acceptFailed hserver htake hec => exact hquiet rfl
  | accepted hserver htake hfree => exact hquiet rfl

/-- **The requests that a slave sends on are the blocks it accepts**, in every run from the start
and for all slaves that have had the id. -/
theorem inputs_exec (h : s₀.Initial) (hrun : exec (step mb) s₀ es = some s)
    (hslave : (s₀.role id).isMaster = false) :
    (s.sent id).map (·.2.modbusBuffer) =
      (s₀.inputs mb es id).filterMap ((s₀.role id).accept mb) := by
  have hrecord := invariant_record (g := own Participant.input id) (I := fun s ds =>
    Inv mb s₀ 0 [] s ∧
      (s.sent id).map (·.2.modbusBuffer) = ds.filterMap ((s₀.role id).accept mb))
    (fun s ds e s' hs hse => by
      refine ⟨inv_step hs.1 hse, ?_⟩
      rw [inputs_step hs.1 hslave hse, hs.2, List.filterMap_append])
    es _ _ [] ⟨inv_initial h mb 0, by rw [sent, h.journal]; rfl⟩ hrun
  rw [List.nil_append] at hrecord
  exact hrecord.2

/-- **Every answer of a master is a block that was read for the request**, in every run from the
start; the answers are in the order of the blocks, and a block is answered with once at most. -/
theorem blocks_exec (h : s₀.Initial) (hrun : exec (step mb) s₀ es = some s)
    (hmaster : (s₀.role id).isMaster = true) :
    List.SublistForall₂ (fun a r => a.1 = r.1 ∧
      (s₀.role id).accept mb r.2 = some a.2.2.modbusBuffer) (s.responses id)
      (s₀.blocks mb es id) := by
  obtain ⟨new, hnew, hsub⟩ := sublist_record (g := own Participant.block id)
    (f := fun s => s.responses id) (I := Inv mb s₀ 0 [])
    (R := fun (a : ℕ × Response β) r => a.1 = r.1 ∧
      (s₀.role id).accept mb r.2 = some a.2.2.modbusBuffer)
    (fun s e s' hs hse => inv_step hs hse) (fun s e s' hs hse => blocks_step hs hmaster hse)
    es _ _ (inv_initial h mb 0) hrun
  have hnone : s₀.responses id = [] := by rw [responses, h.journal]; rfl
  rw [hnone, List.nil_append] at hnew
  rw [hnew]
  exact hsub

/-- A request that is sent on has been read. -/
theorem posted_of_sent (h : s₀.Initial) (hrun : exec (step mb) s₀ es = some s) {actorId : ActorId}
    {message : ModbusMessage β} (hrouted : Routed mb s₀.router (s₀.role id) id actorId message)
    (hsent : (actorId, message) ∈ s.sent id) : Posted mb s₀ es id actorId message := by
  refine ⟨hrouted, ?_⟩
  have hmem : message.modbusBuffer ∈ (s.sent id).map (·.2.modbusBuffer) :=
    List.mem_map_of_mem hsent
  rw [inputs_exec h hrun hrouted.slave] at hmem
  obtain ⟨data, hdata, haccept⟩ := List.mem_filterMap.mp hmem
  exact ⟨data, hdata, haccept⟩

end Network

end ModbusGateway
