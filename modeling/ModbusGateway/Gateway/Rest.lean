import ModbusGateway.Gateway.Whereabouts
import ModbusGateway.Transport.MasterWork

/-!
# When the gateway comes to rest

What happens at a master comes of the requests that it is sent, nine events for each at most, so
that the masters come to rest when the clients do.  And once nothing can happen at a master any
more, no client waits for a request that a master still has: it has got its answer, unless the
request had expired, was given up, or was never sent to a master.

The second needs that no master has been stopped on the way, by a frame of a size that is refused,
or by an operation that fails while requests are queued.

## Main definitions

* `Participant.work`, `Participant.Waits` — the events that are left to a master, and that there
  are some as long as it has a request.
* `Network.allows` — a condition on the events of the masters.

## Main results

* `Network.actors_invariant` — **the invariant rule for single actors.**
* `Network.masterEvents_exec` — **a master does not work by itself.**
* `Network.nobodyWaits_exec` — **at rest nobody waits for a request that a master has.**
-/

namespace ModbusGateway

open Proactor Execution

variable {β : Type}

namespace Network

variable {mb : Modbus β} {s₀ s s' : Network β} {sender id : ActorId} {pending : List (Deed β)}

/-! ### What holds of every actor -/

/-- The event happens to an actor that allows it, or to none. -/
def allows (ok : Participant β → Participant.Event β → Bool) (s : Network β) : Event β → Bool
  | .actor id e _ => (s.actors id).all fun p => ok p e
  | .handleAccept .. => true

section Rule

variable {I : Participant β → Prop} {ok : Participant β → Participant.Event β → Bool}

theorem actors_update (h : ∀ id p, s.actors id = some p → I p) {p p' : Participant β}
    (hp' : I p') : ∀ k q, (s.update id p p').actors k = some q → I q := by
  intro k q hq
  by_cases heq : k = id
  · subst heq
    rw [update, setActor_self] at hq
    obtain rfl := Option.some.inj hq
    exact hp'
  · rw [update, setActor_of_ne heq] at hq
    exact h k q hq

theorem actors_replace (h : ∀ id p, s.actors id = some p → I p) (id : ActorId)
    {o : Option (Participant β)} (ho : ∀ p, o = some p → I p) :
    ∀ k q, Function.update s.actors id o k = some q → I q := by
  intro k q hq
  by_cases heq : k = id
  · subst heq
    rw [Function.update_self] at hq
    exact ho q hq
  · rw [Function.update_of_ne heq] at hq
    exact h k q hq

theorem actors_perform (hslave : ∀ p : Participant β, p.role.isMaster = false → I p)
    (hreceive : ∀ id p now message, p.Sound mb id → I p → I (p.receive mb now message))
    {d : Deed β} (hinv : Inv mb s₀ sender (d :: pending) s)
    (h : ∀ id p, s.actors id = some p → I p) (now : Nanoseconds) :
    ∀ id p, (s.perform mb now d).actors id = some p → I p := by
  unfold perform
  split
  · next actorId message hsent =>
    unfold send
    split
    · exact h
    next p hp =>
    exact actors_update h (hreceive actorId p now message (hinv.sound _ p hp) (h _ p hp))
  · next actorId message hsent hnotice =>
    unfold disconnect
    split
    · next server hserver =>
      refine actors_replace (s := { s with
        actors := Function.update s.actors message.clientId none }) ?_ actorId fun p hp => ?_
      · exact actors_replace h _ fun p hp => by cases hp
      · obtain rfl := Option.some.inj hp
        exact hslave _ rfl
    · exact h
  · exact h

theorem actors_foldl_perform (hslave : ∀ p : Participant β, p.role.isMaster = false → I p)
    (hreceive : ∀ id p now message, p.Sound mb id → I p → I (p.receive mb now message))
    (now : Nanoseconds) : ∀ {s : Network β}, Inv mb s₀ sender pending s →
      (∀ id p, s.actors id = some p → I p) →
      ∀ id p, (pending.foldl (perform mb now) s).actors id = some p → I p := by
  induction pending with
  | nil => exact fun _ h => h
  | cons d pending ih =>
    exact fun hinv h => ih (inv_perform hinv now) (actors_perform hslave hreceive hinv h now)

/-- **The invariant rule for single actors**: what every master starts with, and what its allowed
events and the messages it is sent preserve, holds of every master in every run whose events are
all allowed. -/
theorem actors_invariant (hslave : ∀ p : Participant β, p.role.isMaster = false → I p)
    (hreceive : ∀ id p now message, p.Sound mb id → I p → I (p.receive mb now message))
    (hstep : ∀ id p e p' router, p.Sound mb id → I p → ok p e = true →
      p.step mb router e = some p' → I p')
    (h : s₀.Initial) (hfresh : ∀ id p, s₀.actors id = some p → I p) {es : List (Event β)}
    (hrun : exec (step mb) s₀ es = some s) (hok : along (step mb) (allows ok) s₀ es = true) :
    ∀ id p, s.actors id = some p → I p := by
  have hinvariant := invariant_along
    (I := fun s => Inv mb s₀ 0 [] s ∧ ∀ id p, s.actors id = some p → I p)
    (fun s e s' h hP hs => by
      obtain ⟨hinv, hall⟩ := h
      refine ⟨inv_step hinv hs, ?_⟩
      cases step_branch hs with
      | @actor id e p p' hp hself hact now =>
        obtain ⟨new, hreaction⟩ := Participant.reaction_step (hinv.sound id p hp) hself hact
        have hallowed : ok p e = true := by
          rw [allows, hp] at hP
          exact hP
        have hnow := hstep id p e p' s.router (hinv.sound id p hp) (hall id p hp) hallowed hact
        rw [hreaction.deeds, List.drop_left]
        exact actors_foldl_perform hslave hreceive now (hinv.react hp hreaction)
          (actors_update hall hnow)
      | acceptAborted hserver htake =>
        refine actors_replace hall _ fun p hp => ?_
        obtain rfl := Option.some.inj hp
        exact hslave _ rfl
      | acceptFailed hserver htake hec =>
        refine actors_replace hall _ fun p hp => ?_
        obtain rfl := Option.some.inj hp
        exact hslave _ rfl
      | @accepted serverId clientId i server acceptor hserver htake hfree =>
        refine actors_replace (s := s.setActor clientId _) ?_ _ fun p hp => ?_
        · refine actors_replace hall _ fun p hp => ?_
          obtain rfl := Option.some.inj hp
          exact hslave _ rfl
        · obtain rfl := Option.some.inj hp
          exact hslave _ rfl)
    es _ _ ⟨inv_initial h mb 0, hfresh⟩ hok hrun
  exact hinvariant.2

end Rule

end Network

/-! ### The masters -/

namespace Participant

variable {mb : Modbus β} {router : Router} {id : ActorId} {p p' : Participant β}

/-- The events that can happen to a master before it is at rest, if it is sent no more
requests. -/
def work : Participant β → ℕ
  | .tcpClient c => c.work
  | .rtuMaster m => m.work
  | _ => 0

/-- No operation and no wait of a master is outstanding. -/
def AtRest : Participant β → Prop
  | .tcpClient c => c.AtRest
  | .rtuMaster m => m.AtRest
  | _ => True

/-- A master that has a request in process, or requests in the queue, waits for an operation. -/
def Waits : Participant β → Prop
  | .tcpClient c => c.RequestOutstanding ∧ c.QueueServed
  | .rtuMaster m => m.RequestOutstanding ∧ m.QueueServed
  | _ => True

/-- The event does not stop a master: it reads no frame of a size that is refused, and no
operation fails in it while requests are queued, unless another one is outstanding. -/
def keepsGoing (mb : Modbus β) : Participant β → Event β → Bool
  | .tcpClient c, .tcpClient e => c.sizeAccepted mb e && c.failsAlone e
  | .rtuMaster m, .rtuMaster e => m.sizeAccepted mb e && m.failsUnqueued e
  | _, _ => true

theorem work_fresh (h : p.Fresh id) : p.work = 0 := by
  cases p with
  | tcpClient c =>
    obtain ⟨timeout, rfl⟩ := h
    rfl
  | rtuMaster m =>
    obtain ⟨timeout, frameType, rfl⟩ := h
    rfl
  | _ => rfl

/-- Whatever happens at a master by itself uses up some of its work. -/
theorem work_step {e : Event β} (h : p.Sound mb id) (hself : e.byItself = true)
    (hs : p.step mb router e = some p') :
    p'.work + (if p.role.isMaster then 1 else 0) ≤ p.work := by
  cases p with
  | tcpClient c =>
    cases e with
    | tcpClient e =>
      obtain ⟨c', hc, rfl⟩ := Option.map_eq_some_iff.mp hs
      refine ModbusTcpClient.work_step h.1 ?_ hc
      cases e with
      | receive message now => cases hself
      | _ => rfl
    | _ => cases hs
  | rtuMaster m =>
    cases e with
    | rtuMaster e =>
      obtain ⟨m', hm, rfl⟩ := Option.map_eq_some_iff.mp hs
      refine ModbusRtuMaster.work_step h.1 ?_ hm
      cases e with
      | receive message now => cases hself
      | _ => rfl
    | _ => cases hs
  | tcpServer s =>
    cases e with
    | accept i ec =>
      obtain ⟨acceptor, -, rfl⟩ := Option.map_eq_some_iff.mp hs
      exact Nat.le_refl _
    | _ => cases hs
  | connection c =>
    cases e with
    | connection e =>
      obtain ⟨c', -, rfl⟩ := Option.map_eq_some_iff.mp hs
      exact Nat.le_refl _
    | _ => cases hs
  | rtuSlave s =>
    cases e with
    | rtuSlave e =>
      obtain ⟨s', -, rfl⟩ := Option.map_eq_some_iff.mp hs
      exact Nat.le_refl _
    | _ => cases hs

/-- A message brings in the work of nine events at most. -/
theorem work_receive_le (mb : Modbus β) (p : Participant β) (now : Nanoseconds)
    (message : ModbusMessage β) : (p.receive mb now message).work ≤ p.work + 9 := by
  cases p with
  | tcpClient c =>
    have hs : ModbusTcpClient.step mb c (.receive message now) =
      some (c.messageProcess mb message now) := rfl
    exact (Nat.le_succ _).trans (ModbusTcpClient.work_receive hs)
  | rtuMaster m =>
    have hs : ModbusRtuMaster.step mb m (.receive message now) =
      some (m.messageProcess mb message now) := rfl
    have hwork := ModbusRtuMaster.work_receive hs
    exact (Nat.le_succ _).trans (hwork.trans (Nat.add_le_add_left (by decide) _))
  | _ => exact Nat.zero_le _

theorem waits_step {e : Event β} (h : p.Sound mb id) (hwaits : p.Waits)
    (hok : p.keepsGoing mb e = true) (hs : p.step mb router e = some p') : p'.Waits := by
  cases p with
  | tcpClient c =>
    cases e with
    | tcpClient e =>
      obtain ⟨c', hc, rfl⟩ := Option.map_eq_some_iff.mp hs
      obtain ⟨hsize, hfails⟩ := Bool.and_eq_true_iff.mp hok
      exact ⟨ModbusTcpClient.requestOutstanding_step h.1 hwaits.1 hsize hc,
        ModbusTcpClient.queueServed_step h.1 hwaits.1 hwaits.2 hsize hfails hc⟩
    | _ => cases hs
  | rtuMaster m =>
    cases e with
    | rtuMaster e =>
      obtain ⟨m', hm, rfl⟩ := Option.map_eq_some_iff.mp hs
      obtain ⟨hsize, hfails⟩ := Bool.and_eq_true_iff.mp hok
      exact ⟨ModbusRtuMaster.requestOutstanding_step h.1 hwaits.1 hsize hm,
        ModbusRtuMaster.queueServed_step h.1 hwaits.1 hwaits.2 hsize hfails hm⟩
    | _ => cases hs
  | tcpServer s =>
    cases e with
    | accept i ec =>
      obtain ⟨acceptor, -, rfl⟩ := Option.map_eq_some_iff.mp hs
      exact trivial
    | _ => cases hs
  | connection c =>
    cases e with
    | connection e =>
      obtain ⟨c', -, rfl⟩ := Option.map_eq_some_iff.mp hs
      exact trivial
    | _ => cases hs
  | rtuSlave s =>
    cases e with
    | rtuSlave e =>
      obtain ⟨s', -, rfl⟩ := Option.map_eq_some_iff.mp hs
      exact trivial
    | _ => cases hs

theorem waits_receive (h : p.Sound mb id) (hwaits : p.Waits) (now : Nanoseconds)
    (message : ModbusMessage β) : (p.receive mb now message).Waits := by
  cases p with
  | tcpClient c =>
    have hs : (tcpClient c).step mb (.new 0) (.tcpClient (.receive message now)) =
      some ((tcpClient c).receive mb now message) := rfl
    exact waits_step h hwaits rfl hs
  | rtuMaster m =>
    have hs : (rtuMaster m).step mb (.new 0) (.rtuMaster (.receive message now)) =
      some ((rtuMaster m).receive mb now message) := rfl
    exact waits_step h hwaits rfl hs
  | _ => exact trivial

theorem waits_fresh (h : p.Fresh id) : p.Waits := by
  cases p with
  | tcpClient c =>
    obtain ⟨timeout, rfl⟩ := h
    exact ⟨ModbusTcpClient.requestOutstanding_of_none rfl, fun hne => absurd rfl hne⟩
  | rtuMaster m =>
    obtain ⟨timeout, frameType, rfl⟩ := h
    exact ⟨ModbusRtuMaster.requestOutstanding_of_none rfl, fun hne => absurd rfl hne⟩
  | _ => exact trivial

/-- Nothing can happen at a master exactly if it is at rest. -/
theorem atRest_iff (mb : Modbus β) (router : Router) (hmaster : p.role.isMaster = true) :
    p.AtRest ↔ ∀ e : Event β, e.byItself = true → p.step mb router e = none := by
  cases p with
  | tcpClient c =>
    rw [AtRest, c.atRest_iff mb]
    constructor
    · intro hstuck e hself
      cases e with
      | tcpClient e =>
        refine Option.map_eq_none_iff.mpr (hstuck e ?_)
        cases e with
        | receive message now => cases hself
        | _ => rfl
      | _ => rfl
    · intro hstuck e he
      refine Option.map_eq_none_iff.mp (hstuck (.tcpClient e) ?_)
      cases e with
      | receive message now => cases he
      | _ => rfl
  | rtuMaster m =>
    rw [AtRest, m.atRest_iff mb]
    constructor
    · intro hstuck e hself
      cases e with
      | rtuMaster e =>
        refine Option.map_eq_none_iff.mpr (hstuck e ?_)
        cases e with
        | receive message now => cases hself
        | _ => rfl
      | _ => rfl
    · intro hstuck e he
      refine Option.map_eq_none_iff.mp (hstuck (.rtuMaster e) ?_)
      cases e with
      | receive message now => cases he
      | _ => rfl
  | _ => cases hmaster

/-- A master at rest has no request. -/
theorem held_of_atRest (hwaits : p.Waits) (hrest : p.AtRest) : p.held = [] := by
  have hheld : ∀ v : MasterView β, v.messageQueue.queue = [] → v.currentMessage = none →
      v.held = [] := by
    intro v hqueue hcur
    rw [MasterView.held, hqueue, hcur]
    rfl
  cases p with
  | tcpClient c =>
    refine hheld c.view ?_ ?_
    · by_contra hne
      exact hwaits.2 hne hrest.1
    · by_contra hcur
      have hdata := hwaits.1 (Option.isSome_iff_ne_none.mpr hcur)
      rw [ModbusTcpClient.dataOps, hrest.1] at hdata
      cases hdata
  | rtuMaster m =>
    refine hheld m.view ?_ ?_
    · by_contra hne
      exact hwaits.2 hne hrest.1
    · by_contra hcur
      have hdata := hwaits.1 (Option.isSome_iff_ne_none.mpr hcur)
      rw [ModbusRtuMaster.outstanding, hrest.1] at hdata
      cases hdata
  | _ => rfl

end Participant

namespace Network

variable {mb : Modbus β} {s₀ s s' : Network β} {sender id : ActorId} {pending : List (Deed β)}

/-- The events that can happen at the actor under an id, if it is a master that is sent no more
requests. -/
def work (s : Network β) (id : ActorId) : ℕ := (s.actors id).elim 0 Participant.work

/-- What happens at an actor by itself. -/
def Event.of (k : ActorId) : Event β → Option (Participant.Event β)
  | .actor id e _ => if id = k then some e else none
  | .handleAccept .. => none

/-- The `n` events of a master so far, and those that are left, are paid for by the messages that
have been delivered to it. -/
def Paid (sender : ActorId) (pending : List (Deed β)) (k : ActorId) (n : ℕ) (s : Network β) :
    Prop :=
  n + s.work k + 9 * (mail sender k pending).length ≤ 9 * (s.addressed k).length

section Paid

variable {k : ActorId} {n : ℕ}

theorem work_update_self (s : Network β) (id : ActorId) (p p' : Participant β) :
    (s.update id p p').work id = p'.work := by
  rw [work, update, setActor_self, Option.elim_some]

theorem work_update_of_ne (hk : k ≠ id) (s : Network β) (p p' : Participant β) :
    (s.update id p p').work k = s.work k := by
  rw [work, update, setActor_of_ne hk, work]

/-- What is registered under another id may change. -/
theorem Paid.replace (h : Paid sender pending k n s) (hk : k ≠ id) (o : Option (Participant β)) :
    Paid sender pending k n { s with actors := Function.update s.actors id o } := by
  have hwork : ({ s with actors := Function.update s.actors id o } : Network β).work k =
      s.work k := by
    simp only [work, Function.update_of_ne hk]
  rw [Paid, hwork]
  exact h

theorem Paid.skip {d : Deed β} (h : Paid sender (d :: pending) k n s) :
    Paid sender pending k n s := by
  rw [Paid, mail, Journal.mail_cons, List.length_append] at h
  rw [Paid, mail]
  omega

theorem ne_of_slave (hinv : Inv mb s₀ sender pending s) (hmaster : (s₀.role k).isMaster = true)
    {p : Participant β} (hp : s.actors id = some p) (hslave : p.role.isMaster = false) :
    k ≠ id := by
  rintro rfl
  rw [hinv.roles _ p hp, hmaster] at hslave
  cases hslave

theorem paid_perform {d : Deed β} (hinv : Inv mb s₀ sender (d :: pending) s)
    (hmaster : (s₀.role k).isMaster = true) (h : Paid sender (d :: pending) k n s)
    (now : Nanoseconds) : Paid sender pending k n (s.perform mb now d) := by
  unfold perform
  split
  · next actorId message hsent =>
    unfold send
    split
    · exact h.skip
    next p hp =>
    obtain ⟨new, hreaction, hsilent⟩ := Participant.reaction_receive s.router
      (hinv.sound actorId p hp) now message
    have haddressed :
        (s.update actorId p (p.receive mb now message)).addressed k = s.addressed k := by
      rw [addressed, update_journal hreaction.deeds, Journal.addressed_enter,
        Journal.mail_eq_nil (fun e he => (hsilent e he).1), List.append_nil]
      rfl
    by_cases heq : actorId = k
    · -- the message has been delivered, and pays for what it brings in
      subst heq
      have hwork := Participant.work_receive_le mb p now message
      rw [Paid, mail, Journal.mail_cons, Journal.mail_of_some hsent, work, hp,
        Option.elim_some] at h
      rw [List.length_append, List.length_singleton] at h
      rw [Paid, haddressed, work_update_self, mail]
      omega
    · have hskip := h.skip
      rw [Paid, haddressed, work_update_of_ne (Ne.symm heq)]
      exact hskip
  · next actorId message hsent hnotice =>
    unfold disconnect
    split
    · next server hserver =>
      have hclient : k ≠ message.clientId := by
        rintro rfl
        rw [hinv.client_of_notice hnotice] at hmaster
        cases hmaster
      exact (h.skip.replace hclient none).replace (ne_of_slave hinv hmaster hserver rfl) _
    · exact h.skip
  · exact h.skip

theorem paid_foldl_perform (hmaster : (s₀.role k).isMaster = true) (now : Nanoseconds) :
    ∀ {s : Network β}, Inv mb s₀ sender pending s → Paid sender pending k n s →
      Paid sender [] k n (pending.foldl (perform mb now) s) := by
  induction pending with
  | nil => exact fun _ h => h
  | cons d pending ih =>
    exact fun hinv h => ih (inv_perform hinv now) (paid_perform hinv hmaster h now)

theorem paid_step {e : Event β} (hinv : Inv mb s₀ sender [] s)
    (hmaster : (s₀.role k).isMaster = true) (h : Paid sender [] k n s)
    (hs : step mb s e = some s') : Paid sender [] k (n + (e.of k).toList.length) s' := by
  have hbefore : n + s.work k ≤ 9 * (s.addressed k).length := h
  cases step_branch hs with
  | @actor id e p p' hp hself hact now =>
    obtain ⟨new, hreaction⟩ := Participant.reaction_step (hinv.sound id p hp) hself hact
    rw [hreaction.deeds, List.drop_left]
    have hpaid : Paid id new k (n + ((Event.actor id e now).of k).toList.length)
        (s.update id p p') := by
      have hwork := Participant.work_step (hinv.sound id p hp) hself hact
      rw [hinv.roles id p hp] at hwork
      rw [Paid, addressed, update_journal hreaction.deeds, Journal.addressed_enter,
        List.length_append, Nat.mul_add, mail]
      refine Nat.add_le_add_right ?_ _
      by_cases heq : id = k
      · subst heq
        rw [work, hp, Option.elim_some] at hbefore
        rw [if_pos hmaster] at hwork
        rw [Event.of, if_pos rfl, work_update_self, Option.toList_some, List.length_singleton]
        change _ ≤ 9 * (s.addressed id).length
        omega
      · rw [Event.of, if_neg heq, work_update_of_ne (Ne.symm heq)]
        exact hbefore
    have hperformed := paid_foldl_perform hmaster now (hinv.react hp hreaction) hpaid
    exact hperformed
  | acceptAborted hserver htake => exact h.replace (ne_of_slave hinv hmaster hserver rfl) _
  | acceptFailed hserver htake hec => exact h.replace (ne_of_slave hinv hmaster hserver rfl) _
  | @accepted serverId clientId i server acceptor hserver htake hfree =>
    have hne : k ≠ clientId := by
      rintro rfl
      obtain ⟨p, hp⟩ := hinv.exists_master hmaster
      rw [idFree, hp] at hfree
      cases hfree
    exact (h.replace hne _).replace (ne_of_slave hinv hmaster hserver rfl) _

end Paid

/-- **A master does not work by itself.**  In every run of the gateway, whatever happens, the
events of a master so far and those that are left to it, if it is sent no more requests, are nine
at most for each request that slaves have sent to it; and nothing can happen at it exactly if it is
at rest. -/
theorem masterEvents_exec {β : Type} (mb : Modbus β) {s₀ s : Network β} (h : s₀.Initial)
    {es : List (Event β)} (hrun : exec (step mb) s₀ es = some s) {k : ActorId}
    (hmaster : (s₀.role k).isMaster = true) :
    (es.filterMap (Event.of k)).length + s.work k ≤ 9 * (s.addressed k).length ∧
    (∀ post ∈ s.addressed k, Posted mb s₀ es post.1 k post.2) ∧
    ((∀ e now, step mb s (.actor k e now) = none) ↔
      ∃ p, s.actors k = some p ∧ p.AtRest) := by
  have hinv := inv_exec h hrun k
  obtain ⟨p, hp⟩ := hinv.exists_master hmaster
  refine ⟨?_, posted_exec h hrun hmaster, ?_⟩
  case refine_2 =>
    have hrest := Participant.atRest_iff mb s.router ((congrArg Role.isMaster
      (hinv.roles k p hp)).trans hmaster)
    constructor
    · intro hstuck
      refine ⟨p, hp, hrest.mpr fun e hself => ?_⟩
      have hnone := hstuck e 0
      simp only [step, hp, hself, if_true] at hnone
      exact Option.map_eq_none_iff.mp hnone
    · rintro ⟨q, hq, hatRest⟩ e now
      obtain rfl := Option.some.inj (hp.symm.trans hq)
      simp only [step, hp]
      split
      · next hself => exact Option.map_eq_none_iff.mpr (hrest.mp hatRest e hself)
      · rfl
  have hinitial : Paid 0 [] k 0 s₀ := by
    have hwork : s₀.work k = 0 := by
      rw [work]
      cases hp : s₀.actors k with
      | none => rfl
      | some p => exact Participant.work_fresh (h.fresh k p hp)
    rw [Paid, hwork]
    exact Nat.zero_le _
  have hpaid := invariant_record (g := fun _ e => Event.of k e)
    (I := fun s events => Inv mb s₀ 0 [] s ∧ Paid 0 [] k events.length s)
    (fun s events e s' h hs => by
      refine ⟨inv_step h.1 hs, ?_⟩
      rw [List.length_append]
      exact paid_step h.1 hmaster h.2 hs)
    es _ _ [] ⟨inv_initial h mb 0, hinitial⟩ hrun
  rw [List.nil_append, record_of_events hrun] at hpaid
  exact hpaid.2

/-- **At rest nobody waits for a request that a master has.**  In every run of the gateway in
which no master reads a frame of a size that is refused, and no operation of a master fails while
requests are queued there: once all masters are at rest, the requests that slaves still wait for
were sent to no master, had expired in a queue, or were given up. -/
theorem nobodyWaits_exec {β : Type} {mb : Modbus β} {s₀ s : Network β} (h : s₀.Initial)
    {es : List (Event β)} (hrun : exec (step mb) s₀ es = some s)
    (hgoing : along (step mb) (allows (Participant.keepsGoing mb)) s₀ es = true)
    (hrest : ∀ k p, s.actors k = some p → p.AtRest)
    {id : ActorId} {info : ModbusMessageInfo} (hwaiting : s.waiting id = some info) :
    ∃ k message, Posted mb s₀ es id k message ∧
      (id, message) ∈ s.addressed k ∧ message.modbusMessageInfo = info ∧
      ((s₀.role k).isMaster = false ∨
        (∃ dropped, (k, .master (.expire dropped)) ∈ s.journal ∧
          dropped.modbusMessageInfo = info) ∨
        (k, info) ∈ record (step mb) (Network.lost mb) s₀ es) := by
  have hwaits := actors_invariant (I := Participant.Waits)
    (fun p hslave => by cases p <;> first | exact trivial | cases hslave)
    (fun _ _ now message hsound hp => Participant.waits_receive hsound hp now message)
    (fun _ _ _ _ _ hsound hp hok hs => Participant.waits_step hsound hp hok hs)
    h (fun id p hp => Participant.waits_fresh (h.fresh id p hp)) hrun hgoing
  obtain ⟨k, message, hrouted, hpost, hmessage, htraced⟩ :=
    (tracked_exec h hrun id).traced (inv_exec h hrun id) hwaiting
  refine ⟨k, message, posted_of_sent h hrun hrouted (mem_sent hpost), hpost, hmessage, ?_⟩
  rcases htraced with hslave | hheld | hdone
  · exact Or.inl hslave
  · -- nobody has a request any more
    cases hp : s.actors k with
    | none =>
      rw [Network.held, hp, Option.elim_none] at hheld
      cases hheld
    | some p =>
      rw [Network.held, hp, Option.elim_some,
        Participant.held_of_atRest (hwaits k p hp) (hrest k p hp)] at hheld
      cases hheld
  · exact Or.inr hdone

/-- A client that waits for a device that is not connected: its request has been given up, and
nothing can happen any more. -/
def failedRun : List (Event Frame) :=
  serialRun.take 4 ++ [.actor 4 (.rtuMaster (.complete 0 ⟨.eof, []⟩)) 0,
    .actor 4 (.rtuMaster (.handle 0 0)) 0]

theorem masterEvents_serial :
    ∃ s, exec (step Frame.library) serialDevice serialRun = some s ∧
      (serialRun.filterMap (Event.of 4)).length = 4 ∧ (s.addressed 4).length = 1 ∧
      (serialRun.filterMap (Event.of 4)).length + s.work 4 ≤ 9 := by
  obtain ⟨s, hrun, haddressed⟩ : ∃ s, exec (step Frame.library) serialDevice serialRun = some s ∧
      (s.addressed 4).length = 1 := ⟨_, rfl, by decide +kernel⟩
  have hbound := (masterEvents_exec Frame.library initial_serialDevice hrun (k := 4) rfl).1
  rw [haddressed] at hbound
  exact ⟨s, hrun, rfl, haddressed, hbound⟩

/-- The request that the client waits for has been given up. -/
theorem nobodyWaits_serial :
    ∃ s info, exec (step Frame.library) serialDevice failedRun = some s ∧
      s.waiting 5 = some info ∧
      ∃ k message, Posted Frame.library serialDevice failedRun 5 k message ∧
        (5, message) ∈ s.addressed k ∧ message.modbusMessageInfo = info ∧
        ((serialDevice.role k).isMaster = false ∨
          (∃ dropped, (k, .master (.expire dropped)) ∈ s.journal ∧
            dropped.modbusMessageInfo = info) ∨
          (k, info) ∈ record (step Frame.library) (Network.lost Frame.library)
            serialDevice failedRun) := by
  obtain ⟨s, m, hrun, hwaiting, hm, hrest⟩ : ∃ s m,
      exec (step Frame.library) serialDevice failedRun = some s ∧
        s.waiting 5 = some (.new 0 5 9) ∧ s.actors 4 = some (.rtuMaster m) ∧ m.AtRest :=
    ⟨_, _, rfl, by decide +kernel, rfl, by decide +kernel, by decide +kernel⟩
  refine ⟨s, _, hrun, hwaiting, nobodyWaits_exec initial_serialDevice hrun (by decide +kernel)
    (fun k p hp => ?_) hwaiting⟩
  -- there is one master only
  have hinv : Inv Frame.library serialDevice 0 [] s := inv_exec initial_serialDevice hrun 0
  have hrole := hinv.roles k p hp
  by_cases hk : k = 4
  · subst hk
    obtain rfl := Option.some.inj (hm.symm.trans hp)
    exact hrest
  · have hslave : p.role.isMaster = false := by
      rw [hrole, Network.role, serialDevice]
      simp only [Function.update_apply, if_neg hk]
      split <;> rfl
    cases p with
    | tcpClient c => cases hslave
    | rtuMaster m => cases hslave
    | _ => exact trivial

end Network

end ModbusGateway
