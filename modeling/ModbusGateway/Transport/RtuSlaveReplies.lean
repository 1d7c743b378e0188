import Mathlib.Data.Nat.ModEq
import Mathlib.Data.UInt
import ModbusGateway.Transport.SlaveSession

/-!
# Replies to the requests a slave has numbered

A serial frame has no transaction id, so that an RTU slave numbers the requests it
accepts, with 16 bits, and tells the replies apart by their numbers.  A number comes
again after 65536 requests: a reply that is late by as many requests is taken for the
answer to another one, and no other reply is.

## Main definitions

* `Session.Numbered` — the requests of a session are numbered from one.
* `Dialogue` — a session in which every message is the reply to a request.
* `Dialogue.prompt` — a reply comes before 65536 further requests have been accepted.

## Main results

* `Session.numbered_exec` — **the requests of every session are numbered from one.**
* `written_exec` — **if every reply is prompt, every frame written is the reply to the
  latest request**; and a frame written for another request is late by a multiple of
  65536 requests.
-/

namespace ModbusGateway

namespace ModbusRtuSlave

open Proactor Execution Transaction Slot

variable {β : Type} {mb : Modbus β} {router : Router} {id : ActorId} {frameType : FrameType}

/-- Two numbers of 16 bits are equal if they are congruent. -/
theorem ofNat_eq_iff {m n : ℕ} :
    (UInt16.ofNat m : TransactionId) = UInt16.ofNat n ↔ m ≡ n [MOD 65536] := by
  rw [← UInt16.toNat_inj, UInt16.toNat_ofNat', UInt16.toNat_ofNat']
  rfl

namespace Session

/-- The requests accepted in a session, oldest first. -/
def accepted (s : Session β) : List ModbusMessageInfo := starts s.log

/-- The requests of a session bear the slave's id, and are numbered from one. -/
structure Numbered (id : ActorId) (s : Session β) : Prop where
  idGenerator : s.slave.idGenerator = UInt16.ofNat s.accepted.length
  source : ∀ (k : ℕ) (info : ModbusMessageInfo), s.accepted[k]? = some info → info.sourceId = id
  transaction : ∀ (k : ℕ) (info : ModbusMessageInfo), s.accepted[k]? = some info →
    info.transactionId = UInt16.ofNat (k + 1)

/-- What a step of a session adds to its log. -/
theorem step_moves {s s' : Session β} {e : SessionEvent β} (h : s.Follows mb id frameType)
    (hs : s.step mb router e = some s') :
    s'.slave.idGenerator = ((s.slave.given e).map
      ((actor mb id frameType).nextId s.slave.idGenerator)).getD s.slave.idGenerator ∧
    ∃ new, s'.log = s.log ++ new ∧
      (actor mb id frameType).Moves s.slave.idGenerator s.slave.syncRequestInfo (s.slave.given e)
        s'.slave.syncRequestInfo new := by
  obtain ⟨slave, hfire, rfl⟩ := Option.map_eq_some_iff.mp hs
  obtain ⟨-, -, -, hlast, new, heffects, hmoves⟩ := fire_moves h.exchange hfire
  rw [h.slave_id, h.slave_frameType] at hlast hmoves
  refine ⟨hlast, _, ?_, hmoves⟩
  rw [heffects, List.drop_left]

/-- A request that is accepted takes the next number. -/
theorem makeInfo_some {last : TransactionId} {data : List UInt8} {now : Nanoseconds}
    {info : ModbusMessageInfo} (h : (actor mb id frameType).makeInfo last data now = some info) :
    info = .new now id (last + 1) := by
  obtain ⟨message, hmake, rfl⟩ := Option.map_eq_some_iff.mp h
  rcases makeRequest_cases mb
    { ModbusRtuSlave.new id frameType with idGenerator := last } data now with
    heq | ⟨modbusBuffer, -, -, heq⟩
  · rw [heq] at hmake
    cases hmake
  · rw [heq] at hmake
    exact (Option.some.inj hmake) ▸ rfl

theorem numbered_step {s s' : Session β} {e : SessionEvent β} (h : s.Follows mb id frameType)
    (hnum : s.Numbered id) (hs : s.step mb router e = some s') : s'.Numbered id := by
  obtain ⟨hlast, new, hlog, hmoves⟩ := step_moves h hs
  have haccepted : s'.accepted = s.accepted ++ starts new := by
    rw [accepted, hlog, starts_append]
    rfl
  -- only a block that is accepted adds a request, and takes a number
  have hquiet : starts new = [] → s'.slave.idGenerator = s.slave.idGenerator →
      s'.Numbered id := by
    intro hnone hsame
    rw [hnone, List.append_nil] at haccepted
    exact ⟨by rw [hsame, haccepted, hnum.idGenerator], haccepted ▸ hnum.source,
      haccepted ▸ hnum.transaction⟩
  generalize s.slave.given e = given at hlast hmoves
  generalize s.slave.syncRequestInfo = slot, s'.slave.syncRequestInfo = slot' at hmoves
  cases hmoves with
  | idle => exact hquiet rfl hlast
  | refuse hrefuse => exact hquiet rfl (by simpa [SlaveActor.nextId, hrefuse] using hlast)
  | ignore _ => exact hquiet rfl hlast
  | drop _ _ _ => exact hquiet rfl hlast
  | answer _ _ _ => exact hquiet rfl hlast
  | @accept _ data now info haccept =>
    obtain rfl := makeInfo_some haccept
    rw [starts, starts_nil] at haccepted
    have hnext : s.slave.idGenerator + 1 = UInt16.ofNat (s.accepted.length + 1) := by
      rw [hnum.idGenerator, UInt16.ofNat_add]
      rfl
    -- a request of the session afterwards is one of before, or the one just accepted
    have hnew : ∀ {k info}, s'.accepted[k]? = some info → s.accepted[k]? = some info ∨
        (k = s.accepted.length ∧ info = .new now id (s.slave.idGenerator + 1)) := by
      intro k info hk
      rw [haccepted] at hk
      rcases lt_or_ge k s.accepted.length with hlt | hge
      · rw [List.getElem?_append_left hlt] at hk
        exact Or.inl hk
      · rw [List.getElem?_append_right hge] at hk
        obtain ⟨hlt, hget⟩ := List.getElem?_eq_some_iff.mp hk
        rw [List.length_singleton] at hlt
        exact Or.inr ⟨by omega, by simpa using hget.symm⟩
    refine ⟨?_, ?_, ?_⟩
    · rw [hlast, haccepted, List.length_append, List.length_singleton, ← hnext]
      simp [SlaveActor.nextId, haccept, ModbusMessageInfo.new]
    · intro k info hk
      rcases hnew hk with hold | ⟨-, rfl⟩
      · exact hnum.source k info hold
      · rfl
    · intro k info hk
      rcases hnew hk with hold | ⟨rfl, rfl⟩
      · exact hnum.transaction k info hold
      · exact hnext

theorem numbered_new (id : ActorId) (frameType : FrameType) :
    (new id frameType : Session β).Numbered id := by
  refine ⟨rfl, ?_, ?_⟩ <;> (intro k info hk; cases hk)

/-- **The requests of every session are numbered from one.** -/
theorem numbered_exec {es : List (SessionEvent β)} {s : Session β}
    (h : exec (step mb router) (new id frameType) es = some s) : s.Numbered id :=
  (invariant (I := fun s => s.Follows mb id frameType ∧ s.Numbered id)
    (fun _ _ _ hs hstep => ⟨follows_step hs.1 hstep, numbered_step hs.1 hs.2 hstep⟩)
    es _ s ⟨follows_new id frameType, numbered_new id frameType⟩ h).2

/-- Two requests of a session have the same number if their positions are congruent. -/
theorem Numbered.transactionId_eq_iff {s : Session β} (h : s.Numbered id) {j k : ℕ}
    {info info' : ModbusMessageInfo} (hj : s.accepted[j]? = some info)
    (hk : s.accepted[k]? = some info') :
    info.transactionId = info'.transactionId ↔ j ≡ k [MOD 65536] := by
  rw [h.transaction j info hj, h.transaction k info' hk, ofNat_eq_iff]
  exact Nat.ModEq.add_iff_right rfl

end Session

/-! ### Replies -/

/-- The frame that an effect writes. -/
def writtenFrame : SlaveEffect β → Option β
  | .send _ _ => none
  | .write modbusBuffer => some modbusBuffer

/-- The answers in the log of some effects are the frames they write. -/
theorem answers_filterMap_act (message : Option (ModbusMessage (Option β)))
    (es : List (SlaveEffect β)) : ∀ n,
    (answers n (es.filterMap (SlaveEffect.act message))).map (·.2.2) =
      es.filterMap writtenFrame := by
  induction es with
  | nil => intro n; rfl
  | cons e es ih =>
    intro n
    cases e with
    | send actorId request => exact ih (n + 1)
    | write modbusBuffer => exact congrArg (modbusBuffer :: ·) (ih n)

/-- A frame that has been written: the requests accepted before it, the request it was taken
for the answer to, and the position of the request whose reply it is. -/
structure WrittenReply (β : Type) where
  accepted : List ModbusMessageInfo
  lastInfo : Option ModbusMessageInfo
  request : Option ℕ
  modbusBuffer : β
  deriving DecidableEq, Repr

/-- The frame is the reply to the latest request, and is taken for it. -/
def WrittenReply.Latest (w : WrittenReply β) : Prop :=
  ∃ k, w.request = some k ∧ k + 1 = w.accepted.length ∧ w.lastInfo = w.accepted[k]?

/-- The frame is the reply to a request that is a multiple of 65536 requests before the latest
one, and is taken for the reply to that one. -/
def WrittenReply.Aliased (w : WrittenReply β) : Prop :=
  ∃ k m, w.request = some k ∧ m ≠ 0 ∧ k + 1 + 65536 * m = w.accepted.length ∧
    w.lastInfo = w.accepted[k + 65536 * m]?

/-- A session in which every message is the reply to a request, and what it has written. -/
structure Dialogue (β : Type) where
  session : Session β
  written : List (WrittenReply β)

/-- The events of such a session. -/
inductive DialogueEvent (β : Type)
  /-- An event of the slave's serial port. -/
  | io (e : Event)
  /-- The reply to the request at position `k` is passed to `Receive`. -/
  | reply (k : ℕ) (modbusBuffer : Option β)
  /-- `Stop()`. -/
  | stop

/-- The position of the request that an event replies to. -/
def DialogueEvent.request : DialogueEvent β → Option ℕ
  | .reply k _ => some k
  | _ => none

namespace Dialogue

/-- A slave that has been started. -/
def new (id : ActorId) (frameType : FrameType) : Dialogue β := ⟨.new id frameType, []⟩

/-- The event of the session; the info of a reply is that of its request. -/
def event (d : Dialogue β) : DialogueEvent β → Option (SessionEvent β)
  | .io e => some (.io e)
  | .reply k modbusBuffer => d.session.accepted[k]?.map fun info => .receive ⟨info, modbusBuffer⟩
  | .stop => some .stop

/-- The step function. -/
def step (mb : Modbus β) (router : Router) (d : Dialogue β) (e : DialogueEvent β) :
    Option (Dialogue β) :=
  (d.event e).bind fun event => (d.session.step mb router event).map fun s =>
    { session := s
      written := d.written ++ (answers 0 (s.log.drop d.session.log.length)).map fun answer =>
        ⟨d.session.accepted, d.session.slave.syncRequestInfo, e.request, answer.2.2⟩ }

/-- A reply is prompt: fewer than 65536 requests have been accepted since its own. -/
def prompt (d : Dialogue β) : DialogueEvent β → Bool
  | .reply k _ => decide (d.session.accepted.length < k + 1 + 65536)
  | _ => true

/-- The invariant of the runs: every frame that the slave has written is recorded. -/
structure Follows (mb : Modbus β) (id : ActorId) (frameType : FrameType) (d : Dialogue β) :
    Prop where
  session : d.session.Follows mb id frameType
  numbered : d.session.Numbered id
  written : d.written.map (·.modbusBuffer) = d.session.slave.effects.filterMap writtenFrame

theorem follows_step {d d' : Dialogue β} {e : DialogueEvent β} (h : d.Follows mb id frameType)
    (hs : d.step mb router e = some d') : d'.Follows mb id frameType := by
  obtain ⟨event, -, hs⟩ := Option.bind_eq_some_iff.mp hs
  obtain ⟨s, hstep, rfl⟩ := Option.map_eq_some_iff.mp hs
  refine ⟨Session.follows_step h.1 hstep, Session.numbered_step h.1 h.2 hstep, ?_⟩
  obtain ⟨slave, hfire, rfl⟩ := Option.map_eq_some_iff.mp hstep
  obtain ⟨-, -, -, -, new, heffects, -⟩ := fire_moves h.1.exchange hfire
  have hnew := answers_filterMap_act event.message new 0
  simp only [List.drop_left, heffects, List.map_append, List.map_map, List.filterMap_append,
    h.written, ← hnew]
  rfl

/-- The events of the serial port give no messages to the slave. -/
theorem given_io (s : ModbusRtuSlave β) (e : Event) (message : ModbusMessage (Option β)) :
    s.given (.io e) ≠ some (.message message) := by
  cases e with
  | complete i result => exact fun h => by cases h
  | handle i now pastEnd =>
    simp only [given]
    split
    · split
      · exact (Option.some_ne_none _).symm
      · simp
    · exact (Option.some_ne_none _).symm

/-- **What a step writes** is the reply to a request, and is taken for the reply to the latest
one, which has the same number. -/
theorem written_step {d d' : Dialogue β} {e : DialogueEvent β} (h : d.Follows mb id frameType)
    (hs : d.step mb router e = some d') :
    ∃ new, d'.written = d.written ++ new ∧ ∀ w ∈ new, ∃ k buffer, e = .reply k (some buffer) ∧
      w = ⟨d.session.accepted, d.session.accepted.getLast?, some k,
        mb.update (mb.convertTo frameType buffer)⟩ ∧
      k < d.session.accepted.length ∧ d.session.accepted.length ≡ k + 1 [MOD 65536] := by
  obtain ⟨event, hevent, hs⟩ := Option.bind_eq_some_iff.mp hs
  obtain ⟨s, hstep, rfl⟩ := Option.map_eq_some_iff.mp hs
  obtain ⟨-, new, hlog, hmoves⟩ := Session.step_moves h.1 hstep
  refine ⟨_, rfl, ?_⟩
  rw [hlog, List.drop_left]
  rcases hmoves.answers with ⟨hnone, -⟩ |
    ⟨latest, message, f, hslot, hgiven, htransaction, hframe, hanswer⟩
  · intro w hw
    rw [hnone] at hw
    cases hw
  · -- a message is given by `Receive` only, so that it is the reply to a request
    cases e with
    | io e =>
      obtain rfl := Option.some.inj hevent
      exact absurd hgiven (given_io _ _ message)
    | stop =>
      obtain rfl := Option.some.inj hevent
      cases hgiven
    | reply k modbusBuffer =>
      obtain ⟨info, hk, rfl⟩ := Option.map_eq_some_iff.mp hevent
      cases hgiven
      obtain ⟨buffer, rfl, rfl⟩ := Option.map_eq_some_iff.mp hframe
      have hlt := (List.getElem?_eq_some_iff.mp hk).1
      have hlast : d.session.accepted.getLast? = some latest := by
        rw [h.1.slot] at hslot
        rw [Session.accepted, h.1.log]
        exact ((actor mb id frameType).paired d.session.given).open_eq_getLast? latest hslot
      -- the slot holds the latest request, whose number is that of the reply's own
      have hnumber : d.session.accepted.length - 1 ≡ k [MOD 65536] := by
        rw [← h.2.transactionId_eq_iff (List.getLast?_eq_getElem? ▸ hlast) hk]
        exact htransaction.symm
      simp only [hanswer, List.map_cons, List.map_nil, List.mem_singleton, forall_eq]
      refine ⟨k, buffer, rfl, ?_, hlt, ?_⟩
      · rw [hlast, hslot, DialogueEvent.request]
      · have hlength := hnumber.add_right 1
        rwa [Nat.sub_add_cancel (by omega)] at hlength

/-- What holds of the reply that a step writes holds of everything that has been written. -/
theorem written_of_step {d d' : Dialogue β} {e : DialogueEvent β} {Q : WrittenReply β → Prop}
    (h : d.Follows mb id frameType) (hs : d.step mb router e = some d')
    (hwritten : ∀ w ∈ d.written, Q w)
    (hreply : ∀ k buffer, e = .reply k (some buffer) → k < d.session.accepted.length →
      d.session.accepted.length ≡ k + 1 [MOD 65536] →
      Q ⟨d.session.accepted, d.session.accepted.getLast?, some k,
        mb.update (mb.convertTo frameType buffer)⟩) : ∀ w ∈ d'.written, Q w := by
  obtain ⟨new, hnew, hw⟩ := written_step h hs
  rw [hnew]
  intro w hmem
  rcases List.mem_append.mp hmem with hmem | hmem
  · exact hwritten w hmem
  · obtain ⟨k, buffer, he, rfl, hk, hmod⟩ := hw w hmem
    exact hreply k buffer he hk hmod

/-- A frame that has been written is the reply to the latest request or to one a multiple of
65536 requests before it. -/
theorem latest_or_aliased {d : Dialogue β} {k : ℕ} {f : β} (hk : k < d.session.accepted.length)
    (hmod : d.session.accepted.length ≡ k + 1 [MOD 65536]) :
    let w : WrittenReply β := ⟨d.session.accepted, d.session.accepted.getLast?, some k, f⟩
    w.Latest ∨ w.Aliased := by
  intro w
  obtain ⟨m, hm⟩ := (Nat.modEq_iff_dvd' (by omega)).mp hmod.symm
  have hlast : w.lastInfo = d.session.accepted[k + 65536 * m]? := by
    show d.session.accepted.getLast? = _
    rw [List.getLast?_eq_getElem?]
    congr 1
    omega
  rcases Nat.eq_zero_or_pos m with rfl | hpos
  · exact Or.inl ⟨k, rfl, by show k + 1 = d.session.accepted.length; omega, hlast⟩
  · refine Or.inr ⟨k, m, rfl, Nat.pos_iff_ne_zero.mp hpos, ?_, hlast⟩
    show k + 1 + 65536 * m = d.session.accepted.length
    omega

/-- **Replies to numbered requests.**  In every run in which the masters' replies are prompt,
every frame that the slave writes is the reply to the latest request it has accepted; and in
every run a frame that is the reply to another request is the reply to one that is a non-zero
multiple of 65536 requests before the latest.  A frame is the buffer of its reply, converted to
the slave's type of frames. -/
theorem latest_exec {es : List (DialogueEvent β)} {d : Dialogue β}
    (hrun : exec (step mb router) (new id frameType) es = some d) :
    d.written.map (·.modbusBuffer) = d.session.slave.effects.filterMap writtenFrame ∧
    (∀ w ∈ d.written, ∃ k buffer, .reply k (some buffer) ∈ es ∧ w.request = some k ∧
      w.modbusBuffer = mb.update (mb.convertTo frameType buffer)) ∧
    (along (step mb router) prompt (new id frameType) es = true → ∀ w ∈ d.written, w.Latest) ∧
    ∀ w ∈ d.written, w.Latest ∨ w.Aliased := by
  have hnew : (new id frameType : Dialogue β).Follows mb id frameType :=
    ⟨Session.follows_new id frameType, Session.numbered_new id frameType, rfl⟩
  refine ⟨?_, ?_, ?_, ?_⟩
  · exact (invariant (fun _ _ _ h hs => follows_step h hs) es _ d hnew hrun).written
  · intro w hw
    have hreplied := mem_of_record (g := fun _ e => some e) (f := written)
      (R := fun e w => ∃ k buffer, e = .reply k (some buffer) ∧ w.request = some k ∧
        w.modbusBuffer = mb.update (mb.convertTo frameType buffer))
      (fun _ _ _ h hs => follows_step h hs) (fun d e d' h hs => ?_) es _ d hnew hrun w hw
    · rcases hreplied with hnone | ⟨e, he, k, buffer, rfl, hrequest, hbuffer⟩
      · cases hnone
      · rw [record_of_events hrun, List.filterMap_some] at he
        exact ⟨k, buffer, he, hrequest, hbuffer⟩
    · refine written_of_step (Q := fun w => w ∈ d.written ∨ _) h hs (fun w hw => Or.inl hw) ?_
      exact fun k buffer he _ _ => Or.inr ⟨e, rfl, k, buffer, he, rfl, rfl⟩
  · intro halong
    -- a reply that is prompt is not a multiple of 65536 requests late
    refine (invariant_along (I := fun d => d.Follows mb id frameType ∧ ∀ w ∈ d.written, w.Latest)
      ?_ es _ d ⟨hnew, fun w hw => absurd hw List.not_mem_nil⟩ halong hrun).2
    rintro d e d' ⟨h, hwritten⟩ hprompt hs
    refine ⟨follows_step h hs, written_of_step h hs hwritten fun k buffer he hk hmod => ?_⟩
    rcases latest_or_aliased hk hmod with hlatest | ⟨k', m, hk', hm, hlength, -⟩
    · exact hlatest
    · obtain rfl : k = k' := Option.some.inj hk'
      subst he
      have hlt : d.session.accepted.length < k + 1 + 65536 := of_decide_eq_true hprompt
      have hle : 65536 ≤ 65536 * m := Nat.le_mul_of_pos_right _ (Nat.pos_of_ne_zero hm)
      exact absurd (hlength.le.trans_lt hlt) (by omega)
  · refine (invariant (I := fun d => d.Follows mb id frameType ∧
      ∀ w ∈ d.written, w.Latest ∨ w.Aliased) ?_ es _ d
      ⟨hnew, fun w hw => absurd hw List.not_mem_nil⟩ hrun).2
    rintro d e d' ⟨h, hwritten⟩ hs
    refine ⟨follows_step h hs, written_of_step h hs hwritten fun k buffer _ hk hmod => ?_⟩
    exact latest_or_aliased hk hmod

/-- Two requests to different units, a late reply to the first and the reply to the second. -/
def pipelinedRun : List (DialogueEvent Frame) :=
  [(Frame.rtu 1 [3, 0, 0, 0, 1]).bytes, (Frame.rtu 2 [3, 0, 0, 0, 1]).bytes].flatMap
    (fun data => [.io (.complete 0 ⟨.success, data⟩), .io (.handle 0 0 0)]) ++
  [0, 1].map fun k => .reply k (some (Frame.tcp 9 1 [3, 2, 0, 7]))

/-- Only the reply to the second request is written. -/
theorem latest_pipelined :
    ∃ d, exec (step Frame.library (.new 2)) (new 5 .RTU) pipelinedRun = some d ∧
      d.written.map WrittenReply.request = [some 1] ∧ ∀ w ∈ d.written, w.Latest := by
  have hwritten : (exec (step Frame.library (.new 2)) (new 5 .RTU) pipelinedRun).map
      (·.written.map WrittenReply.request) = some [some 1] := by decide +kernel
  obtain ⟨d, hd, hrequest⟩ := Option.map_eq_some_iff.mp hwritten
  exact ⟨d, hd, hrequest, (latest_exec hd).2.2.1 (by decide +kernel)⟩

end Dialogue

end ModbusRtuSlave

end ModbusGateway
