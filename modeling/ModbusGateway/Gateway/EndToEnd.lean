import Mathlib.Data.List.Forall2
import ModbusGateway.Gateway.Reads
import ModbusGateway.ModbusFrame

/-!
# From client to device and back

What the gateway does for its clients and devices, in every run and whatever the kinds of the
actors: a request is written to a device at most once and in the order in which the slaves
sent it on, with its unit id and its PDU; a reply is a block that was read for the request, and is
sent back at most once and in the order of the requests; and what is written to a client is, in
order, what has been sent to it.

Connections come and go in these runs, and their ids are used again.

## Main definitions

* `Network.ReadFor` — a reply is a block that was read for a request.
* `Network.DeviceLog` — what a master has done for its device.
* `Network.ClientLog` — what has been done for the clients under an id.

## Main results

* `Network.deviceLog_exec` — **the record of every master.**
* `Network.clientLog_exec` — **the record of every client.**
-/

namespace ModbusGateway

open Proactor Execution Transaction

variable {β : Type}

/-- The request that a master writes to its device, and the frame in which it does. -/
def Deed.written : Deed β → Option (ModbusMessage β × β)
  | .master (.write message _ modbusBuffer) => some (message, modbusBuffer)
  | _ => none

namespace Network

/-- The requests that a master has written, oldest first, each with its frame. -/
def written (s : Network β) (id : ActorId) : List (ModbusMessage β × β) :=
  (s.journal.of id).filterMap Deed.written

/-- The frames that have been written to the clients under an id, oldest first. -/
def answers (s : Network β) (id : ActorId) : List β := (s.journal.of id).filterMap Deed.answer

/-- The reply of a master to the request `w` is the block `r`, which it accepts: `w` is the
request that it has written under the number of the block. -/
structure ReadFor (mb : Modbus β) (s₀ s : Network β) (master : ActorId)
    (reply : ActorId × ModbusMessage β) (w : ModbusMessage β × β) (r : ℕ × List UInt8) :
    Prop where
  accepted : (s₀.role master).accept mb r.2 = some reply.2.modbusBuffer
  request : ∃ k, r.1 = k + 1 ∧ (s.written master)[k]? = some w
  source : reply.1 = w.1.modbusMessageInfo.sourceId
  info : reply.2.modbusMessageInfo = w.1.modbusMessageInfo

/-- What a master has done for its device in the run `es`. -/
structure DeviceLog (mb : Modbus β) (s₀ s : Network β) (es : List (Event β)) (id : ActorId) :
    Prop where
  /-- Whatever it has been sent is a request that a slave has read, accepted and routed to it. -/
  posted : ∀ post ∈ s.addressed id, Posted mb s₀ es post.1 id post.2
  /-- The frames it has written carry, in order, some of the requests it has been sent. -/
  carried : List.SublistForall₂ (fun w post => w.1 = post.2 ∧
    mb.Carries (s₀.role id).frameType post.2.modbusBuffer w.2) (s.written id) (s.addressed id)
  /-- It has sent, in order, replies to some of the requests it has written. -/
  replies : List.SublistForall₂ (fun reply w =>
    reply.1 = w.1.modbusMessageInfo.sourceId ∧
      reply.2.modbusMessageInfo = w.1.modbusMessageInfo) (s.sent id) (s.written id)
  /-- The replies are, in order, some of the blocks it has read, each read for its request. -/
  read : List.SublistForall₂ (fun reply r => ∃ w, ReadFor mb s₀ s id reply w r) (s.sent id)
    (s₀.blocks mb es id)

/-- A message to a slave that a master has sent: a block that the master has read for a request,
which the slave had sent it and which it had written, and that it has accepted. -/
structure Replied (mb : Modbus β) (s₀ s : Network β) (es : List (Event β)) (id : ActorId)
    (reply : ActorId × ModbusMessage β) : Prop where
  master : (s₀.role reply.1).isMaster = true
  read : ∃ w, ∃ r ∈ s₀.blocks mb es reply.1, ReadFor mb s₀ s reply.1 (id, reply.2) w r ∧
    (id, w.1) ∈ s.addressed reply.1 ∧ Posted mb s₀ es id reply.1 w.1

/-- What has been done for the clients under an id in the run `es`. -/
structure ClientLog (mb : Modbus β) (s₀ s : Network β) (es : List (Event β)) (id : ActorId) :
    Prop where
  /-- Whatever a slave has been sent is a reply of a master, or a request that was routed to it
  as if it were a master. -/
  origin : ∀ reply ∈ s.addressed id, Replied mb s₀ s es id reply ∨
    Posted mb s₀ es reply.1 id reply.2
  /-- The frames written carry, in order, some of the messages it has been sent; a TCP client
  finds the transaction id of its request in them. -/
  carried : List.SublistForall₂ (fun frame reply =>
    mb.Carries (s₀.role id).frameType reply.2.modbusBuffer frame ∧
      (s₀.role id = .connection →
        mb.getTransactionId frame = reply.2.modbusMessageInfo.transactionId))
    (s.answers id) (s.addressed id)
  /-- There are no more of them than requests have been accepted. -/
  count : (s.answers id).length ≤ (s.sent id).length

variable {mb : Modbus β} {s₀ s : Network β} {es : List (Event β)} {id : ActorId}

/-! ### What a master has done -/

/-- The deeds of a master are its history. -/
theorem Inv.exists_history (h : Inv mb s₀ id [] s) (hmaster : (s₀.role id).isMaster = true) :
    ∃ effects : List (MasterEffect β), s.journal.of id = effects.map .master ∧
      (∃ o, Paired AnswersTo (acts effects) o) ∧
      ((requests effects).map Prod.fst).Sublist ((s.addressed id).map Prod.snd) := by
  obtain ⟨p, hp⟩ := h.exists_master hmaster
  have hrole := h.roles id p hp
  obtain ⟨effects, hdeeds, hpaired, hreceived⟩ :=
    (h.sound id p hp).history (hrole ▸ hmaster)
  have hjournal : s.journal.of id = effects.map .master := by
    rw [h.deeds id p hp (Role.ne_connection hmaster), hdeeds]
  obtain ⟨delivered, haddressed, hdigests⟩ := h.delivered id
  rw [mail, Journal.mail_nil, List.append_nil] at haddressed
  rw [Role.digests_master hmaster, hjournal, List.filterMap_map] at hdigests
  refine ⟨effects, hjournal, hpaired, ?_⟩
  have harrived : effects.filterMap MasterEffect.arrival = delivered.map Prod.snd := by
    rw [← hdigests]
    exact congrArg _ List.filterMap_some.symm
  rw [haddressed, ← harrived]
  exact hreceived

/-- The requests written are those of the history, without their frames. -/
theorem map_fst_written (effects : List (MasterEffect β)) :
    ((effects.map Deed.master).filterMap Deed.written).map Prod.fst =
      (requests effects).map Prod.fst := by
  induction effects with
  | nil => rfl
  | cons e es ih =>
    rw [← List.singleton_append, requests_append, List.map_append, List.map_append,
      List.filterMap_append, List.map_append, ih]
    cases e <;> rfl

/-- What is in order in some of a list may use what holds of every element. -/
theorem sublistForall₂_imp {α γ : Type*} {P : α → Prop} {R S : α → γ → Prop} {as : List α}
    {cs : List γ} (h : List.SublistForall₂ R as cs) (hP : ∀ a ∈ as, P a)
    (himp : ∀ a c, P a → R a c → S a c) : List.SublistForall₂ S as cs := by
  obtain ⟨l, hall, hsub⟩ := List.sublistForall₂_iff.mp h
  refine List.sublistForall₂_iff.mpr ⟨l, ?_, hsub⟩
  exact ((List.forall₂_and_left _ _).mpr ⟨hP, hall⟩).imp fun a c hac => himp a c hac.1 hac.2

theorem exists_of_sublistForall₂ {α γ : Type*} {R : α → γ → Prop} {as : List α} {cs : List γ}
    (h : List.SublistForall₂ R as cs) {a : α} (ha : a ∈ as) : ∃ c ∈ cs, R a c := by
  induction h with
  | nil => cases ha
  | @cons a' c as cs hR _ ih =>
    rcases List.mem_cons.mp ha with rfl | hmem
    · exact ⟨c, List.mem_cons_self, hR⟩
    · obtain ⟨c', hc', hR'⟩ := ih hmem
      exact ⟨c', List.mem_cons_of_mem _ hc', hR'⟩
  | cons_right _ ih =>
    obtain ⟨c', hc', hR'⟩ := ih ha
    exact ⟨c', List.mem_cons_of_mem _ hc', hR'⟩

/-- What is addressed to an actor has been handed to the exchange by its sender. -/
theorem mem_sent {sender : ActorId} {message : ModbusMessage β}
    (hmem : (sender, message) ∈ s.addressed id) : (id, message) ∈ s.sent sender := by
  obtain ⟨d, hd, hsent⟩ := Journal.mem_addressed.mp hmem
  exact List.mem_filterMap.mpr ⟨d, Journal.mem_of.mpr hd, hsent⟩

/-- A message comes from a master, which answers its source, or from a slave, which sends a
request on. -/
theorem Inv.sender_cases (h : Inv mb s₀ id [] s) {sender : ActorId} {message : ModbusMessage β}
    (hmem : (sender, message) ∈ s.addressed id) :
    ((s₀.role sender).isMaster = true ∧ id = message.modbusMessageInfo.sourceId) ∨
    Routed mb s₀.router (s₀.role sender) sender id message := by
  obtain ⟨d, hd, hsent⟩ := Journal.mem_addressed.mp hmem
  have hfits := h.fits sender d hd
  cases d with
  | master e =>
    cases e with
    | send actorId reply =>
      obtain ⟨rfl, rfl⟩ := Prod.mk.inj (Option.some.inj hsent)
      exact Or.inl ⟨hfits.1, hfits.2.1⟩
    | _ => cases hsent
  | connection e =>
    cases e with
    | send actorId post =>
      obtain ⟨rfl, rfl⟩ := Prod.mk.inj (Option.some.inj hsent)
      exact Or.inr hfits
    | _ => cases hsent
  | rtuSlave e =>
    cases e with
    | send actorId post =>
      obtain ⟨rfl, rfl⟩ := Prod.mk.inj (Option.some.inj hsent)
      exact Or.inr hfits
    | _ => cases hsent

/-- A master is sent requests only: whatever a master sends is about a request of a slave, and
goes to that slave. -/
theorem Inv.routed (h : Inv mb s₀ id [] s) (hmaster : (s₀.role id).isMaster = true) :
    ∀ post ∈ s.addressed id, Routed mb s₀.router (s₀.role post.1) post.1 id post.2 := by
  rintro ⟨sender, message⟩ hmem
  rcases h.sender_cases hmem with ⟨-, hsource⟩ | hrouted
  · have hslave := h.sources id _ hmem
    rw [← hsource, hmaster] at hslave
    cases hslave
  · exact hrouted

/-- Every request that a master has been sent was read by the slave that sent it on. -/
theorem posted_exec (hinitial : s₀.Initial) (hrun : exec (step mb) s₀ es = some s)
    (hmaster : (s₀.role id).isMaster = true) :
    ∀ post ∈ s.addressed id, Posted mb s₀ es post.1 id post.2 := by
  intro post hpost
  have hrouted := (inv_exec hinitial hrun id).routed hmaster post hpost
  exact posted_of_sent hinitial hrun hrouted (mem_sent hpost)

/-- A frame that is written is the frame of its request. -/
theorem Inv.frame_written (h : Inv mb s₀ id [] s) :
    ∀ w ∈ s.written id, (s₀.role id).isMaster = true ∧
      ∃ transactionId, w.2 = (s₀.role id).requestFrame mb w.1 transactionId := by
  intro w hw
  obtain ⟨d, hd, hwritten⟩ := List.mem_filterMap.mp hw
  have hfits := h.fits id d (Journal.mem_of.mp hd)
  cases d with
  | master e =>
    cases e with
    | write message transactionId modbusBuffer =>
      cases hwritten
      exact ⟨hfits.1, transactionId, hfits.2⟩
    | _ => cases hwritten
  | _ => cases hwritten

/-- What a master has handed to the exchange are its answers. -/
theorem Inv.sent_eq (h : Inv mb s₀ id [] s) (hmaster : (s₀.role id).isMaster = true) :
    s.sent id = (s.responses id).map Prod.snd := by
  obtain ⟨effects, hjournal, -, -⟩ := h.exists_history hmaster
  rw [sent, responses, hjournal, Participant.filterMap_sent, Participant.filterMap_effect]
  rfl

/-- An answer of a master is one to the request that it has written under the number. -/
theorem Inv.exists_written (h : Inv mb s₀ id [] s) (hmaster : (s₀.role id).isMaster = true) :
    ∀ a ∈ s.responses id, ∃ k w, a.1 = k + 1 ∧ (s.written id)[k]? = some w ∧
      a.2.1 = w.1.modbusMessageInfo.sourceId ∧
      a.2.2.modbusMessageInfo = w.1.modbusMessageInfo := by
  intro a ha
  obtain ⟨effects, hjournal, ⟨o, hpaired⟩, -⟩ := h.exists_history hmaster
  rw [responses, hjournal, Participant.filterMap_effect] at ha
  obtain ⟨k, request, hnumber, hget, hsource, hinfo⟩ := hpaired.answer_spec a ha
  have hwritten : ((s.written id).map Prod.fst)[k]? = some request.1 := by
    rw [written, hjournal, map_fst_written, List.getElem?_map]
    exact congrArg (Option.map Prod.fst) hget
  rw [List.getElem?_map] at hwritten
  obtain ⟨w, hw, heq⟩ := Option.map_eq_some_iff.mp hwritten
  rw [← heq] at hsource hinfo
  exact ⟨k, w, hnumber, hw, hsource, hinfo⟩

/-- The replies of a master are, in order, blocks that it has read for their requests. -/
theorem readFor_exec (hinitial : s₀.Initial) (hrun : exec (step mb) s₀ es = some s)
    (hmaster : (s₀.role id).isMaster = true) :
    List.SublistForall₂ (fun reply r => ∃ w, ReadFor mb s₀ s id reply w r) (s.sent id)
      (s₀.blocks mb es id) := by
  have h := inv_exec hinitial hrun id
  rw [h.sent_eq hmaster]
  refine List.sublistForall₂_map_left_iff.mpr (sublistForall₂_imp
    (blocks_exec hinitial hrun hmaster) (h.exists_written hmaster) ?_)
  rintro a r ⟨k, w, hnumber, hw, hsource, hinfo⟩ ⟨heq, haccept⟩
  exact ⟨w, haccept, ⟨k, heq.symm.trans hnumber, hw⟩, hsource, hinfo⟩

/-- **The record of every master**, in every run from the start: what it has been sent are
requests that slaves have read and accepted; it has written some of them in their order, each at
most once, with their unit ids and PDUs in frames of its own type; and it has sent back, in the
order of the requests, replies that it has read for them. -/
theorem deviceLog_exec {β : Type} {mb : Modbus β} (hmb : mb.Reframes) {s₀ s : Network β}
    {es : List (Event β)} (hinitial : s₀.Initial) (hrun : exec (step mb) s₀ es = some s)
    {id : ActorId} (hmaster : (s₀.role id).isMaster = true) : DeviceLog mb s₀ s es id := by
  have h := inv_exec hinitial hrun id
  obtain ⟨effects, hjournal, ⟨o, hpaired⟩, hreceived⟩ := h.exists_history hmaster
  have hwritten : (s.written id).map Prod.fst = (requests effects).map Prod.fst := by
    rw [written, hjournal, map_fst_written]
  have hsent : s.sent id = (Transaction.answers 0 (acts effects)).map Prod.snd := by
    rw [sent, hjournal, Participant.filterMap_sent]
  refine ⟨posted_exec hinitial hrun hmaster, ?_, ?_, readFor_exec hinitial hrun hmaster⟩
  · rw [← hwritten] at hreceived
    have hsame : List.SublistForall₂ (fun (w : ModbusMessage β × β) post => w.1 = post.2)
        (s.written id) (s.addressed id) :=
      List.sublistForall₂_map_right_iff.mp
        (List.sublistForall₂_map_left_iff.mp hreceived.sublistForall₂)
    refine sublistForall₂_imp hsame h.frame_written fun w post hframe heq => ⟨heq, ?_⟩
    obtain ⟨-, transactionId, hframe⟩ := hframe
    rw [hframe, heq]
    exact Role.carries_requestFrame hmb hmaster post.2 transactionId
  · have hreplies : List.SublistForall₂ (fun (reply : Response β) (m : ModbusMessage β) =>
        reply.1 = m.modbusMessageInfo.sourceId ∧
          reply.2.modbusMessageInfo = m.modbusMessageInfo)
        (s.sent id) ((s.written id).map Prod.fst) := by
      rw [hwritten, hsent]
      exact List.sublistForall₂_map_right_iff.mpr hpaired.sublistForall₂
    exact List.sublistForall₂_map_right_iff.mp hreplies

/-! ### What has been done for the clients -/

/-- A request that a master has written was sent to it by the slave whose id it bears. -/
theorem Inv.addressed_of_written (h : Inv mb s₀ id [] s) (hmaster : (s₀.role id).isMaster = true)
    {w : ModbusMessage β × β} (hw : w ∈ s.written id) :
    (w.1.modbusMessageInfo.sourceId, w.1) ∈ s.addressed id := by
  obtain ⟨effects, hjournal, -, hreceived⟩ := h.exists_history hmaster
  have hrequest : w.1 ∈ (requests effects).map Prod.fst := by
    rw [← map_fst_written, ← hjournal]
    exact List.mem_map_of_mem hw
  obtain ⟨⟨sender, message⟩, hpost, rfl⟩ := List.mem_map.mp (hreceived.subset hrequest)
  have hsource : w.1.modbusMessageInfo.sourceId = sender := (h.routed hmaster _ hpost).source
  rw [hsource]
  exact hpost

/-- A reply that a master has sent was read for a request that it has written, and that was sent
to it by the slave the reply is for. -/
theorem replied_of_sent (hinitial : s₀.Initial) (hrun : exec (step mb) s₀ es = some s)
    {master : ActorId} {message : ModbusMessage β} (hmaster : (s₀.role master).isMaster = true)
    (hsent : (id, message) ∈ s.sent master) : Replied mb s₀ s es id (master, message) := by
  have h := inv_exec hinitial hrun master
  obtain ⟨r, hr, w, hread⟩ :=
    exists_of_sublistForall₂ (readFor_exec hinitial hrun hmaster) hsent
  obtain ⟨k, -, hget⟩ := hread.request
  have hpost := h.addressed_of_written hmaster (List.mem_of_getElem? hget)
  rw [← hread.source] at hpost
  exact ⟨hmaster, w, r, hr, hread, hpost, posted_exec hinitial hrun hmaster _ hpost⟩

/-- **The record of every client**, in every run from the start and however often its id was
used before: the frames written carry, in order and each at most once, messages sent to the
id; these are replies that a master has read for requests accepted under the id, unless the
router has sent a slave's request there; and there are no more of them than requests. -/
theorem clientLog_exec {β : Type} {mb : Modbus β} (hmb : mb.Reframes) {s₀ s : Network β}
    {es : List (Event β)} (hinitial : s₀.Initial) (hrun : exec (step mb) s₀ es = some s)
    {id : ActorId} (hslave : (s₀.role id).isMaster = false) : ClientLog mb s₀ s es id := by
  have h := inv_exec hinitial hrun id
  refine ⟨?_, ?_, (Nat.le_add_right _ _).trans (h.answers id)⟩
  · rintro ⟨sender, message⟩ hmem
    rcases h.sender_cases hmem with ⟨hmaster, -⟩ | hrouted
    · exact Or.inl (replied_of_sent hinitial hrun hmaster (mem_sent hmem))
    · exact Or.inr (posted_of_sent hinitial hrun hrouted (mem_sent hmem))
  · obtain ⟨delivered, haddressed, hdigests⟩ := h.delivered id
    rw [mail, Journal.mail_nil, List.append_nil] at haddressed
    rw [Role.digests_slave hslave, ← haddressed, List.map_map] at hdigests
    have hframes : List.SublistForall₂ (fun frame (reply : ActorId × ModbusMessage β) =>
        frame = (s₀.role id).replyFrame mb reply.2) (s.answers id) (s.addressed id) :=
      List.sublistForall₂_map_right_iff.mp hdigests.sublistForall₂
    refine sublistForall₂_imp (P := fun _ => True) hframes (fun _ _ => trivial) ?_
    rintro frame ⟨sender, reply⟩ - rfl
    refine ⟨Role.carries_replyFrame hmb hslave reply, fun hconnection => ?_⟩
    rw [hconnection]
    exact hmb.toLawful.getTransactionId_toTcp _ _

/-! ### A run across both kinds of line -/

/-- A TCP server, with id 2, and an RTU master, with id 4, to which unit 8 is routed. -/
def serialDevice : Network Frame where
  defaultId := 0
  router := (Router.new 0).set 8 4
  actors := Function.update (Function.update (fun _ => none)
    2 (some (.tcpServer TcpServer.new.start))) 4 (some (.rtuMaster (.new 1000 .RTU)))
  journal := []

theorem initial_serialDevice : serialDevice.Initial where
  journal := rfl
  fresh := by
    intro id p hp
    simp only [serialDevice, Function.update_apply] at hp
    split at hp
    · cases hp
      exact ⟨1000, .RTU, rfl⟩
    split at hp
    · cases hp
      rfl
    · cases hp

/-- A client connects under id 5 and reads a register of unit 8; the device answers. -/
def serialRun : List (Event Frame) :=
  [.actor 2 (.accept 0 .success) 0,
    .handleAccept 2 0 5 false false,
    .actor 5 (.connection (.complete 0 ⟨.success, (Frame.tcp 9 8 [3, 0, 0, 0, 1]).bytes⟩)) 0,
    .actor 5 (.connection (.handle 0 0 0)) 0,
    .actor 4 (.rtuMaster (.complete 0 ⟨.success, []⟩)) 0,
    .actor 4 (.rtuMaster (.handle 0 0)) 0,
    .actor 4 (.rtuMaster (.complete 0 ⟨.success, (Frame.rtu 8 [3, 2, 0, 42]).bytes⟩)) 0,
    .actor 4 (.rtuMaster (.handle 0 0)) 0]

/-- The request reaches the device as an RTU frame, and the reply the client as a TCP frame. -/
theorem exec_serialRun : ∃ s, exec (step Frame.library) serialDevice serialRun = some s ∧
    (s.written 4).map Prod.snd = [Frame.rtu 8 [3, 0, 0, 0, 1]] ∧
    s.answers 5 = [Frame.tcp 9 8 [3, 2, 0, 42]] :=
  ⟨_, rfl, by decide +kernel, by decide +kernel⟩

theorem deviceLog_serial :
    ∃ s, exec (step Frame.library) serialDevice serialRun = some s ∧
      DeviceLog Frame.library serialDevice s serialRun 4 := by
  obtain ⟨s, hrun, -⟩ := exec_serialRun
  exact ⟨s, hrun, deviceLog_exec Frame.library_reframes initial_serialDevice hrun rfl⟩

theorem clientLog_serial :
    ∃ s, exec (step Frame.library) serialDevice serialRun = some s ∧
      ClientLog Frame.library serialDevice s serialRun 5 := by
  obtain ⟨s, hrun, -⟩ := exec_serialRun
  exact ⟨s, hrun, clientLog_exec Frame.library_reframes initial_serialDevice hrun rfl⟩

end Network

end ModbusGateway
