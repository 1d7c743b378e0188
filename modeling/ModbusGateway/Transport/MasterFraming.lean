import ModbusGateway.Library.Framing
import ModbusGateway.Transport.MasterView
import ModbusGateway.Transport.RtuMasterBus
import ModbusGateway.Transport.TcpClientReplies

/-!
# Replies and the blocks in which they are read

A master reads once for each request: the first block that arrives is the whole reply,
or there is none.  A reply that comes in one block is handed to the request's source; of
a reply that comes in several blocks the first one ends the wait of the request, and
what is left is there for the read of a later one.

## Main definitions

* `block` — the block that is handled in an event, with the number of the request whose
  read it was.
* `Replied` — a request has been answered once, with the given reply, and no block has been
  read for another request.

## Main results

* `responses_step` — **what a step answers**: the request of the block, if the block as it
  stands is a reply to it.
* `replied_cut` — **a request is answered with a whole reply exactly if the reply comes in
  one block.**
-/

namespace ModbusGateway

open Proactor Execution Transaction Framing

variable {β : Type} {mb : Modbus β}

/-- The request of the given number has been answered with the given reply and with nothing
else, and nothing has been read for another request. -/
def Replied (request : ℕ) (response : Response β) (effects : List (MasterEffect β))
    (blocks : List (ℕ × List UInt8)) : Prop :=
  (responses effects).filter (fun p => decide (p.1 = request)) = [(request, response)] ∧
    ∀ p ∈ blocks, p.1 = request

section

variable {effects es : List (MasterEffect β)}

theorem responses_append_silent (h : ∀ e ∈ es, e.silent = true) :
    responses (effects ++ es) = responses effects := by
  rw [responses, acts_append_silent h]
  rfl

theorem responses_expire (messages : List (ModbusMessage β)) :
    responses (effects ++ messages.map .expire) = responses effects := by
  refine responses_append_silent fun e he => ?_
  obtain ⟨message, -, rfl⟩ := List.mem_map.mp he
  rfl

theorem responses_write (message : ModbusMessage β) (id : TransactionId) (buffer : β) :
    responses (effects ++ [.write message id buffer]) = responses effects := by
  have hact : acts [.write message id buffer] = [.start (message, id)] := rfl
  rw [responses, acts_append, hact, answers_concat_start]
  rfl

theorem responses_send (actorId : ActorId) (message : ModbusMessage β) :
    responses (effects ++ [.send actorId message]) =
      responses effects ++ [(started effects, actorId, message)] := by
  have hact : acts [.send actorId message] = [.answer (actorId, message)] := rfl
  rw [responses, acts_append, hact, answers_concat_answer, Nat.zero_add]
  rfl

end

/-! ### A master as a reader -/

/-- A master as a reader of blocks: what it answers is what it makes of the block that is
handled, and that is a frame it accepts. -/
structure BlockReader (β σ ε : Type) where
  step : σ → ε → Option σ
  effects : σ → List (MasterEffect β)
  /-- The block that is handled in an event, with the number of the request it is read for. -/
  block : σ → ε → Option (ℕ × List UInt8)
  /-- The answer that is made of a block. -/
  reply : σ → List UInt8 → Option (Response β)
  accept : List UInt8 → Option β
  Inv : σ → Prop
  inv_step : ∀ s e s', Inv s → step s e = some s' → Inv s'
  responses_step : ∀ s e s', Inv s → step s e = some s' →
    (∀ p, block s e = some p → p.1 = started (effects s)) ∧
    responses (effects s') = responses (effects s) ++
      ((block s e).bind fun p => (reply s p.2).map (started (effects s), ·)).toList
  accept_of_reply : ∀ s data response, Inv s → reply s data = some response →
    accept data = some response.2.modbusBuffer

namespace BlockReader

variable {σ ε : Type} (r : BlockReader β σ ε)

/-- An answer given in a run contains a block that has been handled in it. -/
theorem mem_responses {es : List ε} {s t : σ} (hs : r.Inv s)
    (hrun : exec r.step s es = some t) : ∀ a ∈ responses (r.effects t),
      a ∈ responses (r.effects s) ∨
      ∃ d ∈ record r.step r.block s es, r.accept d.2 = some a.2.2.modbusBuffer := by
  refine mem_of_record (f := fun s => responses (r.effects s))
    (R := fun (d : ℕ × List UInt8) a => r.accept d.2 = some a.2.2.modbusBuffer) r.inv_step
    (fun s e s' hs h a ha => ?_) es s t hs hrun
  rw [(r.responses_step s e s' hs h).2, List.mem_append, Option.mem_toList] at ha
  refine ha.imp_right fun hnew => ?_
  obtain ⟨p, hp, hreply⟩ := Option.bind_eq_some_iff.mp hnew
  obtain ⟨response, hresponse, rfl⟩ := Option.map_eq_some_iff.mp hreply
  exact ⟨p, hp, r.accept_of_reply s p.2 response hs hresponse⟩

/-- A run in which no block is handled answers nothing. -/
theorem responses_of_record_nil {es : List ε} {s t : σ} (hs : r.Inv s)
    (hrun : exec r.step s es = some t) (hnil : record r.step r.block s es = []) :
    responses (r.effects t) = responses (r.effects s) := by
  refine (invariant_along (P := fun s e => (r.block s e).isNone)
    (I := fun s' => r.Inv s' ∧ responses (r.effects s') = responses (r.effects s)) ?_ es s t
    ⟨hs, rfl⟩ (along_of_record_nil hnil) hrun).2
  rintro s₁ e s₂ ⟨hs₁, hsame⟩ hnone h
  refine ⟨r.inv_step s₁ e s₂ hs₁ h, ?_⟩
  rw [(r.responses_step s₁ e s₂ hs₁ h).2, Option.isNone_iff_eq_none.mp hnone, hsame]
  exact List.append_nil _

/-- **A request is answered with a whole reply exactly if the reply comes in one block.**
`Waiting` says that the request waits for the reply, which ends when a block is handled;
`rest` are the blocks that have not been handled yet. -/
theorem replied_iff (Waiting : σ → Prop) (ok : σ → ε → Bool) (adu : β → List UInt8) {n : ℕ}
    {frame : List UInt8} {response : Response β}
    (hwaiting : ∀ s, Waiting s → r.Inv s ∧ started (r.effects s) = n ∧
      r.reply s frame = some response)
    (hstep : ∀ s e s', Waiting s → ok s e = true → r.block s e = none → r.step s e = some s' →
      Waiting s')
    (hadu : ∀ data buffer, r.accept data = some buffer → adu buffer = data)
    {es : List ε} {s t : σ} (hs : Waiting s)
    (hunanswered : ∀ p ∈ responses (r.effects s), p.1 < n) (hrun : exec r.step s es = some t)
    (hok : along r.step ok s es = true) {rest : List (List UInt8)}
    (hcut : Cut ((record r.step r.block s es).map Prod.snd ++ rest) [frame]) :
    Replied n response (r.effects t) (record r.step r.block s es) ↔
      (record r.step r.block s es).map Prod.snd = [frame] := by
  obtain ⟨hinv, hn, hreply⟩ := hwaiting s hs
  have hframe : adu response.2.modbusBuffer = frame :=
    hadu _ _ (r.accept_of_reply s frame response hinv hreply)
  constructor
  · rintro ⟨hfilter, -⟩
    by_contra hblocks
    -- the answer contains a block, but all blocks are shorter than the frame
    have hmem : (n, response) ∈ responses (r.effects t) := by
      refine List.mem_of_mem_filter (p := fun p => decide (p.1 = n)) ?_
      rw [hfilter]
      exact List.mem_singleton_self _
    rcases r.mem_responses hinv hrun _ hmem with hold | ⟨d, hd, haccept⟩
    · exact absurd (hunanswered _ hold) (Nat.lt_irrefl n)
    · have hmem : d.2 ∈ (record r.step r.block s es).map Prod.snd := List.mem_map_of_mem hd
      have hcuts : (record r.step r.block s es).map Prod.snd ++ rest ≠ [frame] := fun heq =>
        (List.append_eq_singleton_iff.mp heq).elim
          (fun h => List.not_mem_nil (h.1 ▸ hmem)) (fun h => hblocks h.1)
      have hlt := hcut.length_lt hcuts d.2 (List.mem_append_left rest hmem)
      rw [← hadu _ _ haccept, hframe] at hlt
      exact absurd hlt (Nat.lt_irrefl _)
  · intro hblocks
    obtain ⟨d, hd, hsnd⟩ := List.map_eq_singleton_iff.mp hblocks
    obtain ⟨es₁, e, es₂, s₁, s₂, rfl, hrun₁, hnil, hs₁, hblock, hrun₂, hnil'⟩ :=
      exists_of_record_cons hrun hd
    -- the request waits until the block is handled, is answered then, and not again
    have hwait₁ : Waiting s₁ := by
      refine invariant_along (P := fun s e => ok s e && (r.block s e).isNone) ?_ es₁ s s₁ hs
        (along_and (along_append hrun₁ hok).1 (along_of_record_nil hnil)) hrun₁
      intro s e s' hs hP h
      rw [Bool.and_eq_true, Option.isNone_iff_eq_none] at hP
      exact hstep s e s' hs hP.1 hP.2 h
    obtain ⟨hinv₁, hn₁, hreply₁⟩ := hwaiting s₁ hwait₁
    obtain ⟨hnumber, hresponses⟩ := r.responses_step s₁ e s₂ hinv₁ hs₁
    have hlast : responses (r.effects t) = responses (r.effects s) ++ [(n, response)] := by
      rw [r.responses_of_record_nil (r.inv_step s₁ e s₂ hinv₁ hs₁) hrun₂ hnil', hresponses,
        r.responses_of_record_nil hinv hrun₁ hnil, hblock]
      simp [hsnd, hreply₁, hn₁]
    refine ⟨?_, ?_⟩
    · have hnone : (responses (r.effects s)).filter (fun p => decide (p.1 = n)) = [] := by
        rw [List.filter_eq_nil_iff]
        intro p hp heq
        exact absurd (hunanswered p hp) (by rw [of_decide_eq_true heq]; exact Nat.lt_irrefl n)
      rw [hlast, List.filter_append, hnone]
      simp
    · intro p hp
      rw [hd, List.mem_singleton] at hp
      rw [hp, hnumber d hblock, hn₁]

end BlockReader

/-! ### The TCP client -/

namespace ModbusTcpClient

variable {c c' : ModbusTcpClient β}

/-- The block that is handled in an event, with the number of the request whose receive it
was. -/
def block (c : ModbusTcpClient β) : Event β → Option (ℕ × List UInt8)
  | .handle i _ _ =>
    match c.socket.ops.take i with
    | some (.receive request, ⟨.success, data⟩, _) => some (request, data)
    | _ => none
  | _ => none

/-- No receive ends with an error. -/
def receives (c : ModbusTcpClient β) : Event β → Bool
  | .handle i _ _ =>
    match c.socket.ops.take i with
    | some (.receive _, result, _) => !result.ec.failed
    | _ => true
  | _ => true

/-- The answer that a client makes of a block. -/
def reply (mb : Modbus β) (c : ModbusTcpClient β) (data : List UInt8) : Option (Response β) :=
  (c.makeResponse mb data).1.map fun message => (message.modbusMessageInfo.sourceId, message)

/-- An answer contains a block that is a well-formed frame. -/
theorem accept_of_reply {data : List UInt8} {response : Response β}
    (h : c.reply mb data = some response) :
    mb.accept mb.tcpCheck .TCP data = some response.2.modbusBuffer := by
  obtain ⟨message, hmessage, rfl⟩ := Option.map_eq_some_iff.mp h
  rcases makeResponse_cases mb c data with
    ⟨heq, -⟩ | ⟨current, buffer, -, -, heq, -⟩ | ⟨current, buffer, -, hread, heq, hcheck, -⟩ <;>
    rw [heq] at hmessage
  · cases hmessage
  · cases hmessage
  · obtain rfl := Option.some.inj hmessage
    rw [Modbus.accept, hread]
    simp [Option.filter, hcheck]

/-- A well-formed frame with the transaction id of the request in process is its answer. -/
theorem reply_eq_some {current : ModbusCurrentMessage β} {data : List UInt8} {buffer : β}
    (hcur : c.currentMessage = some current)
    (haccept : mb.accept mb.tcpCheck .TCP data = some buffer)
    (hid : mb.getTransactionId buffer = current.id) :
    c.reply mb data = some (current.modbusMessage.modbusMessageInfo.sourceId,
      ⟨current.modbusMessage.modbusMessageInfo, buffer⟩) := by
  obtain ⟨hread, hcheck⟩ := Modbus.read_of_accept haccept
  simp [reply, makeResponse, hcur, hread, hcheck, hid]

/-- The answer depends on the request in process only. -/
theorem reply_congr (mb : Modbus β) (c c' : ModbusTcpClient β)
    (h : c'.currentMessage = c.currentMessage) (data : List UInt8) :
    c'.reply mb data = c.reply mb data := by
  unfold reply makeResponse
  rw [h]
  cases c.currentMessage with
  | none => rfl
  | some current =>
    cases mb.read .TCP data with
    | none => rfl
    | some buffer => dsimp only; split <;> [skip; split] <;> rfl

theorem responses_queueProcessUnsafe (mb : Modbus β) (c : ModbusTcpClient β) (now : Nanoseconds) :
    responses (c.queueProcessUnsafe mb now).effects = responses c.effects := by
  have hpop : responses (c.popExpired now).effects = responses c.effects := responses_expire _
  rcases queueProcessUnsafe_cases mb c now with
    ⟨heq, -⟩ | ⟨heq, -, -⟩ | ⟨heq, -, -, -⟩ | ⟨message, heq, -, -, -⟩ <;> rw [heq]
  · exact responses_append_silent (silent_singleton rfl)
  · exact hpop
  · exact (responses_write _ _ _).trans hpop

/-- What is made of a block before the queue is processed. -/
theorem responses_received (mb : Modbus β) (c : ModbusTcpClient β) (data : List UInt8) :
    responses (c.received mb data).effects =
      responses c.effects ++ ((c.reply mb data).map (c.request, ·)).toList := by
  rw [← reply_congr mb c { c with timer := c.timer.cancel } rfl data, reply, received]
  rcases makeResponse_cases mb { c with timer := c.timer.cancel } data with
    ⟨heq, -⟩ | ⟨current, buffer, -, -, heq, -⟩ | ⟨current, buffer, -, -, heq, -⟩ <;>
    simp only [heq, sendResponse]
  · exact (List.append_nil _).symm
  · exact (List.append_nil _).symm
  · exact responses_send _ _

/-- **What a step answers**: the request of the block that is handled, if the block is a reply
to it as it stands. -/
theorem responses_step {e : Event β} (hctl : Control c) (hs : step mb c e = some c') :
    (∀ p, c.block e = some p → p.1 = c.request) ∧
    responses c'.effects = responses c.effects ++
      ((c.block e).bind fun p => (c.reply mb p.2).map (c.request, ·)).toList := by
  have hquiet : c.block e = none → responses c'.effects = responses c.effects →
      (∀ p, c.block e = some p → p.1 = c.request) ∧
      responses c'.effects = responses c.effects ++
        ((c.block e).bind fun p => (c.reply mb p.2).map (c.request, ·)).toList := by
    intro hnone hsame
    rw [hnone, hsame]
    exact ⟨fun p hp => absurd hp (Option.some_ne_none _).symm, (List.append_nil _).symm⟩
  cases step_branch hctl.exchange hs with
  | receive message now =>
    refine hquiet rfl ((responses_queueProcessUnsafe mb _ now).trans ?_)
    exact responses_append_silent (silent_singleton rfl)
  | complete hops => exact hquiet rfl rfl
  | connectFailed ht hec => exact hquiet (by simp only [block, ht]) rfl
  | connected ht hec now =>
    exact hquiet (by simp only [block, ht]) (responses_queueProcessUnsafe mb _ now)
  | @sendFailed i n buffer result ops ht hec =>
    obtain ⟨state, socket, heq, -⟩ := dropCurrent_eq (c.withOps ops) result.ec
    exact hquiet (by simp only [block, ht]) (by rw [heq]; rfl)
  | sent ht hec => exact hquiet (by simp only [block, ht]) rfl
  | @receiveFailed i n result ops ht hec =>
    obtain ⟨state, socket, heq, -⟩ :=
      dropCurrent_eq { c.withOps ops with timer := c.timer.cancel } result.ec
    refine hquiet ?_ (by rw [heq]; rfl)
    -- a receive that fails yields no block
    obtain ⟨ec, data⟩ := result
    simp only [block, ht]
    cases ec with
    | success => cases hec
    | _ => rfl
  | @received i n result ops ht hec peerGone now =>
    obtain ⟨ec, data⟩ := result
    obtain rfl : ec = .success := hec
    have hblock : c.block (.handle i peerGone now) = some (n, data) := by simp only [block, ht]
    rw [hblock]
    refine ⟨fun p hp => ?_, ?_⟩
    · obtain rfl := Option.some.inj hp
      exact ((take_data hctl ht).2.2 n rfl).2.1
    · rw [responses_queueProcessUnsafe, responses_received, reply_congr mb c (c.withOps ops) rfl]
      rfl
  | expire hw => exact hquiet rfl rfl
  | waitFailed ht hec => exact hquiet rfl rfl
  | timeout ht => exact hquiet rfl (responses_append_silent (silent_singleton rfl))

/-- The request in process waits for its reply. -/
structure AwaitsReply (current : ModbusCurrentMessage β) (n : ℕ) (c : ModbusTcpClient β) :
    Prop where
  control : Control c
  current : c.currentMessage = some current
  request : c.request = n
  receive : .receive n ∈ c.socket.ops.kinds

/-- Nothing is done to the queue while a request waits. -/
theorem awaitsReply_queueProcessUnsafe {current : ModbusCurrentMessage β} {n : ℕ}
    (h : AwaitsReply current n c) (now : Nanoseconds) :
    AwaitsReply current n (c.queueProcessUnsafe mb now) := by
  have hcontrol : Control (c.queueProcessUnsafe mb now) := control_queueProcessUnsafe h.control now
  rcases queueProcessUnsafe_cases mb c now with
    ⟨heq, -⟩ | ⟨heq, -, -⟩ | ⟨-, -, hnone, -⟩ | ⟨message, -, -, hnone, -⟩
  · rw [heq]
    exact h
  · rw [heq] at hcontrol ⊢
    refine ⟨hcontrol, h.current, startConnectTaskUnsafe_request.trans h.request, ?_⟩
    simp [startConnectTaskUnsafe, h.receive]
  · exact absurd (h.current.symm.trans hnone) (Option.some_ne_none _)
  · exact absurd (h.current.symm.trans hnone) (Option.some_ne_none _)

/-- **A request waits** until a block is handled or its receive fails. -/
theorem awaitsReply_step {current : ModbusCurrentMessage β} {n : ℕ} {e : Event β}
    (h : AwaitsReply current n c) (hok : c.receives e = true) (hnone : c.block e = none)
    (hs : step mb c e = some c') : AwaitsReply current n c' := by
  have hcontrol' := control_step h.control hs
  -- while it waits, nothing but its receive is outstanding
  have hother : ∀ {i m buffer result ops},
      c.socket.ops.take i ≠ some (.send m buffer, result, ops) := by
    intro i m buffer result ops ht
    obtain ⟨-, -, -, hnil⟩ := (take_data h.control ht).2.2 m rfl
    have hmem : .receive n ∈ ClientOp.send m buffer :: ops.kinds :=
      (Pool.kinds_take ht).mem_iff.mp h.receive
    have hrest : n ∈ (c.withOps ops).dataOps :=
      List.mem_filterMap.mpr ⟨_, List.mem_of_ne_of_mem (by simp) hmem, rfl⟩
    rw [hnil] at hrest
    cases hrest
  have hconnect : ∀ {i result ops}, c.socket.ops.take i = some (.connect, result, ops) →
      .receive n ∈ ops.kinds := by
    intro i result ops ht
    exact List.mem_of_ne_of_mem (by simp) ((Pool.kinds_take ht).mem_iff.mp h.receive)
  cases step_branch h.control.exchange hs with
  | receive message now =>
    have hpush : AwaitsReply current n (c.pushMessage message) :=
      ⟨h.control.congr rfl rfl rfl rfl (pushMessage_request message), h.current,
        (pushMessage_request message).trans h.request, h.receive⟩
    exact awaitsReply_queueProcessUnsafe hpush now
  | complete hops =>
    exact ⟨hcontrol', h.current, h.request, (Pool.kinds_complete hops) ▸ h.receive⟩
  | connectFailed ht hec => exact ⟨hcontrol', h.current, h.request, hconnect ht⟩
  | @connected i result ops ht hec now =>
    have hconnected : AwaitsReply current n { c.withOps ops with state := .Connected } :=
      ⟨(take_data h.control ht).1.with_state (Or.inl rfl), h.current, h.request, hconnect ht⟩
    exact awaitsReply_queueProcessUnsafe hconnected now
  | sendFailed ht hec => exact absurd ht hother
  | sent ht hec => exact absurd ht hother
  | @receiveFailed i m result ops ht hec =>
    simp [receives, ht, hec] at hok
  | @received i m result ops ht hec peerGone now =>
    obtain ⟨ec, data⟩ := result
    obtain rfl : ec = .success := hec
    simp [block, ht] at hnone
  | expire hw => exact ⟨hcontrol', h.current, h.request, h.receive⟩
  | waitFailed ht hec => exact ⟨hcontrol', h.current, h.request, h.receive⟩
  | timeout ht =>
    refine ⟨hcontrol', h.current, ?_, ?_⟩
    · exact (request_note (silent_singleton rfl)).trans h.request
    · simpa using h.receive

/-- No answer has been given to the request in process. -/
theorem History.unanswered {current : ModbusCurrentMessage β} (h : History mb c)
    (hcur : c.currentMessage = some current) : ∀ p ∈ responses c.effects, p.1 < c.request := by
  obtain ⟨o, hpaired, hopen⟩ := h.paired
  obtain ⟨message, rfl, -⟩ := hopen current hcur
  exact hpaired.answer_lt_of_open rfl

/-- The client as a reader. -/
def reader (mb : Modbus β) : BlockReader β (ModbusTcpClient β) (Event β) where
  step := step mb
  effects := effects
  block := block
  reply := reply mb
  accept := mb.accept mb.tcpCheck .TCP
  Inv := Control
  inv_step _ _ _ := control_step
  responses_step _ _ _ := responses_step
  accept_of_reply _ _ _ _ := accept_of_reply

/-- **A reply to the TCP client** is handed on exactly if it comes in one block. -/
theorem replied_iff (hmb : mb.ReadsBack) {timeout : Milliseconds} {es₀ es : List (Event β)}
    {current : ModbusCurrentMessage β} {frame : List UInt8} {buffer : β}
    (hrun₀ : exec (step mb) (new timeout) es₀ = some c) (hcur : c.currentMessage = some current)
    (hreceive : .receive c.request ∈ c.socket.ops.kinds)
    (hvalid : mb.accept mb.tcpCheck .TCP frame = some buffer)
    (hid : mb.getTransactionId buffer = current.id) (hrun : exec (step mb) c es = some c')
    (hreceives : along (step mb) receives c es = true) {rest : List (List UInt8)}
    (hcut : Cut ((record (step mb) block c es).map Prod.snd ++ rest) [frame]) :
    Replied c.request (current.modbusMessage.modbusMessageInfo.sourceId,
      ⟨current.modbusMessage.modbusMessageInfo, buffer⟩) c'.effects
      (record (step mb) block c es) ↔
    (record (step mb) block c es).map Prod.snd = [frame] := by
  refine (reader mb).replied_iff (AwaitsReply current c.request) receives mb.adu ?_ ?_ ?_
    ⟨control_exec hrun₀, hcur, rfl, hreceive⟩ ((history_exec hrun₀).unanswered hcur) hrun hreceives
    hcut
  · intro s hs
    exact ⟨hs.control, hs.request, reply_eq_some hs.current hvalid hid⟩
  · intro s e s' hs hok hnone h
    exact awaitsReply_step hs hok hnone h
  · intro data buffer haccept
    exact hmb _ _ _ (Modbus.read_of_accept haccept).1

end ModbusTcpClient

/-! ### The RTU master -/

namespace ModbusRtuMaster

variable {m m' : ModbusRtuMaster β}

/-- The answers of a master are given to the request in process. -/
def Paired (m : ModbusRtuMaster β) : Prop :=
  ∃ o, Transaction.Paired (fun (r : Request β) (a : Response β) =>
    a.1 = r.1.modbusMessageInfo.sourceId ∧ a.2.modbusMessageInfo = r.1.modbusMessageInfo)
    (acts m.effects) o ∧
  ∀ current, m.currentMessage = some current → ∃ message, o = some (message, current.id) ∧
    message.modbusMessageInfo = current.modbusMessage.modbusMessageInfo

theorem Paired.congr (h : m.Paired) (ha : acts m'.effects = acts m.effects)
    (hm : m'.currentMessage = m.currentMessage ∨ m'.currentMessage = none) : m'.Paired := by
  obtain ⟨o, hpaired, hopen⟩ := h
  refine ⟨o, ha ▸ hpaired, fun current hcur => ?_⟩
  rcases hm with hm | hm <;> rw [hm] at hcur
  · exact hopen current hcur
  · cases hcur

theorem paired_queueProcessUnsafe (h : m.Paired) (now : Nanoseconds) :
    (m.queueProcessUnsafe mb now).Paired := by
  have hpop : acts (m.popExpired now).effects = acts m.effects :=
    acts_append_silent (popExpired_silent now)
  rcases queueProcessUnsafe_cases mb m now with
    ⟨heq, -⟩ | ⟨heq, -, -⟩ | ⟨message, heq, -, -⟩ <;> rw [heq]
  · exact h
  · exact h.congr hpop (Or.inl rfl)
  · obtain ⟨o, hpaired, -⟩ := h
    refine ⟨some (message, m.transactionIdGenerator + 1), ?_, fun current hcur => ?_⟩
    · rw [acts_startMessageTaskUnsafe, hpop]
      exact .start _ hpaired
    · obtain rfl := Option.some.inj hcur
      exact ⟨message, rfl, rfl⟩

theorem paired_answered (h : m.Paired) (data : List UInt8) : (m.answered mb data).Paired := by
  rcases answered_cases mb m data with
    ⟨heq, -⟩ | ⟨current, buffer, -, -, heq, -⟩ | ⟨current, buffer, hcur, -, heq, -⟩ <;> rw [heq]
  · exact h.congr rfl (Or.inl rfl)
  · exact h.congr rfl (Or.inr rfl)
  · -- the answer goes to the request in process, which it closes
    obtain ⟨o, hpaired, hopen⟩ := h
    obtain ⟨message, rfl, hinfo⟩ := hopen current hcur
    refine ⟨none, ?_, fun current hnone => by cases hnone⟩
    rw [note, acts_append]
    exact hpaired.answer _ ⟨by rw [hinfo], hinfo.symm⟩

theorem paired_step {e : Event β} (hctl : Control m) (h : m.Paired)
    (hs : step mb m e = some m') : m'.Paired := by
  cases step_branch hctl.exchange hs with
  | receive message now =>
    have hpush : (m.pushMessage message).Paired :=
      h.congr (acts_append_silent (silent_singleton rfl)) (Or.inl rfl)
    exact paired_queueProcessUnsafe hpush now
  | complete hops => exact h.congr rfl (Or.inl rfl)
  | writeFailed ht hec => exact h.congr rfl (Or.inr rfl)
  | written ht hec => exact h.congr rfl (Or.inl rfl)
  | readFailed ht hec => exact h.congr rfl (Or.inr rfl)
  | @read i n result ops ht hec now =>
    have hops : (m.withOps ops).Paired := h.congr rfl (Or.inl rfl)
    exact paired_queueProcessUnsafe (paired_answered hops result.data) now
  | expire hw => exact h.congr rfl (Or.inl rfl)
  | waitFailed ht hec => exact h.congr rfl (Or.inl rfl)
  | timeout ht => exact h.congr (acts_append_silent (silent_singleton rfl)) (Or.inl rfl)

/-- No answer has been given to the request in process. -/
theorem unanswered_exec {timeout : Milliseconds} {frameType : FrameType} {es : List (Event β)}
    {current : ModbusCurrentMessage β} (h : exec (step mb) (new timeout frameType) es = some m)
    (hcur : m.currentMessage = some current) : ∀ p ∈ responses m.effects, p.1 < m.request := by
  obtain ⟨-, o, hpaired, hopen⟩ := invariant (I := fun m => Control m ∧ m.Paired)
    (fun _ _ _ hI hs => ⟨control_step hI.1 hs, paired_step hI.1 hI.2 hs⟩) es _ _
    ⟨control_new timeout frameType, none, .nil, fun current hnone => by cases hnone⟩ h
  obtain ⟨message, rfl, -⟩ := hopen current hcur
  exact hpaired.answer_lt_of_open rfl

/-- The block that is handled in an event, with the number of the request whose read it was. -/
def block (m : ModbusRtuMaster β) : Event β → Option (ℕ × List UInt8)
  | .handle i _ =>
    match m.serialPort.ops.take i with
    | some (.read request, ⟨.success, data⟩, _) => some (request, data)
    | _ => none
  | _ => none

/-- No read ends with an error. -/
def reads (m : ModbusRtuMaster β) : Event β → Bool
  | .handle i _ =>
    match m.serialPort.ops.take i with
    | some (.read _, result, _) => !result.ec.failed
    | _ => true
  | _ => true

/-- The answer that a master makes of a block. -/
def reply (mb : Modbus β) (m : ModbusRtuMaster β) (data : List UInt8) : Option (Response β) :=
  (m.makeResponse mb data).1.map fun message => (message.modbusMessageInfo.sourceId, message)

/-- An answer contains a block that is a well-formed frame, and every such block is an answer to
the request in process. -/
theorem reply_eq_some_iff {data : List UInt8} {response : Response β} :
    m.reply mb data = some response ↔ ∃ current buffer, m.currentMessage = some current ∧
      mb.accept mb.check m.frameType data = some buffer ∧
      response = (current.modbusMessage.modbusMessageInfo.sourceId,
        ⟨current.modbusMessage.modbusMessageInfo, buffer⟩) := by
  unfold reply makeResponse Modbus.accept
  cases m.currentMessage with
  | none => simp
  | some current =>
    cases mb.read m.frameType data with
    | none => simp
    | some buffer =>
      by_cases hcheck : mb.check buffer = .NoError
      · simp [Option.filter, hcheck, eq_comm]
      · simp [Option.filter, hcheck]

/-- The answer depends on the request in process and the frame type only. -/
theorem reply_congr (mb : Modbus β) (m m' : ModbusRtuMaster β)
    (hc : m'.currentMessage = m.currentMessage) (hf : m'.frameType = m.frameType)
    (data : List UInt8) : m'.reply mb data = m.reply mb data := by
  refine Option.ext fun response => ?_
  rw [reply_eq_some_iff, reply_eq_some_iff, hc, hf]

theorem responses_queueProcessUnsafe (mb : Modbus β) (m : ModbusRtuMaster β) (now : Nanoseconds) :
    responses (m.queueProcessUnsafe mb now).effects = responses m.effects := by
  have hpop : responses (m.popExpired now).effects = responses m.effects := responses_expire _
  rcases queueProcessUnsafe_cases mb m now with
    ⟨heq, -⟩ | ⟨heq, -, -⟩ | ⟨message, heq, -, -⟩ <;> rw [heq]
  · exact hpop
  · exact (responses_write _ _ _).trans hpop

/-- What is made of a block before the queue is processed. -/
theorem responses_answered (mb : Modbus β) (m : ModbusRtuMaster β) (data : List UInt8) :
    responses (m.answered mb data).effects =
      responses m.effects ++ ((m.reply mb data).map (m.request, ·)).toList := by
  unfold answered reply makeResponse
  cases m.currentMessage with
  | none => exact (List.append_nil _).symm
  | some current =>
    cases hread : mb.read m.frameType data with
    | none => simp [hread, sendResponse]
    | some buffer =>
      by_cases hcheck : mb.check buffer = .NoError
      · simp only [hread, hcheck, ne_eq, not_true, if_false, sendResponse, note]
        exact responses_send _ _
      · simp [hread, hcheck, sendResponse]

/-- **What a step answers**: the request of the block that is handled, if the block is a reply
to it as it stands. -/
theorem responses_step {e : Event β} (hctl : Control m) (hs : step mb m e = some m') :
    (∀ p, m.block e = some p → p.1 = m.request) ∧
    responses m'.effects = responses m.effects ++
      ((m.block e).bind fun p => (m.reply mb p.2).map (m.request, ·)).toList := by
  have hquiet : m.block e = none → responses m'.effects = responses m.effects →
      (∀ p, m.block e = some p → p.1 = m.request) ∧
      responses m'.effects = responses m.effects ++
        ((m.block e).bind fun p => (m.reply mb p.2).map (m.request, ·)).toList := by
    intro hnone hsame
    rw [hnone, hsame]
    exact ⟨fun p hp => absurd hp (Option.some_ne_none _).symm, (List.append_nil _).symm⟩
  cases step_branch hctl.exchange hs with
  | receive message now =>
    refine hquiet rfl ((responses_queueProcessUnsafe mb _ now).trans ?_)
    exact responses_append_silent (silent_singleton rfl)
  | complete hops => exact hquiet rfl rfl
  | writeFailed ht hec => exact hquiet (by simp only [block, ht]) rfl
  | written ht hec => exact hquiet (by simp only [block, ht]) rfl
  | @readFailed i n result ops ht hec =>
    refine hquiet ?_ rfl
    -- a read that fails yields no block
    obtain ⟨ec, data⟩ := result
    simp only [block, ht]
    cases ec with
    | success => cases hec
    | _ => rfl
  | @read i n result ops ht hec now =>
    obtain ⟨ec, data⟩ := result
    obtain rfl : ec = .success := hec
    have hblock : m.block (.handle i now) = some (n, data) := by simp only [block, ht]
    rw [hblock]
    refine ⟨fun p hp => ?_, ?_⟩
    · obtain rfl := Option.some.inj hp
      exact (take_outstanding hctl ht).2.1
    · rw [responses_queueProcessUnsafe, responses_answered,
        reply_congr mb m (m.withOps ops) rfl rfl]
      rfl
  | expire hw => exact hquiet rfl rfl
  | waitFailed ht hec => exact hquiet rfl rfl
  | timeout ht => exact hquiet rfl (responses_append_silent (silent_singleton rfl))

/-- The request in process waits for its reply. -/
structure AwaitsReply (current : ModbusCurrentMessage β) (n : ℕ) (frameType : FrameType)
    (m : ModbusRtuMaster β) : Prop where
  control : Control m
  frameType : m.frameType = frameType
  current : m.currentMessage = some current
  request : m.request = n
  read : .read n ∈ m.serialPort.ops.kinds

/-- **A request waits** until a block is handled or its read fails. -/
theorem awaitsReply_step {current : ModbusCurrentMessage β} {n : ℕ} {frameType : FrameType}
    {e : Event β} (h : AwaitsReply current n frameType m) (hok : m.reads e = true)
    (hnone : m.block e = none) (hs : step mb m e = some m') :
    AwaitsReply current n frameType m' := by
  have hcontrol' := control_step h.control hs
  have htype' := (frameType_step h.control hs).trans h.frameType
  -- while it waits, nothing but its read is outstanding
  have hother : ∀ {i k buffer result ops},
      m.serialPort.ops.take i ≠ some (.write k buffer, result, ops) := by
    intro i k buffer result ops ht
    obtain ⟨-, -, -, rfl⟩ := take_outstanding h.control ht
    have hmem : .read n ∈ [RtuOp.write k buffer] := (Pool.kinds_take ht).mem_iff.mp h.read
    cases List.mem_singleton.mp hmem
  cases step_branch h.control.exchange hs with
  | receive message now =>
    rcases queueProcessUnsafe_cases mb (m.pushMessage message) now with
      ⟨heq, -⟩ | ⟨-, hnone', -⟩ | ⟨message', -, hnone', -⟩
    · rw [heq] at hcontrol' htype' ⊢
      exact ⟨hcontrol', htype', h.current, (pushMessage_request message).trans h.request, h.read⟩
    · exact absurd (h.current.symm.trans hnone') (Option.some_ne_none _)
    · exact absurd (h.current.symm.trans hnone') (Option.some_ne_none _)
  | complete hops =>
    exact ⟨hcontrol', htype', h.current, h.request, (Pool.kinds_complete hops) ▸ h.read⟩
  | writeFailed ht hec => exact absurd ht hother
  | written ht hec => exact absurd ht hother
  | readFailed ht hec => simp [reads, ht, hec] at hok
  | @read i k result ops ht hec now =>
    obtain ⟨ec, data⟩ := result
    obtain rfl : ec = .success := hec
    simp [block, ht] at hnone
  | expire hw => exact ⟨hcontrol', htype', h.current, h.request, h.read⟩
  | waitFailed ht hec => exact ⟨hcontrol', htype', h.current, h.request, h.read⟩
  | timeout ht =>
    refine ⟨hcontrol', htype', h.current, ?_, ?_⟩
    · exact (note_request (silent_singleton rfl)).trans h.request
    · simpa using h.read

/-- The master as a reader. -/
def reader (mb : Modbus β) (frameType : FrameType) :
    BlockReader β (ModbusRtuMaster β) (Event β) where
  step := step mb
  effects := effects
  block := block
  reply := reply mb
  accept := mb.accept mb.check frameType
  Inv m := Control m ∧ m.frameType = frameType
  inv_step _ _ _ h hs := ⟨control_step h.1 hs, (frameType_step h.1 hs).trans h.2⟩
  responses_step _ _ _ h hs := responses_step h.1 hs
  accept_of_reply _ _ _ h hreply := by
    obtain ⟨current, buffer, -, haccept, rfl⟩ := reply_eq_some_iff.mp hreply
    rw [← h.2]
    exact haccept

/-- **A reply to the RTU master** is handed on exactly if it comes in one block. -/
theorem replied_iff (hmb : mb.ReadsBack) {timeout : Milliseconds} {frameType : FrameType}
    {es₀ es : List (Event β)} {current : ModbusCurrentMessage β} {frame : List UInt8} {buffer : β}
    (hrun₀ : exec (step mb) (new timeout frameType) es₀ = some m)
    (hcur : m.currentMessage = some current) (hread : .read m.request ∈ m.serialPort.ops.kinds)
    (hvalid : mb.accept mb.check frameType frame = some buffer)
    (hrun : exec (step mb) m es = some m') (hreads : along (step mb) reads m es = true)
    {rest : List (List UInt8)}
    (hcut : Cut ((record (step mb) block m es).map Prod.snd ++ rest) [frame]) :
    Replied m.request (current.modbusMessage.modbusMessageInfo.sourceId,
      ⟨current.modbusMessage.modbusMessageInfo, buffer⟩) m'.effects
      (record (step mb) block m es) ↔
    (record (step mb) block m es).map Prod.snd = [frame] := by
  have hinv : Control m ∧ m.frameType = frameType :=
    invariant (I := fun m => Control m ∧ m.frameType = frameType) (reader mb frameType).inv_step
      es₀ _ _ ⟨control_new timeout frameType, rfl⟩ hrun₀
  refine (reader mb frameType).replied_iff (AwaitsReply current m.request frameType) reads mb.adu
    ?_ ?_ ?_ ⟨hinv.1, hinv.2, hcur, rfl, hread⟩ (unanswered_exec hrun₀ hcur) hrun hreads hcut
  · intro s hs
    refine ⟨⟨hs.control, hs.frameType⟩, hs.request, ?_⟩
    exact reply_eq_some_iff.mpr ⟨current, buffer, hs.current, hs.frameType ▸ hvalid, rfl⟩
  · intro s e s' hs hok hnone h
    exact awaitsReply_step hs hok hnone h
  · intro data buffer haccept
    exact hmb _ _ _ (Modbus.read_of_accept haccept).1

end ModbusRtuMaster

/-! ### Replies that are sent in blocks -/

/-- **Replies and the blocks in which they are read.**  In every run of the TCP client or of
the RTU master in which the request in process waits for a valid reply and no receive or read
fails, the request is answered with the reply, and with it only, and nothing is read for
another request, exactly if the reply comes in one block. -/
theorem replied_cut (hmb : mb.ReadsBack) :
    (∀ timeout es₀ c current frame buffer es c' rest,
      exec (ModbusTcpClient.step mb) (.new timeout) es₀ = some c →
      c.currentMessage = some current → .receive c.request ∈ c.socket.ops.kinds →
      mb.accept mb.tcpCheck .TCP frame = some buffer →
      mb.getTransactionId buffer = current.id → exec (ModbusTcpClient.step mb) c es = some c' →
      along (ModbusTcpClient.step mb) ModbusTcpClient.receives c es = true →
      Cut ((record (ModbusTcpClient.step mb) ModbusTcpClient.block c es).map Prod.snd ++ rest)
        [frame] →
      (Replied c.request (current.modbusMessage.modbusMessageInfo.sourceId,
          ⟨current.modbusMessage.modbusMessageInfo, buffer⟩) c'.effects
          (record (ModbusTcpClient.step mb) ModbusTcpClient.block c es) ↔
        (record (ModbusTcpClient.step mb) ModbusTcpClient.block c es).map Prod.snd = [frame])) ∧
    (∀ timeout frameType es₀ m current frame buffer es m' rest,
      exec (ModbusRtuMaster.step mb) (.new timeout frameType) es₀ = some m →
      m.currentMessage = some current → .read m.request ∈ m.serialPort.ops.kinds →
      mb.accept mb.check frameType frame = some buffer →
      exec (ModbusRtuMaster.step mb) m es = some m' →
      along (ModbusRtuMaster.step mb) ModbusRtuMaster.reads m es = true →
      Cut ((record (ModbusRtuMaster.step mb) ModbusRtuMaster.block m es).map Prod.snd ++ rest)
        [frame] →
      (Replied m.request (current.modbusMessage.modbusMessageInfo.sourceId,
          ⟨current.modbusMessage.modbusMessageInfo, buffer⟩) m'.effects
          (record (ModbusRtuMaster.step mb) ModbusRtuMaster.block m es) ↔
        (record (ModbusRtuMaster.step mb) ModbusRtuMaster.block m es).map Prod.snd = [frame])) :=
  ⟨fun _ _ _ _ _ _ _ _ _ hrun₀ hcur hreceive hvalid hid hrun hreceives hcut =>
      ModbusTcpClient.replied_iff hmb hrun₀ hcur hreceive hvalid hid hrun hreceives hcut,
    fun _ _ _ _ _ _ _ _ _ _ hrun₀ hcur hread hvalid hrun hreads hcut =>
      ModbusRtuMaster.replied_iff hmb hrun₀ hcur hread hvalid hrun hreads hcut⟩

/-- The reply to a request for four registers, for a TCP client. -/
def tcpReply : Frame := .tcp 1 1 [3, 8, 0, 7, 0, 7, 0, 7, 0, 7]

/-- The reply to a request for two registers, for an RTU master. -/
def rtuReply : Frame := .rtu 1 [3, 4, 0, 7, 0, 7]

/-- A client that has sent a request to read from unit 1. -/
def ModbusTcpClient.waiting : ModbusTcpClient Frame :=
  (exec (step Frame.library) (.new 1000)
    [.receive (Frame.readRequest 5 9 1) 0, .complete 0 ⟨.success, []⟩, .handle 0 false 0,
      .complete 0 ⟨.success, []⟩, .handle 0 false 0]).get (by decide +kernel)

/-- A block is received. -/
def ModbusTcpClient.receivesBlock (data : List UInt8) : List (ModbusTcpClient.Event Frame) :=
  [.complete 0 ⟨.success, data⟩, .handle 0 false 0]

/-- Two blocks are received, and the next request is sent between them. -/
def ModbusTcpClient.receivesCut (first second : List UInt8) : List (ModbusTcpClient.Event Frame) :=
  receivesBlock first ++ [.receive (Frame.readRequest 6 9 1) 0] ++ receivesBlock [] ++
    receivesBlock second

/-- A master that has written a request to read from unit 1. -/
def ModbusRtuMaster.waiting : ModbusRtuMaster Frame :=
  (exec (step Frame.library) (.new 1000 .RTU)
    [.receive (Frame.readRequest 5 9 1) 0, .complete 0 ⟨.success, []⟩, .handle 0 0]).get
      (by decide +kernel)

/-- A block is read. -/
def ModbusRtuMaster.readsBlock (data : List UInt8) : List (ModbusRtuMaster.Event Frame) :=
  [.complete 0 ⟨.success, data⟩, .handle 0 0]

/-- Two blocks are read, and the next request is written between them. -/
def ModbusRtuMaster.readsCut (first second : List UInt8) : List (ModbusRtuMaster.Event Frame) :=
  readsBlock first ++ [.receive (Frame.readRequest 6 9 1) 0] ++ readsBlock [] ++ readsBlock second

/-- A reply that comes in one block is handed on. -/
theorem replied_whole :
    (∃ c, exec (ModbusTcpClient.step Frame.library) .waiting
        (ModbusTcpClient.receivesBlock tcpReply.bytes) = some c ∧
      Replied 1 (5, ⟨.new 0 5 9, tcpReply⟩) c.effects [(1, tcpReply.bytes)]) ∧
    ∃ m, exec (ModbusRtuMaster.step Frame.library) .waiting
        (ModbusRtuMaster.readsBlock rtuReply.bytes) = some m ∧
      Replied 1 (5, ⟨.new 0 5 9, rtuReply⟩) m.effects [(1, rtuReply.bytes)] := by
  obtain ⟨htcp, hrtu⟩ := replied_cut Frame.library_readsBack
  constructor
  · have hrun : (exec (ModbusTcpClient.step Frame.library) .waiting
        (ModbusTcpClient.receivesBlock tcpReply.bytes)).isSome = true := by decide +kernel
    obtain ⟨c, hc⟩ := Option.isSome_iff_exists.mp hrun
    refine ⟨c, hc, (htcp 1000 _ .waiting ⟨⟨.new 0 5 9, Frame.tcp 1 1 [3, 0, 0, 0, 1]⟩, 1⟩
      tcpReply.bytes tcpReply _ c [] (Option.some_get _).symm ?_ ?_ ?_ ?_ hc ?_ ⟨?_, ?_⟩).mpr ?_⟩
      <;> decide +kernel
  · have hrun : (exec (ModbusRtuMaster.step Frame.library) .waiting
        (ModbusRtuMaster.readsBlock rtuReply.bytes)).isSome = true := by decide +kernel
    obtain ⟨m, hm⟩ := Option.isSome_iff_exists.mp hrun
    refine ⟨m, hm, (hrtu 1000 .RTU _ .waiting ⟨⟨.new 0 5 9, Frame.rtu 1 [3, 0, 0, 0, 1]⟩, 1⟩
      rtuReply.bytes rtuReply _ m [] (Option.some_get _).symm ?_ ?_ ?_ hm ?_ ⟨?_, ?_⟩).mpr ?_⟩ <;>
      decide +kernel

/-- The first block of a reply that is cut ends the wait of the request, and the second block
meets the next one's read. -/
theorem replied_cut_lost :
    (¬ ∀ current frame buffer first second c,
      ModbusTcpClient.waiting.currentMessage = some current →
      Frame.library.accept Frame.library.tcpCheck .TCP frame = some buffer →
      Frame.library.getTransactionId buffer = current.id → Cut [first, second] [frame] →
      exec (ModbusTcpClient.step Frame.library) .waiting
        (ModbusTcpClient.receivesCut first second) = some c →
      Replied 1 (current.modbusMessage.modbusMessageInfo.sourceId,
          ⟨current.modbusMessage.modbusMessageInfo, buffer⟩) c.effects
        (record (ModbusTcpClient.step Frame.library) ModbusTcpClient.block .waiting
          (ModbusTcpClient.receivesCut first second))) ∧
    ¬ ∀ current frame buffer first second m,
      ModbusRtuMaster.waiting.currentMessage = some current →
      Frame.library.accept Frame.library.check .RTU frame = some buffer →
      Cut [first, second] [frame] →
      exec (ModbusRtuMaster.step Frame.library) .waiting
        (ModbusRtuMaster.readsCut first second) = some m →
      Replied 1 (current.modbusMessage.modbusMessageInfo.sourceId,
          ⟨current.modbusMessage.modbusMessageInfo, buffer⟩) m.effects
        (record (ModbusRtuMaster.step Frame.library) ModbusRtuMaster.block .waiting
          (ModbusRtuMaster.readsCut first second)) := by
  constructor
  · intro h
    have hrun : (exec (ModbusTcpClient.step Frame.library) .waiting
        (ModbusTcpClient.receivesCut (tcpReply.bytes.take 9) (tcpReply.bytes.drop 9))).isSome =
          true := by decide +kernel
    obtain ⟨c, hc⟩ := Option.isSome_iff_exists.mp hrun
    have hreplied := h ⟨⟨.new 0 5 9, Frame.tcp 1 1 [3, 0, 0, 0, 1]⟩, 1⟩ tcpReply.bytes tcpReply _ _
      c (by decide +kernel) (by decide +kernel) (by decide +kernel)
      ⟨by decide +kernel, by decide +kernel⟩ hc
    exact absurd hreplied.2 (by decide +kernel)
  · intro h
    have hrun : (exec (ModbusRtuMaster.step Frame.library) .waiting
        (ModbusRtuMaster.readsCut (rtuReply.bytes.take 5) (rtuReply.bytes.drop 5))).isSome =
          true := by decide +kernel
    obtain ⟨m, hm⟩ := Option.isSome_iff_exists.mp hrun
    have hreplied := h ⟨⟨.new 0 5 9, Frame.rtu 1 [3, 0, 0, 0, 1]⟩, 1⟩ rtuReply.bytes rtuReply _ _
      m (by decide +kernel) (by decide +kernel) ⟨by decide +kernel, by decide +kernel⟩ hm
    exact absurd hreplied.2 (by decide +kernel)

end ModbusGateway
