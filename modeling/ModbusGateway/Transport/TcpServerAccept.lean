import ModbusGateway.ModbusFrame
import ModbusGateway.Transport.ModbusTcpServer

/-!
# The TCP server keeps accepting

Until it is stopped a server has one accept outstanding, as long as its accept
handler reaches the next `AcceptTask()`.  On the way it calls `remote_endpoint()`
without an error code, in its own message and in `Start()` of the new connection; a
peer that has reset the connection by then makes the call throw, and the exception
ends the program.

## Main definitions

* `Accepting s` — no exception has been thrown, and one accept is outstanding.
* `beforeStop`, `peerPresent` — the events of a run before `Stop()`, and those at
  which the peer is still there.

## Main results

* `accepting_exec` — **the server keeps accepting in every run before `Stop()` in
  which the peer of every accepted connection is there while the handler runs.**
-/

namespace ModbusGateway

open Proactor Execution

namespace ModbusTcpServer

variable {β : Type} {mb : Modbus β} {s s' : ModbusTcpServer β}

/-- No exception has been thrown, and exactly one accept is outstanding. -/
def Accepting (s : ModbusTcpServer β) : Prop := s.terminated = false ∧ s.acceptor.length = 1

instance : Decidable s.Accepting := inferInstanceAs (Decidable (_ ∧ _))

/-- The server is not stopped, and an accept that nobody has cancelled does not complete
with `operation_aborted`. -/
def beforeStop (_ : ModbusTcpServer β) : Event β → Bool
  | .stop => false
  | .accept _ ec => decide (ec ≠ .operationAborted)
  | _ => true

/-- The event does not run the handler of a successful accept whose peer is gone. -/
def peerPresent (s : ModbusTcpServer β) : Event β → Bool
  | .handleAccept i _ peerGone startPeerGone =>
    match s.acceptor.take i with
    | some (_, ec, _) => ec.failed || !(peerGone || startPeerGone)
    | none => true
  | _ => true

/-- What the server's loop depends on. -/
structure Loop (s : ModbusTcpServer β) : Prop where
  accepting : s.Accepting
  exchange : s.exchange = true
  notAborted : ∀ o ∈ s.acceptor, o.result ≠ some .operationAborted

theorem loop_start (id : ActorId) (router : Router) (masters : List ActorId) :
    Loop (new id router masters : ModbusTcpServer β).start where
  accepting := ⟨rfl, rfl⟩
  exchange := rfl
  notAborted := by
    intro o ho
    rw [List.mem_singleton.mp ho]
    exact fun h => by cases h

/-- The loop reads three things only. -/
theorem Loop.congr (h : Loop s) (ht : s'.terminated = s.terminated)
    (ha : s'.acceptor = s.acceptor) (hx : s'.exchange = s.exchange) : Loop s' where
  accepting := by
    rw [Accepting, ht, ha]
    exact h.accepting
  exchange := hx.trans h.exchange
  notAborted := by rw [ha]; exact h.notAborted

/-- An accept that is started while none is outstanding. -/
theorem Loop.acceptTask (ht : s.terminated = false) (ha : s.acceptor = [])
    (hx : s.exchange = true) : Loop s.acceptTask where
  accepting := ⟨ht, by rw [ModbusTcpServer.acceptTask, ha]; rfl⟩
  exchange := hx
  notAborted := by
    intro o ho
    rw [ModbusTcpServer.acceptTask, ha] at ho
    rw [List.mem_singleton.mp ho]
    exact fun h => by cases h

/-! ### What does not touch the acceptor -/

theorem loop_send (h : Loop s) (k : ℕ) (actorId : ActorId) (message : ModbusMessage β) :
    Loop (s.send mb k actorId message) := by
  unfold send
  split
  · exact h.congr rfl rfl rfl
  split
  · exact h
  split
  · exact h
  · exact h.congr rfl rfl rfl

theorem loop_reply (h : Loop s) (request : Pending β) (modbusBuffer : Option β) :
    Loop (s.reply mb request modbusBuffer) := by
  unfold reply
  dsimp only
  split
  · exact h
  split
  · exact h
  · exact h.congr rfl rfl rfl

theorem loop_perform (h : Loop s) (k : ℕ) (effect : ConnectionEffect β) :
    Loop (s.perform mb k effect) := by
  cases effect with
  | send actorId message => exact loop_send h k actorId message
  | disconnect actorId message =>
    simp only [perform]
    split
    · exact h.congr rfl rfl rfl
    · exact h
  | write modbusBuffer => exact h

theorem loop_foldl_perform (k : ℕ) (effects : List (ConnectionEffect β)) :
    ∀ {s : ModbusTcpServer β}, Loop s → Loop (effects.foldl (perform mb k) s) := by
  induction effects with
  | nil => intro s h; exact h
  | cons effect effects ih => intro s h; exact ih (loop_perform h k effect)

/-! ### The accept handler -/

/-- The accept handler starts the next accept, unless the accept was cancelled or the peer
is gone. -/
theorem loop_acceptHandler {ec : ErrorCode} {id : ActorId} {peerGone startPeerGone : Bool}
    (ht : s.terminated = false) (ha : s.acceptor = []) (hx : s.exchange = true)
    (hec : ec ≠ .operationAborted) (hpeer : (ec.failed || !(peerGone || startPeerGone)) = true) :
    Loop (s.acceptHandler ec id peerGone startPeerGone) := by
  unfold acceptHandler
  rw [if_neg (by simp [hx])]
  by_cases hfailed : ec.failed = true
  · rw [if_pos hfailed, if_neg hec]
    exact Loop.acceptTask ht ha hx
  · have hpresent : peerGone = false ∧ startPeerGone = false := by simpa [hfailed] using hpeer
    obtain ⟨rfl, rfl⟩ := hpresent
    rw [if_neg hfailed, if_neg (by simp)]
    exact Loop.acceptTask ht ha hx

/-- **Every step before `Stop()` at which the peer is there keeps the loop going.** -/
theorem loop_step {e : Event β} (h : Loop s) (hstop : s.beforeStop e = true)
    (hpeer : s.peerPresent e = true) (hs : step mb s e = some s') : Loop s' := by
  have ⟨⟨ht, hlen⟩, hx, hab⟩ := h
  cases step_branch hs with
  | @accept i ec acceptor hacc =>
    simp only [beforeStop, decide_eq_true_eq] at hstop
    refine ⟨⟨ht, ?_⟩, hx, ?_⟩
    · have hkinds := congrArg List.length (Pool.kinds_complete hacc)
      simp only [Pool.kinds, List.length_map] at hkinds
      exact hkinds.trans hlen
    · intro o ho
      rcases Pool.mem_complete hacc ho with hold | ⟨k, -, rfl⟩
      · exact hab o hold
      · exact fun heq => hstop (Option.some.inj heq)
  | @handleAccept i id ec acceptor htake hfree peerGone startPeerGone =>
    simp only [peerPresent] at hpeer
    rw [htake] at hpeer
    have hec : ec ≠ .operationAborted := fun heq => hab _ (Pool.mem_take htake) (by rw [heq])
    -- the accept just taken was the only one
    have hnil : acceptor = [] := by
      have hperm := (Pool.take_perm htake).length_eq
      rw [hlen] at hperm
      exact List.length_eq_zero_iff.mp (Nat.succ.inj hperm).symm
    exact loop_acceptHandler (s := { s with acceptor }) ht hnil hx hec hpeer
  | dead hc hdead => exact h
  | @connection k c c' e hc halive hstep =>
    have hset : Loop (s.setConnection k c') := h.congr rfl rfl rfl
    exact loop_foldl_perform k _ hset
  | @reply i request hi modbusBuffer =>
    have herase : Loop { s with pending := s.pending.eraseIdx i } := h.congr rfl rfl rfl
    exact loop_reply herase request modbusBuffer
  | drop hi => exact h.congr rfl rfl rfl
  | stop => cases hstop

/-- **The server keeps accepting** in every run before `Stop()` in which the peer of every
accepted connection is there while the accept handler runs. -/
theorem accepting_exec {id : ActorId} {router : Router} {masters : List ActorId}
    {es : List (Event β)} (hrun : exec (step mb) (new id router masters).start es = some s)
    (hstop : along (step mb) beforeStop (new id router masters).start es = true)
    (hpeer : along (step mb) peerPresent (new id router masters).start es = true) :
    s.Accepting := by
  refine (invariant_along (I := Loop) ?_ es _ _ (loop_start id router masters)
    (along_and hstop hpeer) hrun).accepting
  intro s e s' h hP hs
  obtain ⟨hstop, hpeer⟩ := Bool.and_eq_true_iff.mp hP
  exact loop_step h hstop hpeer hs

/-- Two clients connect, the second after an accept that has failed. -/
theorem accepting_clients :
    ∃ s, exec (step Frame.library) (new 1 (.new 7) [7]).start
        [.accept 0 .success, .handleAccept 0 2 false false, .accept 0 (.other 103),
          .handleAccept 0 3 false false, .accept 0 .success, .handleAccept 0 3 false false]
        = some s ∧
      s.connections.length = 2 ∧ s.Accepting := by
  obtain ⟨s, hs, hlen⟩ : ∃ s, exec (step Frame.library) (new 1 (.new 7) [7]).start
      [.accept 0 .success, .handleAccept 0 2 false false, .accept 0 (.other 103),
        .handleAccept 0 3 false false, .accept 0 .success, .handleAccept 0 3 false false] = some s ∧
      s.connections.length = 2 := ⟨_, rfl, by decide +kernel⟩
  exact ⟨s, hs, hlen, accepting_exec hs (by decide +kernel) (by decide +kernel)⟩

/-- A client that resets its connection before the accept handler runs ends the program. -/
theorem accepting_peerGone :
    ∃ s, exec (step Frame.library) (new 1 (.new 7) [7]).start
        [.accept 0 .success, .handleAccept 0 2 true true] = some s ∧ ¬ s.Accepting :=
  ⟨_, rfl, by decide +kernel⟩

end ModbusTcpServer

end ModbusGateway
