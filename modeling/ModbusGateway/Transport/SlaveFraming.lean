import ModbusGateway.Library.Framing
import ModbusGateway.Transport.SlaveSession

/-!
# Requests and the blocks in which they are read

A TCP connection and an RTU slave start every read with a fresh buffer and take the
block that they read for one frame: nothing puts the blocks of a frame together, or
takes the frames of a block apart.  So the requests that are handed to the exchange are
the blocks that are well-formed frames as they stand.

## Main definitions

* `SlaveInput.data` — the block that an actor has been given.
* `ConnectionEffect.request`, `SlaveEffect.request` — the request that is handed to the
  exchange.

## Main results

* `ModbusTcpConnection.Session.requests_exec`, `ModbusRtuSlave.Session.requests_exec` —
  **the requests of every session are the blocks that are accepted.**
* `requests_cut` — **they are the frames sent exactly if the blocks are the frames.**
-/

namespace ModbusGateway

open Proactor Execution Framing

variable {β : Type} {mb : Modbus β} {router : Router}

/-- The block that an actor has been given. -/
def SlaveInput.data : SlaveInput β → Option (List UInt8)
  | .block data _ => some data
  | .message _ => none

/-! ### The TCP connection -/

/-- The request that is handed to the exchange. -/
def ConnectionEffect.request : ConnectionEffect β → Option β
  | .send _ request => some request.modbusBuffer
  | _ => none

namespace ModbusTcpConnection

/-- What a connection makes a request of. -/
theorem makeRequest_eq (mb : Modbus β) (data : List UInt8) (id : ActorId) (now : Nanoseconds) :
    (makeRequest mb data id now).map (·.modbusBuffer) = mb.accept mb.tcpCheck .TCP data := by
  unfold makeRequest Modbus.accept
  cases mb.read .TCP data with
  | none => rfl
  | some modbusBuffer =>
    by_cases hcheck : mb.tcpCheck modbusBuffer = .NoError <;> simp [Option.filter, hcheck]

/-- The requests that a connection has handed to the exchange. -/
def requests (c : ModbusTcpConnection β) : List β := c.effects.filterMap ConnectionEffect.request

/-- **A step hands on the block it is given**, if that is a well-formed frame. -/
theorem requests_fire {c c' : ModbusTcpConnection β} {e : SessionEvent β}
    (hx : c.exchange = true) (h : c.fire mb router e = some c') :
    c'.requests = c.requests ++
      ((c.given e).bind SlaveInput.data).toList.filterMap (mb.accept mb.tcpCheck .TCP) := by
  have hquiet : c'.effects = c.effects → (c.given e).bind SlaveInput.data = none →
      c'.requests = c.requests ++
        ((c.given e).bind SlaveInput.data).toList.filterMap (mb.accept mb.tcpCheck .TCP) := by
    intro heffects hnone
    rw [requests, heffects, hnone, requests]
    exact (List.append_nil _).symm
  cases e with
  | stop =>
    obtain rfl := Option.some.inj h
    exact hquiet rfl rfl
  | receive message =>
    obtain rfl := Option.some.inj h
    rcases startSendTask_cases mb c message with ⟨heq, -⟩ | ⟨-, -, -, -, -, heq⟩ |
      ⟨-, modbusBuffer, -, -, -, -, heq⟩
    · exact hquiet (by rw [heq]) rfl
    · exact hquiet (by rw [heq]) rfl
    · -- a response is no request
      rw [requests, heq, note, List.filterMap_append]
      rfl
  | io e =>
    cases step_branch h with
    | complete hops => exact hquiet rfl rfl
    | sent ht => exact hquiet rfl (by rw [given_sent ht, Option.bind_none])
    | detached ht hx' => exact absurd (hx'.symm.trans hx) Bool.false_ne_true
    | gone ht hec =>
      rw [given_failed ht hec, requests, note, List.filterMap_append]
      rfl
    | receiveFailed ht hec => exact hquiet rfl (by rw [given_failed ht hec, Option.bind_none])
    | @refused i data ops now ht hreq pastEnd =>
      have hrefuse : mb.accept mb.tcpCheck .TCP data = none := by
        rw [← makeRequest_eq mb data c.id now, hreq, Option.map_none]
      rw [given_block ht]
      simp [SlaveInput.data, hrefuse, requests, startReceiveTask, withOps]
    | @accepted i data ops now message ht hreq pastEnd =>
      have haccept : mb.accept mb.tcpCheck .TCP data = some message.modbusBuffer := by
        rw [← makeRequest_eq mb data c.id now, hreq, Option.map_some]
      rw [given_block ht]
      simp [SlaveInput.data, haccept, requests, startReceiveTask, withOps, note,
        ConnectionEffect.request]

namespace Session

/-- The blocks that have been received in a session. -/
def blocks (s : Session β) : List (List UInt8) := s.given.filterMap SlaveInput.data

/-- **The requests of every session** are the blocks that are well-formed frames. -/
theorem requests_exec {serverId id : ActorId} {es : List (SessionEvent β)} {s : Session β}
    (h : exec (step mb router) (new serverId id) es = some s) :
    s.connection.requests = s.blocks.filterMap (mb.accept mb.tcpCheck .TCP) := by
  refine (invariant (I := fun s => s.Follows mb id ∧
    s.connection.requests = s.blocks.filterMap (mb.accept mb.tcpCheck .TCP)) ?_ es _ s
    ⟨follows_new serverId id, rfl⟩ h).2
  rintro s e s' ⟨hfollows, hrequests⟩ hs
  refine ⟨follows_step hfollows hs, ?_⟩
  obtain ⟨c, hfire, rfl⟩ := Option.map_eq_some_iff.mp hs
  rw [requests_fire hfollows.exchange hfire, hrequests]
  simp only [blocks, List.filterMap_append]
  cases s.connection.given e with
  | none => rfl
  | some i => cases i <;> rfl

end Session

end ModbusTcpConnection

/-! ### The RTU slave -/

/-- The request that is handed to the exchange. -/
def SlaveEffect.request : SlaveEffect β → Option β
  | .send _ request => some request.modbusBuffer
  | .write _ => none

namespace ModbusRtuSlave

/-- What a slave makes a request of. -/
theorem makeRequest_eq (mb : Modbus β) (s : ModbusRtuSlave β) (data : List UInt8)
    (now : Nanoseconds) :
    (s.makeRequest mb data now).1.map (·.modbusBuffer) = mb.accept mb.check s.frameType data := by
  unfold makeRequest Modbus.accept
  cases mb.read s.frameType data with
  | none => rfl
  | some modbusBuffer =>
    by_cases hcheck : mb.check modbusBuffer = .NoError <;> simp [Option.filter, hcheck]

/-- The requests that a slave has handed to the exchange. -/
def requests (s : ModbusRtuSlave β) : List β := s.effects.filterMap SlaveEffect.request

/-- **A step hands on the block it is given**, if that is a well-formed frame. -/
theorem requests_fire {s s' : ModbusRtuSlave β} {e : SessionEvent β}
    (hx : s.exchange = true) (h : s.fire mb router e = some s') :
    s'.requests = s.requests ++
      ((s.given e).bind SlaveInput.data).toList.filterMap (mb.accept mb.check s.frameType) := by
  have hquiet : s'.effects = s.effects → (s.given e).bind SlaveInput.data = none →
      s'.requests = s.requests ++
        ((s.given e).bind SlaveInput.data).toList.filterMap (mb.accept mb.check s.frameType) := by
    intro heffects hnone
    rw [requests, heffects, hnone, requests]
    exact (List.append_nil _).symm
  cases e with
  | stop =>
    obtain rfl := Option.some.inj h
    exact hquiet rfl rfl
  | receive message =>
    obtain rfl := Option.some.inj h
    rcases startWriteTask_cases mb s message with ⟨heq, -⟩ | ⟨-, -, -, -, -, heq⟩ |
      ⟨-, modbusBuffer, -, -, -, -, heq⟩
    · exact hquiet (by rw [heq]) rfl
    · exact hquiet (by rw [heq]) rfl
    · -- a response is no request
      rw [requests, heq, note, List.filterMap_append]
      rfl
  | io e =>
    cases step_branch h with
    | complete hops => exact hquiet rfl rfl
    | written ht => exact hquiet rfl (by rw [given_written ht, Option.bind_none])
    | detached ht hx' => exact absurd (hx'.symm.trans hx) Bool.false_ne_true
    | gone ht hec => exact hquiet rfl (by rw [given_failed ht hec, Option.bind_none])
    | readFailed ht hec => exact hquiet rfl (by rw [given_failed ht hec, Option.bind_none])
    | @refused i data ops now ht hreq pastEnd =>
      have hrefuse : mb.accept mb.check s.frameType data = none :=
        (makeRequest_eq mb (s.withOps ops) data now).symm.trans (congrArg (Option.map _) hreq)
      rw [given_block ht]
      simp [SlaveInput.data, hrefuse, requests, startReadTask, withOps]
    | @accepted i data ops now message ht hreq pastEnd =>
      have haccept : mb.accept mb.check s.frameType data = some message.modbusBuffer :=
        (makeRequest_eq mb (s.withOps ops) data now).symm.trans (congrArg (Option.map _) hreq)
      rw [given_block ht]
      simp [SlaveInput.data, haccept, requests, startReadTask, withOps, note, SlaveEffect.request]

namespace Session

/-- The blocks that have been read in a session. -/
def blocks (s : Session β) : List (List UInt8) := s.given.filterMap SlaveInput.data

/-- **The requests of every session** are the blocks that are well-formed frames. -/
theorem requests_exec {id : ActorId} {frameType : FrameType} {es : List (SessionEvent β)}
    {s : Session β} (h : exec (step mb router) (new id frameType) es = some s) :
    s.slave.requests = s.blocks.filterMap (mb.accept mb.check frameType) := by
  refine (invariant (I := fun s => s.Follows mb id frameType ∧
    s.slave.requests = s.blocks.filterMap (mb.accept mb.check frameType)) ?_ es _ s
    ⟨follows_new id frameType, rfl⟩ h).2
  rintro s e s' ⟨hfollows, hrequests⟩ hs
  refine ⟨follows_step hfollows hs, ?_⟩
  obtain ⟨slave, hfire, rfl⟩ := Option.map_eq_some_iff.mp hs
  rw [requests_fire hfollows.exchange hfire, hrequests, hfollows.slave_frameType]
  simp only [blocks, List.filterMap_append]
  cases s.slave.given e with
  | none => rfl
  | some i => cases i <;> rfl

end Session

end ModbusRtuSlave

/-! ### Frames that are sent in blocks -/

/-- The frames that an actor accepts of some blocks are the frames sent exactly if the blocks
are the frames. -/
theorem accept_cut_iff (hmb : mb.ReadsBack) {check : β → CheckFrameResult}
    {frameType : FrameType} {blocks frames : List (List UInt8)} (hcut : Cut blocks frames)
    (hframes : ∀ frame ∈ frames, (mb.accept check frameType frame).isSome = true) :
    (blocks.filterMap (mb.accept check frameType)).map mb.adu = frames ↔ blocks = frames := by
  rw [hmb.map_adu]
  exact hcut.filter_eq_iff hframes

/-- **Requests and the blocks in which they are read.**  In every session of a connection or a
slave the requests handed to the exchange are the blocks that are well-formed frames as they
stand; and if the blocks are a cut of the stream of some valid frames, the requests are these
frames exactly if each block is one frame. -/
theorem requests_cut (hmb : mb.ReadsBack) (router : Router) (id : ActorId) :
    (∀ serverId es s,
      exec (ModbusTcpConnection.Session.step mb router) (.new serverId id) es = some s →
      s.connection.requests = s.blocks.filterMap (mb.accept mb.tcpCheck .TCP) ∧
      ∀ frames, Cut s.blocks frames →
        (∀ frame ∈ frames, (mb.accept mb.tcpCheck .TCP frame).isSome = true) →
        (s.connection.requests.map mb.adu = frames ↔ s.blocks = frames)) ∧
    (∀ frameType es s,
      exec (ModbusRtuSlave.Session.step mb router) (.new id frameType) es = some s →
      s.slave.requests = s.blocks.filterMap (mb.accept mb.check frameType) ∧
      ∀ frames, Cut s.blocks frames →
        (∀ frame ∈ frames, (mb.accept mb.check frameType frame).isSome = true) →
        (s.slave.requests.map mb.adu = frames ↔ s.blocks = frames)) := by
  constructor
  · intro serverId es s hrun
    have hrequests := ModbusTcpConnection.Session.requests_exec hrun
    refine ⟨hrequests, fun frames hcut hframes => ?_⟩
    rw [hrequests]
    exact accept_cut_iff hmb hcut hframes
  · intro frameType es s hrun
    have hrequests := ModbusRtuSlave.Session.requests_exec hrun
    refine ⟨hrequests, fun frames hcut hframes => ?_⟩
    rw [hrequests]
    exact accept_cut_iff hmb hcut hframes

/-- Blocks that are read one after the other. -/
def ModbusTcpConnection.received (blocks : List (List UInt8)) :
    Option (ModbusTcpConnection.Session Frame) :=
  exec (ModbusTcpConnection.Session.step Frame.library (.new 2)) (.new 1 5) <|
    blocks.flatMap fun data => [.io (.complete 0 ⟨.success, data⟩), .io (.handle 0 0 0)]

/-- Blocks that are read one after the other. -/
def ModbusRtuSlave.received (blocks : List (List UInt8)) : Option (ModbusRtuSlave.Session Frame) :=
  exec (ModbusRtuSlave.Session.step Frame.library (.new 2)) (.new 5 .RTU) <|
    blocks.flatMap fun data => [.io (.complete 0 ⟨.success, data⟩), .io (.handle 0 0 0)]

/-- Two requests of a TCP client. -/
def tcpRequests : List (List UInt8) :=
  [(Frame.tcp 9 1 [3, 0, 0, 0, 1]).bytes, (Frame.tcp 10 2 [3, 0, 0, 0, 1]).bytes]

/-- Two requests of an RTU master. -/
def rtuRequests : List (List UInt8) :=
  [(Frame.rtu 1 [3, 0, 0, 0, 1]).bytes, (Frame.rtu 2 [3, 0, 0, 0, 1]).bytes]

/-- Two requests that come in a block each are handed on. -/
theorem requests_uncut :
    ∃ c s, ModbusTcpConnection.received tcpRequests = some c ∧
      ModbusRtuSlave.received rtuRequests = some s ∧
      c.connection.requests.map Frame.bytes = tcpRequests ∧
      s.slave.requests.map Frame.bytes = rtuRequests := by
  have hc : (ModbusTcpConnection.received tcpRequests).map (·.blocks) = some tcpRequests := by
    decide +kernel
  have hs : (ModbusRtuSlave.received rtuRequests).map (·.blocks) = some rtuRequests := by
    decide +kernel
  obtain ⟨c, hc, hblocks⟩ := Option.map_eq_some_iff.mp hc
  obtain ⟨s, hs, hblocks'⟩ := Option.map_eq_some_iff.mp hs
  obtain ⟨htcp, hrtu⟩ := requests_cut Frame.library_readsBack (.new 2) 5
  have hcut : Cut c.blocks tcpRequests := ⟨by rw [hblocks]; decide +kernel, by rw [hblocks]⟩
  have hcut' : Cut s.blocks rtuRequests := ⟨by rw [hblocks']; decide +kernel, by rw [hblocks']⟩
  exact ⟨c, s, hc, hs, ((htcp 1 _ c hc).2 _ hcut (by decide +kernel)).mpr hblocks,
    ((hrtu .RTU _ s hs).2 _ hcut' (by decide +kernel)).mpr hblocks'⟩

/-- A request that comes in two blocks, and two requests that come in one block, are not. -/
theorem requests_cut_lost :
    (¬ ∀ frames blocks c, Cut blocks frames →
      (∀ frame ∈ frames,
        (Frame.library.accept Frame.library.tcpCheck .TCP frame).isSome = true) →
      ModbusTcpConnection.received blocks = some c →
      c.connection.requests.map Frame.bytes = frames) ∧
    ¬ ∀ frames blocks s, Cut blocks frames →
      (∀ frame ∈ frames, (Frame.library.accept Frame.library.check .RTU frame).isSome = true) →
      ModbusRtuSlave.received blocks = some s →
      s.slave.requests.map Frame.bytes = frames := by
  constructor
  · intro h
    have hc : (ModbusTcpConnection.received [(tcpRequests.flatten.take 9),
        (tcpRequests.flatten.drop 9)]).map (·.connection.requests) = some [] := by decide +kernel
    obtain ⟨c, hc, hnone⟩ := Option.map_eq_some_iff.mp hc
    have hframes := h tcpRequests _ c ⟨by decide +kernel, by decide +kernel⟩ (by decide +kernel) hc
    rw [hnone] at hframes
    exact absurd hframes (by decide)
  · intro h
    have hs : (ModbusRtuSlave.received [rtuRequests.flatten]).map (·.slave.requests) = some [] := by
      decide +kernel
    obtain ⟨s, hs, hnone⟩ := Option.map_eq_some_iff.mp hs
    have hframes := h rtuRequests _ s ⟨by decide +kernel, by decide +kernel⟩ (by decide +kernel) hs
    rw [hnone] at hframes
    exact absurd hframes (by decide)

end ModbusGateway
