import ModbusGateway.Library.Framing
import ModbusGateway.Transport.MasterView
import ModbusGateway.Transport.RtuSlaveReplies

/-!
# What goes out on the wire

All four transports hand a frame to `async_send` or `async_write_some` once, and look
at nothing but the error code when it completes.  These operations may take a part of
what they are given; the rest of the frame is then never written, and the next frame
follows the part.

## Main definitions

* `Stream.written` — the write that is made when an operation completes.
* `written`, `frames`, `pending` of each transport — its writes, the frames it has been
  asked to write, and those it is still writing.

## Main results

* `MasterView.Alive.frames_of_writes` — what a master writes is a request as it frames it.
* `wholeFrames_exec` — **whole frames go out in exactly the runs in which every write
  takes all that it is given.**
-/

namespace ModbusGateway

open Proactor Execution Framing

variable {β : Type} {mb : Modbus β}

namespace Stream

variable {κ : Type}

/-- The write that is made when an operation completes: there is one if the operation is still
pending, writes a frame, and completes without an error. -/
def written (s : Stream κ) (frame : κ → Option (List UInt8)) (i : ℕ) (result : Completion) :
    Option (Write UInt8) :=
  match s.ops[i]? with
  | some ⟨k, none⟩ =>
    if result.ec.failed then none else (frame k).map fun f => ⟨f, result.data.length⟩
  | _ => none

/-- The frames that are still being written. -/
def pending (s : Stream κ) (frame : κ → Option (List UInt8)) : List (List UInt8) :=
  (s.ops.filter (·.result.isNone)).filterMap fun op => frame op.kind

/-- A write is that of an operation that was outstanding. -/
theorem mem_of_written {s : Stream κ} {frame : κ → Option (List UInt8)} {i : ℕ}
    {result : Completion} {w : Write UInt8} (h : s.written frame i result = some w) :
    ∃ k ∈ s.ops.kinds, frame k = some w.frame := by
  unfold written at h
  split at h
  next k hk =>
    split at h
    · cases h
    · obtain ⟨f, hf, rfl⟩ := Option.map_eq_some_iff.mp h
      exact ⟨k, List.mem_map_of_mem (List.mem_of_getElem? hk), hf⟩
  · cases h

end Stream

/-! ### The masters -/

namespace MasterView

variable {frame : ModbusMessage β → TransactionId → β} {clock : Option Nanoseconds}
  {now : Nanoseconds} {v v' : MasterView β}

/-- The frames of the requests that a master has written. -/
def frames (mb : Modbus β) (frame : ModbusMessage β → TransactionId → β) (v : MasterView β) :
    List (List UInt8) :=
  (requests v.effects).map fun r => mb.adu (frame r.1 r.2)

theorem requests_processed (hp : Processed frame now v v') :
    requests v.effects ⊆ requests v'.effects := by
  cases hp with
  | quiet hquiet => rw [hquiet.requests]; exact List.Subset.refl _
  | expired => rw [popExpired, requests_expire]; exact List.Subset.refl _
  | started id hcur hfront =>
    rw [start, requests_write, popExpired, requests_expire]
    exact List.subset_append_left _ _

/-- A request that has been written stays written. -/
theorem frames_step {input : Option (ModbusMessage β)} (hs : Step frame clock v input v') :
    v.frames mb frame ⊆ v'.frames mb frame := by
  refine List.map_subset _ ?_
  cases hs with
  | quiet hquiet => rw [hquiet.requests]; exact List.Subset.refl _
  | process hclock hquiet hprocessed =>
    rw [← hquiet.requests]
    exact requests_processed hprocessed
  | receive message hclock hprocessed =>
    have hpush : requests v.effects = requests (v.push message).effects :=
      (requests_receive message).symm
    rw [hpush]
    exact requests_processed hprocessed

/-- **What a master writes** is a request, as it frames it. -/
theorem Alive.frames_of_writes (h : Alive frame v) {w : ℕ × β} (hw : w ∈ v.writes) :
    mb.adu w.2 ∈ v.frames mb frame := by
  obtain ⟨-, current, hcur, hbuffer⟩ := h.writes w hw
  obtain ⟨message, hlast, hmessage⟩ := h.current current hcur
  rw [hmessage] at hbuffer
  refine List.mem_map.mpr ⟨(message, current.id), List.mem_of_getLast? hlast, ?_⟩
  rw [← hbuffer]

/-- A write that a master makes on its stream is that of such a frame. -/
theorem Alive.frame_of_written {κ : Type} {s : Stream κ} {handed : κ → Option (ℕ × β)} {i : ℕ}
    {result : Completion} {w : Write UInt8} (h : Alive frame v)
    (hwrites : v.writes = s.ops.kinds.filterMap handed)
    (hw : s.written (fun op => (handed op).map fun w => mb.adu w.2) i result = some w) :
    w.frame ∈ v.frames mb frame := by
  obtain ⟨k, hk, hbytes⟩ := Stream.mem_of_written hw
  obtain ⟨given, hgiven, hframe⟩ := Option.map_eq_some_iff.mp hbytes
  rw [← hframe]
  exact h.frames_of_writes (hwrites ▸ List.mem_filterMap.mpr ⟨k, hk, hgiven⟩)

end MasterView

namespace ModbusTcpClient

/-- The bytes that a send is given. -/
def bytes (mb : Modbus β) (op : ClientOp β) : Option (List UInt8) :=
  op.handed.map fun w => mb.adu w.2

/-- The write of an event. -/
def written (mb : Modbus β) (c : ModbusTcpClient β) : Event β → Option (Write UInt8)
  | .complete i result => c.socket.written (bytes mb) i result
  | _ => none

/-- The frames of the requests that the client has sent. -/
def frames (mb : Modbus β) (c : ModbusTcpClient β) : List (List UInt8) :=
  c.view.frames mb (frame mb)

/-- The frames that the client is sending. -/
def pending (mb : Modbus β) (c : ModbusTcpClient β) : List (List UInt8) :=
  c.socket.pending (bytes mb)

theorem writesFrames (mb : Modbus β) (timeout : Milliseconds) :
    Wire.WritesFrames (step mb) (written mb) (frames mb) (pending mb) (new timeout) := by
  refine Wire.writesFrames (I := fun c => c.Control ∧ c.view.Alive (frame mb)) (pending mb)
    ?_ ?_ ⟨control_new timeout, .of_idle rfl rfl⟩
  · rintro c e c' ⟨hctl, h⟩ hs
    exact ⟨control_step hctl hs, MasterView.alive_step h (view_step hctl hs)⟩
  · rintro c e c' ⟨hctl, h⟩ hs
    have hsubset : c.frames mb ⊆ c'.frames mb := MasterView.frames_step (view_step hctl hs)
    refine ⟨hsubset, fun w hw => hsubset ?_⟩
    cases e with
    | complete i result => exact h.frame_of_written rfl hw
    | _ => cases hw

end ModbusTcpClient

namespace ModbusRtuMaster

/-- The bytes that a write is given. -/
def bytes (mb : Modbus β) (op : RtuOp β) : Option (List UInt8) :=
  op.handed.map fun w => mb.adu w.2

/-- The write of an event. -/
def written (mb : Modbus β) (m : ModbusRtuMaster β) : Event β → Option (Write UInt8)
  | .complete i result => m.serialPort.written (bytes mb) i result
  | _ => none

/-- The frames of the requests that the master has written. -/
def frames (mb : Modbus β) (m : ModbusRtuMaster β) : List (List UInt8) :=
  m.view.frames mb (frame mb m.frameType)

/-- The frames that the master is writing. -/
def pending (mb : Modbus β) (m : ModbusRtuMaster β) : List (List UInt8) :=
  m.serialPort.pending (bytes mb)

theorem writesFrames (mb : Modbus β) (timeout : Milliseconds) (frameType : FrameType) :
    Wire.WritesFrames (step mb) (written mb) (frames mb) (pending mb) (new timeout frameType) := by
  refine Wire.writesFrames
    (I := fun m => m.Control ∧ m.view.Alive (frame mb m.frameType)) (pending mb)
    ?_ ?_ ⟨control_new timeout frameType, .of_idle rfl rfl⟩
  · rintro m e m' ⟨hctl, h⟩ hs
    rw [frameType_step hctl hs]
    exact ⟨control_step hctl hs, MasterView.alive_step h (view_step hctl hs)⟩
  · rintro m e m' ⟨hctl, h⟩ hs
    have hsubset : m.frames mb ⊆ m'.frames mb := by
      rw [frames, frames, frameType_step hctl hs]
      exact MasterView.frames_step (view_step hctl hs)
    refine ⟨hsubset, fun w hw => hsubset ?_⟩
    cases e with
    | complete i result => exact h.frame_of_written rfl hw
    | _ => cases hw

end ModbusRtuMaster

/-! ### The slaves -/

/-- The frame that an effect writes. -/
def ConnectionEffect.written : ConnectionEffect β → Option β
  | .write modbusBuffer => some modbusBuffer
  | _ => none

namespace ModbusTcpConnection

variable {router : Router}

/-- The bytes that a send is given. -/
def bytes (mb : Modbus β) : ConnectionOp β → Option (List UInt8)
  | .send modbusBuffer => some (mb.adu modbusBuffer)
  | .receive => none

/-- The write of an event. -/
def written (mb : Modbus β) (c : ModbusTcpConnection β) : SessionEvent β → Option (Write UInt8)
  | .io (.complete i result) => c.socket.written (bytes mb) i result
  | _ => none

/-- The frames of the responses that the connection has sent. -/
def frames (mb : Modbus β) (c : ModbusTcpConnection β) : List (List UInt8) :=
  (c.effects.filterMap ConnectionEffect.written).map mb.adu

/-- The frames that the connection is sending. -/
def pending (mb : Modbus β) (c : ModbusTcpConnection β) : List (List UInt8) :=
  c.socket.pending (bytes mb)

/-- What is being sent has been put down in the history. -/
def Sends (c : ModbusTcpConnection β) : Prop :=
  ∀ modbusBuffer, .send modbusBuffer ∈ c.socket.ops.kinds → .write modbusBuffer ∈ c.effects

theorem Sends.of_kinds {c c' : ModbusTcpConnection β} (h : c.Sends)
    (hkinds : ∀ b, .send b ∈ c'.socket.ops.kinds → .send b ∈ c.socket.ops.kinds)
    (heffects : c.effects ⊆ c'.effects) : c'.Sends :=
  fun b hb => heffects (h b (hkinds b hb))

/-- A receive that is started is no send. -/
theorem sends_startReceiveTask {c : ModbusTcpConnection β} (h : c.Sends) :
    c.startReceiveTask.Sends := by
  refine h.of_kinds (fun b hb => ?_) (List.Subset.refl _)
  simpa [startReceiveTask] using hb

theorem sends_fire {c c' : ModbusTcpConnection β} {e : SessionEvent β} (h : c.Sends)
    (hs : c.fire mb router e = some c') : c'.Sends := by
  cases e with
  | stop =>
    obtain rfl := Option.some.inj hs
    exact h.of_kinds (fun b hb => by simpa [stop] using hb) (List.Subset.refl _)
  | receive message =>
    obtain rfl := Option.some.inj hs
    rcases startSendTask_cases mb c message with ⟨heq, -⟩ | ⟨-, -, -, -, -, heq⟩ |
      ⟨-, modbusBuffer, -, -, -, -, heq⟩ <;> rw [heq]
    · exact h
    · exact h
    · -- the response is sent and put down
      intro b hb
      simp only [note, Stream.start_kinds, List.mem_append, List.mem_singleton] at hb ⊢
      rcases hb with hold | hnew
      · exact Or.inl (h b hold)
      · cases hnew
        exact Or.inr rfl
  | io e =>
    have htaken : ∀ {i op result ops}, c.socket.ops.take i = some (op, result, ops) →
        (c.withOps ops).Sends := fun ht =>
      h.of_kinds (fun b hb => Pool.mem_kinds_of_mem_take ht hb) (List.Subset.refl _)
    cases step_branch hs with
    | complete hops =>
      exact h.of_kinds (fun b hb => Pool.kinds_complete hops ▸ hb) (List.Subset.refl _)
    | sent ht => exact htaken ht
    | detached ht hx => exact htaken ht
    | gone ht hec => exact (htaken ht).of_kinds (fun b hb => hb) (List.subset_append_left _ _)
    | receiveFailed ht hec => exact sends_startReceiveTask (htaken ht)
    | refused ht hreq => exact sends_startReceiveTask (htaken ht)
    | accepted ht hreq =>
      refine sends_startReceiveTask ?_
      exact (htaken ht).of_kinds (fun b hb => hb) (List.subset_append_left _ _)

theorem writesFrames (mb : Modbus β) (router : Router) (serverId id : ActorId) :
    Wire.WritesFrames (fire mb router) (written mb) (frames mb) (pending mb)
      (new serverId id).startReceiveTask := by
  refine Wire.writesFrames (I := fun c => c.exchange = true ∧ c.Sends) (pending mb) ?_ ?_
    ⟨rfl, fun b hb => by simp [startReceiveTask, new, Stream.opened] at hb⟩
  · rintro c e c' ⟨hx, h⟩ hs
    exact ⟨(fire_moves hx hs 0).1, sends_fire h hs⟩
  · rintro c e c' ⟨hx, h⟩ hs
    obtain ⟨-, -, new, heffects, -⟩ := fire_moves hx hs 0
    have hsubset : c.frames mb ⊆ c'.frames mb := by
      refine List.map_subset _ (List.filterMap_subset _ ?_)
      rw [heffects]
      exact List.subset_append_left _ _
    refine ⟨hsubset, fun w hw => hsubset ?_⟩
    -- a write is the completion of an operation that has put its frame down
    cases e with
    | receive message => cases hw
    | stop => cases hw
    | io e =>
      cases e with
      | handle i now pastEnd => cases hw
      | complete i result =>
        obtain ⟨k, hk, hbytes⟩ := Stream.mem_of_written hw
        cases k with
        | receive => cases hbytes
        | send b =>
          rw [← Option.some.inj hbytes]
          exact List.mem_map_of_mem (List.mem_filterMap.mpr ⟨_, h b hk, rfl⟩)

end ModbusTcpConnection

namespace ModbusRtuSlave

variable {router : Router}

/-- The bytes that a write is given. -/
def bytes (mb : Modbus β) : SlaveOp β → Option (List UInt8)
  | .write modbusBuffer => some (mb.adu modbusBuffer)
  | .read => none

/-- The write of an event. -/
def written (mb : Modbus β) (s : ModbusRtuSlave β) : SessionEvent β → Option (Write UInt8)
  | .io (.complete i result) => s.serialPort.written (bytes mb) i result
  | _ => none

/-- The frames of the responses that the slave has written. -/
def frames (mb : Modbus β) (s : ModbusRtuSlave β) : List (List UInt8) :=
  (s.effects.filterMap writtenFrame).map mb.adu

/-- The frames that the slave is writing. -/
def pending (mb : Modbus β) (s : ModbusRtuSlave β) : List (List UInt8) :=
  s.serialPort.pending (bytes mb)

/-- What is being written has been put down in the history. -/
def Writes (s : ModbusRtuSlave β) : Prop :=
  ∀ modbusBuffer, .write modbusBuffer ∈ s.serialPort.ops.kinds → .write modbusBuffer ∈ s.effects

theorem Writes.of_kinds {s s' : ModbusRtuSlave β} (h : s.Writes)
    (hkinds : ∀ b, .write b ∈ s'.serialPort.ops.kinds → .write b ∈ s.serialPort.ops.kinds)
    (heffects : s.effects ⊆ s'.effects) : s'.Writes :=
  fun b hb => heffects (h b (hkinds b hb))

/-- A read that is started is no write. -/
theorem writes_startReadTask {s : ModbusRtuSlave β} (h : s.Writes) : s.startReadTask.Writes := by
  refine h.of_kinds (fun b hb => ?_) (List.Subset.refl _)
  simpa [startReadTask] using hb

theorem writes_fire {s s' : ModbusRtuSlave β} {e : SessionEvent β} (h : s.Writes)
    (hs : s.fire mb router e = some s') : s'.Writes := by
  cases e with
  | stop =>
    obtain rfl := Option.some.inj hs
    exact h.of_kinds (fun b hb => by simpa [stop] using hb) (List.Subset.refl _)
  | receive message =>
    obtain rfl := Option.some.inj hs
    rcases startWriteTask_cases mb s message with ⟨heq, -⟩ | ⟨-, -, -, -, -, heq⟩ |
      ⟨-, modbusBuffer, -, -, -, -, heq⟩ <;> rw [heq]
    · exact h
    · exact h
    · -- the response is written and put down
      intro b hb
      simp only [note, Stream.start_kinds, List.mem_append, List.mem_singleton] at hb ⊢
      rcases hb with hold | hnew
      · exact Or.inl (h b hold)
      · cases hnew
        exact Or.inr rfl
  | io e =>
    have htaken : ∀ {i op result ops}, s.serialPort.ops.take i = some (op, result, ops) →
        (s.withOps ops).Writes := fun ht =>
      h.of_kinds (fun b hb => Pool.mem_kinds_of_mem_take ht hb) (List.Subset.refl _)
    cases step_branch hs with
    | complete hops =>
      exact h.of_kinds (fun b hb => Pool.kinds_complete hops ▸ hb) (List.Subset.refl _)
    | written ht => exact htaken ht
    | detached ht hx => exact htaken ht
    | gone ht hec => exact htaken ht
    | readFailed ht hec => exact writes_startReadTask (htaken ht)
    | refused ht hreq => exact writes_startReadTask (htaken ht)
    | accepted ht hreq =>
      refine writes_startReadTask ?_
      exact (htaken ht).of_kinds (fun b hb => hb) (List.subset_append_left _ _)

theorem writesFrames (mb : Modbus β) (router : Router) (id : ActorId) (frameType : FrameType) :
    Wire.WritesFrames (fire mb router) (written mb) (frames mb) (pending mb)
      (new id frameType).start := by
  refine Wire.writesFrames (I := fun s => s.exchange = true ∧ s.Writes) (pending mb) ?_ ?_
    ⟨rfl, fun b hb => by simp [start, startReadTask, new, Stream.opened] at hb⟩
  · rintro s e s' ⟨hx, h⟩ hs
    exact ⟨(fire_moves hx hs).1, writes_fire h hs⟩
  · rintro s e s' ⟨hx, h⟩ hs
    obtain ⟨-, -, -, -, new, heffects, -⟩ := fire_moves hx hs
    have hsubset : s.frames mb ⊆ s'.frames mb := by
      refine List.map_subset _ (List.filterMap_subset _ ?_)
      rw [heffects]
      exact List.subset_append_left _ _
    refine ⟨hsubset, fun w hw => hsubset ?_⟩
    -- a write is the completion of an operation that has put its frame down
    cases e with
    | receive message => cases hw
    | stop => cases hw
    | io e =>
      cases e with
      | handle i now pastEnd => cases hw
      | complete i result =>
        obtain ⟨k, hk, hbytes⟩ := Stream.mem_of_written hw
        cases k with
        | read => cases hbytes
        | write b =>
          rw [← Option.some.inj hbytes]
          exact List.mem_map_of_mem (List.mem_filterMap.mpr ⟨_, h b hk, rfl⟩)

end ModbusRtuSlave

/-! ### All four -/

/-- **Whole frames on the wire.**  In every run of a TCP client, an RTU master, a TCP connection
or an RTU slave in which the system takes some of what a write is given, the stream is a
concatenation of complete frames if the system always takes all; and it consists of the frames of
the writes that have completed exactly then. -/
theorem wholeFrames_exec {β : Type} (mb : Modbus β) (router : Router) (timeout : Milliseconds) :
    Wire.WritesFrames (ModbusTcpClient.step mb) (ModbusTcpClient.written mb)
      (ModbusTcpClient.frames mb) (ModbusTcpClient.pending mb) (.new timeout) ∧
    (∀ frameType, Wire.WritesFrames (ModbusRtuMaster.step mb) (ModbusRtuMaster.written mb)
      (ModbusRtuMaster.frames mb) (ModbusRtuMaster.pending mb) (.new timeout frameType)) ∧
    (∀ serverId id, Wire.WritesFrames (ModbusTcpConnection.fire mb router)
      (ModbusTcpConnection.written mb) (ModbusTcpConnection.frames mb)
      (ModbusTcpConnection.pending mb)
      (ModbusTcpConnection.new serverId id).startReceiveTask) ∧
    ∀ id frameType, Wire.WritesFrames (ModbusRtuSlave.fire mb router) (ModbusRtuSlave.written mb)
      (ModbusRtuSlave.frames mb) (ModbusRtuSlave.pending mb)
      (ModbusRtuSlave.new id frameType).start :=
  ⟨ModbusTcpClient.writesFrames mb timeout, ModbusRtuMaster.writesFrames mb timeout,
    ModbusTcpConnection.writesFrames mb router, ModbusRtuSlave.writesFrames mb router⟩

/-- The client sends a request, of which the system takes `size` bytes. -/
def ModbusTcpClient.sendingRun (size : ℕ) : List (ModbusTcpClient.Event Frame) :=
  ModbusTcpClient.queuedRun.take 3 ++ [.complete 0 ⟨.success, List.replicate size 0⟩]

/-- The master writes a request, of which the system takes `size` bytes. -/
def ModbusRtuMaster.writingRun (size : ℕ) : List (ModbusRtuMaster.Event Frame) :=
  [.receive (Frame.readRequest 5 9 1) 0, .complete 0 ⟨.success, List.replicate size 0⟩]

/-- The connection sends the response to a request, of which the system takes `size` bytes. -/
def ModbusTcpConnection.sendingRun (size : ℕ) : List (ModbusTcpConnection.SessionEvent Frame) :=
  [.io (.complete 0 ⟨.success, (Frame.tcp 9 1 [3, 0, 0, 0, 1]).bytes⟩), .io (.handle 0 0 0),
    .receive ⟨.new 0 5 9, some (Frame.rtu 1 [3, 2, 0, 7])⟩,
    .io (.complete 1 ⟨.success, List.replicate size 0⟩)]

/-- The slave writes the response to a request, of which the system takes `size` bytes. -/
def ModbusRtuSlave.writingRun (size : ℕ) : List (ModbusRtuSlave.SessionEvent Frame) :=
  [.io (.complete 0 ⟨.success, (Frame.rtu 1 [3, 0, 0, 0, 1]).bytes⟩), .io (.handle 0 0 0),
    .receive ⟨.new 0 5 1, some (Frame.tcp 9 1 [3, 2, 0, 7])⟩,
    .io (.complete 1 ⟨.success, List.replicate size 0⟩)]

/-- All of a request, and of a response. -/
theorem wholeFrames_taken :
    ∃ c s, exec (Wire.step (ModbusTcpClient.step Frame.library)
        (ModbusTcpClient.written Frame.library)) (.new (.new 1000))
        (ModbusTcpClient.sendingRun 12) = some c ∧
      exec (Wire.step (ModbusRtuSlave.fire Frame.library (.new 2))
        (ModbusRtuSlave.written Frame.library)) (.new (ModbusRtuSlave.new 5 .RTU).start)
        (ModbusRtuSlave.writingRun 7) = some s ∧
      Framed (c.party.frames Frame.library) (c.party.pending Frame.library) (stream c.writes) ∧
      Framed (s.party.frames Frame.library) (s.party.pending Frame.library) (stream s.writes) := by
  obtain ⟨hclient, -, -, hslave⟩ := wholeFrames_exec Frame.library (.new 2) 1000
  have hc : (exec (Wire.step (ModbusTcpClient.step Frame.library)
      (ModbusTcpClient.written Frame.library)) (.new (.new 1000))
      (ModbusTcpClient.sendingRun 12)).isSome = true := by decide +kernel
  have hs : (exec (Wire.step (ModbusRtuSlave.fire Frame.library (.new 2))
      (ModbusRtuSlave.written Frame.library)) (.new (ModbusRtuSlave.new 5 .RTU).start)
      (ModbusRtuSlave.writingRun 7)).isSome = true := by decide +kernel
  obtain ⟨c, hc⟩ := Option.isSome_iff_exists.mp hc
  obtain ⟨s, hs⟩ := Option.isSome_iff_exists.mp hs
  exact ⟨c, s, hc, hs, (hclient _ c hc (by decide +kernel)).1 (by decide +kernel),
    (hslave 5 .RTU _ s hs (by decide +kernel)).1 (by decide +kernel)⟩

/-- When the system takes five bytes of a frame, the stream that a transport has written is no
concatenation of frames. -/
theorem wholeFrames_partial :
    ¬ Wire.KeepsFrames (ModbusTcpClient.step Frame.library) (ModbusTcpClient.written Frame.library)
      (ModbusTcpClient.frames Frame.library) (ModbusTcpClient.pending Frame.library)
      (.new 1000) ∧
    ¬ Wire.KeepsFrames (ModbusRtuMaster.step Frame.library) (ModbusRtuMaster.written Frame.library)
      (ModbusRtuMaster.frames Frame.library) (ModbusRtuMaster.pending Frame.library)
      (.new 1000 .RTU) ∧
    ¬ Wire.KeepsFrames (ModbusTcpConnection.fire Frame.library (.new 2))
      (ModbusTcpConnection.written Frame.library) (ModbusTcpConnection.frames Frame.library)
      (ModbusTcpConnection.pending Frame.library)
      (ModbusTcpConnection.new 1 5).startReceiveTask ∧
    ¬ Wire.KeepsFrames (ModbusRtuSlave.fire Frame.library (.new 2))
      (ModbusRtuSlave.written Frame.library) (ModbusRtuSlave.frames Frame.library)
      (ModbusRtuSlave.pending Frame.library) (ModbusRtuSlave.new 5 .RTU).start := by
  refine ⟨?_, ?_, ?_, ?_⟩
  · exact Wire.not_keepsFrames (ModbusTcpClient.sendingRun 5) (by decide +kernel)
      (by decide +kernel)
  · exact Wire.not_keepsFrames (ModbusRtuMaster.writingRun 5) (by decide +kernel)
      (by decide +kernel)
  · exact Wire.not_keepsFrames (ModbusTcpConnection.sendingRun 5) (by decide +kernel)
      (by decide +kernel)
  · exact Wire.not_keepsFrames (ModbusRtuSlave.writingRun 5) (by decide +kernel)
      (by decide +kernel)

end ModbusGateway
