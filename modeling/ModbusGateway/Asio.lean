import ModbusGateway.Library.Proactor

/-!
# What the gateway uses of asio

Error codes, stream objects (a TCP socket or a serial port) and timers.  All
three are pools of outstanding operations: an operation is started by the
gateway, completed by the system with an error code and the bytes transferred,
and its handler is run later by the `io_context`.

An event of a transport's run completes an operation or runs a handler; the
order of the events is arbitrary.
-/

namespace ModbusGateway

open Proactor

/-- `asio::error_code`, with the values the gateway tells apart. -/
inductive ErrorCode
  | success
  | operationAborted
  | eof
  | connectionReset
  | other (value : ℕ)
  deriving DecidableEq, Repr

/-- `if (ec)`. -/
def ErrorCode.failed (ec : ErrorCode) : Bool := decide (ec ≠ .success)

@[simp] theorem ErrorCode.failed_eq_true {ec : ErrorCode} : ec.failed = true ↔ ec ≠ .success :=
  decide_eq_true_iff

@[simp] theorem ErrorCode.failed_eq_false {ec : ErrorCode} : ec.failed = false ↔ ec = .success := by
  simp [failed]

@[simp] theorem ErrorCode.failed_success : ErrorCode.success.failed = false := rfl

/-- What a stream operation completes with: the error code, and the bytes that
were transferred (whose number is the handler's `size`). -/
structure Completion where
  ec : ErrorCode
  data : List UInt8
  deriving DecidableEq, Repr

/-- The completion of an operation that was cancelled. -/
def Completion.aborted : Completion := ⟨.operationAborted, []⟩

/-- A stream object: a TCP socket or a serial port. -/
structure Stream (κ : Type) where
  isOpen : Bool
  ops : Pool κ Completion
  deriving DecidableEq, Repr

namespace Stream

variable {κ : Type}

/-- A stream object that has not been opened. -/
def closed : Stream κ := ⟨false, []⟩

/-- A stream object that has been opened. -/
def opened : Stream κ := ⟨true, []⟩

/-- `async_connect`, which opens a socket that is not open. -/
def asyncConnect (s : Stream κ) (k : κ) : Stream κ := ⟨true, s.ops.start k⟩

/-- `async_send`, `async_receive`, `async_write_some`, `async_read_some`. -/
def start (s : Stream κ) (k : κ) : Stream κ := { s with ops := s.ops.start k }

/-- `cancel(ec)`: what is pending completes with `operation_aborted`; a closed
stream object reports an error and does nothing. -/
def cancel (s : Stream κ) : Stream κ :=
  if s.isOpen then { s with ops := s.ops.cancel .aborted } else s

/-- `close(ec)`. -/
def close (s : Stream κ) : Stream κ := ⟨false, s.ops.cancel .aborted⟩

/-- What `cancel(ec)` aborts: what is pending, and nothing on a closed stream object. -/
def aborts (s : Stream κ) : List κ :=
  if s.isOpen then (s.ops.filter (·.result.isNone)).map Op.kind else []

@[simp] theorem asyncConnect_kinds (s : Stream κ) (k : κ) :
    (s.asyncConnect k).ops.kinds = s.ops.kinds ++ [k] := Pool.kinds_start _ _

@[simp] theorem start_kinds (s : Stream κ) (k : κ) :
    (s.start k).ops.kinds = s.ops.kinds ++ [k] := Pool.kinds_start _ _

@[simp] theorem cancel_kinds (s : Stream κ) : s.cancel.ops.kinds = s.ops.kinds := by
  unfold cancel
  split
  · exact Pool.kinds_cancel _ _
  · rfl

@[simp] theorem close_kinds (s : Stream κ) : s.close.ops.kinds = s.ops.kinds :=
  Pool.kinds_cancel _ _

/-- Cancelling leaves no more to do. -/
theorem work_cancel_le (cost : κ → ℕ) (s : Stream κ) :
    s.cancel.ops.work cost ≤ s.ops.work cost := by
  unfold cancel
  split
  · exact Pool.work_cancel_le _ _
  · exact Nat.le_refl _

/-- What is aborted was outstanding. -/
theorem mem_kinds_of_mem_aborts {s : Stream κ} {k : κ} (h : k ∈ s.aborts) : k ∈ s.ops.kinds := by
  unfold aborts at h
  split at h
  · obtain ⟨o, ho, rfl⟩ := List.mem_map.mp h
    exact List.mem_map_of_mem (List.mem_of_mem_filter ho)
  · cases h

end Stream

/-- `asio::basic_waitable_timer`: the outstanding waits. -/
structure Timer (κ : Type) where
  waits : Pool κ ErrorCode
  deriving DecidableEq, Repr

namespace Timer

variable {κ : Type}

/-- `cancel()`: the waits still pending complete with `operation_aborted`; a wait
whose expiry is already queued is not recalled. -/
def cancel (t : Timer κ) : Timer κ := ⟨t.waits.cancel .operationAborted⟩

/-- `expires_after(timeout)`, which cancels the pending waits. -/
def expiresAfter (t : Timer κ) : Timer κ := t.cancel

/-- `async_wait`. -/
def asyncWait (t : Timer κ) (k : κ) : Timer κ := ⟨t.waits.start k⟩

@[simp] theorem cancel_kinds (t : Timer κ) : t.cancel.waits.kinds = t.waits.kinds :=
  Pool.kinds_cancel _ _

@[simp] theorem expiresAfter_kinds (t : Timer κ) : t.expiresAfter.waits.kinds = t.waits.kinds :=
  Pool.kinds_cancel _ _

@[simp] theorem asyncWait_kinds (t : Timer κ) (k : κ) :
    (t.asyncWait k).waits.kinds = t.waits.kinds ++ [k] := Pool.kinds_start _ _

end Timer

end ModbusGateway
