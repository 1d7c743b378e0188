import Mathlib.Algebra.Group.Nat.Defs
import Mathlib.Data.List.Basic

/-!
# The bounded queue

`LimitQueue` of `common/limit_queue.h`: a first-in first-out queue whose `push`
drops the oldest element of a queue that is over its limit.  The default limit is
the largest value of the 64-bit `size_t`.

* `LimitQueue.push`, `LimitQueue.pop`, `LimitQueue.front?` — the source's operations.
* `LimitQueue.popWhile` — the loop of the two masters that pops the front of the
  queue as long as it satisfies a condition.
-/

namespace ModbusGateway

/-- `LimitQueue<T>`. -/
structure LimitQueue (α : Type) where
  queue : List α
  maxSize : ℕ
  deriving DecidableEq, Repr

namespace LimitQueue

variable {α : Type}

/-- `LimitQueue(size_t maxSize)`. -/
def ofMaxSize (maxSize : ℕ) : LimitQueue α := ⟨[], maxSize⟩

/-- `LimitQueue()`: the limit is `std::numeric_limits<size_t>::max()`. -/
def new : LimitQueue α := ofMaxSize (2 ^ 64 - 1)

/-- `Size()`, a `size_t`. -/
def size (q : LimitQueue α) : ℕ := q.queue.length % 2 ^ 64

/-- `Empty()`. -/
def empty (q : LimitQueue α) : Bool := q.queue.isEmpty

/-- `Front()`, which the source calls on a nonempty queue only. -/
def front? (q : LimitQueue α) : Option α := q.queue.head?

/-- `Pop()`, which the source calls on a nonempty queue only. -/
def pop (q : LimitQueue α) : LimitQueue α := { q with queue := q.queue.tail }

/-- `Push(val)`: the oldest element goes when the queue is over its limit. -/
def push (q : LimitQueue α) (val : α) : LimitQueue α :=
  let q := if q.size > q.maxSize then q.pop else q
  { q with queue := q.queue ++ [val] }

/-- Pop the front as long as it satisfies `p`. -/
def popWhile (p : α → Bool) (q : LimitQueue α) : LimitQueue α :=
  { q with queue := q.queue.dropWhile p }

/-- What a push leaves in the queue: the value, behind all or all but the oldest
of the elements before it. -/
theorem push_queue (q : LimitQueue α) (val : α) :
    (q.push val).queue = q.queue ++ [val] ∨ (q.push val).queue = q.queue.tail ++ [val] := by
  unfold push
  split
  · exact Or.inr rfl
  · exact Or.inl rfl

/-- A push discards nothing, or, in a queue that is over its limit, the oldest element. -/
theorem push_cases (q : LimitQueue α) (val : α) :
    (q.size ≤ q.maxSize ∧ (q.push val).queue = q.queue ++ [val]) ∨
    (q.maxSize < q.size ∧ ∃ oldest rest, q.queue = oldest :: rest ∧
      (q.push val).queue = rest ++ [val]) := by
  unfold push
  split
  · next hover =>
    cases hqueue : q.queue with
    | nil =>
      rw [size, hqueue] at hover
      cases hover
    | cons oldest rest => exact Or.inr ⟨hover, oldest, rest, rfl, by simp [pop, hqueue]⟩
  · next hover => exact Or.inl ⟨Nat.le_of_not_lt hover, rfl⟩

/-- A queue with the default limit is never over it. -/
theorem push_queue_of_default {q : LimitQueue α} (h : q.maxSize = 2 ^ 64 - 1) (val : α) :
    (q.push val).queue = q.queue ++ [val] := by
  have hsize : ¬ q.size > q.maxSize := by
    unfold size
    omega
  unfold push
  rw [if_neg hsize]

@[simp] theorem push_maxSize (q : LimitQueue α) (val : α) : (q.push val).maxSize = q.maxSize := by
  unfold push
  split <;> rfl

theorem mem_push {q : LimitQueue α} {val a : α} (h : a ∈ (q.push val).queue) :
    a ∈ q.queue ∨ a = val := by
  rcases push_queue q val with heq | heq <;>
    rw [heq, List.mem_append, List.mem_singleton] at h
  · exact h
  · exact h.imp List.mem_of_mem_tail id

theorem mem_of_mem_popWhile {p : α → Bool} {q : LimitQueue α} {a : α}
    (h : a ∈ (q.popWhile p).queue) : a ∈ q.queue :=
  (List.dropWhile_sublist p).mem h

/-- What is left at the front does not satisfy the condition. -/
theorem front?_popWhile {p : α → Bool} {q : LimitQueue α} {a : α}
    (h : (q.popWhile p).front? = some a) : p a = false := by
  have hhead := List.head?_dropWhile_not p q.queue
  rw [show (q.queue.dropWhile p).head? = some a from h] at hhead
  simpa using hhead

/-- A queue with a front. -/
theorem queue_of_front? {q : LimitQueue α} {a : α} (h : q.front? = some a) :
    q.queue = a :: q.pop.queue :=
  List.eq_cons_of_mem_head? h

/-- The front of a queue is one of its elements. -/
theorem mem_of_front? {q : LimitQueue α} {a : α} (h : q.front? = some a) : a ∈ q.queue :=
  List.mem_of_mem_head? h

end LimitQueue

end ModbusGateway
