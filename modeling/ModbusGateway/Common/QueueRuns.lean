import ModbusGateway.Library.Execution
import ModbusGateway.Common.LimitQueue

/-!
# Runs of the bounded queue

A `LimitQueue` under any sequence of `Push` and `Pop`, the latter on a nonempty queue only, with
what has been pushed and what has been popped, oldest first.

`Push` compares the size with the limit before the element is in the queue, and discards the
oldest one only if the queue is *over* the limit.  So a queue that is full takes one element
more, and stays with it.

## Main definitions

* `LimitQueue.Run`, `LimitQueue.Run.step` — the operations of a run.
* `LimitQueue.Run.Limited` — the queue keeps its limit and the order of its elements.

## Main results

* `LimitQueue.Run.sound_step` — what every operation preserves.
* `LimitQueue.Run.size_le_succ` — **a queue is never more than one element over its limit.**
* `LimitQueue.Run.limited_iff` — **a queue keeps its limit exactly if no element is pushed while
  it is full.**
-/

namespace ModbusGateway

namespace LimitQueue

open Execution

variable {α : Type}

/-- The operations of a run. -/
inductive Op (α : Type)
  /-- `Push(val)`. -/
  | push (val : α)
  /-- `Front()` and `Pop()`, of a queue that is not empty. -/
  | pop
  deriving DecidableEq, Repr

/-- A queue, with the elements that have been pushed and those that have been popped. -/
structure Run (α : Type) where
  queue : LimitQueue α
  pushed : List α
  popped : List α
  deriving DecidableEq, Repr

namespace Run

/-- A new queue. -/
def start (maxSize : ℕ) : Run α := ⟨.ofMaxSize maxSize, [], []⟩

/-- The step function. -/
def step (r : Run α) : Op α → Option (Run α)
  | .push val => some { r with queue := r.queue.push val, pushed := r.pushed ++ [val] }
  | .pop => r.queue.front?.map fun val =>
    { r with queue := r.queue.pop, popped := r.popped ++ [val] }

/-- The operation does not push an element to a full queue, unless its limit is the largest
value of `size_t`. -/
def belowLimit (r : Run α) : Op α → Bool
  | .push _ => decide (r.queue.size < r.queue.maxSize) || decide (2 ^ 64 - 1 ≤ r.queue.maxSize)
  | .pop => true

/-- The elements have left the queue in the order in which they were pushed, each popped or
discarded, and those in it are the others. -/
def Ordered (r : Run α) : Prop :=
  ∃ left, r.pushed = left ++ r.queue.queue ∧ List.Sublist r.popped left

/-- The queue keeps its limit. -/
structure Limited (r : Run α) : Prop where
  size : r.queue.size ≤ r.queue.maxSize
  order : r.Ordered
  /-- A push discards an element of a full queue only, and only the oldest one. -/
  push : ∀ val, (r.queue.push val).queue = r.queue.queue ++ [val] ∨
    r.queue.maxSize ≤ r.queue.size ∧ ∃ oldest rest, r.queue.queue = oldest :: rest ∧
      (r.queue.push val).queue = rest ++ [val]

/-- What holds in every run: there is at most one element too many. -/
structure Sound (r : Run α) : Prop where
  bound : r.queue.maxSize < 2 ^ 64 - 1 → r.queue.queue.length ≤ r.queue.maxSize + 1
  order : r.Ordered

variable {r r' : Run α}

theorem sound_start (maxSize : ℕ) : (start maxSize : Run α).Sound where
  bound _ := Nat.zero_le _
  order := ⟨[], rfl, .refl []⟩

/-- **Every operation leaves at most one element too many**, and keeps the order. -/
theorem sound_step {op : Op α} (h : r.Sound) (hs : step r op = some r') : r'.Sound := by
  obtain ⟨left, hpushed, hpopped⟩ := h.order
  cases op with
  | push val =>
    obtain rfl := Option.some.inj hs
    have hlength := h.bound
    rcases r.queue.push_cases val with ⟨hsize, hqueue⟩ | ⟨-, oldest, rest, hold, hqueue⟩
    · refine ⟨fun hlimit => ?_, left, ?_, hpopped⟩
      · rw [push_maxSize] at hlimit ⊢
        have hle := hlength hlimit
        rw [size, Nat.mod_eq_of_lt (by omega)] at hsize
        rw [hqueue, List.length_append, List.length_singleton]
        omega
      · rw [hqueue, hpushed, List.append_assoc]
    · -- the element that is discarded is the first of those that have not left
      refine ⟨fun hlimit => ?_, left ++ [oldest], ?_, hpopped.trans (List.sublist_append_left _ _)⟩
      · rw [push_maxSize] at hlimit ⊢
        have hle := hlength hlimit
        rw [hold, List.length_cons] at hle
        rw [hqueue, List.length_append, List.length_singleton]
        exact hle
      · rw [hqueue, hpushed, hold]
        simp
  | pop =>
    obtain ⟨val, hfront, rfl⟩ := Option.map_eq_some_iff.mp hs
    have hold := queue_of_front? hfront
    refine ⟨fun hlimit => ?_, left ++ [val], ?_, hpopped.append (.refl [val])⟩
    · have hle := h.bound hlimit
      rw [hold, List.length_cons] at hle
      exact Nat.le_of_succ_le hle
    · rw [hpushed, hold, List.append_assoc]
      rfl

/-- A queue that has been pushed to and popped from is sound. -/
theorem sound_exec {maxSize : ℕ} {ops : List (Op α)}
    (hrun : exec step (start maxSize) ops = some r) : r.Sound :=
  invariant (fun _ _ _ => sound_step) ops _ r (sound_start maxSize) hrun

/-- **A queue is never more than one element over its limit.** -/
theorem size_le_succ {maxSize : ℕ} {ops : List (Op α)}
    (hrun : exec step (start maxSize) ops = some r) : r.queue.size ≤ r.queue.maxSize + 1 := by
  have hbound := (sound_exec hrun).bound
  unfold size
  by_cases hlimit : r.queue.maxSize < 2 ^ 64 - 1
  · exact Nat.le_trans (Nat.mod_le _ _) (hbound hlimit)
  · omega

/-- What is pushed or discarded is right in every run; what may be wrong is the size. -/
theorem limited_iff_size (h : r.Sound) : r.Limited ↔ r.queue.size ≤ r.queue.maxSize := by
  refine ⟨Limited.size, fun hsize => ⟨hsize, h.order, fun val => ?_⟩⟩
  rcases r.queue.push_cases val with ⟨-, hqueue⟩ | ⟨hover, hrest⟩
  · exact Or.inl hqueue
  · exact Or.inr ⟨Nat.le_of_lt hover, hrest⟩

/-- **An operation on a queue within its limit leaves it within its limit** exactly if it does
not push to a full queue. -/
theorem belowLimit_iff {op : Op α} (h : r.Sound) (hsize : r.queue.size ≤ r.queue.maxSize)
    (hs : step r op = some r') :
    belowLimit r op = true ↔ r'.queue.size ≤ r'.queue.maxSize := by
  have hbound := h.bound
  cases op with
  | push val =>
    obtain rfl := Option.some.inj hs
    have hqueue : (r.queue.push val).queue.length = r.queue.queue.length + 1 := by
      rcases r.queue.push_cases val with ⟨-, hqueue⟩ | ⟨hover, -⟩
      · rw [hqueue, List.length_append, List.length_singleton]
      · exact absurd hsize (Nat.not_le.mpr hover)
    simp only [belowLimit, Bool.or_eq_true, decide_eq_true_eq, push_maxSize]
    unfold size at hsize ⊢
    rw [hqueue]
    omega
  | pop =>
    obtain ⟨val, hfront, rfl⟩ := Option.map_eq_some_iff.mp hs
    refine ⟨fun _ => ?_, fun _ => rfl⟩
    have hlength := congrArg List.length (queue_of_front? hfront)
    rw [List.length_cons] at hlength
    change r.queue.pop.size ≤ r.queue.maxSize
    unfold size at hsize ⊢
    omega

/-- **A queue keeps its limit** in a run exactly if no element is pushed while it is full; what
is in it, and what is discarded, is right in any case. -/
theorem limited_iff {maxSize : ℕ} {ops : List (Op α)} {r : Run α}
    (hrun : exec step (start maxSize) ops = some r) :
    (∀ ops₁ s, ops₁ <+: ops → exec step (start maxSize) ops₁ = some s → s.Limited) ↔
      along step belowLimit (start maxSize) ops = true := by
  have hstart : (start maxSize : Run α).Limited :=
    (limited_iff_size (sound_start maxSize)).mpr (Nat.zero_le _)
  refine (along_iff_initial (I := Sound) (fun s op s' h hgood hs => ?_) ops _ r
    (sound_start maxSize) hstart hrun).symm
  have hsound := sound_step h hs
  exact ⟨hsound, (belowLimit_iff h hgood.size hs).trans (limited_iff_size hsound).symm⟩

/-- The operations that fill a queue for two elements, pop one and fill it again. -/
def refill : List (Op ℕ) := [.push 7, .push 8, .pop, .push 9]

theorem limited_refill :
    exec step (start 2) refill = some ⟨⟨[8, 9], 2⟩, [7, 8, 9], [7]⟩ ∧
      ∀ ops₁ s, ops₁ <+: refill → exec step (start 2) ops₁ = some s → s.Limited :=
  ⟨rfl, (limited_iff rfl).mpr rfl⟩

/-- A queue for one element that two are pushed to. -/
theorem overfull_not_limited :
    ∃ r : Run ℕ, exec step (start 1) [.push 7, .push 8] = some r ∧ r.queue.size = 2 ∧
      r.queue.maxSize = 1 ∧ ¬ r.Limited :=
  ⟨_, rfl, rfl, rfl, fun h => absurd h.size (by decide)⟩

end Run

end LimitQueue

end ModbusGateway
