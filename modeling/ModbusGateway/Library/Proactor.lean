import Mathlib.Algebra.BigOperators.Group.List.Basic
import Mathlib.Algebra.Ring.Nat
import Mathlib.Data.List.Basic
import Mathlib.Data.List.Perm.Basic

/-!
# Asynchronous operations and their completion handlers

In a completion-based input/output library an operation is *started*, later
*completes* with a result, and after that its handler is *run*.  Until it has
completed an operation can be cancelled, which completes it with a result of the
canceller's choosing; a cancellation does not recall an operation that has
completed already and whose handler is only waiting to be run.

A `Pool κ ρ` holds the outstanding operations of one input/output object: those
started whose handler has not been run.  `κ` says what was started, with what
its handler captured, and `ρ` is the type of results.

## Main definitions

* `Pool.start`, `Pool.complete`, `Pool.cancel`, `Pool.take` — the four moves.
* `Pool.kinds` — what is outstanding, whether it has completed or not.
* `Pool.work cost` — the moves left, if `cost` says how many come of running a handler.

## Main results

* `kinds_complete`, `kinds_cancel` — completing and cancelling change nothing of
  what is outstanding.
* `take_perm` — running a handler removes exactly one operation.
* `eq_nil_of_stuck` — if nothing can move, nothing is outstanding.
* `work_complete`, `work_take` — every move is a part of the work.
-/

namespace Proactor

/-- An outstanding operation: what was started, and once it has completed the
result its handler will be called with. -/
structure Op (κ ρ : Type*) where
  kind : κ
  result : Option ρ
  deriving DecidableEq, Repr

/-- Complete an operation with `r` unless it has completed already. -/
def Op.abort {κ ρ : Type*} (r : ρ) (o : Op κ ρ) : Op κ ρ :=
  { o with result := some (o.result.getD r) }

@[simp] theorem Op.abort_kind {κ ρ : Type*} (r : ρ) (o : Op κ ρ) : (o.abort r).kind = o.kind :=
  rfl

/-- What is left to do with an operation: to complete it, and what comes of its handler. -/
def Op.work {κ ρ : Type*} (cost : κ → ℕ) (o : Op κ ρ) : ℕ :=
  cost o.kind + if o.result.isNone then 1 else 0

/-- The outstanding operations of an input/output object, oldest first. -/
abbrev Pool (κ ρ : Type*) := List (Op κ ρ)

namespace Pool

variable {κ ρ : Type*}

/-- Start an operation. -/
def start (p : Pool κ ρ) (k : κ) : Pool κ ρ := p ++ [⟨k, none⟩]

/-- The operation at position `i` completes, if there is one still pending. -/
def complete (p : Pool κ ρ) (i : ℕ) (r : ρ) : Option (Pool κ ρ) :=
  match p[i]? with
  | some ⟨k, none⟩ => some (p.set i ⟨k, some r⟩)
  | _ => none

/-- Every operation still pending completes with `r`. -/
def cancel (p : Pool κ ρ) (r : ρ) : Pool κ ρ := p.map (Op.abort r)

/-- The handler of the operation at position `i` is taken up to be run, if the
operation has completed. -/
def take (p : Pool κ ρ) (i : ℕ) : Option (κ × ρ × Pool κ ρ) :=
  match p[i]? with
  | some ⟨k, some r⟩ => some (k, r, p.eraseIdx i)
  | _ => none

/-- What is outstanding. -/
def kinds (p : Pool κ ρ) : List κ := p.map Op.kind

@[simp] theorem kinds_nil : kinds ([] : Pool κ ρ) = [] := rfl

@[simp] theorem kinds_start (p : Pool κ ρ) (k : κ) : (p.start k).kinds = p.kinds ++ [k] := by
  simp [kinds, start]

@[simp] theorem kinds_cancel (p : Pool κ ρ) (r : ρ) : (p.cancel r).kinds = p.kinds := by
  simp [kinds, cancel, Function.comp_def]

/-- A completion is that of a pending operation, which keeps its place. -/
theorem complete_some {p q : Pool κ ρ} {i : ℕ} {r : ρ} (h : p.complete i r = some q) :
    ∃ k, p[i]? = some ⟨k, none⟩ ∧ q = p.set i ⟨k, some r⟩ := by
  unfold complete at h
  split at h
  · next k hk => exact ⟨k, hk, (Option.some.inj h).symm⟩
  · cases h

/-- Completing an operation changes nothing of what is outstanding. -/
theorem kinds_complete {p q : Pool κ ρ} {i : ℕ} {r : ρ} (h : p.complete i r = some q) :
    q.kinds = p.kinds := by
  obtain ⟨k, hk, rfl⟩ := complete_some h
  obtain ⟨hi, hget⟩ := List.getElem?_eq_some_iff.mp hk
  have hkind : (p.map Op.kind)[i]? = some k := by rw [List.getElem?_map, hk]; rfl
  obtain ⟨hi', hget'⟩ := List.getElem?_eq_some_iff.mp hkind
  rw [kinds, kinds, List.map_set]
  conv_rhs => rw [← List.set_getElem_self hi', hget']

/-- After a completion every operation is as before, or it is the one completed. -/
theorem mem_complete {p q : Pool κ ρ} {i : ℕ} {r : ρ} (h : p.complete i r = some q)
    {o : Op κ ρ} (ho : o ∈ q) : o ∈ p ∨ ∃ k, p[i]? = some ⟨k, none⟩ ∧ o = ⟨k, some r⟩ := by
  obtain ⟨k, hk, rfl⟩ := complete_some h
  rcases List.mem_or_eq_of_mem_set ho with hmem | heq
  · exact Or.inl hmem
  · exact Or.inr ⟨k, hk, heq⟩

/-- The operations after a cancellation are those before it, aborted. -/
theorem mem_cancel {p : Pool κ ρ} {r : ρ} {o : Op κ ρ} :
    o ∈ p.cancel r ↔ ∃ o' ∈ p, o'.abort r = o := List.mem_map

theorem mem_start {p : Pool κ ρ} {k : κ} {o : Op κ ρ} :
    o ∈ p.start k ↔ o ∈ p ∨ o = ⟨k, none⟩ := by
  simp [start]

/-- Running a handler removes exactly one operation, one that has completed. -/
theorem take_perm {p q : Pool κ ρ} {i : ℕ} {k : κ} {r : ρ} (h : p.take i = some (k, r, q)) :
    p.Perm (⟨k, some r⟩ :: q) := by
  unfold take at h
  split at h
  · next k' r' hk =>
    simp only [Option.some.injEq, Prod.mk.injEq] at h
    obtain ⟨rfl, rfl, rfl⟩ := h
    obtain ⟨hi, hget⟩ := List.getElem?_eq_some_iff.mp hk
    rw [← hget]
    exact (List.getElem_cons_eraseIdx_perm hi).symm
  · cases h

/-- What is outstanding before a handler runs is its operation and what is
outstanding after. -/
theorem kinds_take {p q : Pool κ ρ} {i : ℕ} {k : κ} {r : ρ} (h : p.take i = some (k, r, q)) :
    p.kinds.Perm (k :: q.kinds) :=
  (take_perm h).map Op.kind

/-- What is outstanding after a handler has been taken up was outstanding before. -/
theorem mem_kinds_of_mem_take {p q : Pool κ ρ} {i : ℕ} {k : κ} {r : ρ}
    (h : p.take i = some (k, r, q)) {k' : κ} (hk : k' ∈ q.kinds) : k' ∈ p.kinds :=
  (kinds_take h).mem_iff.mpr (List.mem_cons_of_mem _ hk)

/-- What is taken up was outstanding. -/
theorem mem_kinds_take {p q : Pool κ ρ} {i : ℕ} {k : κ} {r : ρ} (h : p.take i = some (k, r, q)) :
    k ∈ p.kinds :=
  (kinds_take h).mem_iff.mpr List.mem_cons_self

theorem mem_of_mem_take {p q : Pool κ ρ} {i : ℕ} {k : κ} {r : ρ} (h : p.take i = some (k, r, q))
    {o : Op κ ρ} (ho : o ∈ q) : o ∈ p :=
  (take_perm h).mem_iff.mpr (List.mem_cons_of_mem _ ho)

theorem mem_take {p q : Pool κ ρ} {i : ℕ} {k : κ} {r : ρ} (h : p.take i = some (k, r, q)) :
    ⟨k, some r⟩ ∈ p :=
  (take_perm h).mem_iff.mpr List.mem_cons_self

/-- As long as anything is outstanding, something can complete or be taken up. -/
theorem eq_nil_of_stuck {p : Pool κ ρ} (r : ρ) (hcomplete : ∀ i, p.complete i r = none)
    (htake : ∀ i, p.take i = none) : p = [] := by
  cases p with
  | nil => rfl
  | cons o p =>
    obtain ⟨k, result⟩ := o
    cases result with
    | none => exact absurd (hcomplete 0) (by simp [complete])
    | some r => exact absurd (htake 0) (by simp [take])

/-! ### The work that is left -/

/-- What is left to do with the operations of a pool. -/
def work (cost : κ → ℕ) (p : Pool κ ρ) : ℕ := (p.map (Op.work cost)).sum

variable {cost : κ → ℕ}

@[simp] theorem work_nil : work cost ([] : Pool κ ρ) = 0 := rfl

@[simp] theorem work_start (p : Pool κ ρ) (k : κ) :
    (p.start k).work cost = p.work cost + (cost k + 1) := by
  simp [work, start, Op.work]

theorem work_perm {p q : Pool κ ρ} (h : p.Perm q) : p.work cost = q.work cost :=
  (h.map _).sum_eq

/-- A completion is one of the moves. -/
theorem work_complete (cost : κ → ℕ) {p q : Pool κ ρ} {i : ℕ} {r : ρ}
    (h : p.complete i r = some q) : q.work cost + 1 = p.work cost := by
  obtain ⟨k, hk, rfl⟩ := complete_some h
  obtain ⟨hi, hget⟩ := List.getElem?_eq_some_iff.mp hk
  have hset : (p.set i ⟨k, some r⟩).Perm (⟨k, some r⟩ :: p.eraseIdx i) :=
    List.set_perm_cons_eraseIdx hi _
  have hpool : p.Perm (⟨k, none⟩ :: p.eraseIdx i) := by
    rw [← hget]
    exact (List.getElem_cons_eraseIdx_perm hi).symm
  rw [work_perm hset, work_perm hpool]
  simp [work, Op.work]
  omega

/-- What is aborted need not be completed. -/
theorem work_cancel_le (p : Pool κ ρ) (r : ρ) : (p.cancel r).work cost ≤ p.work cost := by
  induction p with
  | nil => exact Nat.le_refl _
  | cons o p ih =>
    have hop : (o.abort r).work cost ≤ o.work cost := by simp [Op.work, Op.abort]
    exact Nat.add_le_add hop ih

/-- What is taken up leaves what comes of its handler. -/
theorem work_take (cost : κ → ℕ) {p q : Pool κ ρ} {i : ℕ} {k : κ} {r : ρ}
    (h : p.take i = some (k, r, q)) : p.work cost = cost k + q.work cost := by
  rw [work_perm (take_perm h)]
  simp [work, Op.work]

end Pool

end Proactor
