import Mathlib.Data.List.Induction
import ModbusGateway.Library.Transaction

/-!
# A slot for the latest request

A party reads blocks, each of which is a request or is refused, and is handed
messages.  It keeps the latest request in a slot.  A message that matches the request
in the slot empties it and is written, unless there is nothing in it to write; any
other message is ignored.

## Main definitions

* `Protocol` — which message matches which request, and what is written.
* `Protocol.next`, `Protocol.output` — the slot after an input, and what is written.
* `latest` — the latest request, and the messages since.
* `Protocol.slot`, `Protocol.acts` — the slot after a list of inputs, and the requests
  and answers in it.

## Main results

* `Protocol.paired` — **what is written answers the latest request, once.**
* `Protocol.acts_filter`, `Protocol.slot_filter` — a block that is refused changes
  nothing, then or later.
* `Protocol.slot_eq_latest` — the request in the slot is the latest one, unless a message
  since has matched it.
-/

namespace Slot

open Transaction

/-- What such a party is given. -/
inductive Input (ρ μ : Type*)
  /-- A block has been read, and the request it makes, unless it is refused. -/
  | block (request : Option ρ)
  /-- A message is handed over. -/
  | message (m : μ)

/-- The input is no block that is refused. -/
def Input.accepted {ρ μ : Type*} : Input ρ μ → Bool
  | .block request => request.isSome
  | .message _ => true

/-- The request that an input makes. -/
def Input.request {ρ μ : Type*} : Input ρ μ → Option ρ
  | .block request => request
  | .message _ => none

/-- The latest request and the messages since, after an input. -/
def Input.since {ρ μ : Type*} (l : Option (ρ × List μ)) : Input ρ μ → Option (ρ × List μ)
  | .block none => l
  | .block (some r) => some (r, [])
  | .message m => l.map fun l => (l.1, l.2 ++ [m])

/-- The latest request of a list of inputs, and the messages handed over since. -/
def latest {ρ μ : Type*} (inputs : List (Input ρ μ)) : Option (ρ × List μ) :=
  inputs.foldl Input.since none

@[simp] theorem latest_concat {ρ μ : Type*} (is : List (Input ρ μ)) (i : Input ρ μ) :
    latest (is ++ [i]) = Input.since (latest is) i := by
  rw [latest, List.foldl_append]
  rfl

/-- Which message matches which request, and what is written of a message. -/
structure Protocol (ρ μ φ : Type*) where
  /-- The message matches the request. -/
  accepts : ρ → μ → Bool
  /-- What is written of the message, if there is anything. -/
  frame : μ → Option φ

namespace Protocol

variable {ρ μ φ : Type*} (p : Protocol ρ μ φ)

/-- The slot after an input. -/
def next (slot : Option ρ) : Input ρ μ → Option ρ
  | .block none => slot
  | .block (some r) => some r
  | .message m => if slot.any (p.accepts · m) then none else slot

/-- What is written on an input. -/
def output (slot : Option ρ) : Input ρ μ → Option φ
  | .block _ => none
  | .message m => if slot.any (p.accepts · m) then p.frame m else none

/-- What an input does: start a transaction, or answer the one in the slot. -/
def act (slot : Option ρ) : Input ρ μ → Option (Act ρ (μ × φ))
  | .block request => request.map .start
  | .message m => (p.output slot (.message m)).map fun f => .answer (m, f)

/-- The slot after a list of inputs, from an empty one. -/
def slot (inputs : List (Input ρ μ)) : Option ρ := inputs.foldl p.next none

/-- The transactions of a list of inputs, from the given slot. -/
def actsFrom : Option ρ → List (Input ρ μ) → List (Act ρ (μ × φ))
  | _, [] => []
  | slot, i :: is => (p.act slot i).toList ++ actsFrom (p.next slot i) is

/-- The transactions of a list of inputs. -/
def acts (inputs : List (Input ρ μ)) : List (Act ρ (μ × φ)) := p.actsFrom none inputs

/-- The message matches the request, and the frame is what is written of it. -/
def Answers (r : ρ) (a : μ × φ) : Prop := p.accepts r a.1 = true ∧ p.frame a.1 = some a.2

variable {p}

@[simp] theorem slot_concat (is : List (Input ρ μ)) (i : Input ρ μ) :
    p.slot (is ++ [i]) = p.next (p.slot is) i := by
  rw [slot, List.foldl_append]
  rfl

theorem actsFrom_concat (is : List (Input ρ μ)) (i : Input ρ μ) :
    ∀ slot, p.actsFrom slot (is ++ [i]) =
      p.actsFrom slot is ++ (p.act (is.foldl p.next slot) i).toList := by
  induction is with
  | nil =>
    intro slot
    exact List.append_nil _
  | cons j is ih =>
    intro slot
    rw [List.cons_append, actsFrom, actsFrom, ih, List.append_assoc]
    rfl

@[simp] theorem acts_concat (is : List (Input ρ μ)) (i : Input ρ μ) :
    p.acts (is ++ [i]) = p.acts is ++ (p.act (p.slot is) i).toList :=
  actsFrom_concat is i none

/-- A block starts the request it makes. -/
theorem starts_acts_concat (is : List (Input ρ μ)) (i : Input ρ μ) :
    starts (p.acts (is ++ [i])) = starts (p.acts is) ++ i.request.toList := by
  rw [acts_concat, starts_append]
  cases i with
  | block request => cases request <;> rfl
  | message m =>
    rw [act]
    cases p.output (p.slot is) (.message m) <;> rfl

/-- **What is written answers the request in the slot, and empties it.** -/
theorem paired (is : List (Input ρ μ)) : Paired p.Answers (p.acts is) (p.slot is) := by
  induction is using List.reverseRecOn with
  | nil => exact .nil
  | append_singleton is i ih =>
    rw [acts_concat, slot_concat]
    cases i with
    | block request =>
      cases request with
      | none => simpa [act, next] using ih
      | some r => exact .start r ih
    | message m =>
      by_cases hmatch : (p.slot is).any (p.accepts · m) = true
      · obtain ⟨r, hr, haccepts⟩ : ∃ r, p.slot is = some r ∧ p.accepts r m = true := by
          cases hslot : p.slot is with
          | none => rw [hslot] at hmatch; cases hmatch
          | some r => rw [hslot] at hmatch; exact ⟨r, rfl, hmatch⟩
        cases hframe : p.frame m with
        | none =>
          -- the message empties the slot without being written
          simp only [act, output, next, hmatch, if_true, hframe, Option.map_none,
            Option.toList_none, List.append_nil]
          exact .drop ih
        | some f =>
          simp only [act, output, next, hmatch, if_true, hframe, Option.map_some,
            Option.toList_some]
          rw [hr] at ih
          exact .answer (m, f) ih ⟨haccepts, hframe⟩
      · simpa [act, output, next, hmatch] using ih

/-! ### Blocks that are refused -/

theorem foldl_filter (is : List (Input ρ μ)) :
    ∀ slot, (is.filter Input.accepted).foldl p.next slot = is.foldl p.next slot := by
  induction is with
  | nil => intro slot; rfl
  | cons i is ih =>
    intro slot
    by_cases hi : i.accepted = true
    · rw [List.filter_cons_of_pos hi, List.foldl_cons, List.foldl_cons, ih]
    · rw [List.filter_cons_of_neg hi, ih, List.foldl_cons]
      -- a refused block leaves the slot alone
      cases i with
      | block request =>
        cases request with
        | none => rfl
        | some r => exact absurd rfl hi
      | message m => exact absurd rfl hi

/-- A block that is refused leaves the slot as it is, then and later. -/
theorem slot_filter (is : List (Input ρ μ)) : p.slot (is.filter Input.accepted) = p.slot is :=
  foldl_filter is none

/-- **A block that is refused does nothing, then or later.** -/
theorem acts_filter (is : List (Input ρ μ)) : p.acts (is.filter Input.accepted) = p.acts is := by
  induction is using List.reverseRecOn with
  | nil => rfl
  | append_singleton is i ih =>
    rw [List.filter_append, acts_concat]
    by_cases hi : i.accepted = true
    · rw [List.filter_cons_of_pos hi, List.filter_nil, acts_concat, ih, slot_filter]
    · rw [List.filter_cons_of_neg hi, List.filter_nil, List.append_nil, ih]
      cases i with
      | block request =>
        cases request with
        | none => exact (List.append_nil _).symm
        | some r => exact absurd rfl hi
      | message m => exact absurd rfl hi

/-! ### The request in the slot -/

/-- The latest request is the last one that has been started. -/
theorem getLast?_starts (is : List (Input ρ μ)) :
    (starts (p.acts is)).getLast? = (latest is).map Prod.fst := by
  induction is using List.reverseRecOn with
  | nil => rfl
  | append_singleton is i ih =>
    rw [starts_acts_concat, latest_concat]
    cases i with
    | block request =>
      cases request with
      | none => simpa [Input.request, Input.since] using ih
      | some r => simp [Input.request, Input.since]
    | message m =>
      rw [Input.request, Option.toList_none, List.append_nil, ih, Input.since, Option.map_map]
      rfl

/-- **The request in the slot** is the latest one, unless a message since has matched it. -/
theorem slot_eq_latest (is : List (Input ρ μ)) :
    p.slot is = (latest is).bind fun l => if l.2.any (p.accepts l.1) then none else some l.1 := by
  induction is using List.reverseRecOn with
  | nil => rfl
  | append_singleton is i ih =>
    rw [slot_concat, latest_concat]
    cases i with
    | block request =>
      cases request with
      | none => exact ih
      | some r => rfl
    | message m =>
      rw [next, ih, Input.since]
      cases latest is with
      | none => rfl
      | some l =>
        rw [Option.map_some, Option.bind_some, Option.bind_some, List.any_append]
        -- it was matched before, or it is still there
        cases hbefore : l.2.any (p.accepts l.1) with
        | true => rfl
        | false => simp

end Protocol

end Slot
