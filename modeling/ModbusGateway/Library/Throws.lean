import Mathlib.Logic.Basic

/-!
# What a computation throws

A property of everything that a computation may throw, and how it follows the computation: the
counterpart, for `Except`, of a postcondition that is about the exceptional end of a run.

* `Throws x P` — whatever `x` throws has `P`.
* `Throws.bind` — a computation throws what its first step throws, or what it goes on with.
* `Throws.dite` — and what the branch throws that is taken.
-/

/-- Whatever `x` throws has `P`. -/
def Throws {ε : Type*} {α : Type*} (x : Except ε α) (P : ε → Prop) : Prop :=
  ∀ e, x = .error e → P e

namespace Throws

universe u

variable {ε : Type*} {α γ : Type u} {x y : Except ε α} {P Q : ε → Prop}

theorem ok (a : α) : Throws (.ok a : Except ε α) P := fun _ h => by cases h

theorem pure (a : α) : Throws (Pure.pure a : Except ε α) P := ok a

theorem error {e : ε} (h : P e) : Throws (.error e : Except ε α) P := by
  rintro _ ⟨⟩
  exact h

theorem mono (h : Throws x P) (hPQ : ∀ e, P e → Q e) : Throws x Q := fun e he => hPQ e (h e he)

/-- A computation throws what its first step throws, or what it goes on with. -/
theorem bind {f : α → Except ε γ} (hx : Throws x P) (hf : ∀ a, x = .ok a → Throws (f a) P) :
    Throws (x >>= f) P := by
  cases x with
  | error e =>
    rintro _ ⟨⟩
    exact hx e rfl
  | ok a => exact hf a rfl

/-- A computation throws what the branch throws that is taken. -/
theorem dite {c : Prop} [Decidable c] (hx : c → Throws x P) (hy : ¬ c → Throws y P) :
    Throws (if c then x else y) P := by
  by_cases h : c
  · rw [if_pos h]
    exact hx h
  · rw [if_neg h]
    exact hy h

end Throws
