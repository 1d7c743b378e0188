import Mathlib.Algebra.Order.Ring.Int
import Mathlib.Data.Nat.Notation

/-!
# Signed arithmetic without overflow

Operations on `Int64` that yield what the operation on the integers yields.  An operation does so
exactly if its value is in range, which is what it means that it does not overflow.

* `Fits` — the value is in the range of `Int64`.
* `toInt_ofNat_iff`, `toInt_add_iff`, `toInt_mul_iff` — **an operation is exact exactly if its
  value fits.**
-/

namespace SignedArithmetic

/-- The value is in the range of `Int64`. -/
def Fits (z : ℤ) : Prop := -2 ^ 63 ≤ z ∧ z < 2 ^ 63

theorem fits_toInt (a : Int64) : Fits a.toInt := ⟨a.le_toInt, a.toInt_lt⟩

/-- What is in range is not wrapped, and nothing else. -/
theorem bmod_eq_iff {z : ℤ} : z.bmod (2 ^ 64) = z ↔ Fits z := by
  constructor
  · intro h
    have hlow := Int.le_bmod (x := z) (m := 2 ^ 64) (by decide)
    have hhigh := Int.bmod_lt (x := z) (m := 2 ^ 64) (by decide)
    rw [h] at hlow hhigh
    exact ⟨by omega, by omega⟩
  · rintro ⟨hlow, hhigh⟩
    exact Int.bmod_eq_of_le (by omega) (by omega)

theorem toInt_ofNat_iff {n : ℕ} : (Int64.ofNat n).toInt = n ↔ Fits n := by
  rw [Int64.toInt_ofNat']
  exact bmod_eq_iff

theorem toInt_add_iff {a b : Int64} :
    (a + b).toInt = a.toInt + b.toInt ↔ Fits (a.toInt + b.toInt) := by
  rw [Int64.toInt_add]
  exact bmod_eq_iff

theorem toInt_mul_iff {a b : Int64} :
    (a * b).toInt = a.toInt * b.toInt ↔ Fits (a.toInt * b.toInt) := by
  rw [Int64.toInt_mul]
  exact bmod_eq_iff

end SignedArithmetic
