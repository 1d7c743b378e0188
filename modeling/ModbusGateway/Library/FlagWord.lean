import Mathlib.Data.Fin.Basic
import Mathlib.Data.List.Nodup
import Mathlib.Logic.Function.Basic

/-!
# Words of flags

A word whose bits are flags, which are set, cleared or left as they are one after the other.
Each flag has a name, and different names are different bits.

## Main definitions

* `flag i` — the word in which only the flag `i` is set.
* `assign word mask value` — set or clear the flags of a mask, or keep them.
* `assignAll bit word entries` — assign several flags, by their names, in turn.

## Main results

* `getLsbD_assign_flag` — **an assignment changes no other flag.**
* `getLsbD_assignAll` — **each flag assigned has its value, or the one it had.**
* `assignAll_eq_self_iff` — when a list of assignments changes nothing.
-/

namespace FlagWord

variable {w : ℕ} {κ : Type*}

/-- The word in which only the flag `i` is set. -/
def flag (i : Fin w) : BitVec w := BitVec.twoPow w i

/-- Set or clear the flags of a mask, or keep them. -/
def assign (word mask : BitVec w) : Option Bool → BitVec w
  | none => word
  | some true => word ||| mask
  | some false => word &&& ~~~mask

/-- Assign several flags, by their names, in turn. -/
def assignAll (bit : κ → Fin w) (word : BitVec w) (entries : List (κ × Option Bool)) : BitVec w :=
  entries.foldl (fun word entry => assign word (flag (bit entry.1)) entry.2) word

theorem getLsbD_flag (i j : Fin w) : (flag i).getLsbD j = decide (i = j) := by
  rw [flag, BitVec.getLsbD_twoPow]
  simp [Fin.ext_iff, i.isLt]

/-- **An assignment changes no other flag**, and its own as it says. -/
theorem getLsbD_assign_flag (word : BitVec w) (i : Fin w) (value : Option Bool) (j : Fin w) :
    (assign word (flag i) value).getLsbD j =
      if i = j then value.getD (word.getLsbD j) else word.getLsbD j := by
  have hflag := getLsbD_flag i j
  cases value with
  | none => simp [assign]
  | some b =>
    cases b with
    | true =>
      rw [assign, BitVec.getLsbD_or, hflag]
      by_cases hij : i = j <;> simp [hij]
    | false =>
      rw [assign, BitVec.getLsbD_and, BitVec.getLsbD_not, hflag]
      by_cases hij : i = j <;> simp [hij]

theorem assignAll_cons (bit : κ → Fin w) (word : BitVec w) (entry : κ × Option Bool)
    (entries : List (κ × Option Bool)) :
    assignAll bit word (entry :: entries) =
      assignAll bit (assign word (flag (bit entry.1)) entry.2) entries :=
  rfl

variable {bit : κ → Fin w}

/-- The flags that are not named are kept. -/
theorem getLsbD_assignAll_of_ne {entries : List (κ × Option Bool)} {j : Fin w} :
    ∀ {word : BitVec w}, (∀ entry ∈ entries, bit entry.1 ≠ j) →
      (assignAll bit word entries).getLsbD j = word.getLsbD j := by
  induction entries with
  | nil => intro word _; rfl
  | cons entry entries ih =>
    intro word h
    rw [assignAll_cons, ih fun e he => h e (List.mem_cons_of_mem _ he), getLsbD_assign_flag,
      if_neg (h entry List.mem_cons_self)]

/-- **Each flag assigned has its value, or the one it had.** -/
theorem getLsbD_assignAll (hbit : Function.Injective bit) {entries : List (κ × Option Bool)}
    {k : κ} {value : Option Bool} :
    ∀ word : BitVec w, (entries.map Prod.fst).Nodup → (k, value) ∈ entries →
      (assignAll bit word entries).getLsbD (bit k) = value.getD (word.getLsbD (bit k)) := by
  induction entries with
  | nil => intro word _ h; cases h
  | cons entry entries ih =>
    intro word hnodup h
    rw [List.map_cons, List.nodup_cons] at hnodup
    rw [assignAll_cons]
    rcases List.mem_cons.mp h with rfl | hrest
    · -- it is assigned first, and not again
      rw [getLsbD_assignAll_of_ne fun e he heq => ?_, getLsbD_assign_flag, if_pos rfl]
      exact hnodup.1 (List.mem_map.mpr ⟨e, he, hbit heq⟩)
    · rw [ih _ hnodup.2 hrest, getLsbD_assign_flag, if_neg fun heq => ?_]
      exact hnodup.1 (List.mem_map.mpr ⟨(k, value), hrest, (hbit heq).symm⟩)

/-- **A list of assignments changes nothing** exactly if every flag has the value that it is
given. -/
theorem assignAll_eq_self_iff (hbit : Function.Injective bit) {word : BitVec w}
    {entries : List (κ × Option Bool)} (hnodup : (entries.map Prod.fst).Nodup) :
    assignAll bit word entries = word ↔
      ∀ k b, (k, some b) ∈ entries → word.getLsbD (bit k) = b := by
  constructor
  · intro heq k b hmem
    have hvalue := getLsbD_assignAll hbit word hnodup hmem
    rw [heq] at hvalue
    exact hvalue
  · intro hall
    refine BitVec.eq_of_getLsbD_eq fun i hi => ?_
    by_cases hnamed : ∃ entry ∈ entries, bit entry.1 = ⟨i, hi⟩
    · obtain ⟨⟨k, value⟩, hmem, hk⟩ := hnamed
      have hvalue := getLsbD_assignAll hbit word hnodup hmem
      rw [show bit k = ⟨i, hi⟩ from hk] at hvalue
      rw [hvalue]
      cases value with
      | none => rfl
      | some b => exact (hk ▸ hall k b hmem : word.getLsbD (⟨i, hi⟩ : Fin w) = b).symm
    · exact getLsbD_assignAll_of_ne (j := ⟨i, hi⟩) fun entry he heq => hnamed ⟨entry, he, heq⟩

end FlagWord
