import Mathlib.Data.List.Basic

/-!
# Journals

A journal is the record of what the parties of a system have done, all in one order.  Each
entry bears the name of the party that did it.  What a single party has done, and what the
others have addressed to it, are projections of the journal, so that a statement about both
compares two lists that are ordered by the same clock.

## Main definitions

* `Journal.enter` — a party adds what it has done.
* `Journal.of` — what one party has done.
* `Journal.addressed` — what has been addressed to a party, each with its sender.

## Main results

* `of_enter_self`, `of_enter_of_ne` — an entry shows in the record of its own party only.
* `addressed_enter` — an entry adds the messages in it to what has been addressed.
* `mem_of`, `mem_addressed` — where the projections come from.
-/

/-- The record of what the parties `ι` of a system have done, oldest first. -/
abbrev Journal (ι ε : Type*) := List (ι × ε)

namespace Journal

variable {ι ε μ : Type*}

/-- A party adds what it has done. -/
def enter (j : Journal ι ε) (name : ι) (es : List ε) : Journal ι ε := j ++ es.map (name, ·)

@[simp] theorem enter_nil (j : Journal ι ε) (name : ι) : j.enter name [] = j :=
  List.append_nil j

theorem mem_enter {j : Journal ι ε} {name : ι} {es : List ε} {entry : ι × ε} :
    entry ∈ j.enter name es ↔ entry ∈ j ∨ entry.1 = name ∧ entry.2 ∈ es := by
  rw [enter, List.mem_append, List.mem_map]
  refine or_congr_right ⟨?_, fun ⟨hname, he⟩ => ⟨entry.2, he, by rw [← hname]⟩⟩
  rintro ⟨e, he, rfl⟩
  exact ⟨rfl, he⟩

variable [DecidableEq ι]

/-! ### What one party has done -/

/-- What one party has done, oldest first. -/
def of (j : Journal ι ε) (name : ι) : List ε :=
  j.filterMap fun entry => if entry.1 = name then some entry.2 else none

@[simp] theorem of_nil (name : ι) : of ([] : Journal ι ε) name = [] := rfl

@[simp] theorem of_enter_self (j : Journal ι ε) (name : ι) (es : List ε) :
    (j.enter name es).of name = j.of name ++ es := by
  have hown : (es.map (name, ·)).filterMap
      (fun entry : ι × ε => if entry.1 = name then some entry.2 else none) = es := by
    rw [List.filterMap_map]
    simp
  rw [of, enter, List.filterMap_append, hown]
  rfl

@[simp] theorem of_enter_of_ne {name other : ι} (h : name ≠ other) (j : Journal ι ε)
    (es : List ε) : (j.enter name es).of other = j.of other := by
  have hnone : (es.map (name, ·)).filterMap
      (fun entry : ι × ε => if entry.1 = other then some entry.2 else none) = [] := by
    rw [List.filterMap_map]
    simp [h]
  rw [of, enter, List.filterMap_append, hnone, List.append_nil]
  rfl

theorem mem_of {j : Journal ι ε} {name : ι} {e : ε} : e ∈ j.of name ↔ (name, e) ∈ j := by
  simp only [of, List.mem_filterMap, Option.ite_none_right_eq_some, Option.some.injEq]
  constructor
  · rintro ⟨⟨_, _⟩, hmem, rfl, rfl⟩
    exact hmem
  · intro hmem
    exact ⟨_, hmem, rfl, rfl⟩

/-! ### What has been addressed to a party -/

/-- The messages to a party among the deeds of another, each with its sender; `sent` is the
message in a deed and whom it is for. -/
def mail (sent : ε → Option (ι × μ)) (sender name : ι) (es : List ε) : List (ι × μ) :=
  es.filterMap fun e => (sent e).bind fun m => if m.1 = name then some (sender, m.2) else none

/-- What has been addressed to a party, oldest first, each message with its sender. -/
def addressed (sent : ε → Option (ι × μ)) (j : Journal ι ε) (name : ι) : List (ι × μ) :=
  j.filterMap fun entry =>
    (sent entry.2).bind fun m => if m.1 = name then some (entry.1, m.2) else none

variable {sent : ε → Option (ι × μ)}

@[simp] theorem mail_nil (sender name : ι) : mail sent sender name [] = [] := rfl

/-- The message in the first deed comes before those in the others. -/
theorem mail_cons (sender name : ι) (e : ε) (es : List ε) :
    mail sent sender name (e :: es) =
      mail sent sender name [e] ++ mail sent sender name es := by
  rw [← List.singleton_append, mail, List.filterMap_append]
  rfl

theorem mail_of_none {e : ε} (h : sent e = none) (sender name : ι) :
    mail sent sender name [e] = [] := by
  simp [mail, h]

theorem mail_of_some {e : ε} {name : ι} {message : μ} (h : sent e = some (name, message))
    (sender : ι) : mail sent sender name [e] = [(sender, message)] := by
  simp [mail, h]

theorem mail_of_ne {e : ε} {name other : ι} {message : μ} (h : sent e = some (other, message))
    (hne : other ≠ name) (sender : ι) : mail sent sender name [e] = [] := by
  simp [mail, h, hne]

/-- Deeds without a message are addressed to nobody. -/
theorem mail_eq_nil {es : List ε} (h : ∀ e ∈ es, sent e = none) (sender name : ι) :
    mail sent sender name es = [] := by
  refine List.filterMap_eq_nil_iff.mpr fun e he => ?_
  rw [h e he]
  rfl

theorem mem_mail {sender name x : ι} {message : μ} {es : List ε} :
    (x, message) ∈ mail sent sender name es ↔
      x = sender ∧ ∃ e ∈ es, sent e = some (name, message) := by
  simp only [mail, List.mem_filterMap, Option.bind_eq_some_iff, Option.ite_none_right_eq_some,
    Option.some.injEq, Prod.mk.injEq]
  constructor
  · rintro ⟨e, he, ⟨recipient, m⟩, hsent, rfl, rfl, rfl⟩
    exact ⟨rfl, e, he, hsent⟩
  · rintro ⟨rfl, e, he, hsent⟩
    exact ⟨e, he, (name, message), hsent, rfl, rfl, rfl⟩

/-- An entry adds the messages in it to what has been addressed. -/
theorem addressed_enter (j : Journal ι ε) (sender name : ι) (es : List ε) :
    addressed sent (j.enter sender es) name =
      addressed sent j name ++ mail sent sender name es := by
  rw [addressed, enter, List.filterMap_append, List.filterMap_map]
  rfl

theorem mem_addressed {j : Journal ι ε} {sender name : ι} {message : μ} :
    (sender, message) ∈ addressed sent j name ↔
      ∃ e, (sender, e) ∈ j ∧ sent e = some (name, message) := by
  simp only [addressed, List.mem_filterMap, Option.bind_eq_some_iff,
    Option.ite_none_right_eq_some, Option.some.injEq, Prod.mk.injEq]
  constructor
  · rintro ⟨⟨_, e⟩, hmem, ⟨recipient, m⟩, hsent, rfl, rfl, rfl⟩
    exact ⟨e, hmem, hsent⟩
  · rintro ⟨e, hmem, hsent⟩
    exact ⟨(sender, e), hmem, (name, message), hsent, rfl, rfl, rfl⟩

end Journal
