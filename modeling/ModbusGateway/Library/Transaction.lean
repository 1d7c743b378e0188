import Mathlib.Data.List.Forall2
import Mathlib.Data.List.ReduceOption

/-!
# Single-slot transactions

A party that carries one request at a time starts a request, and later answers
it or gives it up; starting another one gives up the one before.  Its behaviour
is a list of acts, oldest first.  `Paired R acts open` says that every answer of
`acts` answers the request that was open when it was given, in the sense of `R`,
and that `open` is the request still open at the end.

Requests are numbered from one in the order in which they are started, and an
answer bears the number of the latest request started before it.

## Main definitions

* `Act`, `starts`, `answers` — the acts, the requests started, the numbered answers.
* `Paired` — the discipline of a single slot.
* `Settled` — the discipline in which every request has an outcome.

## Main results

* `Paired.answer_spec` — every answer answers the request of its number.
* `Paired.answers_pairwise` — **no request is answered twice.**
* `Paired.sublistForall₂` — the answers are in the order of the requests.
* `Paired.length_answers` — there are never more answers than requests.
* `Settled.forall₂`, `forall₂_reduceOption` — **what has become of every request.**
-/

namespace Transaction

variable {ρ α : Type*}

/-- What a party with a single slot does. -/
inductive Act (ρ α : Type*)
  /-- A request is taken into the slot. -/
  | start (r : ρ)
  /-- The slot is emptied by an answer. -/
  | answer (a : α)
  deriving DecidableEq, Repr

/-- The act with another answer. -/
def Act.map {γ : Type*} (f : α → γ) : Act ρ α → Act ρ γ
  | .start r => .start r
  | .answer a => .answer (f a)

/-- The answer in an act. -/
def Act.given : Act ρ α → Option α
  | .start _ => none
  | .answer a => some a

/-- The requests started, oldest first. -/
def starts : List (Act ρ α) → List ρ
  | [] => []
  | .start r :: as => r :: starts as
  | .answer _ :: as => starts as

/-- The answers given, oldest first, each with the number of the latest request
started before it; `n` requests have been started before the list begins. -/
def answers : ℕ → List (Act ρ α) → List (ℕ × α)
  | _, [] => []
  | n, .start _ :: as => answers (n + 1) as
  | n, .answer a :: as => (n, a) :: answers n as

@[simp] theorem starts_nil : starts ([] : List (Act ρ α)) = [] := rfl

theorem starts_append (as bs : List (Act ρ α)) : starts (as ++ bs) = starts as ++ starts bs := by
  induction as with
  | nil => rfl
  | cons a as ih => cases a <;> simp [starts, ih]

theorem answers_append (as bs : List (Act ρ α)) :
    ∀ n, answers n (as ++ bs) = answers n as ++ answers (n + (starts as).length) bs := by
  induction as with
  | nil => intro n; rfl
  | cons a as ih =>
    intro n
    cases a with
    | start r =>
      simp only [List.cons_append, answers, starts, List.length_cons, ih]
      rw [Nat.add_right_comm, Nat.add_assoc]
    | answer a => simp only [List.cons_append, answers, starts, ih]

@[simp] theorem starts_concat_start (as : List (Act ρ α)) (r : ρ) :
    starts (as ++ [.start r]) = starts as ++ [r] := by
  rw [starts_append]; rfl

@[simp] theorem starts_concat_answer (as : List (Act ρ α)) (a : α) :
    starts (as ++ [.answer a]) = starts as := by
  rw [starts_append]; exact List.append_nil _

@[simp] theorem answers_concat_start (as : List (Act ρ α)) (r : ρ) (n : ℕ) :
    answers n (as ++ [.start r]) = answers n as := by
  rw [answers_append]; exact List.append_nil _

@[simp] theorem answers_concat_answer (as : List (Act ρ α)) (a : α) (n : ℕ) :
    answers n (as ++ [.answer a]) = answers n as ++ [(n + (starts as).length, a)] := by
  rw [answers_append]; rfl

/-- Without their numbers the answers are those in the acts. -/
theorem map_snd_answers (as : List (Act ρ α)) :
    ∀ n, (answers n as).map Prod.snd = as.filterMap Act.given := by
  induction as with
  | nil => intro n; rfl
  | cons a as ih =>
    intro n
    cases a with
    | start r => exact ih (n + 1)
    | answer a => exact congrArg (a :: ·) (ih n)

@[simp] theorem starts_map {γ : Type*} (f : α → γ) (as : List (Act ρ α)) :
    starts (as.map (Act.map f)) = starts as := by
  induction as with
  | nil => rfl
  | cons a as ih =>
    cases a with
    | start r => exact congrArg (r :: ·) ih
    | answer a => exact ih

/-- The discipline of a single slot: an answer is given to the open request and
closes it, and an open request may also be given up. -/
inductive Paired (R : ρ → α → Prop) : List (Act ρ α) → Option ρ → Prop
  | nil : Paired R [] none
  | start {as : List (Act ρ α)} {o : Option ρ} (r : ρ) :
      Paired R as o → Paired R (as ++ [.start r]) (some r)
  | answer {as : List (Act ρ α)} {r : ρ} (a : α) :
      Paired R as (some r) → R r a → Paired R (as ++ [.answer a]) none
  | drop {as : List (Act ρ α)} {o : Option ρ} : Paired R as o → Paired R as none

namespace Paired

variable {R : ρ → α → Prop} {as : List (Act ρ α)} {o : Option ρ}

/-- The open request is the latest one started. -/
theorem open_eq_getLast? (h : Paired R as o) : ∀ r, o = some r → (starts as).getLast? = some r := by
  induction h with
  | nil => intro r hr; cases hr
  | start r _ _ =>
    intro r' hr
    rw [starts_concat_start, List.getLast?_concat]
    exact hr
  | answer a _ _ _ => intro r hr; cases hr
  | drop _ _ => intro r hr; cases hr

/-- Every answer bears the number of a request that has been started. -/
theorem answer_le (h : Paired R as o) : ∀ p ∈ answers 0 as, p.1 ≤ (starts as).length := by
  induction h with
  | nil => intro p hp; cases hp
  | start r _ ih =>
    intro p hp
    rw [answers_concat_start] at hp
    rw [starts_concat_start, List.length_append]
    exact Nat.le_add_right_of_le (ih p hp)
  | answer a _ _ ih =>
    intro p hp
    rw [answers_concat_answer, List.mem_append, List.mem_singleton] at hp
    rw [starts_concat_answer]
    rcases hp with hp | rfl
    · exact ih p hp
    · simp
  | drop _ ih => exact ih

/-- **Every answer answers the request of its number.** -/
theorem answer_spec (h : Paired R as o) :
    ∀ p ∈ answers 0 as, ∃ m r, p.1 = m + 1 ∧ (starts as)[m]? = some r ∧ R r p.2 := by
  induction h with
  | nil => intro p hp; cases hp
  | start r _ ih =>
    intro p hp
    rw [answers_concat_start] at hp
    obtain ⟨m, r', hm, hget, hR⟩ := ih p hp
    refine ⟨m, r', hm, ?_, hR⟩
    rw [starts_concat_start, List.getElem?_append_left (List.getElem?_eq_some_iff.mp hget).1, hget]
  | @answer as r a hpaired hR ih =>
    intro p hp
    rw [answers_concat_answer, List.mem_append, List.mem_singleton] at hp
    rw [starts_concat_answer]
    rcases hp with hp | rfl
    · exact ih p hp
    · -- the open request is the latest one, and its number is how many were started
      have hlast := hpaired.open_eq_getLast? r rfl
      have hne : starts as ≠ [] := by intro h0; rw [h0] at hlast; cases hlast
      have hpos := List.length_pos_of_ne_nil hne
      refine ⟨(starts as).length - 1, r, ?_, ?_, hR⟩
      · simp only [Nat.zero_add]; omega
      · rw [← List.getLast?_eq_getElem?, hlast]
  | drop _ ih => exact ih

/-- While a request is open no answer bears its number. -/
theorem answer_lt_of_open (h : Paired R as o) :
    o.isSome = true → ∀ p ∈ answers 0 as, p.1 < (starts as).length := by
  induction h with
  | nil => intro _ p hp; cases hp
  | start r hpaired _ =>
    intro _ p hp
    rw [answers_concat_start] at hp
    rw [starts_concat_start, List.length_append]
    exact Nat.lt_succ_of_le (hpaired.answer_le p hp)
  | answer a _ _ _ => intro ho; cases ho
  | drop _ _ => intro ho; cases ho

/-- **No request is answered twice**: the numbers of the answers increase. -/
theorem answers_pairwise (h : Paired R as o) :
    ((answers 0 as).map Prod.fst).Pairwise (· < ·) := by
  induction h with
  | nil => exact List.Pairwise.nil
  | start r _ ih => rw [answers_concat_start]; exact ih
  | answer a hpaired _ ih =>
    rw [answers_concat_answer, List.map_append, List.pairwise_append]
    refine ⟨ih, List.pairwise_singleton _ _, ?_⟩
    intro n hn m hm
    obtain ⟨p, hp, rfl⟩ := List.mem_map.mp hn
    rw [List.map_singleton, List.mem_singleton] at hm
    rw [hm, Nat.zero_add]
    exact hpaired.answer_lt_of_open rfl p hp
  | drop _ ih => exact ih

/-- **The answers are, in order, answers to some of the requests**, each to another one. -/
theorem sublistForall₂ (h : Paired R as o) :
    List.SublistForall₂ (fun a r => R r a) ((answers 0 as).map Prod.snd) (starts as) := by
  have hanswered : ∃ rs, List.Forall₂ (fun a r => R r a) ((answers 0 as).map Prod.snd) rs ∧
      (rs ++ o.toList).Sublist (starts as) := by
    -- the open request comes after all that have been answered
    induction h with
    | nil => exact ⟨[], .nil, List.Sublist.refl _⟩
    | start r _ ih =>
      obtain ⟨rs, hall, hsub⟩ := ih
      have hrs := (List.sublist_append_left rs _).trans hsub
      rw [answers_concat_start, starts_concat_start]
      exact ⟨rs, hall, hrs.append (List.Sublist.refl [r])⟩
    | @answer as r a _ hR ih =>
      obtain ⟨rs, hall, hsub⟩ := ih
      rw [answers_concat_answer, starts_concat_answer, List.map_append]
      refine ⟨rs ++ [r], List.rel_append hall (.cons hR .nil), ?_⟩
      rw [Option.toList_none, List.append_nil]
      exact hsub
    | drop _ ih =>
      obtain ⟨rs, hall, hsub⟩ := ih
      refine ⟨rs, hall, ?_⟩
      rw [Option.toList_none, List.append_nil]
      exact (List.sublist_append_left rs _).trans hsub
  obtain ⟨rs, hall, hsub⟩ := hanswered
  exact List.sublistForall₂_iff.mpr ⟨rs, hall, (List.sublist_append_left rs _).trans hsub⟩

/-- **There are never more answers than requests**, and fewer while one is open. -/
theorem length_answers (h : Paired R as o) :
    (answers 0 as).length + (if o.isSome then 1 else 0) ≤ (starts as).length := by
  induction h with
  | nil => exact Nat.le_refl 0
  | start r _ ih =>
    rw [answers_concat_start, starts_concat_start, List.length_append]
    exact Nat.add_le_add_right (Nat.le_of_add_right_le ih) 1
  | answer a _ _ ih =>
    rw [answers_concat_answer, starts_concat_answer, List.length_append]
    exact ih
  | drop _ ih => exact Nat.le_of_add_right_le ih

/-- The discipline with a weaker relation. -/
theorem mono {S : ρ → α → Prop} (hRS : ∀ r a, R r a → S r a) (h : Paired R as o) :
    Paired S as o := by
  induction h with
  | nil => exact .nil
  | start r _ ih => exact .start r ih
  | @answer as r a _ hR ih => exact .answer a ih (hRS r a hR)
  | drop _ ih => exact .drop ih

/-- The discipline with other answers. -/
theorem map {γ : Type*} {S : ρ → γ → Prop} (f : α → γ) (hf : ∀ r a, R r a → S r (f a))
    (h : Paired R as o) : Paired S (as.map (Act.map f)) o := by
  induction h with
  | nil => exact .nil
  | start r _ ih =>
    rw [List.map_append]
    exact .start r ih
  | @answer as r a _ hR ih =>
    rw [List.map_append]
    exact .answer (f a) ih (hf r a hR)
  | drop _ ih => exact .drop ih

end Paired

/-! ### When nothing is forgotten -/

/-- The discipline in which no request is forgotten: none is started while another one is open,
and one is closed by its answer or because it is given up.  The outcomes are those of the
requests that are closed, oldest first. -/
inductive Settled (R : ρ → α → Prop) : List (Act ρ α) → List (Option α) → Option ρ → Prop
  | nil : Settled R [] [] none
  | start {as : List (Act ρ α)} {outcomes : List (Option α)} (r : ρ) :
      Settled R as outcomes none → Settled R (as ++ [.start r]) outcomes (some r)
  | answer {as : List (Act ρ α)} {outcomes : List (Option α)} {r : ρ} (a : α) :
      Settled R as outcomes (some r) → R r a →
      Settled R (as ++ [.answer a]) (outcomes ++ [some a]) none
  | giveUp {as : List (Act ρ α)} {outcomes : List (Option α)} {r : ρ} :
      Settled R as outcomes (some r) → Settled R as (outcomes ++ [none]) none

/-- If nothing is given up the outcomes are answers, to every request its own. -/
theorem forall₂_reduceOption {R : ρ → α → Prop} {rs : List ρ} {outcomes : List (Option α)}
    (h : List.Forall₂ (fun r outcome => ∀ a, outcome = some a → R r a) rs outcomes)
    (hall : outcomes.countP (·.isNone) = 0) : List.Forall₂ R rs outcomes.reduceOption := by
  induction h with
  | nil => exact .nil
  | @cons r outcome rs outcomes hR _ ih =>
    cases outcome with
    | none =>
      rw [List.countP_cons_of_pos rfl] at hall
      cases hall
    | some a =>
      rw [List.countP_cons_of_neg (by simp)] at hall
      exact .cons (hR a rfl) (ih hall)

namespace Settled

variable {R : ρ → α → Prop} {as : List (Act ρ α)} {outcomes : List (Option α)} {o : Option ρ}

/-- **Every request but the open one has its outcome**, and an answer is one to its request. -/
theorem forall₂ (h : Settled R as outcomes o) : ∃ rs, starts as = rs ++ o.toList ∧
    List.Forall₂ (fun r outcome => ∀ a, outcome = some a → R r a) rs outcomes := by
  induction h with
  | nil => exact ⟨[], rfl, .nil⟩
  | start r _ ih =>
    obtain ⟨rs, hstarts, hall⟩ := ih
    rw [Option.toList_none, List.append_nil] at hstarts
    refine ⟨rs, ?_, hall⟩
    rw [starts_concat_start, hstarts]
    rfl
  | @answer as outcomes r a _ hR ih =>
    obtain ⟨rs, hstarts, hall⟩ := ih
    refine ⟨rs ++ [r], ?_, List.rel_append hall (.cons ?_ .nil)⟩
    · rw [starts_concat_answer, hstarts, Option.toList_none, List.append_nil]
      rfl
    · rintro _ ⟨⟩
      exact hR
  | @giveUp as outcomes r _ ih =>
    obtain ⟨rs, hstarts, hall⟩ := ih
    refine ⟨rs ++ [r], ?_, List.rel_append hall (.cons ?_ .nil)⟩
    · rw [hstarts, Option.toList_none, List.append_nil]
      rfl
    · intro a ha
      cases ha

/-- The answers are the outcomes of the requests that are not given up. -/
theorem reduceOption (h : Settled R as outcomes o) :
    outcomes.reduceOption = (answers 0 as).map Prod.snd := by
  induction h with
  | nil => rfl
  | start r _ ih => rw [answers_concat_start, ih]
  | answer a _ _ ih =>
    rw [answers_concat_answer, List.reduceOption_append, ih, List.map_append]
    rfl
  | giveUp _ ih =>
    rw [List.reduceOption_append, ih]
    exact List.append_nil _

end Settled

end Transaction
