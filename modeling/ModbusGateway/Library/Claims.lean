import Mathlib.Data.List.Perm.Basic

/-!
# Tables filled by claimants

A table is filled by going through a list of claimants, each of which overwrites the
entries it claims.  So an entry holds the value of the last claimant that claims it; and
if no two of them claim the same entry, their order does not matter.

## Main definitions

* `lastClaimant claims l` — the last element of `l` that claims.
* `Exclusive claims l` — no two elements of `l` both claim.

## Main results

* `foldlM_view` — **an entry holds what the last claimant has written**, or what was there.
* `lastClaimant_perm` — **exclusive claims do not depend on the order.**
* `foldlM_isSome`, `foldlM_eq_none` — when a pass that may fail gets to its end.
-/

namespace Claims

variable {α β σ : Type*}

/-- The last element of a list that claims. -/
def lastClaimant (claims : α → Bool) (l : List α) : Option α := (l.filter claims).getLast?

/-- No two elements of a list both claim. -/
def Exclusive (claims : α → Bool) (l : List α) : Prop :=
  l.Pairwise fun a b => ¬ (claims a = true ∧ claims b = true)

variable {claims : α → Bool} {l l' : List α}

theorem lastClaimant_cons (a : α) (l : List α) :
    lastClaimant claims (a :: l) =
      (lastClaimant claims l).or (if claims a then some a else none) := by
  unfold lastClaimant
  by_cases ha : claims a = true
  · rw [List.filter_cons_of_pos ha, if_pos ha, List.getLast?_cons]
    cases (l.filter claims).getLast? <;> rfl
  · rw [List.filter_cons_of_neg ha, if_neg ha, Option.or_none]

/-- The last claimant is one. -/
theorem lastClaimant_some {a : α} (h : lastClaimant claims l = some a) :
    a ∈ l ∧ claims a = true := by
  have hmem := List.mem_of_getLast? h
  exact ⟨List.mem_of_mem_filter hmem, List.of_mem_filter hmem⟩

/-- There is no last claimant exactly if nobody claims. -/
theorem lastClaimant_eq_none : lastClaimant claims l = none ↔ ∀ a ∈ l, claims a = false := by
  rw [lastClaimant, List.getLast?_eq_none_iff, List.filter_eq_nil_iff]
  simp only [Bool.not_eq_true]

/-- Those that do not claim can be left out. -/
theorem lastClaimant_filter {p : α → Bool} (h : ∀ a ∈ l, claims a = true → p a = true) :
    lastClaimant claims (l.filter p) = lastClaimant claims l := by
  unfold lastClaimant
  rw [List.filter_filter]
  congr 1
  apply List.filter_congr
  intro a ha
  cases hc : claims a with
  | false => rfl
  | true => rw [h a ha hc]; rfl

/-- The last claimant when the claimants stand for others. -/
theorem lastClaimant_filterMap {γ : Type*} (claims : α → Bool) {claims' : γ → Bool}
    {f : α → Option γ} {l : List α}
    (h : ∀ a ∈ l, ∃ c, f a = some c ∧ claims' c = claims a) :
    lastClaimant claims' (l.filterMap f) = (lastClaimant claims l).bind f := by
  induction l with
  | nil => rfl
  | cons a l ih =>
    obtain ⟨c, hc, hclaims⟩ := h a List.mem_cons_self
    rw [List.filterMap_cons_some hc, lastClaimant_cons, lastClaimant_cons,
      ih fun b hb => h b (List.mem_cons_of_mem _ hb), hclaims]
    cases hlast : lastClaimant claims l with
    | none => by_cases ha : claims a = true <;> simp [ha, hc]
    | some b =>
      obtain ⟨d, hd, -⟩ := h b (List.mem_cons_of_mem _ (lastClaimant_some hlast).1)
      simp [hd]

/-- **What a pass leaves in an entry**: what the last claimant has written, or what was there
before. -/
theorem foldlM_view (claims : α → Bool) (value : α → β) (view : σ → β)
    {step : σ → α → Option σ} {l : List α} :
    (∀ s, ∀ a ∈ l, ∀ s', step s a = some s' → view s' = if claims a then value a else view s) →
    ∀ {s t : σ}, l.foldlM step s = some t →
      view t = ((lastClaimant claims l).map value).getD (view s) := by
  induction l with
  | nil =>
    intro _ s t h
    cases h
    rfl
  | cons a l ih =>
    intro hstep s t h
    obtain ⟨s', hs', h⟩ := Option.bind_eq_some_iff.mp h
    rw [ih (fun s b hb => hstep s b (List.mem_cons_of_mem _ hb)) h,
      hstep s a List.mem_cons_self s' hs', lastClaimant_cons]
    cases lastClaimant claims l with
    | none => by_cases ha : claims a = true <;> simp [ha]
    | some b => rfl

/-- A pass gets to its end if each step does. -/
theorem foldlM_isSome {step : σ → α → Option σ} {l : List α} :
    (∀ s, ∀ a ∈ l, (step s a).isSome = true) → ∀ s, (l.foldlM step s).isSome = true := by
  induction l with
  | nil => exact fun _ _ => rfl
  | cons a l ih =>
    intro hstep s
    obtain ⟨s', hs'⟩ := Option.isSome_iff_exists.mp (hstep s a List.mem_cons_self)
    rw [List.foldlM_cons, hs']
    exact ih (fun s b hb => hstep s b (List.mem_cons_of_mem _ hb)) s'

/-- A pass with a step that fails does not get to its end. -/
theorem foldlM_eq_none {step : σ → α → Option σ} {l : List α} {a : α} (ha : a ∈ l)
    (hstep : ∀ s, step s a = none) : ∀ s, l.foldlM step s = none := by
  induction l with
  | nil => cases ha
  | cons b l ih =>
    intro s
    rw [List.foldlM_cons]
    rcases List.mem_cons.mp ha with rfl | ha
    · rw [hstep]
      rfl
    · cases hs : step s b with
      | none => rfl
      | some s' => exact ih ha s'

/-- What a pass preserves step by step. -/
theorem foldlM_invariant {step : σ → α → Option σ} {I : σ → Prop} {l : List α} :
    (∀ s, ∀ a ∈ l, ∀ s', I s → step s a = some s' → I s') →
    ∀ {s t : σ}, I s → l.foldlM step s = some t → I t := by
  induction l with
  | nil =>
    intro _ s t hs h
    cases h
    exact hs
  | cons a l ih =>
    intro hstep s t hs h
    obtain ⟨s', hs', h⟩ := Option.bind_eq_some_iff.mp h
    exact ih (fun s b hb => hstep s b (List.mem_cons_of_mem _ hb))
      (hstep s a List.mem_cons_self s' hs hs') h

/-- There is at most one claimant if claims are exclusive. -/
theorem Exclusive.length_filter (h : Exclusive claims l) : (l.filter claims).length ≤ 1 := by
  have hpair := List.Pairwise.filter claims h
  cases hfilter : l.filter claims with
  | nil => exact Nat.zero_le 1
  | cons a as =>
    cases as with
    | nil => exact Nat.le_refl 1
    | cons b bs =>
      -- two claimants exclude each other
      rw [hfilter] at hpair
      have ha : claims a = true := List.of_mem_filter (hfilter ▸ List.mem_cons_self)
      have hb : claims b = true :=
        List.of_mem_filter (hfilter ▸ List.mem_cons_of_mem _ List.mem_cons_self)
      exact absurd ⟨ha, hb⟩ (List.rel_of_pairwise_cons hpair List.mem_cons_self)

/-- The only claimant of a list is that of every permutation of it. -/
theorem filter_eq_of_perm (hperm : l.Perm l') (h : (l.filter claims).length ≤ 1) :
    l.filter claims = l'.filter claims := by
  have hfilter : (l.filter claims).Perm (l'.filter claims) := hperm.filter claims
  cases hl : l.filter claims with
  | nil =>
    rw [hl, List.nil_perm] at hfilter
    exact hfilter.symm
  | cons a as =>
    have has : as = [] := by
      rw [hl, List.length_cons] at h
      exact List.length_eq_zero_iff.mp (by omega)
    rw [hl, has, List.singleton_perm] at hfilter
    rw [has, hfilter]

/-- **Exclusive claims do not depend on the order of the claimants.** -/
theorem lastClaimant_perm (hperm : l.Perm l') (h : Exclusive claims l) :
    lastClaimant claims l = lastClaimant claims l' := by
  unfold lastClaimant
  rw [filter_eq_of_perm hperm h.length_filter]

end Claims
