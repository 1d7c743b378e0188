import Mathlib.Logic.Function.Basic
import Mathlib.Data.List.Basic
import Mathlib.Data.List.Forall2

/-!
# Executions of event-driven systems

A system is given by a partial step function `step : σ → ε → Option σ`: `step s e`
is the state after the event `e`, and `none` when `e` cannot happen in `s`.  A
run is a list of events, so that every order of events the step function allows
is a run, and a concrete run can be evaluated.

## Main definitions

* `exec step s es` — the state after the events `es`.
* `along step P s es` — every event of `es` is fired in a state where `P` allows it.
* `record step g s es` — what the steps of a run yield.

## Main results

* `invariant_along` — **the invariant rule**: what every allowed step preserves
  holds after every run whose steps are all allowed.
* `invariant` — the same for runs with no condition on their steps.
* `exec_collect` — what every step adds to a record is what a run has added to it.
* `mem_of_record` — what a run has added to a list comes from what its steps yield.
* `sublist_record` — and it comes in the order of what the steps yield.
* `exists_of_record_cons` — the first step of a run that yields something.
* `invariant_record` — the invariant rule with what the run has yielded.
* `length_le_of_stored` — **the amortized rule**: how long a run can be.
* `exec_lift` — **the lifting rule**: a run of what a map makes of a system is a run of the system.
* `along_congr` — conditions that agree under an invariant are met by the same runs.
* `along_iff_forall`, `along_iff_initial`, `along_iff_split` — a condition on each step that is
  exactly right is exactly right for runs.
-/

namespace Execution

variable {σ ε : Type*}

/-- The state after a list of events, `none` as soon as one of them cannot happen. -/
def exec (step : σ → ε → Option σ) : σ → List ε → Option σ
  | s, [] => some s
  | s, e :: es => (step s e).elim none fun s' => exec step s' es

/-- Every event of the list is fired in a state where `P` allows it. -/
def along (step : σ → ε → Option σ) (P : σ → ε → Bool) : σ → List ε → Bool
  | _, [] => true
  | s, e :: es => P s e && (step s e).elim true fun s' => along step P s' es

@[simp] theorem exec_nil (step : σ → ε → Option σ) (s : σ) : exec step s [] = some s := rfl

@[simp] theorem exec_cons (step : σ → ε → Option σ) (s : σ) (e : ε) (es : List ε) :
    exec step s (e :: es) = (step s e).elim none fun s' => exec step s' es := rfl

@[simp] theorem along_cons (step : σ → ε → Option σ) (P : σ → ε → Bool) (s : σ) (e : ε)
    (es : List ε) :
    along step P s (e :: es) = (P s e && (step s e).elim true fun s' => along step P s' es) :=
  rfl

/-- The first step of a run of at least one event. -/
theorem exec_cons_some {step : σ → ε → Option σ} {s t : σ} {e : ε} {es : List ε}
    (h : exec step s (e :: es) = some t) :
    ∃ s', step s e = some s' ∧ exec step s' es = some t := by
  cases hs : step s e with
  | none => rw [exec_cons, hs] at h; simp at h
  | some s' =>
    rw [exec_cons, hs] at h
    exact ⟨s', rfl, h⟩

/-- A run goes on with one more event. -/
theorem exec_concat {step : σ → ε → Option σ} {t u : σ} {es : List ε} {e : ε} :
    ∀ {s : σ}, exec step s es = some t → step t e = some u → exec step s (es ++ [e]) = some u := by
  induction es with
  | nil =>
    intro s h hu
    obtain rfl := Option.some.inj h
    rw [List.nil_append, exec_cons, hu]
    rfl
  | cons e' es ih =>
    intro s h hu
    obtain ⟨s', hs, hrest⟩ := exec_cons_some h
    rw [List.cons_append, exec_cons, hs]
    exact ih hrest hu

/-- **The lifting rule.**  If every step from the image of a state is a step of the states
themselves, every run from it is a run of them, whose events correspond one by one. -/
theorem exec_lift {τ δ : Type*} {step : σ → ε → Option σ} {step' : τ → δ → Option τ} {f : τ → σ}
    {R : ε → δ → Prop}
    (hstep : ∀ a e t, step (f a) e = some t → ∃ a' e', f a' = t ∧ R e e' ∧ step' a e' = some a')
    {es : List ε} : ∀ {a : τ} {t : σ}, exec step (f a) es = some t →
      ∃ a' es', f a' = t ∧ List.Forall₂ R es es' ∧ exec step' a es' = some a' := by
  induction es with
  | nil =>
    intro a t h
    exact ⟨a, [], Option.some.inj h, .nil, rfl⟩
  | cons e es ih =>
    intro a t h
    obtain ⟨s', hs, hrest⟩ := exec_cons_some h
    obtain ⟨b, e', rfl, hR, hb⟩ := hstep a e s' hs
    obtain ⟨a', es', ht, hall, hrun⟩ := ih hrest
    refine ⟨a', e' :: es', ht, .cons hR hall, ?_⟩
    rw [exec_cons, hb]
    exact hrun

/-- Both parts of an allowed run are allowed. -/
theorem along_append {step : σ → ε → Option σ} {P : σ → ε → Bool} {es fs : List ε} :
    ∀ {s t : σ}, exec step s es = some t → along step P s (es ++ fs) = true →
      along step P s es = true ∧ along step P t fs = true := by
  induction es with
  | nil =>
    intro s t hrun h
    rw [exec_nil, Option.some.injEq] at hrun
    exact ⟨rfl, hrun ▸ h⟩
  | cons e es ih =>
    intro s t hrun h
    obtain ⟨s', hse, hrest⟩ := exec_cons_some hrun
    rw [List.cons_append, along_cons, Bool.and_eq_true, hse] at h
    obtain ⟨hes, hfs⟩ := ih hrest h.2
    refine ⟨?_, hfs⟩
    rw [along_cons, Bool.and_eq_true, hse]
    exact ⟨h.1, hes⟩

/-- A run allowed by two conditions is allowed by both together. -/
theorem along_and {step : σ → ε → Option σ} {P Q : σ → ε → Bool} {es : List ε} :
    ∀ {s : σ}, along step P s es = true → along step Q s es = true →
      along step (fun s e => P s e && Q s e) s es = true := by
  induction es with
  | nil => intro s _ _; rfl
  | cons e es ih =>
    intro s hP hQ
    rw [along_cons, Bool.and_eq_true] at hP hQ ⊢
    refine ⟨Bool.and_eq_true_iff.mpr ⟨hP.1, hQ.1⟩, ?_⟩
    cases hs : step s e with
    | none => rfl
    | some s' =>
      rw [hs] at hP hQ
      exact ih hP.2 hQ.2

/-- **The invariant rule.**  What every step allowed by `P` preserves holds after
every run whose steps are all allowed by `P`. -/
theorem invariant_along {step : σ → ε → Option σ} {P : σ → ε → Bool} {I : σ → Prop}
    (hstep : ∀ s e s', I s → P s e = true → step s e = some s' → I s') :
    ∀ (es : List ε) (s t : σ), I s → along step P s es = true → exec step s es = some t → I t := by
  intro es
  induction es with
  | nil =>
    intro s t hs _ h
    rw [exec_nil, Option.some.injEq] at h
    exact h ▸ hs
  | cons e es ih =>
    intro s t hs hP h
    obtain ⟨s', hse, hrest⟩ := exec_cons_some h
    rw [along_cons, Bool.and_eq_true, hse] at hP
    exact ih s' t (hstep s e s' hs hP.1 hse) hP.2 hrest

/-- Two conditions that agree in every state of an invariant are met by the same runs, if
the steps they allow keep the invariant. -/
theorem along_congr {step : σ → ε → Option σ} {P Q : σ → ε → Bool} {I : σ → Prop}
    (hstep : ∀ s e s', I s → P s e = true → step s e = some s' → I s')
    (hPQ : ∀ s e, I s → P s e = Q s e) {es : List ε} :
    ∀ {s : σ}, I s → along step P s es = along step Q s es := by
  induction es with
  | nil => intro s _; rfl
  | cons e es ih =>
    intro s hs
    rw [along_cons, along_cons, ← hPQ s e hs]
    cases hP : P s e with
    | false => rfl
    | true =>
      cases hse : step s e with
      | none => rfl
      | some s' =>
        have hrest : along step P s' es = along step Q s' es := ih (hstep s e s' hs hP hse)
        rw [Option.elim_some, Option.elim_some, hrest]

/-- What every step adds to a record is what a run has added to it. -/
theorem exec_collect {α : Type*} {step : σ → ε → Option σ} {I : σ → Prop} {f : σ → List α}
    {g : ε → Option α} (hstep : ∀ s e s', I s → step s e = some s' → I s')
    (hadd : ∀ s e s', I s → step s e = some s' → f s' = f s ++ (g e).toList) :
    ∀ (es : List ε) (s t : σ), I s → exec step s es = some t → f t = f s ++ es.filterMap g := by
  intro es
  induction es with
  | nil =>
    intro s t _ h
    rw [exec_nil, Option.some.injEq] at h
    rw [← h, List.filterMap_nil, List.append_nil]
  | cons e es ih =>
    intro s t hs h
    obtain ⟨s', hse, hrest⟩ := exec_cons_some h
    rw [ih s' t (hstep s e s' hs hse) hrest, hadd s e s' hs hse, List.append_assoc]
    cases hg : g e <;> simp [hg]

/-- The invariant rule for runs with no condition on their steps. -/
theorem invariant {step : σ → ε → Option σ} {I : σ → Prop}
    (hstep : ∀ s e s', I s → step s e = some s' → I s') :
    ∀ (es : List ε) (s t : σ), I s → exec step s es = some t → I t := by
  intro es
  induction es with
  | nil =>
    intro s t hs h
    rw [exec_nil, Option.some.injEq] at h
    exact h ▸ hs
  | cons e es ih =>
    intro s t hs h
    obtain ⟨s', hse, hrest⟩ := exec_cons_some h
    exact ih s' t (hstep s e s' hs hse) hrest

/-- If a condition allows a step exactly when all that the step adds to a record is good, the
runs it allows are exactly those that add nothing but good. -/
theorem along_iff_forall {α : Type*} {step : σ → ε → Option σ} {P : σ → ε → Bool} {I : σ → Prop}
    {f : σ → List α} {good : α → Prop} (hstep : ∀ s e s', I s → step s e = some s' → I s')
    (hadd : ∀ s e s', I s → step s e = some s' →
      ∃ new, f s' = f s ++ new ∧ (P s e = true ↔ ∀ a ∈ new, good a)) :
    ∀ (es : List ε) (s t : σ), I s → exec step s es = some t →
      ∃ new, f t = f s ++ new ∧ (along step P s es = true ↔ ∀ a ∈ new, good a) := by
  intro es
  induction es with
  | nil =>
    intro s t _ h
    rw [exec_nil, Option.some.injEq] at h
    refine ⟨[], ?_, ?_⟩
    · rw [h, List.append_nil]
    · exact ⟨fun _ a ha => absurd ha List.not_mem_nil, fun _ => rfl⟩
  | cons e es ih =>
    intro s t hs h
    obtain ⟨s', hse, hrest⟩ := exec_cons_some h
    obtain ⟨new, hf, hnew⟩ := hadd s e s' hs hse
    obtain ⟨later, hf', hlater⟩ := ih s' t (hstep s e s' hs hse) hrest
    refine ⟨new ++ later, ?_, ?_⟩
    · rw [hf', hf, List.append_assoc]
    · rw [along_cons, Bool.and_eq_true, hse, Option.elim_some, hnew, hlater]
      exact List.forall_mem_append.symm

/-- If a condition allows a step exactly when the state after it is good, the runs it allows
are those in which every state is good. -/
theorem along_iff_initial {step : σ → ε → Option σ} {P : σ → ε → Bool} {I Good : σ → Prop}
    (hstep : ∀ s e s', I s → Good s → step s e = some s' → I s' ∧ (P s e = true ↔ Good s')) :
    ∀ (es : List ε) (s t : σ), I s → Good s → exec step s es = some t →
      (along step P s es = true ↔ ∀ es₁ u, es₁ <+: es → exec step s es₁ = some u → Good u) := by
  intro es
  induction es with
  | nil =>
    intro s t _ hgood _
    refine ⟨fun _ es₁ u hes₁ hu => ?_, fun _ => rfl⟩
    rw [List.prefix_nil.mp hes₁, exec_nil, Option.some.injEq] at hu
    exact hu ▸ hgood
  | cons e es ih =>
    intro s t hs hgood h
    obtain ⟨s', hse, hrest⟩ := exec_cons_some h
    obtain ⟨hs', hP⟩ := hstep s e s' hs hgood hse
    rw [along_cons, Bool.and_eq_true, hse, Option.elim_some, hP]
    constructor
    · rintro ⟨hgood', halong⟩ es₁ u hes₁ hu
      cases es₁ with
      | nil =>
        rw [exec_nil, Option.some.injEq] at hu
        exact hu ▸ hgood
      | cons e₁ es₁ =>
        obtain ⟨rfl, htail⟩ := List.cons_prefix_cons.mp hes₁
        rw [exec_cons, hse, Option.elim_some] at hu
        exact (ih s' t hs' hgood' hrest).mp halong es₁ u htail hu
    · intro hall
      -- the run of the first step alone tells that the state after it is good
      have hgood' : Good s' := hall [e] s' (List.cons_prefix_cons.mpr ⟨rfl, List.nil_prefix⟩) (by
        rw [exec_cons, hse]
        rfl)
      refine ⟨hgood', (ih s' t hs' hgood' hrest).mpr fun es₁ u hes₁ hu => ?_⟩
      refine hall (e :: es₁) u (List.cons_prefix_cons.mpr ⟨rfl, hes₁⟩) ?_
      rw [exec_cons, hse]
      exact hu

/-- If a condition allows a step exactly when something holds of the step, which may depend on
what comes after it, the runs it allows are those in which that holds of every step. -/
theorem along_iff_split {step : σ → ε → Option σ} {P : σ → ε → Bool} {I : σ → Prop}
    {Q : σ → ε → List ε → Prop} (hstep : ∀ s e s', I s → step s e = some s' → I s')
    (hPQ : ∀ s e later, I s → (P s e = true ↔ Q s e later)) :
    ∀ (es : List ε) (s : σ), I s → (along step P s es = true ↔
      ∀ es₁ e es₂ t, es = es₁ ++ e :: es₂ → exec step s es₁ = some t → Q t e es₂) := by
  intro es
  induction es with
  | nil =>
    intro s _
    refine ⟨fun _ es₁ e es₂ t hes _ => ?_, fun _ => rfl⟩
    exact absurd hes.symm (List.append_ne_nil_of_right_ne_nil es₁ (List.cons_ne_nil e es₂))
  | cons e es ih =>
    intro s hs
    rw [along_cons, Bool.and_eq_true, hPQ s e es hs]
    constructor
    · rintro ⟨hQ, halong⟩ es₁ e' es₂ t hes hrun
      cases es₁ with
      | nil =>
        obtain ⟨rfl, rfl⟩ := List.cons.inj hes
        rw [exec_nil, Option.some.injEq] at hrun
        exact hrun ▸ hQ
      | cons e₁ es₁ =>
        obtain ⟨rfl, htail⟩ := List.cons.inj hes
        obtain ⟨s', hse, hrest⟩ := exec_cons_some hrun
        rw [hse, Option.elim_some] at halong
        exact (ih s' (hstep s e s' hs hse)).mp halong es₁ e' es₂ t htail hrest
    · intro hall
      refine ⟨hall [] e es s rfl rfl, ?_⟩
      cases hse : step s e with
      | none => rfl
      | some s' =>
        refine (ih s' (hstep s e s' hs hse)).mpr fun es₁ e' es₂ t hes hrun => ?_
        refine hall (e :: es₁) e' es₂ t (congrArg (e :: ·) hes) ?_
        rw [exec_cons, hse]
        exact hrun

/-! ### What the steps of a run yield -/

/-- What the steps of a run yield, oldest first. -/
def record {α : Type*} (step : σ → ε → Option σ) (g : σ → ε → Option α) : σ → List ε → List α
  | _, [] => []
  | s, e :: es => (g s e).toList ++ (step s e).elim [] fun s' => record step g s' es

variable {α : Type*} {step : σ → ε → Option σ} {g : σ → ε → Option α}

theorem record_cons {s s' : σ} {e : ε} {es : List ε} (hs : step s e = some s') :
    record step g s (e :: es) = (g s e).toList ++ record step g s' es := by
  rw [record, hs]
  rfl

/-- In a run that yields nothing no step does. -/
theorem along_of_record_nil {es : List ε} : ∀ {s : σ}, record step g s es = [] →
    along step (fun s e => (g s e).isNone) s es = true := by
  induction es with
  | nil => intro s _; rfl
  | cons e es ih =>
    intro s h
    rw [record, List.append_eq_nil_iff, Option.toList_eq_nil_iff] at h
    rw [along_cons, h.1]
    cases hs : step s e with
    | none => rfl
    | some s' =>
      rw [hs] at h
      exact ih h.2

/-- What a run has added to a list comes from what its steps yield. -/
theorem mem_of_record {γ : Type*} {I : σ → Prop} {f : σ → List γ} {R : α → γ → Prop}
    (hstep : ∀ s e s', I s → step s e = some s' → I s')
    (hadd : ∀ s e s', I s → step s e = some s' →
      ∀ a ∈ f s', a ∈ f s ∨ ∃ d, g s e = some d ∧ R d a) :
    ∀ (es : List ε) (s t : σ), I s → exec step s es = some t →
      ∀ a ∈ f t, a ∈ f s ∨ ∃ d ∈ record step g s es, R d a := by
  intro es
  induction es with
  | nil =>
    intro s t _ h a ha
    rw [exec_nil, Option.some.injEq] at h
    exact Or.inl (h ▸ ha)
  | cons e es ih =>
    intro s t hs h a ha
    obtain ⟨s', hse, hrest⟩ := exec_cons_some h
    rw [record_cons hse]
    rcases ih s' t (hstep s e s' hs hse) hrest a ha with hold | ⟨d, hd, hR⟩
    · rcases hadd s e s' hs hse a hold with hold | ⟨d, hd, hR⟩
      · exact Or.inl hold
      · exact Or.inr ⟨d, List.mem_append_left _ (Option.mem_toList.mpr hd), hR⟩
    · exact Or.inr ⟨d, List.mem_append_right _ hd, hR⟩

/-- If every step adds to a list at most one element, which comes from what the step yields, then
what a run has added comes in order from what its steps yield. -/
theorem sublist_record {γ : Type*} {I : σ → Prop} {f : σ → List γ} {R : γ → α → Prop}
    (hstep : ∀ s e s', I s → step s e = some s' → I s')
    (hadd : ∀ s e s', I s → step s e = some s' → ∃ o : Option γ, f s' = f s ++ o.toList ∧
      ∀ a, o = some a → ∃ d, g s e = some d ∧ R a d) :
    ∀ (es : List ε) (s t : σ), I s → exec step s es = some t →
      ∃ new, f t = f s ++ new ∧ List.SublistForall₂ R new (record step g s es) := by
  intro es
  induction es with
  | nil =>
    intro s t _ h
    rw [exec_nil, Option.some.injEq] at h
    exact ⟨[], by rw [h, List.append_nil], .nil⟩
  | cons e es ih =>
    intro s t hs h
    obtain ⟨s', hse, hrest⟩ := exec_cons_some h
    obtain ⟨o, heq, hyield⟩ := hadd s e s' hs hse
    obtain ⟨new, hnew, hsub⟩ := ih s' t (hstep s e s' hs hse) hrest
    refine ⟨o.toList ++ new, by rw [hnew, heq, List.append_assoc], ?_⟩
    rw [record_cons hse]
    cases o with
    | none =>
      cases g s e with
      | none => exact hsub
      | some d => exact .cons_right hsub
    | some a =>
      obtain ⟨d, hd, hR⟩ := hyield a rfl
      rw [hd]
      exact .cons hR hsub

/-- The first step of a run that yields something. -/
theorem exists_of_record_cons {d : α} {ds : List α} {t : σ} {es : List ε} :
    ∀ {s : σ}, exec step s es = some t → record step g s es = d :: ds →
      ∃ es₁ e es₂ s₁ s₂, es = es₁ ++ e :: es₂ ∧ exec step s es₁ = some s₁ ∧
        record step g s es₁ = [] ∧ step s₁ e = some s₂ ∧ g s₁ e = some d ∧
        exec step s₂ es₂ = some t ∧ record step g s₂ es₂ = ds := by
  induction es with
  | nil => intro s _ h; cases h
  | cons e es ih =>
    intro s hrun h
    obtain ⟨s', hse, hrest⟩ := exec_cons_some hrun
    rw [record_cons hse] at h
    cases hg : g s e with
    | some d' =>
      -- it is this step
      rw [hg] at h
      cases h
      exact ⟨[], e, es, s, s', rfl, rfl, rfl, hse, hg, hrest, rfl⟩
    | none =>
      rw [hg] at h
      obtain ⟨es₁, e', es₂, s₁, s₂, rfl, hfirst, hnil, hs₁, hd, hlast, hds⟩ := ih hrest h
      refine ⟨e :: es₁, e', es₂, s₁, s₂, rfl, ?_, ?_, hs₁, hd, hlast, hds⟩
      · rw [exec_cons, hse]
        exact hfirst
      · rw [record_cons hse, hg]
        exact hnil

/-- What depends on the events only is read off them. -/
theorem record_of_events {f : ε → Option α} : ∀ {es : List ε} {s t : σ},
    exec step s es = some t → record step (fun _ => f) s es = es.filterMap f := by
  intro es
  induction es with
  | nil => exact fun _ => rfl
  | cons e es ih =>
    intro s t h
    obtain ⟨s', hse, hrest⟩ := exec_cons_some h
    rw [record_cons hse, ih hrest]
    cases hf : f e with
    | none => rw [List.filterMap_cons_none hf, Option.toList_none, List.nil_append]
    | some a => rw [List.filterMap_cons_some hf, Option.toList_some, List.singleton_append]

/-- The invariant rule with what the run has yielded so far: what the first step starts with
nothing, and what every step preserves when its yield is added. -/
theorem invariant_record {I : σ → List α → Prop}
    (hstep : ∀ s ds e s', I s ds → step s e = some s' → I s' (ds ++ (g s e).toList)) :
    ∀ (es : List ε) (s t : σ) (ds : List α), I s ds → exec step s es = some t →
      I t (ds ++ record step g s es) := by
  intro es
  induction es with
  | nil =>
    intro s t ds hs h
    rw [exec_nil, Option.some.injEq] at h
    subst h
    rw [record, List.append_nil]
    exact hs
  | cons e es ih =>
    intro s t ds hs h
    obtain ⟨s', hse, hrest⟩ := exec_cons_some h
    rw [record_cons hse, ← List.append_assoc]
    exact ih s' t _ (hstep s ds e s' hs hse) hrest

/-! ### How long a run can be -/

/-- **The amortized rule.**  If every step uses up some of what is stored, except that an event
of the kind `P` brings in `credit`, a run is no longer than what was stored and what has been
brought in. -/
theorem length_le_of_stored {I : σ → Prop} {stored : σ → ℕ} {P : ε → Bool} {credit : ℕ}
    (hstep : ∀ s e s', I s → step s e = some s' →
      I s' ∧ stored s' + 1 ≤ stored s + if P e then credit else 0) :
    ∀ (es : List ε) (s t : σ), I s → exec step s es = some t →
      es.length + stored t ≤ stored s + credit * es.countP P := by
  intro es
  induction es with
  | nil =>
    intro s t _ h
    rw [exec_nil, Option.some.injEq] at h
    subst h
    simp
  | cons e es ih =>
    intro s t hs h
    obtain ⟨s', hse, hrest⟩ := exec_cons_some h
    obtain ⟨hs', hused⟩ := hstep s e s' hs hse
    have hlater := ih s' t hs' hrest
    rw [List.length_cons, List.countP_cons, Nat.mul_add]
    cases hP : P e <;> simp only [hP, if_true, if_false, Bool.false_eq_true] at hused ⊢ <;> omega

end Execution
