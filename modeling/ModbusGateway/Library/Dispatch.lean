import Mathlib.Data.List.Basic
import Mathlib.Logic.Relation

/-!
# A desk that serves one at a time

Items arrive at a desk and wait in a queue.  The item at the front is turned away when
it is late, or taken up when it is in time and the desk is free; the desk becomes free
again when it is done with it, for whatever reason.

Items are numbered from zero in the order in which they arrive.

## Main definitions

* `Desk`, `Step late inTime` — the desk, and what it may do.
* `Desk.place d k` — where the item of number `k` is.
* `Desk.Sound d` — nothing has been lost, duplicated or reordered.
* `Advances late inTime d d'` — how the items may have moved from `d` to `d'`.

## Main results

* `sound_step`, `Sound.orderly` — **every item that has arrived is in exactly one place,
  and the queue, the desk and the record of departures agree on which.**
* `advances_of_steps` — **no item comes back from where it is finished or dropped, and
  only late items are dropped, and only those in time are served.**
-/

namespace Dispatch

open Relation

/-- Where an item can be. -/
inductive Place
  | queued
  | current
  | finished
  | dropped
  deriving DecidableEq, Repr

/-- Where an item can get to. -/
def Place.next : Place → Place → Bool
  | .queued, _ => true
  | .current, p => p = .current || p = .finished
  | .finished, p => p = .finished
  | .dropped, p => p = .dropped

/-- A desk: the items that have arrived and those that have left the queue, both oldest
first, the latter with whether they were taken up; the queue; and the item being served. -/
structure Desk (α : Type*) where
  arrived : List α
  departed : List (Bool × α)
  waiting : List α
  serving : Option α

variable {α : Type*} {late inTime : α → Prop} {d d' d'' : Desk α}

/-- What a desk may do. -/
inductive Step (late inTime : α → Prop) (d : Desk α) : Desk α → Prop
  | arrive (a : α) :
    Step late inTime d { d with arrived := d.arrived ++ [a], waiting := d.waiting ++ [a] }
  | drop {a : α} {rest : List α} (hfront : d.waiting = a :: rest) (hlate : late a) :
    Step late inTime d { d with departed := d.departed ++ [(false, a)], waiting := rest }
  | serve {a : α} {rest : List α} (hfront : d.waiting = a :: rest) (htime : inTime a)
      (hfree : d.serving = none) :
    Step late inTime d
      { d with departed := d.departed ++ [(true, a)], waiting := rest, serving := some a }
  | finish : Step late inTime d { d with serving := none }

namespace Desk

/-- The desk is busy, and every departure after that of number `k` was dropped. -/
def servedLast (d : Desk α) (k : ℕ) : Bool :=
  d.serving.isSome && (d.departed.drop (k + 1)).all (!·.1)

/-- Where the item of number `k` is, if it has arrived. -/
def place (d : Desk α) (k : ℕ) : Option Place :=
  match d.departed[k]? with
  | some (false, _) => some .dropped
  | some (true, _) => if d.servedLast k then some .current else some .finished
  | none => if k < d.departed.length + d.waiting.length then some .queued else none

/-- The items that have been taken up, oldest first. -/
def served (d : Desk α) : List α := (d.departed.filter Prod.fst).map Prod.snd

/-- What has arrived is what has left the queue and what is in it, in order, and what
is being served was taken up last. -/
structure Sound (d : Desk α) : Prop where
  conserved : d.arrived = d.departed.map Prod.snd ++ d.waiting
  serving : ∀ a, d.serving = some a → ∃ before after,
    d.departed = before ++ (true, a) :: after ∧ ∀ p ∈ after, p.1 = false

/-- A desk with nothing lost, said of the places. -/
structure Orderly (d : Desk α) : Prop where
  /-- Every item that has arrived has a place, and only those. -/
  placed : ∀ k, (d.place k).isSome = true ↔ k < d.arrived.length
  /-- The queue holds the items that are queued, in the order of their arrival. -/
  queued : (∀ k, d.place k = some .queued ↔ d.departed.length ≤ k ∧ k < d.arrived.length) ∧
    d.waiting = d.arrived.drop d.departed.length
  /-- The items have left the queue in the order of their arrival. -/
  departed : d.departed.map Prod.snd = d.arrived.take d.departed.length
  /-- The item being served is the only one that is current. -/
  current : ∀ a, d.serving = some a → ∃ k, d.arrived[k]? = some a ∧
    ∀ k', d.place k' = some .current ↔ k' = k
  /-- While the desk is free no item is current. -/
  free : d.serving = none → ∀ k, d.place k ≠ some .current
  /-- The items taken up are some of those that have arrived, in order. -/
  served : List.Sublist d.served d.arrived

end Desk

/-- How the items may move: each to a place it can get to, and out of the queue only
when late or in time. -/
structure Advances (late inTime : α → Prop) (d d' : Desk α) : Prop where
  places : ∀ k p, d.place k = some p → ∃ p', d'.place k = some p' ∧ p.next p' = true
  departed : ∃ new, d'.departed = d.departed ++ new ∧
    ∀ q ∈ new, if q.1 then inTime q.2 else late q.2

/-! ### Nothing is lost -/

/-- **Every move keeps the desk sound.** -/
theorem sound_step (h : d.Sound) (hs : Step late inTime d d') : d'.Sound := by
  cases hs with
  | arrive a => exact ⟨by simp [h.conserved], h.serving⟩
  | @drop a rest hfront hlate =>
    refine ⟨by simp [h.conserved, hfront], fun b hb => ?_⟩
    obtain ⟨before, after, heq, hafter⟩ := h.serving b hb
    refine ⟨before, after ++ [(false, a)], by simp [heq], fun p hp => ?_⟩
    rcases List.mem_append.mp hp with hold | hlast
    · exact hafter p hold
    · rw [List.mem_singleton.mp hlast]
  | @serve a rest hfront htime hfree =>
    refine ⟨by simp [h.conserved, hfront], fun b hb => ?_⟩
    obtain rfl := Option.some.inj hb
    exact ⟨d.departed, [], rfl, fun p hp => by cases hp⟩
  | finish => exact ⟨h.conserved, fun b hb => by cases hb⟩

theorem sound_steps (h : d.Sound) (hs : ReflTransGen (Step late inTime) d d') : d'.Sound := by
  induction hs with
  | refl => exact h
  | tail _ hstep ih => exact sound_step ih hstep

/-- A run of late items at the front of the queue may all be dropped. -/
theorem steps_drop {rest : List α} :
    ∀ (as : List α) (d : Desk α), d.waiting = as ++ rest → (∀ a ∈ as, late a) →
      ReflTransGen (Step late inTime) d
        { d with departed := d.departed ++ as.map (false, ·), waiting := rest } := by
  intro as
  induction as with
  | nil =>
    intro d hwaiting _
    rw [List.nil_append] at hwaiting
    rw [List.map_nil, List.append_nil, ← hwaiting]
  | cons a as ih =>
    intro d hwaiting hlate
    have hfirst : Step late inTime d
        { d with departed := d.departed ++ [(false, a)], waiting := as ++ rest } :=
      .drop hwaiting (hlate a List.mem_cons_self)
    have hrest := ih { d with departed := d.departed ++ [(false, a)], waiting := as ++ rest } rfl
      fun b hb => hlate b (List.mem_cons_of_mem _ hb)
    refine ReflTransGen.head hfirst ?_
    simpa using hrest

/-! ### The places -/

namespace Desk

theorem place_of_dropped {k : ℕ} {a : α} (h : d.departed[k]? = some (false, a)) :
    d.place k = some .dropped := by
  simp [place, h]

theorem place_of_taken {k : ℕ} {a : α} (h : d.departed[k]? = some (true, a)) :
    d.place k = if d.servedLast k then some .current else some .finished := by
  simp [place, h]

theorem place_of_waiting {k : ℕ} (h : d.departed.length ≤ k) :
    d.place k = if k < d.departed.length + d.waiting.length then some .queued else none := by
  simp [place, List.getElem?_eq_none h]

/-- The places of the items that have left the queue. -/
theorem place_of_departed {k : ℕ} (h : k < d.departed.length) :
    (∃ a, d.departed[k]? = some (false, a) ∧ d.place k = some .dropped) ∨
    (∃ a, d.departed[k]? = some (true, a) ∧
      d.place k = if d.servedLast k then some .current else some .finished) := by
  obtain ⟨⟨taken, a⟩, hk⟩ : ∃ p, d.departed[k]? = some p := ⟨_, List.getElem?_eq_getElem h⟩
  cases taken with
  | false => exact Or.inl ⟨a, hk, place_of_dropped hk⟩
  | true => exact Or.inr ⟨a, hk, place_of_taken hk⟩

/-- A place that is not in the queue is that of a departure. -/
theorem place_current {k : ℕ} (h : d.place k = some .current) :
    (∃ a, d.departed[k]? = some (true, a)) ∧ d.servedLast k = true := by
  rcases Nat.lt_or_ge k d.departed.length with hk | hk
  · rcases place_of_departed hk with ⟨a, -, hp⟩ | ⟨a, hget, hp⟩
    · rw [hp] at h; cases h
    · rw [hp] at h
      split at h
      · next hlast => exact ⟨⟨a, hget⟩, hlast⟩
      · cases h
  · rw [place_of_waiting hk] at h
    split at h <;> cases h

namespace Sound

theorem length_arrived (h : d.Sound) :
    d.arrived.length = d.departed.length + d.waiting.length := by
  rw [h.conserved, List.length_append, List.length_map]

theorem placed (h : d.Sound) (k : ℕ) : (d.place k).isSome = true ↔ k < d.arrived.length := by
  rw [h.length_arrived]
  rcases Nat.lt_or_ge k d.departed.length with hk | hk
  · have hsome : (d.place k).isSome = true := by
      rcases place_of_departed hk with ⟨a, -, hp⟩ | ⟨a, -, hp⟩
      · rw [hp]; rfl
      · rw [hp]; split <;> rfl
    exact iff_of_true hsome (Nat.lt_add_right _ hk)
  · rw [place_of_waiting hk]
    split
    · next hlt => exact iff_of_true rfl hlt
    · next hlt => exact iff_of_false (by simp) hlt

theorem queued (h : d.Sound) (k : ℕ) :
    d.place k = some .queued ↔ d.departed.length ≤ k ∧ k < d.arrived.length := by
  rw [h.length_arrived]
  rcases Nat.lt_or_ge k d.departed.length with hk | hk
  · refine iff_of_false (fun hq => ?_) fun hq => absurd hk (Nat.not_lt.mpr hq.1)
    rcases place_of_departed hk with ⟨a, -, hp⟩ | ⟨a, -, hp⟩ <;> rw [hp] at hq
    · cases hq
    · split at hq <;> cases hq
  · rw [place_of_waiting hk]
    split
    · next hlt => exact iff_of_true rfl ⟨hk, hlt⟩
    · next hlt => exact iff_of_false (by simp) fun hq => hlt hq.2

theorem waiting (h : d.Sound) : d.waiting = d.arrived.drop d.departed.length := by
  rw [h.conserved, List.drop_left' (List.length_map _)]

theorem departed (h : d.Sound) : d.departed.map Prod.snd = d.arrived.take d.departed.length := by
  rw [h.conserved, List.take_left' (List.length_map _)]

/-- What is being served is the last item that was taken up. -/
theorem current (h : d.Sound) {a : α} (ha : d.serving = some a) :
    ∃ k, d.arrived[k]? = some a ∧ ∀ k', d.place k' = some .current ↔ k' = k := by
  obtain ⟨before, after, heq, hafter⟩ := h.serving a ha
  have hget : d.departed[before.length]? = some (true, a) := by simp [heq]
  refine ⟨before.length, ?_, fun k' => ⟨fun hcur => ?_, ?_⟩⟩
  · rw [h.conserved, heq]
    simp
  · -- a current item is taken up, and no later one is
    obtain ⟨⟨b, hb⟩, hlast⟩ := place_current hcur
    simp only [servedLast, Bool.and_eq_true, List.all_eq_true, Bool.not_eq_true'] at hlast
    rcases Nat.lt_trichotomy k' before.length with hlt | rfl | hgt
    · have hmem : (true, a) ∈ d.departed.drop (k' + 1) := by
        refine List.mem_of_getElem? (i := before.length - (k' + 1)) ?_
        rw [List.getElem?_drop, ← hget]
        congr 1
        omega
      cases hlast.2 _ hmem
    · rfl
    · have hmem : (true, b) ∈ after := by
        refine List.mem_of_getElem? (i := k' - before.length - 1) ?_
        rw [heq, List.getElem?_append_right (Nat.le_of_lt hgt)] at hb
        rw [← hb]
        have hpos : k' - before.length = k' - before.length - 1 + 1 := by omega
        conv_rhs => rw [hpos, List.getElem?_cons_succ]
      cases hafter _ hmem
  · rintro rfl
    have hlast : d.servedLast before.length = true := by
      simp only [servedLast, ha, Option.isSome_some, Bool.true_and, List.all_eq_true,
        Bool.not_eq_true']
      intro p hp
      have hdrop : d.departed.drop (before.length + 1) = after := by simp [heq, ← List.drop_drop]
      exact hafter p (hdrop ▸ hp)
    rw [place_of_taken hget, if_pos hlast]

theorem free (hfree : d.serving = none) (k : ℕ) : d.place k ≠ some .current := by
  intro hcur
  have hlast := (place_current hcur).2
  simp [servedLast, hfree] at hlast

theorem served (h : d.Sound) : List.Sublist d.served d.arrived := by
  rw [h.conserved]
  exact (List.filter_sublist.map Prod.snd).trans (List.sublist_append_left _ _)

/-- **Every item that has arrived is in exactly one place.** -/
theorem orderly (h : d.Sound) : d.Orderly where
  placed := h.placed
  queued := ⟨h.queued, h.waiting⟩
  departed := h.departed
  current _ ha := h.current ha
  free := free
  served := h.served

end Sound

end Desk

/-! ### How the items move -/

theorem Place.next_refl (p : Place) : p.next p = true := by cases p <;> rfl

theorem Place.next_trans {p q r : Place} (hpq : p.next q = true) (hqr : q.next r = true) :
    p.next r = true := by
  revert hpq hqr
  cases p <;> cases q <;> cases r <;> decide

/-- Departures are only added, and so are arrivals. -/
theorem departed_step (hs : Step late inTime d d') : ∃ new, d'.departed = d.departed ++ new ∧
    ∀ q ∈ new, if q.1 then inTime q.2 else late q.2 := by
  cases hs with
  | arrive a => exact ⟨[], (List.append_nil _).symm, fun q hq => by cases hq⟩
  | drop hfront hlate => exact ⟨_, rfl, fun q hq => by rw [List.mem_singleton.mp hq]; exact hlate⟩
  | serve hfront htime hfree =>
    exact ⟨_, rfl, fun q hq => by rw [List.mem_singleton.mp hq]; exact htime⟩
  | finish => exact ⟨[], (List.append_nil _).symm, fun q hq => by cases hq⟩

theorem length_arrived_step (hs : Step late inTime d d') :
    d.arrived.length ≤ d'.arrived.length := by
  cases hs with
  | arrive a => simp
  | drop hfront hlate => exact Nat.le_refl _
  | serve hfront htime hfree => exact Nat.le_refl _
  | finish => exact Nat.le_refl _

/-- Nothing that has departed is taken up again. -/
theorem servedLast_step {k : ℕ} (hk : k < d.departed.length) (hs : Step late inTime d d')
    (h : d'.servedLast k = true) : d.servedLast k = true := by
  unfold Desk.servedLast at h ⊢
  cases hs with
  | arrive a => exact h
  | drop hfront hlate =>
    rw [List.drop_append_of_le_length hk, List.all_append, Bool.and_eq_true, Bool.and_eq_true] at h
    exact Bool.and_eq_true_iff.mpr ⟨h.1, h.2.1⟩
  | serve hfront htime hfree =>
    rw [List.drop_append_of_le_length hk, List.all_append, Bool.and_eq_true, Bool.and_eq_true] at h
    exact absurd h.2.2 (by simp)
  | finish => cases h

theorem advances_step (h : d.Sound) (hs : Step late inTime d d') : Advances late inTime d d' where
  departed := departed_step hs
  places k p hp := by
    obtain ⟨new, hnew, -⟩ := departed_step hs
    rcases Nat.lt_or_ge k d.departed.length with hk | hk
    · rcases Desk.place_of_departed hk with ⟨a, hget, hdrop⟩ | ⟨a, hget, hplace⟩
      · have hget' : d'.departed[k]? = some (false, a) := by
          rw [hnew, List.getElem?_append_left hk, hget]
        rw [hp] at hdrop
        exact ⟨_, Desk.place_of_dropped hget', by rw [Option.some.inj hdrop]; rfl⟩
      · have hget' : d'.departed[k]? = some (true, a) := by
          rw [hnew, List.getElem?_append_left hk, hget]
        have hplace' := Desk.place_of_taken hget'
        rw [hp] at hplace
        -- what was finished is not served again, and what was current may be finished now
        by_cases hlast : d'.servedLast k = true
        · rw [if_pos hlast] at hplace'
          rw [if_pos (servedLast_step hk hs hlast)] at hplace
          exact ⟨_, hplace', by rw [Option.some.inj hplace]; rfl⟩
        · rw [if_neg hlast] at hplace'
          split at hplace
          · exact ⟨_, hplace', by rw [Option.some.inj hplace]; rfl⟩
          · exact ⟨_, hplace', by rw [Option.some.inj hplace]; rfl⟩
    · -- an item in the queue may get anywhere, but not out of the desk
      have hsome : (d.place k).isSome = true := by rw [hp]; rfl
      have hlt := Nat.lt_of_lt_of_le ((h.placed k).mp hsome) (length_arrived_step hs)
      obtain ⟨p', hp'⟩ := Option.isSome_iff_exists.mp (((sound_step h hs).placed k).mpr hlt)
      have hqueued := (h.queued k).mpr ⟨hk, (h.placed k).mp hsome⟩
      rw [hp] at hqueued
      exact ⟨p', hp', by rw [Option.some.inj hqueued]; rfl⟩

namespace Advances

theorem refl (d : Desk α) : Advances late inTime d d where
  places _ p hp := ⟨p, hp, p.next_refl⟩
  departed := ⟨[], (List.append_nil _).symm, fun q hq => by cases hq⟩

theorem trans (h : Advances late inTime d d') (h' : Advances late inTime d' d'') :
    Advances late inTime d d'' where
  places k p hp := by
    obtain ⟨p', hp', hnext⟩ := h.places k p hp
    obtain ⟨p'', hp'', hnext'⟩ := h'.places k p' hp'
    exact ⟨p'', hp'', Place.next_trans hnext hnext'⟩
  departed := by
    obtain ⟨new, heq, hnew⟩ := h.departed
    obtain ⟨new', heq', hnew'⟩ := h'.departed
    refine ⟨new ++ new', by rw [heq', heq, List.append_assoc], fun q hq => ?_⟩
    rcases List.mem_append.mp hq with hq | hq
    · exact hnew q hq
    · exact hnew' q hq

end Advances

/-- **No item comes back from where it is finished or dropped**, and only late items are
dropped, and only those in time are served. -/
theorem advances_of_steps (h : d.Sound) (hs : ReflTransGen (Step late inTime) d d') :
    Advances late inTime d d' := by
  induction hs with
  | refl => exact .refl d
  | tail hsteps hstep ih => exact ih.trans (advances_step (sound_steps h hsteps) hstep)

end Dispatch
