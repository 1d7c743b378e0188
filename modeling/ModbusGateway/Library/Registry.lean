import Mathlib.Data.List.Basic
import Mathlib.Data.List.Nodup
import Mathlib.Data.List.Perm.Basic

/-!
# A registry that gives its names again

Members are registered under names.  A member that leaves sends a notice, which bears
its name and nothing else; when the notice is handled, whoever is registered under the
name is removed, and the name may be given to the next member.  A notice that were
handled too late, or twice, would remove a member that has not left.

## Main definitions

* `Registry` — the members with their names, and the notices on their way.
* `Registry.join`, `Registry.leave`, `Registry.handle` — what can happen.
* `Registry.Sound` — names differ, and the notices are those of members, one of each.

## Main results

* `Sound.join`, `Sound.leave`, `Sound.handle` — a registry stays sound.
* `Sound.removed_eq` — **a notice removes the member that has sent it**, and no other.
-/

/-- Members with their names, and notices on their way, each with its sender. -/
structure Registry (ι κ : Type*) where
  entries : List (ι × κ)
  notices : List (ι × κ)

namespace Registry

variable {ι κ : Type*}

section

variable [DecidableEq ι]

/-- What is left when whoever is registered under a name is removed. -/
def removed (entries : List (ι × κ)) (name : ι) : List (ι × κ) :=
  entries.filter fun a => decide (a.1 ≠ name)

/-- A member is registered. -/
def join (r : Registry ι κ) (a : ι × κ) : Registry ι κ := { r with entries := a :: r.entries }

/-- A member sends its notice. -/
def leave (r : Registry ι κ) (a : ι × κ) : Registry ι κ := { r with notices := r.notices ++ [a] }

/-- The notice at position `i` is handled. -/
def handle (r : Registry ι κ) (i : ℕ) : Option (Registry ι κ) :=
  (r.notices[i]?).map fun a => ⟨removed r.entries a.1, r.notices.eraseIdx i⟩

end

/-- Names differ, and the notices are those of members, one of each. -/
structure Sound (r : Registry ι κ) : Prop where
  names : (r.entries.map Prod.fst).Nodup
  once : r.notices.Nodup
  members : ∀ a ∈ r.notices, a ∈ r.entries

variable {r r' : Registry ι κ}

theorem sound_nil : Sound (⟨[], []⟩ : Registry ι κ) :=
  ⟨List.nodup_nil, List.nodup_nil, fun _ ha => absurd ha List.not_mem_nil⟩

/-- Members of one name are the same. -/
theorem Sound.eq_of_name (h : r.Sound) {a b : ι × κ} (ha : a ∈ r.entries) (hb : b ∈ r.entries)
    (hname : a.1 = b.1) : a = b :=
  List.inj_on_of_nodup_map h.names ha hb hname

/-- A member is registered under a name that is not in use. -/
theorem Sound.join (h : r.Sound) {a : ι × κ} (hfree : a.1 ∉ r.entries.map Prod.fst) :
    (r.join a).Sound where
  names := List.nodup_cons.mpr ⟨hfree, h.names⟩
  once := h.once
  members b hb := List.mem_cons_of_mem a (h.members b hb)

/-- A member that has sent no notice sends one. -/
theorem Sound.leave (h : r.Sound) {a : ι × κ} (hmem : a ∈ r.entries) (hnew : a ∉ r.notices) :
    (r.leave a).Sound where
  names := h.names
  once := List.Nodup.append h.once (List.nodup_singleton a)
    fun b hb hba => hnew (List.mem_singleton.mp hba ▸ hb)
  members b hb := by
    rcases List.mem_append.mp hb with hb | hb
    · exact h.members b hb
    · rw [List.mem_singleton.mp hb]
      exact hmem

variable [DecidableEq ι]

/-- **A notice removes the member that has sent it**, and no other. -/
theorem Sound.removed_eq [DecidableEq κ] (h : r.Sound) {a : ι × κ} (ha : a ∈ r.notices) :
    removed r.entries a.1 = r.entries.filter fun b => decide (b ≠ a) := by
  refine List.filter_congr fun b hb => ?_
  rw [decide_eq_decide]
  constructor
  · exact fun hname heq => hname (congrArg Prod.fst heq)
  · exact fun hne hname => hne (h.eq_of_name hb (h.members a ha) hname)

/-- The other members stay. -/
theorem Sound.mem_removed (h : r.Sound) {a b : ι × κ} (ha : a ∈ r.notices) (hb : b ∈ r.entries)
    (hne : b ≠ a) : b ∈ removed r.entries a.1 := by
  refine List.mem_filter.mpr ⟨hb, decide_eq_true fun hname => hne ?_⟩
  exact h.eq_of_name hb (h.members a ha) hname

/-- **A notice is handled** while its name still belongs to its sender. -/
theorem Sound.handle (h : r.Sound) {i : ℕ} (hr : r.handle i = some r') : r'.Sound := by
  obtain ⟨a, ha, rfl⟩ := Option.map_eq_some_iff.mp hr
  have hmem : a ∈ r.notices := List.mem_of_getElem? ha
  refine ⟨h.names.sublist (List.filter_sublist.map Prod.fst), h.once.sublist
    (List.eraseIdx_sublist r.notices i), fun b hb => ?_⟩
  refine h.mem_removed hmem (h.members b (List.mem_of_mem_eraseIdx hb)) ?_
  -- the notice that is handled was the only one of its sender
  rintro rfl
  obtain ⟨hi, rfl⟩ := List.getElem?_eq_some_iff.mp ha
  have hperm := List.getElem_cons_eraseIdx_perm hi
  exact (List.nodup_cons.mp (hperm.nodup_iff.mpr h.once)).1 hb

end Registry
