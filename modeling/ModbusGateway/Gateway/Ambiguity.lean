import ModbusGateway.Gateway.RouterBounds

/-!
# Masters that claim the same unit id

`validators.cpp` has a check that two ranges of unit ids do not intersect, which
`Config::Validate` does not call any more.  A configuration whose masters pass it is
unambiguous, and then the order of its masters does not matter; one whose masters do not
pass it is accepted all the same.

## Main definitions

* `unitIdRangeComparator`, `Separated` — the order of the check, and what it demands of two
  masters.
* `Unambiguous` — no unit id lies in ranges of two masters.
* `SameRoutes` — two lists of masters make the same router.

## Main results

* `unambiguous_iff` — **exactly when a configuration is unambiguous.**
-/

namespace ModbusGateway

open Claims

/-- `UnitIdRangeComparator`; a set refuses a range that is neither before nor behind another. -/
def unitIdRangeComparator (lhs rhs : UnitIdRange) : Bool := decide (lhs.end < rhs.begin)

/-- The ranges of a transport. -/
def TransportConfig.ranges (config : TransportConfig) : List UnitIdRange :=
  (config.masterConfig.map MasterConfig.unitIdSet).getD []

/-- Any two ranges of two masters are before or behind each other. -/
def Separated (masters : List TransportConfig) : Prop :=
  masters.Pairwise fun a b => ∀ range ∈ a.ranges, ∀ range' ∈ b.ranges,
    unitIdRangeComparator range range' = true ∨ unitIdRangeComparator range' range = true

/-- No unit id lies in ranges of two masters. -/
def Unambiguous (masters : List TransportConfig) : Prop :=
  ∀ unitId, Exclusive (TransportConfig.claims unitId) masters

/-- When `MakeRouter` comes to its end for the one list, it does for the other, and the routers
send every unit id to the same actor. -/
def SameRoutes (defaultId : ActorId) (masters masters' : List Master) : Prop :=
  ∀ fuel b, makeRouter defaultId fuel masters = some (some b) →
    ∃ fuel' b', makeRouter defaultId fuel' masters' = some (some b') ∧
      ∀ unitId pastEnd, b.router.route unitId pastEnd = b'.router.route unitId pastEnd

/-! ### Ranges -/

theorem claims_iff {config : TransportConfig} {unitId : UnitId} :
    config.claims unitId = true ↔
      ∃ range ∈ config.ranges, range.begin ≤ unitId ∧ unitId ≤ range.end := by
  unfold TransportConfig.claims TransportConfig.ranges
  cases config.masterConfig with
  | none => simp
  | some masterConfig => simp [MasterConfig.claims, UnitIdRange.contains]

/-- Two ranges in order have a unit id in common unless one is before the other. -/
theorem separated_iff {a b : UnitIdRange} (ha : a.begin ≤ a.end) (hb : b.begin ≤ b.end) :
    (unitIdRangeComparator a b = true ∨ unitIdRangeComparator b a = true) ↔
      ∀ unitId, ¬ ((a.begin ≤ unitId ∧ unitId ≤ a.end) ∧ b.begin ≤ unitId ∧ unitId ≤ b.end) := by
  simp only [unitIdRangeComparator, decide_eq_true_eq, UInt8.lt_iff_toNat_lt,
    UInt8.le_iff_toNat_le] at *
  constructor
  · intro h unitId
    omega
  · intro h
    -- the greater of the two beginnings lies in both, unless they are separated
    have hfirst := h a.begin
    have hsecond := h b.begin
    omega

/-- Two masters have no unit id in common exactly if their ranges are separated. -/
theorem not_claims_iff {a b : TransportConfig} (ha : ∀ range ∈ a.ranges, range.begin ≤ range.end)
    (hb : ∀ range ∈ b.ranges, range.begin ≤ range.end) :
    (∀ unitId, ¬ (a.claims unitId = true ∧ b.claims unitId = true)) ↔
      ∀ range ∈ a.ranges, ∀ range' ∈ b.ranges,
        unitIdRangeComparator range range' = true ∨ unitIdRangeComparator range' range = true := by
  constructor
  · intro h range hrange range' hrange'
    rw [separated_iff (ha range hrange) (hb range' hrange')]
    rintro unitId ⟨hin, hin'⟩
    exact h unitId ⟨claims_iff.mpr ⟨range, hrange, hin⟩, claims_iff.mpr ⟨range', hrange', hin'⟩⟩
  · rintro h unitId ⟨hclaims, hclaims'⟩
    obtain ⟨range, hrange, hin⟩ := claims_iff.mp hclaims
    obtain ⟨range', hrange', hin'⟩ := claims_iff.mp hclaims'
    have hsep := h range hrange range' hrange'
    rw [separated_iff (ha range hrange) (hb range' hrange')] at hsep
    exact hsep unitId ⟨hin, hin'⟩

theorem TransportConfig.Ordered.ranges {config : TransportConfig} (h : config.Ordered) :
    ∀ range ∈ config.ranges, range.begin ≤ range.end := by
  obtain ⟨masterConfig, hcast, hordered⟩ := h
  rw [TransportConfig.ranges, hcast]
  exact hordered

/-- **The check of `validators.cpp` is that the masters are unambiguous.** -/
theorem unambiguous_iff_separated {masters : List TransportConfig}
    (hordered : ∀ master ∈ masters, master.Ordered) :
    Unambiguous masters ↔ Separated masters := by
  have hall : Unambiguous masters ↔ masters.Pairwise fun a b =>
      ∀ unitId, ¬ (a.claims unitId = true ∧ b.claims unitId = true) := by
    simp only [Unambiguous, Exclusive, List.pairwise_iff_getElem]
    constructor
    · intro h i j hi hj hij unitId
      exact h unitId i j hi hj hij
    · intro h unitId i j hi hj hij
      exact h i j hi hj hij unitId
  rw [hall]
  constructor
  · intro h
    apply h.imp_of_mem
    intro a b ha hb hclaims
    exact (not_claims_iff (hordered a ha).ranges (hordered b hb).ranges).mp hclaims
  · intro h
    apply List.Pairwise.imp_of_mem _ h
    intro a b ha hb hsep
    exact (not_claims_iff (hordered a ha).ranges (hordered b hb).ranges).mpr hsep

/-! ### Routes -/

variable {mastersConfig mastersConfig' : List (TransportConfig × ActorId)}

/-- An unambiguous configuration sends a unit id to the same actor in whatever order its masters
are. -/
theorem routeOf_perm (hperm : mastersConfig.Perm mastersConfig') (h : Entries mastersConfig)
    (hclear : Unambiguous (mastersConfig.map Prod.fst)) (defaultId : ActorId) (unitId : UnitId) :
    routeOf defaultId mastersConfig unitId = routeOf defaultId mastersConfig' unitId := by
  have hclaims : Exclusive (fun entry => entry.1.claims unitId) mastersConfig :=
    List.pairwise_map.mp (hclear unitId)
  have hdefault := h.default
  rw [List.countP_eq_length_filter] at hdefault
  unfold routeOf
  rw [lastClaimant_perm hperm hclaims, ← List.head?_filter, ← List.head?_filter,
    filter_eq_of_perm hperm hdefault]

theorem Entries.perm (hperm : mastersConfig.Perm mastersConfig') (h : Entries mastersConfig) :
    Entries mastersConfig' where
  isMaster entry hentry := h.isMaster entry (hperm.mem_iff.mpr hentry)
  ordered entry hentry := h.ordered entry (hperm.mem_iff.mpr hentry)
  ne_nil := by
    rintro rfl
    exact h.ne_nil (List.perm_nil.mp hperm)
  default := hperm.countP_eq _ ▸ h.default

theorem EndsBelow.perm {masters masters' : List TransportConfig} (hperm : masters.Perm masters')
    (h : EndsBelow masters) : EndsBelow masters' :=
  fun master hmaster => h master (hperm.mem_iff.mpr hmaster)

/-- **The order of the masters of an unambiguous configuration does not matter.** -/
theorem sameRoutes_of_perm (hperm : mastersConfig.Perm mastersConfig') (h : Entries mastersConfig)
    (hclear : Unambiguous (mastersConfig.map Prod.fst)) :
    ∃ masters masters', makeMasters mastersConfig = .ok masters ∧
      makeMasters mastersConfig' = .ok masters' ∧
      ∀ defaultId, SameRoutes defaultId masters masters' := by
  have h' := h.perm hperm
  obtain ⟨masters, hmake, hrouter⟩ := makeRouter_makeMasters h.isMaster h.ne_nil h.default
  obtain ⟨masters', hmake', hrouter'⟩ := makeRouter_makeMasters h'.isMaster h'.ne_nil h'.default
  refine ⟨masters, masters', hmake, hmake', fun defaultId fuel b hrun => ?_⟩
  rw [hrouter] at hrun
  obtain ⟨_, hb, ⟨⟩⟩ := Option.map_eq_some_iff.mp hrun
  -- the router has been built, so that no range ends at 255
  have hends : EndsBelow (mastersConfig.map Prod.fst) := by
    by_contra hends
    rw [foldlM_setMaster_eq_none hends] at hb
    cases hb
  have hends' := hends.perm (hperm.map Prod.fst)
  obtain ⟨b', hb'⟩ := Option.isSome_iff_exists.mp (foldlM_setMaster_isSome hends'
    (.new (tableDefault defaultId mastersConfig')))
  refine ⟨257, b', by rw [hrouter', hb']; rfl, fun unitId pastEnd => ?_⟩
  by_cases hunit : unitId.toNat < 255
  · rw [route_foldlM h.isMaster hends hb hunit, route_foldlM h'.isMaster hends' hb' hunit,
      routeOf_perm hperm h hclear]
  · rw [Router.route_outside hunit, Router.route_outside hunit]

/-- **When a configuration is unambiguous.**  No unit id lies in ranges of two masters of a
configuration that is accepted, and the routes are the same for every order of the masters,
exactly if the masters pass the check that `Validate` does not make. -/
theorem unambiguous_iff {contrib : Contrib} {data : Json} {config : Config}
    (haccepted : config.Accepted contrib data)
    (hmasters : mastersConfig.map Prod.fst = config.masters) :
    (Unambiguous config.masters ∧ ∀ mastersConfig', mastersConfig.Perm mastersConfig' →
      ∃ masters masters', makeMasters mastersConfig = .ok masters ∧
        makeMasters mastersConfig' = .ok masters' ∧
        ∀ defaultId, SameRoutes defaultId masters masters') ↔ Separated config.masters := by
  have hseparated := unambiguous_iff_separated haccepted.masters_ok.2.1
  constructor
  · rintro ⟨hclear, -⟩
    exact hseparated.mp hclear
  · intro hsep
    have hclear := hseparated.mpr hsep
    refine ⟨hclear, fun mastersConfig' hperm => ?_⟩
    rw [← hmasters] at hclear
    exact sameRoutes_of_perm hperm (haccepted.entries hmasters) hclear

/-- Two masters whose ranges do not intersect, and the same two the other way round. -/
theorem unambiguous_apart :
    Unambiguous (Sample.config [[⟨10, 20⟩], [⟨30, 40⟩]]).masters ∧
      ∃ masters masters', makeMasters (Sample.entries [[⟨10, 20⟩], [⟨30, 40⟩]]) = .ok masters ∧
        makeMasters (Sample.entries [[⟨10, 20⟩], [⟨30, 40⟩]]).reverse = .ok masters' ∧
        ∀ defaultId, SameRoutes defaultId masters masters' := by
  have haccepted : (Sample.config [[⟨10, 20⟩], [⟨30, 40⟩]]).Accepted Sample.contrib
      (Sample.document [Sample.master [("unit_id", .array [Sample.range 10 20])],
        Sample.master [("unit_id", .array [Sample.range 40 30])]]) :=
    ⟨by decide +kernel, by decide +kernel⟩
  have hmasters : (Sample.entries [[⟨10, 20⟩], [⟨30, 40⟩]]).map Prod.fst =
      (Sample.config [[⟨10, 20⟩], [⟨30, 40⟩]]).masters := rfl
  have hseparated : Separated (Sample.config [[⟨10, 20⟩], [⟨30, 40⟩]]).masters := by
    unfold Separated
    decide
  obtain ⟨hclear, hsame⟩ := (unambiguous_iff haccepted hmasters).mpr hseparated
  exact ⟨hclear, hsame _ (List.reverse_perm _).symm⟩

/-- Two masters that both claim unit 15 are accepted. -/
theorem unambiguous_overlap :
    ¬ ∀ data (config : Config) mastersConfig, config.Accepted Sample.contrib data →
      mastersConfig.map Prod.fst = config.masters →
      Unambiguous config.masters ∧ ∀ mastersConfig', mastersConfig.Perm mastersConfig' →
        ∃ masters masters', makeMasters mastersConfig = .ok masters ∧
          makeMasters mastersConfig' = .ok masters' ∧
          ∀ defaultId, SameRoutes defaultId masters masters' := by
  intro h
  have haccepted : (Sample.config [[⟨10, 20⟩], [⟨15, 30⟩]]).Accepted Sample.contrib
      (Sample.document [Sample.master [("unit_id", .array [Sample.range 10 20])],
        Sample.master [("unit_id", .array [Sample.range 15 30])]]) :=
    ⟨by decide +kernel, by decide +kernel⟩
  have hmasters : (Sample.entries [[⟨10, 20⟩], [⟨15, 30⟩]]).map Prod.fst =
      (Sample.config [[⟨10, 20⟩], [⟨15, 30⟩]]).masters := rfl
  obtain ⟨hclear, -⟩ := h _ _ _ haccepted hmasters
  have hpair := List.rel_of_pairwise_cons (hclear 15) List.mem_cons_self
  exact hpair (by decide)

end ModbusGateway
