import ModbusGateway.Config.Config
import ModbusGateway.Library.Claims
import ModbusGateway.Transport.Router

/-!
# Routing follows the configuration

`MakeMasters` and `MakeRouter` of `modbus_gateway.cpp`.  A master is an entry of the
configuration and the id that the exchange gives to its actor.  The loop over a range of
unit ids counts with eight bits, so that it need not come to an end: it is given a number
of rounds, and yields `none` when they do not suffice.

## Main definitions

* `makeMasters`, `makeRouter` — the two functions.
* `Claimed`, `routeOf` — which unit ids an entry names, and where a configuration sends
  a unit id.

## Main results

* `setRange_eq_none` — the loop over a range that ends at 255 never ends.
* `route_makeRouter` — **the router sends every unit id below 255 where the configuration
  says.**
-/

namespace ModbusGateway

open Claims

/-! ### MakeMasters -/

/-- `Master`. -/
structure Master where
  config : MasterConfig
  actorId : ActorId
  deriving DecidableEq

/-- The body of the loop of `MakeMasters`. -/
def addMaster (masters : List Master) (entry : TransportConfig × ActorId) :
    Except Exception (List Master) :=
  match entry.1.masterConfig with
  | none => .error (.logicError "BUG! unknown client type")
  | some config =>
    let client : Master := ⟨config, entry.2⟩
    if config.isDefault then .ok (client :: masters) else .ok (masters ++ [client])

/-- `MakeMasters(mastersConfig, exchange, context)`, where each entry of `mastersConfig` comes
with what `exchange->Add` yields for its actor. -/
def makeMasters (mastersConfig : List (TransportConfig × ActorId)) :
    Except Exception (List Master) :=
  mastersConfig.foldlM addMaster []

/-! ### MakeRouter -/

/-- A router, and the indexes that have been passed to `Set`, oldest first. -/
structure RouterBuild where
  router : Router
  sets : List UnitId

namespace RouterBuild

/-- `Router(defaultId)`. -/
def new (defaultId : ActorId) : RouterBuild := ⟨.new defaultId, []⟩

/-- `Set(unitId, actorId)`. -/
def set (b : RouterBuild) (unitId : UnitId) (actorId : ActorId) : RouterBuild :=
  ⟨b.router.set unitId actorId, b.sets ++ [unitId]⟩

end RouterBuild

/-- The loop `for (unitId = ...; unitId <= last; ++unitId)`, for at most `fuel` rounds. -/
def setRange (actorId : ActorId) (last : UnitId) :
    ℕ → UnitId → RouterBuild → Option RouterBuild
  | 0, _, _ => none
  | fuel + 1, unitId, b =>
    if unitId ≤ last then setRange actorId last fuel (unitId + 1) (b.set unitId actorId)
    else some b

/-- The loop over the ranges of a master. -/
def setMaster (fuel : ℕ) (b : RouterBuild) (master : Master) : Option RouterBuild :=
  master.config.unitIdSet.foldlM (fun b range =>
    setRange master.actorId range.end fuel range.begin b) b

/-- `MakeRouter(masters)`, where `defaultId` is `exchange::defaultId`; a null router is the
inner `none`. -/
def makeRouter (defaultId : ActorId) (fuel : ℕ) : List Master → Option (Option RouterBuild)
  | [] => some none
  | master :: masters =>
    -- we know that first is default or haven't default
    (if master.config.isDefault then
      masters.foldlM (setMaster fuel) (.new master.actorId)
    else (master :: masters).foldlM (setMaster fuel) (.new defaultId)).map some

/-! ### What the configuration says -/

/-- The unit id lies in the range. -/
def UnitIdRange.contains (range : UnitIdRange) (unitId : UnitId) : Bool :=
  decide (range.begin ≤ unitId ∧ unitId ≤ range.end)

/-- The unit id lies in one of the ranges. -/
def MasterConfig.claims (unitId : UnitId) (config : MasterConfig) : Bool :=
  config.unitIdSet.any (·.contains unitId)

/-- The unit id lies in one of the ranges of the transport, which is a master. -/
def TransportConfig.claims (unitId : UnitId) (config : TransportConfig) : Bool :=
  config.masterConfig.any (MasterConfig.claims unitId)

/-- **Where a configuration sends a unit id**: to the last of its entries that claims it; else to
the entry without ranges; else to nobody. -/
def routeOf (defaultId : ActorId) (mastersConfig : List (TransportConfig × ActorId))
    (unitId : UnitId) : ActorId :=
  match lastClaimant (fun entry => entry.1.claims unitId) mastersConfig with
  | some entry => entry.2
  | none =>
    match mastersConfig.find? (·.1.isDefault) with
    | some entry => entry.2
    | none => defaultId

/-! ### The loops -/

/-- Below 255 the counter of the loop does not wrap. -/
theorem toNat_next {unitId last : UnitId} (hle : unitId ≤ last) (hlast : last.toNat < 255) :
    (unitId + 1).toNat = unitId.toNat + 1 := by
  rw [UInt8.le_iff_toNat_le] at hle
  rw [UInt8.toNat_add]
  exact Nat.mod_eq_of_lt (by simp; omega)

/-- **The loop over a range that ends at 255 never ends**: every unit id is at most 255. -/
theorem setRange_eq_none {actorId : ActorId} {last : UnitId} (hlast : last.toNat = 255) :
    ∀ (fuel : ℕ) (unitId : UnitId) (b : RouterBuild),
      setRange actorId last fuel unitId b = none := by
  intro fuel
  induction fuel with
  | zero => intro unitId b; rfl
  | succ fuel ih =>
    intro unitId b
    have hle : unitId ≤ last := by
      rw [UInt8.le_iff_toNat_le]
      have hlt := unitId.toNat_lt
      omega
    rw [setRange, if_pos hle]
    exact ih _ _

/-- The loop over any other range ends. -/
theorem setRange_isSome {actorId : ActorId} {last : UnitId} (hlast : last.toNat < 255) :
    ∀ (fuel : ℕ) (unitId : UnitId) (b : RouterBuild), last.toNat + 2 ≤ fuel + unitId.toNat →
      0 < fuel → (setRange actorId last fuel unitId b).isSome = true := by
  intro fuel
  induction fuel with
  | zero => intro unitId b _ h; cases h
  | succ fuel ih =>
    intro unitId b hfuel _
    rw [setRange]
    by_cases hle : unitId ≤ last
    · rw [if_pos hle]
      have hnext := toNat_next hle hlast
      rw [UInt8.le_iff_toNat_le] at hle
      apply ih
      · omega
      · omega
    · rw [if_neg hle]
      rfl

/-- What the loop over a range leaves in the table. -/
theorem route_setRange {actorId : ActorId} {last : UnitId} (hlast : last.toNat < 255)
    {u : UnitId} (hu : u.toNat < 255) (pastEnd : ActorId) :
    ∀ {fuel : ℕ} {unitId : UnitId} {b b' : RouterBuild},
      setRange actorId last fuel unitId b = some b' →
      b'.router.route u pastEnd =
        if unitId ≤ u ∧ u ≤ last then actorId else b.router.route u pastEnd := by
  intro fuel
  induction fuel with
  | zero => intro unitId b b' h; cases h
  | succ fuel ih =>
    intro unitId b b' h
    rw [setRange] at h
    by_cases hle : unitId ≤ last
    · rw [if_pos hle] at h
      have hnext := toNat_next hle hlast
      rw [ih h, RouterBuild.set, Router.route_set hu]
      simp only [UInt8.le_iff_toNat_le, ← UInt8.toNat_inj] at hle ⊢
      rw [hnext]
      -- the unit id is the one that is set, comes later, or is none of the range
      by_cases heq : unitId.toNat = u.toNat
      · rw [if_neg (by omega), if_pos heq, if_pos (by omega)]
      · rw [if_neg heq]
        by_cases hlater : unitId.toNat + 1 ≤ u.toNat ∧ u.toNat ≤ last.toNat
        · rw [if_pos hlater, if_pos (by omega)]
        · rw [if_neg hlater, if_neg (by omega)]
    · rw [if_neg hle, Option.some.injEq] at h
      rw [if_neg, h]
      rintro ⟨hfirst, hlast'⟩
      exact hle (UInt8.le_trans hfirst hlast')

/-- What the loop over the ranges of a master leaves in the table. -/
theorem route_setMaster {fuel : ℕ} {master : Master} {b b' : RouterBuild}
    (hends : ∀ range ∈ master.config.unitIdSet, range.end.toNat < 255) {u : UnitId}
    (hu : u.toNat < 255) (pastEnd : ActorId) (h : setMaster fuel b master = some b') :
    b'.router.route u pastEnd =
      if master.config.claims u then master.actorId else b.router.route u pastEnd := by
  have hview := foldlM_view (·.contains u) (fun _ => master.actorId)
    (fun b : RouterBuild => b.router.route u pastEnd) (fun b range hrange b' hb' => by
      simpa [UnitIdRange.contains] using route_setRange (hends range hrange) hu pastEnd hb') h
  rw [hview, MasterConfig.claims]
  cases hlast : lastClaimant (·.contains u) master.config.unitIdSet with
  | none =>
    rw [lastClaimant_eq_none] at hlast
    rw [if_neg]
    · rfl
    · rw [Bool.not_eq_true, List.any_eq_false]
      intro range hrange
      simp [hlast range hrange]
  | some range =>
    obtain ⟨hrange, hcontains⟩ := lastClaimant_some hlast
    rw [if_pos (List.any_eq_true.mpr ⟨range, hrange, hcontains⟩)]
    rfl

/-- The entry as a master, if it is one. -/
def toMaster (entry : TransportConfig × ActorId) : Option Master :=
  entry.1.masterConfig.map fun config => ⟨config, entry.2⟩

theorem toMaster_eq {entry : TransportConfig × ActorId} {config : MasterConfig}
    (h : entry.1.masterConfig = some config) : toMaster entry = some ⟨config, entry.2⟩ := by
  rw [toMaster, h, Option.map_some]

/-- An entry as a master. -/
theorem toMaster_some {entry : TransportConfig × ActorId} {master : Master}
    (h : toMaster entry = some master) : entry.1.masterConfig = some master.config ∧
      master.actorId = entry.2 ∧ master.config.isDefault = entry.1.isDefault := by
  obtain ⟨config, hconfig, rfl⟩ := Option.map_eq_some_iff.mp h
  refine ⟨hconfig, rfl, ?_⟩
  rw [TransportConfig.isDefault, hconfig]
  rfl

/-- What the loop of `MakeMasters` adds: the masters without ranges in front, the others
behind. -/
theorem foldlM_addMaster {mastersConfig : List (TransportConfig × ActorId)} :
    (∀ entry ∈ mastersConfig, entry.1.masterConfig.isSome = true) → ∀ masters,
    mastersConfig.foldlM addMaster masters = .ok
      (((mastersConfig.filter (·.1.isDefault)).filterMap toMaster).reverse ++ masters ++
        (mastersConfig.filter (!·.1.isDefault)).filterMap toMaster) := by
  induction mastersConfig with
  | nil =>
    intro _ masters
    rw [List.foldlM_nil]
    simp only [List.filter_nil, List.filterMap_nil, List.reverse_nil, List.nil_append,
      List.append_nil]
    rfl
  | cons entry mastersConfig ih =>
    intro h masters
    have ih := ih fun e he => h e (List.mem_cons_of_mem _ he)
    obtain ⟨config, hconfig⟩ := Option.isSome_iff_exists.mp (h entry List.mem_cons_self)
    have htoMaster := toMaster_eq hconfig
    have hdefault : entry.1.isDefault = config.isDefault := (toMaster_some htoMaster).2.2.symm
    by_cases hc : config.isDefault = true
    · have hadd : addMaster masters entry = .ok (⟨config, entry.2⟩ :: masters) := by
        simp [addMaster, hconfig, hc]
      rw [List.foldlM_cons, hadd]
      refine (ih (⟨config, entry.2⟩ :: masters)).trans ?_
      simp [hdefault, htoMaster, hc]
    · have hadd : addMaster masters entry = .ok (masters ++ [⟨config, entry.2⟩]) := by
        simp [addMaster, hconfig, hc]
      rw [List.foldlM_cons, hadd]
      refine (ih (masters ++ [⟨config, entry.2⟩])).trans ?_
      simp [hdefault, htoMaster, hc]

/-- The masters with ranges, in the order of the configuration. -/
def rangeMasters (mastersConfig : List (TransportConfig × ActorId)) : List Master :=
  (mastersConfig.filter (!·.1.isDefault)).filterMap toMaster

/-- The actor that `MakeRouter` fills the table with. -/
def tableDefault (defaultId : ActorId) (mastersConfig : List (TransportConfig × ActorId)) :
    ActorId :=
  ((mastersConfig.find? (·.1.isDefault)).map Prod.snd).getD defaultId

theorem isDefault_of_mem_rangeMasters {mastersConfig : List (TransportConfig × ActorId)}
    {master : Master} (h : master ∈ rangeMasters mastersConfig) :
    master.config.isDefault = false := by
  obtain ⟨entry, hentry, htoMaster⟩ := List.mem_filterMap.mp h
  rw [(toMaster_some htoMaster).2.2]
  simpa using List.of_mem_filter hentry

/-- Some master has ranges if none is a default one. -/
theorem eq_nil_of_rangeMasters {mastersConfig : List (TransportConfig × ActorId)}
    (h : ∀ entry ∈ mastersConfig, entry.1.masterConfig.isSome = true)
    (hdefault : mastersConfig.filter (·.1.isDefault) = [])
    (hrange : rangeMasters mastersConfig = []) : mastersConfig = [] := by
  cases mastersConfig with
  | nil => rfl
  | cons entry mastersConfig =>
    have hentry : entry.1.isDefault = false := by
      simpa using List.filter_eq_nil_iff.mp hdefault entry List.mem_cons_self
    obtain ⟨config, hconfig⟩ := Option.isSome_iff_exists.mp (h entry List.mem_cons_self)
    have hnone := List.filterMap_eq_nil_iff.mp hrange entry
      (List.mem_filter.mpr ⟨List.mem_cons_self, by simp [hentry]⟩)
    rw [toMaster_eq hconfig] at hnone
    cases hnone

/-- **What `MakeRouter` does to the masters of `MakeMasters`**: it fills the table with the only
master without ranges, or with `defaultId`, and sets the ranges of the others. -/
theorem makeRouter_makeMasters {mastersConfig : List (TransportConfig × ActorId)}
    (h : ∀ entry ∈ mastersConfig, entry.1.masterConfig.isSome = true) (hne : mastersConfig ≠ [])
    (hdefault : mastersConfig.countP (·.1.isDefault) ≤ 1) :
    ∃ masters, makeMasters mastersConfig = .ok masters ∧ ∀ defaultId fuel,
      makeRouter defaultId fuel masters = ((rangeMasters mastersConfig).foldlM (setMaster fuel)
        (.new (tableDefault defaultId mastersConfig))).map some := by
  refine ⟨_, foldlM_addMaster h [], fun defaultId fuel => ?_⟩
  rw [List.append_nil, tableDefault, ← List.head?_filter]
  rw [List.countP_eq_length_filter] at hdefault
  change makeRouter defaultId fuel (_ ++ rangeMasters mastersConfig) = _
  cases hfilter : mastersConfig.filter (·.1.isDefault) with
  | nil =>
    -- no master is a default one, and the first one is not
    rw [List.filterMap_nil, List.reverse_nil, List.nil_append, List.head?_nil, Option.map_none,
      Option.getD_none]
    cases hmasters : rangeMasters mastersConfig with
    | nil => exact absurd (eq_nil_of_rangeMasters h hfilter hmasters) hne
    | cons master masters =>
      have hfirst : master.config.isDefault = false :=
        isDefault_of_mem_rangeMasters (hmasters ▸ List.mem_cons_self)
      rw [makeRouter, if_neg (by simp [hfirst])]
  | cons entry entries =>
    have hentries : entries = [] := by
      rw [hfilter, List.length_cons] at hdefault
      exact List.length_eq_zero_iff.mp (by omega)
    have hmem : entry ∈ mastersConfig.filter (·.1.isDefault) := hfilter ▸ List.mem_cons_self
    obtain ⟨config, hconfig⟩ :=
      Option.isSome_iff_exists.mp (h entry (List.mem_of_mem_filter hmem))
    have htoMaster := toMaster_eq hconfig
    have hfirst : config.isDefault = true :=
      (toMaster_some htoMaster).2.2.trans (List.mem_filter.mp hmem).2
    rw [hentries, List.filterMap_cons_some htoMaster, List.filterMap_nil, List.reverse_singleton,
      List.singleton_append, makeRouter, if_pos hfirst]
    rfl

/-! ### The routes -/

/-- The ranges of a configuration end below 255. -/
def EndsBelow (masters : List TransportConfig) : Prop :=
  ∀ master ∈ masters, ∀ config, master.masterConfig = some config →
    ∀ range ∈ config.unitIdSet, range.end.toNat < 255

instance (masters : List TransportConfig) : Decidable (EndsBelow masters) :=
  decidable_of_iff (∀ master ∈ masters, ∀ config ∈ master.masterConfig,
    ∀ range ∈ config.unitIdSet, range.end.toNat < 255) Iff.rfl

variable {mastersConfig : List (TransportConfig × ActorId)} {defaultId : ActorId}

theorem end_of_mem_rangeMasters (hends : EndsBelow (mastersConfig.map Prod.fst)) {master : Master}
    (h : master ∈ rangeMasters mastersConfig) :
    ∀ range ∈ master.config.unitIdSet, range.end.toNat < 255 := by
  obtain ⟨entry, hentry, htoMaster⟩ := List.mem_filterMap.mp h
  have hmem := List.mem_map_of_mem (f := Prod.fst) (List.mem_of_mem_filter hentry)
  exact hends entry.1 hmem master.config (toMaster_some htoMaster).1

/-- A default entry claims nothing. -/
theorem claims_of_isDefault {config : TransportConfig} (h : config.isDefault = true)
    (unitId : UnitId) : config.claims unitId = false := by
  unfold TransportConfig.isDefault at h
  unfold TransportConfig.claims
  cases hconfig : config.masterConfig with
  | none => rfl
  | some masterConfig =>
    rw [hconfig, Option.any_some, MasterConfig.isDefault, List.isEmpty_iff] at h
    rw [Option.any_some, MasterConfig.claims, h, List.any_nil]

/-- The last master that claims a unit id is the last entry that does. -/
theorem lastClaimant_rangeMasters
    (h : ∀ entry ∈ mastersConfig, entry.1.masterConfig.isSome = true) (unitId : UnitId) :
    lastClaimant (fun master : Master => master.config.claims unitId) (rangeMasters mastersConfig) =
      (lastClaimant (fun entry => entry.1.claims unitId) mastersConfig).bind toMaster := by
  rw [rangeMasters, lastClaimant_filterMap fun entry => entry.1.claims unitId]
  · rw [lastClaimant_filter]
    intro entry _ hclaims
    cases hdefault : entry.1.isDefault with
    | false => rfl
    | true => rw [claims_of_isDefault hdefault] at hclaims; cases hclaims
  · intro entry hentry
    obtain ⟨config, hconfig⟩ :=
      Option.isSome_iff_exists.mp (h entry (List.mem_of_mem_filter hentry))
    refine ⟨⟨config, entry.2⟩, toMaster_eq hconfig, ?_⟩
    rw [TransportConfig.claims, hconfig]
    rfl

/-- What the loop over the masters leaves in the table. -/
theorem route_foldlM (h : ∀ entry ∈ mastersConfig, entry.1.masterConfig.isSome = true)
    (hends : EndsBelow (mastersConfig.map Prod.fst)) {fuel : ℕ} {b : RouterBuild}
    (hb : (rangeMasters mastersConfig).foldlM (setMaster fuel)
      (.new (tableDefault defaultId mastersConfig)) = some b)
    {unitId : UnitId} (hunit : unitId.toNat < 255) (pastEnd : ActorId) :
    b.router.route unitId pastEnd = routeOf defaultId mastersConfig unitId := by
  have hview := foldlM_view (fun master : Master => master.config.claims unitId) Master.actorId
    (fun b : RouterBuild => b.router.route unitId pastEnd)
    (fun b master hmaster b' hb' =>
      route_setMaster (end_of_mem_rangeMasters hends hmaster) hunit pastEnd hb') hb
  rw [hview, lastClaimant_rangeMasters h, routeOf]
  cases hlast : lastClaimant (fun entry => entry.1.claims unitId) mastersConfig with
  | none =>
    simp only [Option.bind_none, Option.map_none, Option.getD_none, RouterBuild.new,
      Router.route_new hunit]
    rw [tableDefault]
    cases mastersConfig.find? (·.1.isDefault) <;> rfl
  | some entry =>
    obtain ⟨config, hconfig⟩ :=
      Option.isSome_iff_exists.mp (h entry (lastClaimant_some hlast).1)
    rw [Option.bind_some, toMaster_eq hconfig, Option.map_some, Option.getD_some]

/-- The loop over the masters comes to its end. -/
theorem foldlM_setMaster_isSome (hends : EndsBelow (mastersConfig.map Prod.fst)) (b : RouterBuild) :
    ((rangeMasters mastersConfig).foldlM (setMaster 257) b).isSome = true := by
  refine foldlM_isSome (fun b master hmaster => ?_) b
  refine foldlM_isSome (fun b range hrange => ?_) b
  have hend := end_of_mem_rangeMasters hends hmaster range hrange
  apply setRange_isSome hend
  · omega
  · omega

/-- Where a configuration sends a unit id is a master only if it claims the unit id, or if it is
the default one and nobody claims it. -/
theorem claims_of_routeOf (hids : (mastersConfig.map Prod.snd).Nodup)
    (hdefaultId : defaultId ∉ mastersConfig.map Prod.snd) {unitId : UnitId}
    {entry : TransportConfig × ActorId} (hentry : entry ∈ mastersConfig)
    (hroute : routeOf defaultId mastersConfig unitId = entry.2) :
    entry.1.claims unitId = true ∨ entry.1.isDefault = true ∧
      ∀ other ∈ mastersConfig, other.1.claims unitId = false := by
  unfold routeOf at hroute
  cases hlast : lastClaimant (fun entry => entry.1.claims unitId) mastersConfig with
  | some last =>
    rw [hlast] at hroute
    obtain ⟨hmem, hclaims⟩ := lastClaimant_some hlast
    obtain rfl := List.inj_on_of_nodup_map hids hmem hentry hroute
    exact Or.inl hclaims
  | none =>
    rw [hlast] at hroute
    refine Or.inr ⟨?_, lastClaimant_eq_none.mp hlast⟩
    cases hfind : mastersConfig.find? (·.1.isDefault) with
    | some first =>
      simp only [hfind] at hroute
      obtain rfl := List.inj_on_of_nodup_map hids (List.mem_of_find?_eq_some hfind) hentry hroute
      have hfirst := List.find?_some hfind
      exact hfirst
    | none =>
      simp only [hfind] at hroute
      exact absurd (hroute ▸ List.mem_map_of_mem hentry) hdefaultId

/-- What is known of the masters that the two functions are given. -/
structure Entries (mastersConfig : List (TransportConfig × ActorId)) : Prop where
  isMaster : ∀ entry ∈ mastersConfig, entry.1.masterConfig.isSome = true
  ordered : ∀ entry ∈ mastersConfig, entry.1.Ordered
  ne_nil : mastersConfig ≠ []
  default : mastersConfig.countP (·.1.isDefault) ≤ 1

theorem Config.Accepted.entries {contrib : Contrib} {data : Json} {config : Config}
    (haccepted : config.Accepted contrib data)
    (hmasters : mastersConfig.map Prod.fst = config.masters) : Entries mastersConfig := by
  obtain ⟨hne, hordered, hdefault⟩ := haccepted.masters_ok
  rw [← hmasters] at hne hordered hdefault
  have hall : ∀ entry ∈ mastersConfig, entry.1.Ordered := fun entry hentry =>
    hordered entry.1 (List.mem_map_of_mem hentry)
  refine ⟨fun entry hentry => ?_, hall, fun hnil => hne (by rw [hnil, List.map_nil]), ?_⟩
  · obtain ⟨masterConfig, hcast, -⟩ := hall entry hentry
    rw [hcast]
    rfl
  · rw [List.countP_map] at hdefault
    exact hdefault

/-- **Routing follows the configuration.**  For a configuration that is accepted, with ranges
that end below 255, `MakeRouter` comes to its end, and its router sends every unit id below
255 where the configuration says; so, if the exchange gives different ids to the masters and
`defaultId` to none, a master gets a unit id only if it claims it, or if nobody does and it
is the default one. -/
theorem route_makeRouter {contrib : Contrib} {data : Json} {config : Config}
    (haccepted : config.Accepted contrib data)
    (hmasters : mastersConfig.map Prod.fst = config.masters)
    (hends : EndsBelow config.masters) (defaultId : ActorId) :
    ∃ masters, makeMasters mastersConfig = .ok masters ∧
      (∃ fuel, (makeRouter defaultId fuel masters).isSome = true) ∧
      ∀ fuel router, makeRouter defaultId fuel masters = some router → ∃ b, router = some b ∧
        ∀ unitId : UnitId, unitId.toNat < 255 → ∀ pastEnd,
          b.router.route unitId pastEnd = routeOf defaultId mastersConfig unitId ∧
          ((mastersConfig.map Prod.snd).Nodup → defaultId ∉ mastersConfig.map Prod.snd →
            ∀ entry ∈ mastersConfig, b.router.route unitId pastEnd = entry.2 →
              entry.1.claims unitId = true ∨ entry.1.isDefault = true ∧
                ∀ other ∈ mastersConfig, other.1.claims unitId = false) := by
  have h := haccepted.entries hmasters
  rw [← hmasters] at hends
  obtain ⟨masters, hmake, hrouter⟩ := makeRouter_makeMasters h.isMaster h.ne_nil h.default
  refine ⟨masters, hmake, ⟨257, ?_⟩, fun fuel router hrun => ?_⟩
  · rw [hrouter, Option.isSome_map]
    exact foldlM_setMaster_isSome hends _
  · rw [hrouter] at hrun
    obtain ⟨b, hb, rfl⟩ := Option.map_eq_some_iff.mp hrun
    refine ⟨b, rfl, fun unitId hunit pastEnd => ?_⟩
    have hroute := route_foldlM h.isMaster hends hb hunit pastEnd
    refine ⟨hroute, fun hids hdefaultId entry hentry heq => ?_⟩
    exact claims_of_routeOf hids hdefaultId hentry (hroute.symm.trans heq)

/-! ### Documents of the configurations evaluated below -/

namespace Sample

/-- The address and the limits that the documents use. -/
def contrib : Contrib where
  makeAddressV4 s := if s = "127.0.0.1" then some 0x7F000001 else none
  unitIdMin := 1
  unitIdMax := 255
  outOfRange _ := 0

/-- An element of `unit_id`. -/
def range (first last : UInt64) : Json :=
  .object [("type", .string "range"), ("begin", .numberUnsigned first),
    ("end", .numberUnsigned last)]

/-- A TCP master with the given members besides the required ones. -/
def master (members : List (String × Json)) : Json :=
  .object ([("frame_type", .string "tcp"), ("timeout_ms", .numberUnsigned 1000),
    ("ip_address", .string "127.0.0.1"), ("ip_port", .numberUnsigned 502)] ++ members)

/-- A document with one slave and the given masters. -/
def document (masters : List Json) : Json :=
  .object [("service", .object []),
    ("slaves", .array [.object [("frame_type", .string "tcp"), ("ip_port", .numberUnsigned 502)]]),
    ("masters", .array masters)]

/-- The configuration of a TCP master with the given ranges. -/
def masterConfig (unitIdSet : List UnitIdRange) : TransportConfig :=
  .TcpClient { timeout := 1000, unitIdSet, address := 0x7F000001, port := 502 }

/-- The configuration of a document. -/
def config (masters : List (List UnitIdRange)) : Config where
  configService := {}
  slaves := [.TcpServer { address := 0, port := 502 }]
  masters := masters.map masterConfig

end Sample

/-- The masters of a configuration, with the ids 1, 2 and so on. -/
def Sample.entries (masters : List (List UnitIdRange)) : List (TransportConfig × ActorId) :=
  (masters.map masterConfig).zipIdx 1

/-- A document with three masters, the second of them without `unit_id`. -/
theorem route_makeRouter_three :
    ∃ masters fuel b,
      makeMasters (Sample.entries [[⟨10, 20⟩], [], [⟨30, 30⟩, ⟨15, 16⟩]]) = .ok masters ∧
      makeRouter 0 fuel masters = some (some b) ∧ ∀ pastEnd,
      b.router.route 12 pastEnd = 1 ∧ b.router.route 15 pastEnd = 3 ∧
      b.router.route 40 pastEnd = 2 := by
  have haccepted : (Sample.config [[⟨10, 20⟩], [], [⟨30, 30⟩, ⟨15, 16⟩]]).Accepted Sample.contrib
      (Sample.document [Sample.master [("unit_id", .array [Sample.range 20 10])], Sample.master [],
        Sample.master [("unit_id", .array [Sample.range 30 30, Sample.range 15 16])]]) :=
    ⟨by decide +kernel, by decide +kernel⟩
  have hmasters : (Sample.entries [[⟨10, 20⟩], [], [⟨30, 30⟩, ⟨15, 16⟩]]).map Prod.fst =
      (Sample.config [[⟨10, 20⟩], [], [⟨30, 30⟩, ⟨15, 16⟩]]).masters := rfl
  obtain ⟨masters, hmake, ⟨fuel, hsome⟩, hroute⟩ :=
    route_makeRouter haccepted hmasters (by decide) 0
  obtain ⟨router, hrun⟩ := Option.isSome_iff_exists.mp hsome
  obtain ⟨b, rfl, h⟩ := hroute fuel router hrun
  refine ⟨masters, fuel, b, hmake, hrun, fun pastEnd => ?_⟩
  exact ⟨(h 12 (by decide) pastEnd).1, (h 15 (by decide) pastEnd).1, (h 40 (by decide) pastEnd).1⟩

end ModbusGateway
