import Mathlib.Data.Vector.Basic
import ModbusGateway.Message.ModbusMessage

/-!
# The router

`Router` of `transport/router.cpp`: a table of actor ids indexed by unit id.  The
table is a `std::array` of `std::numeric_limits<UnitId>::max()` elements, which is
255, while there are 256 unit ids: the element for unit id 255 lies past its end.

* `Router.route` — `Route(unitId)`, with the value that a read past the end yields
  as an argument.
* `Routes` — a router whose table names masters only, as `MakeRouter` builds it.
-/

namespace ModbusGateway

/-- `Router`. -/
structure Router where
  routeMap : List.Vector ActorId 255

namespace Router

/-- `Router(defaultId)`. -/
def new (defaultId : ActorId) : Router := ⟨List.Vector.replicate 255 defaultId⟩

/-- `Set(unitId, actorId)`; a write past the end is none of the router's. -/
def set (r : Router) (unitId : UnitId) (actorId : ActorId) : Router :=
  if h : unitId.toNat < 255 then ⟨r.routeMap.set ⟨unitId.toNat, h⟩ actorId⟩ else r

/-- `Route(unitId)`; `pastEnd` is what lies behind the table. -/
def route (r : Router) (unitId : UnitId) (pastEnd : ActorId) : ActorId :=
  if h : unitId.toNat < 255 then r.routeMap.get ⟨unitId.toNat, h⟩ else pastEnd

theorem route_outside {unitId : UnitId} (h : ¬ unitId.toNat < 255) (r : Router)
    (pastEnd : ActorId) : r.route unitId pastEnd = pastEnd :=
  dif_neg h

/-- `Route` stays inside the table exactly if what lies behind it does not matter. -/
theorem route_inside_iff (r : Router) (unitId : UnitId) :
    (∀ pastEnd pastEnd', r.route unitId pastEnd = r.route unitId pastEnd') ↔ unitId ≠ 255 := by
  have hlt : unitId.toNat < 255 ↔ unitId ≠ 255 := by
    have hbound := unitId.toNat_lt
    rw [ne_eq, ← UInt8.toNat_inj]
    change unitId.toNat < 255 ↔ ¬ unitId.toNat = 255
    omega
  rw [← hlt]
  constructor
  · intro h
    by_contra hout
    have heq := h 0 1
    rw [route_outside hout, route_outside hout] at heq
    cases heq
  · intro hin pastEnd pastEnd'
    rw [route, dif_pos hin, route, dif_pos hin]

theorem route_new {unitId : UnitId} (h : unitId.toNat < 255) (defaultId pastEnd : ActorId) :
    (new defaultId).route unitId pastEnd = defaultId := by
  rw [route, dif_pos h]
  exact List.Vector.get_replicate ..

theorem route_set {unitId : UnitId} (h : unitId.toNat < 255) (r : Router) (set : UnitId)
    (actorId pastEnd : ActorId) :
    (r.set set actorId).route unitId pastEnd =
      if set = unitId then actorId else r.route unitId pastEnd := by
  unfold Router.set
  split
  · next hset =>
    by_cases heq : set = unitId
    · subst heq
      rw [if_pos rfl, route, dif_pos h]
      exact List.Vector.get_set_same ..
    · rw [if_neg heq, route, route, dif_pos h, dif_pos h]
      refine List.Vector.get_set_of_ne ?_ _
      intro hfin
      exact heq (UInt8.toNat_inj.mp (Fin.mk.inj hfin))
  · next hset =>
    rw [if_neg]
    rintro rfl
    exact hset h

end Router

/-- A router as `MakeRouter` builds it: its table names masters, or `defaultId` for the units
that nobody serves. -/
structure Routes (defaultId : ActorId) (masters : List ActorId) where
  router : Router
  served : ∀ unitId pastEnd, unitId.toNat < 255 →
    router.route unitId pastEnd ∈ masters ∨ router.route unitId pastEnd = defaultId

namespace Routes

variable {defaultId : ActorId} {masters : List ActorId}

/-- The router before any unit id has been set: a default master's id, or `defaultId`. -/
def new (actorId : ActorId) (h : actorId ∈ masters ∨ actorId = defaultId) :
    Routes defaultId masters where
  router := .new actorId
  served := by
    intro unitId pastEnd hunit
    rw [Router.route_new hunit]
    exact h

/-- A unit id is routed to a master. -/
def set (r : Routes defaultId masters) (unitId : UnitId) (actorId : ActorId)
    (h : actorId ∈ masters) : Routes defaultId masters where
  router := r.router.set unitId actorId
  served := by
    intro unitId' pastEnd hunit
    rw [Router.route_set hunit]
    split
    · exact Or.inl h
    · exact r.served unitId' pastEnd hunit

end Routes

end ModbusGateway
