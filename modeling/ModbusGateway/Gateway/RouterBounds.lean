import ModbusGateway.Gateway.MakeRouter
import ModbusGateway.ModbusFrame
import ModbusGateway.Transport.ModbusRtuSlave
import ModbusGateway.Transport.ModbusTcpConnection

/-!
# The bounds of the router's table

The table of the router has 255 elements, one less than there are unit ids.  The loops of
`MakeRouter` stay inside it, and come to an end, unless a range ends at 255; and `Route`
stays inside it unless the unit id is 255.  What a read outside of the table yields is
arbitrary, so that a handler reads inside of it exactly if it does the same whatever that
is.

## Main definitions

* `Built` — `MakeRouter` comes to its end and stays inside the table.
* `ModbusTcpConnection.RoutesInside`, `ModbusRtuSlave.RoutesInside` — a handler does.

## Main results

* `built_iff`, `router_inside_iff` — **exactly when the router stays inside its table**.
-/

namespace ModbusGateway

open Claims

/-- `MakeRouter` comes to its end, and every index that it passes to `Set` lies inside the
table. -/
def Built (defaultId : ActorId) (masters : List Master) : Prop :=
  ∃ fuel router, makeRouter defaultId fuel masters = some router ∧
    ∀ b, router = some b → ∀ unitId ∈ b.sets, unitId.toNat < 255

/-- The loop over a range sets nothing behind the end of the range. -/
theorem sets_setRange {actorId : ActorId} {last : UnitId} (hlast : last.toNat < 255) :
    ∀ {fuel : ℕ} {unitId : UnitId} {b b' : RouterBuild},
      (∀ u ∈ b.sets, u.toNat < 255) → setRange actorId last fuel unitId b = some b' →
      ∀ u ∈ b'.sets, u.toNat < 255 := by
  intro fuel
  induction fuel with
  | zero => intro unitId b b' _ h; cases h
  | succ fuel ih =>
    intro unitId b b' hb h
    rw [setRange] at h
    by_cases hle : unitId ≤ last
    · rw [if_pos hle] at h
      refine ih (fun u hu => ?_) h
      rcases List.mem_append.mp hu with hu | hu
      · exact hb u hu
      · rw [List.mem_singleton] at hu
        rw [hu]
        rw [UInt8.le_iff_toNat_le] at hle
        omega
    · rw [if_neg hle, Option.some.injEq] at h
      exact h ▸ hb

variable {mastersConfig : List (TransportConfig × ActorId)}

/-- With a range that ends at 255 the loop over the masters never comes to its end. -/
theorem foldlM_setMaster_eq_none (hends : ¬ EndsBelow (mastersConfig.map Prod.fst)) (fuel : ℕ)
    (b : RouterBuild) :
    (rangeMasters mastersConfig).foldlM (setMaster fuel) b = none := by
  simp only [EndsBelow, List.forall_mem_map, not_forall, Nat.not_lt] at hends
  obtain ⟨entry, hentry, config, hconfig, range, hrange, hend⟩ := hends
  have hmem : ⟨config, entry.2⟩ ∈ rangeMasters mastersConfig := by
    refine List.mem_filterMap.mpr ⟨entry, List.mem_filter.mpr ⟨hentry, ?_⟩, toMaster_eq hconfig⟩
    rw [TransportConfig.isDefault, hconfig, Option.any_some, MasterConfig.isDefault]
    cases hset : config.unitIdSet with
    | nil => rw [hset] at hrange; cases hrange
    | cons _ _ => rfl
  have hlast : range.end.toNat = 255 := by
    have hlt := range.end.toNat_lt
    omega
  refine foldlM_eq_none hmem (fun b => ?_) b
  exact foldlM_eq_none hrange (fun b => setRange_eq_none hlast fuel _ b) b

/-- **When `MakeRouter` comes to its end inside the table**: exactly if no range ends at 255. -/
theorem built_iff (h : Entries mastersConfig) {masters : List Master}
    (hmake : makeMasters mastersConfig = .ok masters) (defaultId : ActorId) :
    Built defaultId masters ↔ EndsBelow (mastersConfig.map Prod.fst) := by
  obtain ⟨masters', hmake', hrouter⟩ := makeRouter_makeMasters h.isMaster h.ne_nil h.default
  obtain rfl := Except.ok.inj (hmake.symm.trans hmake')
  constructor
  · rintro ⟨fuel, router, hrun, -⟩
    by_contra hends
    rw [hrouter, foldlM_setMaster_eq_none hends] at hrun
    cases hrun
  · intro hends
    obtain ⟨b, hb⟩ := Option.isSome_iff_exists.mp
      (foldlM_setMaster_isSome hends (.new (tableDefault defaultId mastersConfig)))
    refine ⟨257, some b, by rw [hrouter, hb]; rfl, ?_⟩
    rintro _ ⟨⟩
    refine foldlM_invariant (I := fun b : RouterBuild => ∀ u ∈ b.sets, u.toNat < 255)
      (fun b master hmaster b' hI hb' => ?_) (fun u hu => ?_) hb
    · refine foldlM_invariant (I := fun b : RouterBuild => ∀ u ∈ b.sets, u.toNat < 255)
        (fun b range hrange b' hI hb' => ?_) hI hb'
      exact sets_setRange (end_of_mem_rangeMasters hends hmaster range hrange) hI hb'
    · cases hu

/-! ### Requests -/

section Requests

variable {β : Type} {mb : Modbus β} {router : Router} {data : List UInt8} {now : Nanoseconds}
  {message : ModbusMessage β}

/-- Handling the block, the connection reads the table inside its bounds. -/
def ModbusTcpConnection.RoutesInside (mb : Modbus β) (router : Router) (c : ModbusTcpConnection β)
    (data : List UInt8) (now : Nanoseconds) : Prop :=
  ∀ pastEnd pastEnd', c.receiveHandler mb (router.route · pastEnd) .success data now =
    c.receiveHandler mb (router.route · pastEnd') .success data now

/-- Handling the block, the slave reads the table inside its bounds. -/
def ModbusRtuSlave.RoutesInside (mb : Modbus β) (router : Router) (s : ModbusRtuSlave β)
    (data : List UInt8) (now : Nanoseconds) : Prop :=
  ∀ pastEnd pastEnd', s.readHandler mb (router.route · pastEnd) .success data now =
    s.readHandler mb (router.route · pastEnd') .success data now

theorem ModbusTcpConnection.routesInside_iff {c : ModbusTcpConnection β} (hx : c.exchange = true)
    (hrequest : makeRequest mb data c.id now = some message) :
    c.RoutesInside mb router data now ↔ mb.getUnitId message.modbusBuffer ≠ 255 := by
  have hhandler : ∀ route, c.receiveHandler mb route .success data now =
      ({ c with syncRequestInfo := some message.modbusMessageInfo }.note
        [.send (route (mb.getUnitId message.modbusBuffer)) message]).startReceiveTask := by
    intro route
    simp [receiveHandler, hx, hrequest]
  unfold RoutesInside
  simp only [hhandler]
  rw [← router.route_inside_iff]
  constructor
  · intro h pastEnd pastEnd'
    -- the id the request is sent to is in the history
    have heffects := congrArg ModbusTcpConnection.effects (h pastEnd pastEnd')
    simpa [note, startReceiveTask] using heffects
  · intro h pastEnd pastEnd'
    rw [h pastEnd pastEnd']

theorem ModbusRtuSlave.routesInside_iff {s : ModbusRtuSlave β} (hx : s.exchange = true)
    (hrequest : (s.makeRequest mb data now).1 = some message) :
    s.RoutesInside mb router data now ↔ mb.getUnitId message.modbusBuffer ≠ 255 := by
  rcases makeRequest_cases mb s data now with hnone | ⟨modbusBuffer, -, -, hsome⟩
  · rw [hnone] at hrequest
    cases hrequest
  rw [hsome, Option.some.injEq] at hrequest
  subst hrequest
  have hhandler : ∀ route, s.readHandler mb route .success data now =
      ({ s with
          idGenerator := s.idGenerator + 1
          syncRequestInfo := some (.new now s.id (s.idGenerator + 1)) }.note
        [.send (route (mb.getUnitId modbusBuffer))
          ⟨.new now s.id (s.idGenerator + 1), modbusBuffer⟩]).startReadTask := by
    intro route
    simp [readHandler, hx, hsome]
  unfold RoutesInside
  simp only [hhandler]
  rw [← router.route_inside_iff]
  constructor
  · intro h pastEnd pastEnd'
    have heffects := congrArg ModbusRtuSlave.effects (h pastEnd pastEnd')
    simpa [note, startReadTask] using heffects
  · intro h pastEnd pastEnd'
    rw [h pastEnd pastEnd']

end Requests

/-- **When the router stays inside its table.**  For a configuration that is accepted
`MakeRouter` comes to its end inside the table exactly if no range ends at 255; and for a
request that a slave accepts `Route` reads inside the table exactly if its unit id is not
255. -/
theorem router_inside_iff {contrib : Contrib} {data : Json} {config : Config}
    (haccepted : config.Accepted contrib data)
    (hmasters : mastersConfig.map Prod.fst = config.masters) {masters : List Master}
    (hmake : makeMasters mastersConfig = .ok masters) (defaultId : ActorId) {β : Type}
    (mb : Modbus β) (router : Router) :
    (Built defaultId masters ↔ EndsBelow config.masters) ∧
    (∀ (c : ModbusTcpConnection β) data now message, c.exchange = true →
      ModbusTcpConnection.makeRequest mb data c.id now = some message →
      (c.RoutesInside mb router data now ↔ mb.getUnitId message.modbusBuffer ≠ 255)) ∧
    (∀ (s : ModbusRtuSlave β) data now message, s.exchange = true →
      (s.makeRequest mb data now).1 = some message →
      (s.RoutesInside mb router data now ↔ mb.getUnitId message.modbusBuffer ≠ 255)) := by
  refine ⟨?_, ?_, ?_⟩
  · rw [← hmasters]
    exact built_iff (haccepted.entries hmasters) hmake defaultId
  · intro c data now message hx hrequest
    exact ModbusTcpConnection.routesInside_iff hx hrequest
  · intro s data now message hx hrequest
    exact ModbusRtuSlave.routesInside_iff hx hrequest

/-- The router of a document with a range that ends below 255, and a request to unit 1. -/
theorem router_inside_below :
    ∃ masters, makeMasters (Sample.entries [[⟨10, 20⟩]]) = .ok masters ∧ Built 0 masters ∧
      (ModbusTcpConnection.new 1 5).RoutesInside Frame.library (.new 0)
        (Frame.tcp 9 1 [3, 0, 0, 0, 1]).bytes 0 := by
  have haccepted : (Sample.config [[⟨10, 20⟩]]).Accepted Sample.contrib
      (Sample.document [Sample.master [("unit_id", .array [Sample.range 10 20])]]) :=
    ⟨by decide +kernel, by decide +kernel⟩
  have hmasters : (Sample.entries [[⟨10, 20⟩]]).map Prod.fst =
      (Sample.config [[⟨10, 20⟩]]).masters := rfl
  obtain ⟨hbuilt, hconnection, -⟩ :=
    router_inside_iff haccepted hmasters rfl 0 Frame.library (.new 0)
  refine ⟨_, rfl, hbuilt.mpr (by decide), ?_⟩
  exact (hconnection (.new 1 5) _ 0 _ rfl rfl).mpr (by decide +kernel)

/-- A range that ends at 255 keeps `MakeRouter` from coming to its end, and a request to unit 255
is routed by what lies behind the table. -/
theorem router_outside :
    (¬ ∀ data (config : Config) mastersConfig masters, config.Accepted Sample.contrib data →
      mastersConfig.map Prod.fst = config.masters → makeMasters mastersConfig = .ok masters →
      Built 0 masters) ∧
    ¬ ∀ (router : Router) (c : ModbusTcpConnection Frame) data now message, c.exchange = true →
      ModbusTcpConnection.makeRequest Frame.library data c.id now = some message →
      c.RoutesInside Frame.library router data now := by
  constructor
  · intro h
    have haccepted : (Sample.config [[⟨250, 255⟩]]).Accepted Sample.contrib
        (Sample.document [Sample.master [("unit_id", .array [Sample.range 250 255])]]) :=
      ⟨by decide +kernel, by decide +kernel⟩
    have hmasters : (Sample.entries [[⟨250, 255⟩]]).map Prod.fst =
        (Sample.config [[⟨250, 255⟩]]).masters := rfl
    have hbuilt := h _ _ _ _ haccepted hmasters rfl
    rw [built_iff (haccepted.entries hmasters) rfl] at hbuilt
    exact absurd hbuilt (by decide)
  · intro h
    have hinside := h (.new 0) (.new 1 5) (Frame.tcp 9 255 [3, 0, 0, 0, 1]).bytes 0 _ rfl rfl
    rw [ModbusTcpConnection.routesInside_iff rfl rfl] at hinside
    exact hinside (by decide +kernel)

end ModbusGateway
