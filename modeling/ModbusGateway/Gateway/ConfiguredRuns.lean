import ModbusGateway.Gateway.EndToEnd
import ModbusGateway.Gateway.Startup

/-!
# Devices serve what the configuration gives them

From the configuration to the wires: in every run of a gateway that has started with a
configuration that is accepted, a device is written requests for those unit ids only that the
configuration gives to it, and what a client reads has been read from the device that the
configuration names for the unit id of its request.  The unit id 255 lies outside of the
router's table, and nothing is said about it.

## Main definitions

* `Network.AnsweredBy` — a message is the answer of the device that the configuration names.
* `Network.ServedAsConfigured` — what the devices and the clients of such a gateway see.

## Main results

* `Network.servedAsConfigured_exec` — **every run is served as configured.**
-/

namespace ModbusGateway

open Claims Execution

variable {β : Type}

/-- Where a configuration sends a unit id: to one of its entries, or to nobody. -/
theorem routeOf_mem (defaultId : ActorId) (mastersConfig : List (TransportConfig × ActorId))
    (unitId : UnitId) : routeOf defaultId mastersConfig unitId ∈ mastersConfig.map Prod.snd ∨
      routeOf defaultId mastersConfig unitId = defaultId := by
  unfold routeOf
  cases hlast : lastClaimant (fun entry => entry.1.claims unitId) mastersConfig with
  | some entry => exact Or.inl (List.mem_map_of_mem (lastClaimant_some hlast).1)
  | none =>
    cases hfind : mastersConfig.find? (·.1.isDefault) with
    | some entry => exact Or.inl (List.mem_map_of_mem (List.mem_of_find?_eq_some hfind))
    | none => exact Or.inr rfl

theorem toNat_lt_of_ne {unitId : UnitId} (h : unitId ≠ 255) : unitId.toNat < 255 := by
  have hlt := unitId.toNat_lt
  have hne : unitId.toNat ≠ 255 := fun heq => h (UInt8.toNat_inj.mp heq)
  omega

namespace Network

variable {mb : Modbus β} {defaultId id : ActorId}
  {mastersConfig slavesConfig : List (TransportConfig × ActorId)} {s₀ s : Network β}

/-! ### The actors of a configured gateway -/

/-- An entry has the role that is configured. -/
theorem Configured.role (h : s₀.Configured defaultId mastersConfig slavesConfig)
    {entry : TransportConfig × ActorId} (hentry : entry ∈ mastersConfig ++ slavesConfig) :
    s₀.role entry.2 = entry.1.role := by
  obtain ⟨p, hp, hrole⟩ := h.actors entry hentry
  rw [Network.role, hp, Option.map_some, Option.getD_some, hrole]

/-- The masters are those that are configured. -/
theorem Configured.isMaster_iff (h : s₀.Configured defaultId mastersConfig slavesConfig)
    (hms : Entries mastersConfig) (hss : SlaveEntries slavesConfig) :
    (s₀.role id).isMaster = true ↔ id ∈ mastersConfig.map Prod.snd := by
  constructor
  · intro hmaster
    by_cases hid : id ∈ (mastersConfig ++ slavesConfig).map Prod.snd
    · obtain ⟨entry, hentry, rfl⟩ := List.mem_map.mp hid
      rw [h.role hentry, TransportConfig.role_isMaster] at hmaster
      rcases List.mem_append.mp hentry with hentry | hentry
      · exact List.mem_map_of_mem hentry
      · rw [hss.isSlave entry hentry] at hmaster
        cases hmaster
    · rw [Network.role, h.others id hid] at hmaster
      cases hmaster
  · intro hid
    obtain ⟨entry, hentry, rfl⟩ := List.mem_map.mp hid
    rw [h.role (List.mem_append_left _ hentry), TransportConfig.role_isMaster]
    exact hms.isMaster entry hentry

/-- A request that is posted goes where the configuration says. -/
theorem Configured.routed (h : s₀.Configured defaultId mastersConfig slavesConfig) {role : Role}
    {sender actorId : ActorId} {message : ModbusMessage β}
    (hrouted : Routed mb s₀.router role sender actorId message)
    (hunit : mb.getUnitId message.modbusBuffer ≠ 255) :
    routeOf defaultId mastersConfig (mb.getUnitId message.modbusBuffer) = actorId := by
  obtain ⟨pastEnd, heq⟩ := hrouted.routed
  rw [heq, h.routes _ (toNat_lt_of_ne hunit)]

/-! ### What is served -/

/-- A message to a slave is the answer of a configured device: a block that was read from the
device for a request of the slave that the device was written, and that the configuration gives to
the device. -/
def AnsweredBy (mb : Modbus β) (defaultId : ActorId)
    (mastersConfig : List (TransportConfig × ActorId)) (s₀ s : Network β) (es : List (Event β))
    (id : ActorId) (reply : ActorId × ModbusMessage β) : Prop :=
  ∃ entry ∈ mastersConfig, reply.1 = entry.2 ∧ s₀.role entry.2 = entry.1.role ∧
    ∃ w, ∃ r ∈ s₀.blocks mb es entry.2, ReadFor mb s₀ s entry.2 (id, reply.2) w r ∧
      (mb.getUnitId w.1.modbusBuffer ≠ 255 →
        routeOf defaultId mastersConfig (mb.getUnitId w.1.modbusBuffer) = entry.2)

/-- What the devices and the clients of a gateway see that serves as it is configured, in the run
`es`. -/
structure ServedAsConfigured (mb : Modbus β) (defaultId : ActorId)
    (mastersConfig : List (TransportConfig × ActorId)) (s₀ s : Network β)
    (es : List (Event β)) : Prop where
  /-- A device is written requests for its unit ids, which are in the frames: the last entry that
  claims a unit id gets it, or the default one if none does. -/
  devices : ∀ entry ∈ mastersConfig, ∀ w ∈ s.written entry.2,
    mb.getUnitId w.1.modbusBuffer ≠ 255 →
      mb.getUnitId w.2 = mb.getUnitId w.1.modbusBuffer ∧
      routeOf defaultId mastersConfig (mb.getUnitId w.2) = entry.2 ∧
      (entry.1.claims (mb.getUnitId w.2) = true ∨ entry.1.isDefault = true ∧
        ∀ other ∈ mastersConfig, other.1.claims (mb.getUnitId w.2) = false)
  /-- A client is written answers of the devices that are configured for its requests, unless a
  request to unit 255 has been sent to it. -/
  clients : ∀ id, id ∉ mastersConfig.map Prod.snd → id ≠ defaultId → ∀ frame ∈ s.answers id,
    ∃ reply ∈ s.addressed id,
      mb.Carries (s₀.role id).frameType reply.2.modbusBuffer frame ∧
      (AnsweredBy mb defaultId mastersConfig s₀ s es id reply ∨
        mb.getUnitId reply.2.modbusBuffer = 255)

/-! ### The runs -/

/-- A frame that has been written to a client carries a message that was sent to it. -/
theorem Inv.carried_of_answered (h : Inv mb s₀ id [] s) (hmb : mb.Reframes)
    (hslave : (s₀.role id).isMaster = false) {frame : β} (hframe : frame ∈ s.answers id) :
    ∃ reply ∈ s.addressed id,
      mb.Carries (s₀.role id).frameType reply.2.modbusBuffer frame := by
  obtain ⟨delivered, haddressed, hdigests⟩ := h.delivered id
  rw [mail, Journal.mail_nil, List.append_nil] at haddressed
  rw [Role.digests_slave hslave, ← haddressed, List.map_map] at hdigests
  obtain ⟨reply, hreply, rfl⟩ := List.mem_map.mp (hdigests.subset hframe)
  exact ⟨reply, hreply, Role.carries_replyFrame hmb hslave reply.2⟩

/-- **Every run is served as configured.**  The configuration is accepted, the exchange gives
different ids to the actors and `defaultId` to none, and the gateway has started; then, whatever
happens, its devices are written requests for their own unit ids, and its clients read answers
that were read from the devices that the configuration names for what they have asked. -/
theorem servedAsConfigured_exec {β : Type} {mb : Modbus β} (hmb : mb.Reframes)
    {contrib : Contrib} {data : Json} {config : Config} (haccepted : config.Accepted contrib data)
    {mastersConfig slavesConfig : List (TransportConfig × ActorId)}
    (hmasters : mastersConfig.map Prod.fst = config.masters)
    (hslaves : slavesConfig.map Prod.fst = config.slaves)
    (hids : ((mastersConfig ++ slavesConfig).map Prod.snd).Nodup) {τ : Type}
    {platform : Platform τ}
    (hdefaultId : platform.defaultId ∉ (mastersConfig ++ slavesConfig).map Prod.snd)
    {fuel : ℕ} {s₀ s : Network β}
    (hstart : modbusGateway platform fuel mastersConfig slavesConfig = some (.ok s₀))
    {es : List (Event β)} (hrun : exec (step mb) s₀ es = some s) :
    ServedAsConfigured mb platform.defaultId mastersConfig s₀ s es := by
  have hms := haccepted.entries hmasters
  have hss := haccepted.slaveEntries hslaves
  have hconfigured := modbusGateway_started haccepted hmasters hslaves hids hstart
  rw [List.map_append, List.nodup_append] at hids
  rw [List.map_append, List.mem_append, not_or] at hdefaultId
  refine ⟨fun entry hentry w hw hunit => ?_, fun id hid hne frame hframe => ?_⟩
  · have h := inv_exec hconfigured.initial hrun entry.2
    have hmaster := (hconfigured.isMaster_iff hms hss).mpr (List.mem_map_of_mem hentry)
    have hrouted := h.routed hmaster _ (h.addressed_of_written hmaster hw)
    obtain ⟨-, transactionId, heq⟩ := h.frame_written w hw
    have hframe : mb.getUnitId w.2 = mb.getUnitId w.1.modbusBuffer := by
      rw [heq]
      exact (Role.carries_requestFrame hmb hmaster w.1 transactionId).getUnitId
    have hroute := hconfigured.routed hrouted hunit
    rw [hframe]
    exact ⟨rfl, hroute, claims_of_routeOf hids.1 hdefaultId.1 hentry hroute⟩
  · have h := inv_exec hconfigured.initial hrun id
    have hslave : (s₀.role id).isMaster = false := by
      rw [Bool.eq_false_iff, ne_eq, hconfigured.isMaster_iff hms hss]
      exact hid
    obtain ⟨reply, hreply, hcarries⟩ := h.carried_of_answered hmb hslave hframe
    refine ⟨reply, hreply, hcarries, ?_⟩
    rcases h.sender_cases hreply with ⟨hmaster, -⟩ | hrouted
    · -- a reply of a master
      obtain ⟨entry, hentry, heq⟩ :=
        List.mem_map.mp ((hconfigured.isMaster_iff hms hss).mp hmaster)
      obtain ⟨-, w, r, hr, hread, -, hposted⟩ :=
        replied_of_sent hconfigured.initial hrun hmaster (mem_sent hreply)
      rw [← heq] at hr hread hposted
      have hrole := hconfigured.role (List.mem_append_left _ hentry)
      exact Or.inl ⟨entry, hentry, heq.symm, hrole, w, r, hr, hread,
        hconfigured.routed hposted.toRouted⟩
    · -- a request of a slave, which the table does not send here
      right
      by_contra hunit
      have hroute := hconfigured.routed hrouted hunit
      rcases routeOf_mem platform.defaultId mastersConfig
        (mb.getUnitId reply.2.modbusBuffer) with hmem | hnobody
      · rw [hroute] at hmem
        exact hid hmem
      · exact hne (hroute.symm.trans hnobody)

/-! ### A run of a configured gateway -/

/-- A client connects to the server of the documents under id 5, and reads a register of unit 12;
the device is connected, and answers. -/
def configuredRun : List (Event Frame) :=
  [.actor 9 (.accept 0 .success) 0,
    .handleAccept 9 0 5 false false,
    .actor 5 (.connection (.complete 0 ⟨.success, (Frame.tcp 7 12 [3, 0, 0, 0, 1]).bytes⟩)) 0,
    .actor 5 (.connection (.handle 0 0 0)) 0,
    .actor 1 (.tcpClient (.complete 0 ⟨.success, []⟩)) 0,
    .actor 1 (.tcpClient (.handle 0 false 0)) 0,
    .actor 1 (.tcpClient (.complete 0 ⟨.success, []⟩)) 0,
    .actor 1 (.tcpClient (.handle 0 false 0)) 0,
    .actor 1 (.tcpClient (.complete 0 ⟨.success, (Frame.tcp 1 12 [3, 2, 0, 42]).bytes⟩)) 0,
    .actor 1 (.tcpClient (.handle 0 false 0)) 0]

theorem servedAsConfigured_range : ∃ fuel, ∃ s₀ s : Network Frame,
    modbusGateway Sample.platform fuel (Sample.entries [[⟨10, 20⟩]]) Sample.slaves =
      some (.ok s₀) ∧
    exec (step Frame.library) s₀ configuredRun = some s ∧
    (s.written 1).map Prod.snd = [Frame.tcp 1 12 [3, 0, 0, 0, 1]] ∧
    s.answers 5 = [Frame.tcp 7 12 [3, 2, 0, 42]] ∧
    ServedAsConfigured Frame.library 0 (Sample.entries [[⟨10, 20⟩]]) s₀ s configuredRun := by
  have hstart : ∃ s₀ s : Network Frame, modbusGateway Sample.platform 257
      (Sample.entries [[⟨10, 20⟩]]) Sample.slaves = some (.ok s₀) ∧
      exec (step Frame.library) s₀ configuredRun = some s ∧
      (s.written 1).map Prod.snd = [Frame.tcp 1 12 [3, 0, 0, 0, 1]] ∧
      s.answers 5 = [Frame.tcp 7 12 [3, 2, 0, 42]] :=
    ⟨_, _, rfl, rfl, by decide +kernel, by decide +kernel⟩
  obtain ⟨s₀, s, hstart, hrun, hwritten, hanswers⟩ := hstart
  exact ⟨257, s₀, s, hstart, hrun, hwritten, hanswers,
    servedAsConfigured_exec Frame.library_reframes Sample.accepted_below rfl rfl (by decide)
      (by decide) hstart hrun⟩

end Network

end ModbusGateway
