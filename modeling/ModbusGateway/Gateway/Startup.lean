import ModbusGateway.Gateway.NetworkInvariant
import ModbusGateway.Gateway.RouterBounds
import ModbusGateway.ModbusFrame
import ModbusGateway.Transport.RtuOptions

/-!
# The start of the gateway

`ModbusGateway(config)` of `modbus_gateway.cpp` up to `context->run()`: the masters are made and
registered, then the router is, then the slaves, and then the slaves are started.  As in
`MakeMasters`, an entry is a configuration and the id that the exchange gives to its actor.

A constructor throws when it cannot open its serial port or set the options of it, or when it
cannot open its acceptor; a TCP client opens nothing when it is made.  The loop of `MakeRouter`
need not come to its end, and is given a number of rounds.

## Main definitions

* `Platform` — what the constructors find on the machine.
* `Platform.construct` — the constructor of the actor of an entry.
* `Startup.makeMasters`, `Startup.makeSlaves` — the two functions, with the actors they register.
* `modbusGateway` — the start as a whole.

## Main results

* `modbusGateway_outcome` — **whether the gateway starts, throws, or never gets there.**
* `modbusGateway_started` — **what runs is what has been configured.**
-/

namespace ModbusGateway

variable {α β τ : Type}

/-- What ends the start of the gateway. -/
inductive StartException
  | exception (e : Exception)
  /-- What a constructor throws that cannot open its port or its acceptor. -/
  | refused (what : String)
  deriving DecidableEq, Repr

/-- What the constructors find on the machine. -/
structure Platform (τ : Type) where
  driver : SerialDriver τ
  bits : Rs485Bits
  /-- The serial port of an actor as its constructor finds it. -/
  port : ActorId → SerialPort τ
  /-- `acceptor_(*context, TcpEndpoint(addr, port))`. -/
  acceptor : UInt32 → UInt16 → Except String Unit
  /-- `exchange::defaultId`. -/
  defaultId : ActorId

/-- The constructor of the actor of an entry, with the id that `exchange->Add` sets. -/
def Platform.construct (platform : Platform τ) (entry : TransportConfig × ActorId) :
    Except String (Participant β) :=
  match entry.1 with
  | .TcpClient config => .ok (.tcpClient (.new config.timeout))
  | .RtuMaster config =>
    .rtuMaster <$> (ModbusRtuMaster.construct platform.driver platform.bits config.device
      config.rtuOptions config.timeout config.frameType (platform.port entry.2)).1
  | .TcpServer config =>
    (fun _ => .tcpServer .new) <$> platform.acceptor config.address config.port
  | .RtuSlave config =>
    .rtuSlave <$> (ModbusRtuSlave.construct platform.driver config.device config.rtuOptions entry.2
      config.frameType (platform.port entry.2)).1

/-- `Start()` of a slave. -/
def Participant.start : Participant β → Participant β
  | .tcpServer s => .tcpServer s.start
  | .rtuSlave s => .rtuSlave s.start
  | p => p

namespace Startup

/-- The actors registered with the exchange. -/
abbrev Actors (β : Type) := ActorId → Option (Participant β)

/-- The cases of the loop of `MakeMasters`. -/
def createMaster (platform : Platform τ) (entry : TransportConfig × ActorId) :
    Except StartException (Participant β) :=
  match entry.1 with
  | .TcpClient _ | .RtuMaster _ => (platform.construct entry).mapError .refused
  | _ => .error (.exception (.logicError "BUG! unknown client type"))

/-- The cases of the loop of `MakeSlaves`. -/
def createSlave (platform : Platform τ) (entry : TransportConfig × ActorId) :
    Except StartException (Participant β) :=
  match entry.1 with
  | .TcpServer _ | .RtuSlave _ => (platform.construct entry).mapError .refused
  | _ => .error (.exception (.logicError "BUG! unknown client type"))

/-- The body of either loop: the actor is made, `exchange->Add` registers it, and something is
added to the vector. -/
def makeActor (create : TransportConfig × ActorId → Except StartException (Participant β))
    (add : List α → TransportConfig × ActorId → Except Exception (List α))
    (made : List α × Actors β) (entry : TransportConfig × ActorId) :
    Except StartException (List α × Actors β) := do
  let actor ← create entry
  let elements ← (add made.1 entry).mapError .exception
  return (elements, Function.update made.2 entry.2 (some actor))

/-- `MakeMasters(config.masters, exchange, context)`. -/
def makeMasters (platform : Platform τ) (mastersConfig : List (TransportConfig × ActorId)) :
    Except StartException (List Master × Actors β) :=
  mastersConfig.foldlM (makeActor (createMaster platform) addMaster) ([], fun _ => none)

/-- `slaves.push_back(server)`; of a slave only its actor is used. -/
def addSlave (slaves : List ActorId) (entry : TransportConfig × ActorId) :
    Except Exception (List ActorId) :=
  .ok (slaves ++ [entry.2])

/-- `MakeSlaves(config.slaves, exchange, context, router)`. -/
def makeSlaves (platform : Platform τ) (actors : Actors β)
    (slavesConfig : List (TransportConfig × ActorId)) :
    Except StartException (List ActorId × Actors β) :=
  slavesConfig.foldlM (makeActor (createSlave platform) addSlave) ([], actors)

/-- The loop that starts the slaves. -/
def startSlaves (slaves : List ActorId) (actors : Actors β) : Actors β :=
  slaves.foldl (fun actors id => Function.update actors id ((actors id).map Participant.start))
    actors

end Startup

/-- `ModbusGateway(config)` up to `context->run()`; `none` while the loops of `MakeRouter` have
not come to their end. -/
def modbusGateway (platform : Platform τ) (fuel : ℕ)
    (mastersConfig slavesConfig : List (TransportConfig × ActorId)) :
    Option (Except StartException (Network β)) :=
  match Startup.makeMasters platform mastersConfig with
  | .error e => some (.error e)
  | .ok (masters, actors) =>
    if masters.isEmpty then
      some (.error (.exception (.logicError "BUG! masters is empty")))
    else match makeRouter platform.defaultId fuel masters with
      | none => none
      | some none => some (.error (.exception (.logicError "BUG! router is null")))
      | some (some b) =>
        match Startup.makeSlaves platform actors slavesConfig with
        | .error e => some (.error e)
        | .ok (slaves, actors) =>
          if slaves.isEmpty then
            some (.error (.exception (.logicError "BUG! slaves is empty")))
          else some (.ok
            { defaultId := platform.defaultId
              router := b.router
              actors := Startup.startSlaves slaves actors
              journal := [] })

/-- The constructor of the actor of an entry does not throw. -/
def Platform.Admits (platform : Platform τ) (β : Type) (entry : TransportConfig × ActorId) : Prop :=
  ∃ p : Participant β, platform.construct entry = .ok p

/-! ### The loops -/

theorem mapError_eq_ok {ε ε' γ : Type} {x : Except ε γ} {f : ε → ε'} {c : γ} :
    x.mapError f = .ok c ↔ x = .ok c := by
  cases x with
  | error e => simp [Except.mapError]
  | ok c' => simp [Except.mapError]

theorem mapError_eq_error {ε ε' γ : Type} {x : Except ε γ} {f : ε → ε'} {e : ε'} :
    x.mapError f = .error e ↔ ∃ what, x = .error what ∧ e = f what := by
  cases x with
  | error what => simp [Except.mapError, eq_comm]
  | ok c => simp [Except.mapError]

namespace Startup

variable {create : TransportConfig × ActorId → Except StartException (Participant β)}
  {add : List α → TransportConfig × ActorId → Except Exception (List α)}
  {entries : List (TransportConfig × ActorId)}

/-- What the loop over some entries has registered. -/
structure Registered
    (create : TransportConfig × ActorId → Except StartException (Participant β))
    (entries : List (TransportConfig × ActorId)) (actors actors' : Actors β) : Prop where
  made : ∀ entry ∈ entries, ∃ p, create entry = .ok p ∧
    ((entries.map Prod.snd).Nodup → actors' entry.2 = some p)
  others : ∀ id, id ∉ entries.map Prod.snd → actors' id = actors id

/-- A loop that comes to its end has made every actor. -/
theorem foldlM_makeActor_ok : ∀ {made made' : List α × Actors β},
    entries.foldlM (makeActor create add) made = .ok made' →
    entries.foldlM add made.1 = .ok made'.1 ∧ Registered create entries made.2 made'.2 := by
  induction entries with
  | nil =>
    intro made made' h
    cases h
    exact ⟨rfl, List.forall_mem_nil _, fun _ _ => rfl⟩
  | cons entry entries ih =>
    intro made made' h
    rw [List.foldlM_cons] at h
    obtain ⟨next, hnext, h⟩ := bind_eq_ok.mp h
    obtain ⟨p, hcreate, hnext⟩ := bind_eq_ok.mp hnext
    obtain ⟨elements, hadd, hnext⟩ := bind_eq_ok.mp hnext
    cases hnext
    obtain ⟨hadded, hmade, hothers⟩ := ih h
    dsimp only at hothers
    refine ⟨?_, ?_, fun id hid => ?_⟩
    · rw [List.foldlM_cons, mapError_eq_ok.mp hadd]
      exact hadded
    · intro entry' hentry
      rcases List.mem_cons.mp hentry with rfl | hentry
      · refine ⟨p, hcreate, fun hids => ?_⟩
        rw [hothers _ (List.nodup_cons.mp hids).1, Function.update_self]
      · obtain ⟨q, hq, hregistered⟩ := hmade entry' hentry
        exact ⟨q, hq, fun hids => hregistered (List.nodup_cons.mp hids).2⟩
    · rw [List.map_cons, List.mem_cons, not_or] at hid
      rw [hothers id hid.2, Function.update_of_ne hid.1]

/-- A loop that throws has come to an actor that cannot be made. -/
theorem foldlM_makeActor_error {e : StartException} : ∀ {made : List α × Actors β},
    (∀ elements, ∀ entry ∈ entries, ∃ elements', add elements entry = .ok elements') →
    entries.foldlM (makeActor create add) made = .error e →
    ∃ entry ∈ entries, create entry = .error e := by
  induction entries with
  | nil =>
    intro made _ h
    cases h
  | cons entry entries ih =>
    intro made hadd h
    cases hcreate : create entry with
    | error e' =>
      simp only [List.foldlM_cons, makeActor, hcreate] at h
      cases h
      exact ⟨entry, List.mem_cons_self, hcreate⟩
    | ok p =>
      obtain ⟨elements, helements⟩ := hadd made.1 entry List.mem_cons_self
      simp only [List.foldlM_cons, makeActor, hcreate, helements] at h
      obtain ⟨entry', hentry, herror⟩ :=
        ih (fun l entry' hentry => hadd l entry' (List.mem_cons_of_mem _ hentry)) h
      exact ⟨entry', List.mem_cons_of_mem _ hentry, herror⟩

/-- What is added to the vector of slaves. -/
theorem foldlM_addSlave : ∀ slaves : List ActorId,
    entries.foldlM addSlave slaves = .ok (slaves ++ entries.map Prod.snd) := by
  induction entries with
  | nil =>
    intro slaves
    rw [List.map_nil, List.append_nil]
    rfl
  | cons entry entries ih =>
    intro slaves
    rw [List.foldlM_cons, List.map_cons, List.append_cons]
    exact ih _

/-- To a master something can be added. -/
theorem addMaster_isOk {entry : TransportConfig × ActorId}
    (h : entry.1.masterConfig.isSome = true) (masters : List Master) :
    ∃ masters', addMaster masters entry = .ok masters' := by
  obtain ⟨config, hconfig⟩ := Option.isSome_iff_exists.mp h
  rw [addMaster, hconfig]
  by_cases hdefault : config.isDefault = true
  · exact ⟨_, if_pos hdefault⟩
  · exact ⟨_, if_neg hdefault⟩

/-- `MakeMasters` calls the constructor of a master. -/
theorem createMaster_eq {entry : TransportConfig × ActorId}
    (h : entry.1.masterConfig.isSome = true) (platform : Platform τ) :
    (createMaster platform entry : Except StartException (Participant β)) =
      (platform.construct entry).mapError .refused := by
  obtain ⟨config, id⟩ := entry
  cases config with
  | TcpClient config => rfl
  | RtuMaster config => rfl
  | _ => cases h

/-- `MakeSlaves` calls the constructor of a slave. -/
theorem createSlave_eq {entry : TransportConfig × ActorId} (h : entry.1.masterConfig = none)
    (platform : Platform τ) :
    (createSlave platform entry : Except StartException (Participant β)) =
      (platform.construct entry).mapError .refused := by
  obtain ⟨config, id⟩ := entry
  cases config with
  | TcpServer config => rfl
  | RtuSlave config => rfl
  | _ => cases h

/-- A loop either makes all of its actors, or throws what the constructor of one of them does. -/
theorem foldlM_makeActor_cases {platform : Platform τ}
    (hcreate : ∀ entry ∈ entries, create entry = (platform.construct entry).mapError .refused)
    (hadd : ∀ elements, ∀ entry ∈ entries, ∃ elements', add elements entry = .ok elements')
    (made : List α × Actors β) :
    (∃ made', entries.foldlM (makeActor create add) made = .ok made' ∧
      ∀ entry ∈ entries, platform.Admits β entry) ∨
    ∃ entry ∈ entries, ∃ what, (platform.construct entry : Except _ (Participant β)) = .error what ∧
      entries.foldlM (makeActor create add) made = .error (.refused what) := by
  cases hrun : entries.foldlM (makeActor create add) made with
  | ok made' =>
    refine Or.inl ⟨made', rfl, fun entry hentry => ?_⟩
    obtain ⟨p, hp, -⟩ := (foldlM_makeActor_ok hrun).2.made entry hentry
    rw [hcreate entry hentry, mapError_eq_ok] at hp
    exact ⟨p, hp⟩
  | error e =>
    obtain ⟨entry, hentry, herror⟩ := foldlM_makeActor_error hadd hrun
    rw [hcreate entry hentry] at herror
    obtain ⟨what, hwhat, rfl⟩ := mapError_eq_error.mp herror
    exact Or.inr ⟨entry, hentry, what, hwhat, rfl⟩

/-- The slaves are started, each once. -/
theorem startSlaves_apply : ∀ {slaves : List ActorId}, slaves.Nodup → ∀ (actors : Actors β) id,
    startSlaves slaves actors id =
      if id ∈ slaves then (actors id).map Participant.start else actors id := by
  intro slaves
  induction slaves with
  | nil =>
    intro _ actors id
    rw [if_neg List.not_mem_nil]
    rfl
  | cons slave slaves ih =>
    intro hnodup actors id
    obtain ⟨hslave, hnodup⟩ := List.nodup_cons.mp hnodup
    have htail := ih hnodup
      (Function.update actors slave ((actors slave).map Participant.start)) id
    refine htail.trans ?_
    by_cases heq : id = slave
    · subst heq
      rw [if_neg hslave, if_pos List.mem_cons_self, Function.update_self]
    · rw [Function.update_of_ne heq]
      simp only [List.mem_cons, heq, false_or]

end Startup

/-! ### What an accepted configuration starts -/

/-- What is known of the slaves that `MakeSlaves` is given. -/
structure SlaveEntries (slavesConfig : List (TransportConfig × ActorId)) : Prop where
  isSlave : ∀ entry ∈ slavesConfig, entry.1.masterConfig = none
  ne_nil : slavesConfig ≠ []

/-- What `extractSlave` yields is the configuration of a slave. -/
theorem extractSlave_ok {contrib : Contrib} {tracePath : TracePath} {obj : Json}
    {config : TransportConfig} (h : extractSlave contrib tracePath obj = .ok config) :
    config.masterConfig = none := by
  obtain ⟨frameType, -, h⟩ := bind_eq_ok.mp h
  cases frameType <;>
    · obtain ⟨slave, -, h⟩ := bind_eq_ok.mp h
      cases h
      rfl

theorem Config.Accepted.slaveEntries {contrib : Contrib} {data : Json} {config : Config}
    (haccepted : config.Accepted contrib data) {slavesConfig : List (TransportConfig × ActorId)}
    (hslaves : slavesConfig.map Prod.fst = config.slaves) : SlaveEntries slavesConfig := by
  obtain ⟨configService, -, hnew⟩ := bind_eq_ok.mp haccepted.new
  obtain ⟨slaves, hextract, hnew⟩ := bind_eq_ok.mp hnew
  obtain ⟨masters, -, hnew⟩ := bind_eq_ok.mp hnew
  cases hnew
  replace hslaves : slavesConfig.map Prod.fst = slaves := hslaves
  obtain ⟨value, -, h⟩ := bind_eq_ok.mp hextract
  obtain ⟨-, -, h⟩ := bind_eq_ok.mp h
  by_cases hempty : (elements value).isEmpty = true
  · rw [if_pos hempty] at h
    cases h
  rw [if_neg hempty] at h
  refine ⟨fun entry hentry => ?_, fun hnil => extractElements_ne_nil h hempty ?_⟩
  · have hmem : entry.1 ∈ slaves := hslaves ▸ List.mem_map_of_mem hentry
    obtain ⟨element, -, tracePath, hslave⟩ := exists_of_forall₂ (extractElements_ok h) hmem
    exact extractSlave_ok hslave
  · rw [← hslaves, hnil, List.map_nil]

section Outcome

variable {mastersConfig slavesConfig : List (TransportConfig × ActorId)} {platform : Platform τ}
  {masters : List Master} {actors : Startup.Actors β}

/-- The router that `MakeRouter` makes of the masters, if it comes to its end. -/
def routerBuild (defaultId : ActorId) (mastersConfig : List (TransportConfig × ActorId))
    (fuel : ℕ) : Option RouterBuild :=
  (rangeMasters mastersConfig).foldlM (setMaster fuel) (.new (tableDefault defaultId mastersConfig))

/-- When the masters have been made, it is up to the loops of `MakeRouter` and to the slaves. -/
theorem modbusGateway_of_masters (h : Entries mastersConfig) (hss : SlaveEntries slavesConfig)
    (hmake : Startup.makeMasters platform mastersConfig = .ok (masters, actors)) (fuel : ℕ) :
    modbusGateway platform fuel mastersConfig slavesConfig =
      (routerBuild platform.defaultId mastersConfig fuel).map fun b =>
        (fun made =>
          { defaultId := platform.defaultId
            router := b.router
            actors := Startup.startSlaves made.1 made.2
            journal := [] }) <$> Startup.makeSlaves platform actors slavesConfig := by
  obtain ⟨masters', hmake', hrouter⟩ := makeRouter_makeMasters h.isMaster h.ne_nil h.default
  obtain rfl := Except.ok.inj
    ((Startup.foldlM_makeActor_ok hmake).1.symm.trans hmake')
  have hne : masters.isEmpty = false := by
    -- without masters `MakeRouter` yields a null pointer
    cases masters with
    | nil =>
      have hnone := hrouter 0 0
      obtain ⟨b, -, hb⟩ := Option.map_eq_some_iff.mp hnone.symm
      cases hb
    | cons master masters => rfl
  simp only [modbusGateway, hmake, hne, Bool.false_eq_true, if_false, hrouter, routerBuild]
  cases (rangeMasters mastersConfig).foldlM (setMaster fuel)
    (.new (tableDefault platform.defaultId mastersConfig)) with
  | none => rfl
  | some b =>
    simp only [Option.map_some]
    cases hrun : Startup.makeSlaves platform actors slavesConfig with
    | error e => rfl
    | ok made =>
      have hslaves := (Startup.foldlM_makeActor_ok hrun).1
      rw [Startup.foldlM_addSlave, List.nil_append] at hslaves
      have hnonempty : made.1.isEmpty = false := by
        rw [← Except.ok.inj hslaves, List.isEmpty_map, List.isEmpty_eq_false_iff]
        exact hss.ne_nil
      simp only [hnonempty, Bool.false_eq_true, if_false]
      rfl

/-- The courses that the start can take. -/
inductive StartBranch (platform : Platform τ) (β : Type)
    (mastersConfig slavesConfig : List (TransportConfig × ActorId)) : Prop
  /-- A master is refused before the router is made. -/
  | masterRefused {entry : TransportConfig × ActorId} {what : String}
      (hentry : entry ∈ mastersConfig)
      (hwhat : (platform.construct entry : Except _ (Participant β)) = .error what)
      (hrun : ∀ fuel, (modbusGateway platform fuel mastersConfig slavesConfig :
        Option (Except _ (Network β))) = some (.error (.refused what)))
  /-- A slave is refused when the router has been made. -/
  | slaveRefused (hmasters : ∀ entry ∈ mastersConfig, platform.Admits β entry)
      {entry : TransportConfig × ActorId} {what : String} (hentry : entry ∈ slavesConfig)
      (hwhat : (platform.construct entry : Except _ (Participant β)) = .error what)
      (hrun : ∀ fuel, (modbusGateway platform fuel mastersConfig slavesConfig :
        Option (Except _ (Network β))) =
          (routerBuild platform.defaultId mastersConfig fuel).map fun _ => .error (.refused what))
  | started (hmasters : ∀ entry ∈ mastersConfig, platform.Admits β entry)
      (hslaves : ∀ entry ∈ slavesConfig, platform.Admits β entry) (actors : Startup.Actors β)
      (hrun : ∀ fuel, modbusGateway platform fuel mastersConfig slavesConfig =
        (routerBuild platform.defaultId mastersConfig fuel).map fun b => .ok
          { defaultId := platform.defaultId, router := b.router, actors, journal := [] })

theorem startBranch (h : Entries mastersConfig) (hss : SlaveEntries slavesConfig)
    (platform : Platform τ) (β : Type) : StartBranch platform β mastersConfig slavesConfig := by
  have hcreate : ∀ entry ∈ mastersConfig,
      (Startup.createMaster platform entry : Except _ (Participant β)) =
        (platform.construct entry).mapError .refused := fun entry hentry =>
    Startup.createMaster_eq (h.isMaster entry hentry) platform
  have hadd : ∀ elements, ∀ entry ∈ mastersConfig,
      ∃ elements', addMaster elements entry = .ok elements' := fun elements entry hentry =>
    Startup.addMaster_isOk (h.isMaster entry hentry) elements
  rcases Startup.foldlM_makeActor_cases hcreate hadd ([], fun _ => none) with
    ⟨⟨masters, actors⟩, hmake, hmasters⟩ | ⟨entry, hentry, what, hwhat, hmake⟩
  · have heq := modbusGateway_of_masters h hss hmake
    have hcreate : ∀ entry ∈ slavesConfig,
        (Startup.createSlave platform entry : Except _ (Participant β)) =
          (platform.construct entry).mapError .refused := fun entry hentry =>
      Startup.createSlave_eq (hss.isSlave entry hentry) platform
    have hadd : ∀ elements, ∀ entry ∈ slavesConfig,
        ∃ elements', Startup.addSlave elements entry = .ok elements' := fun _ _ _ => ⟨_, rfl⟩
    rcases Startup.foldlM_makeActor_cases hcreate hadd ([], actors) with
      ⟨made, hmade, hslaves⟩ | ⟨entry, hentry, what, hwhat, hmade⟩
    · refine .started hmasters hslaves (Startup.startSlaves made.1 made.2) fun fuel => ?_
      rw [heq fuel, Startup.makeSlaves, hmade]
      rfl
    · refine .slaveRefused hmasters hentry hwhat fun fuel => ?_
      rw [heq fuel, Startup.makeSlaves, hmade]
      rfl
  · refine .masterRefused hentry hwhat fun fuel => ?_
    unfold modbusGateway
    rw [Startup.makeMasters, hmake]

/-- The loops of `MakeRouter` never come to their end exactly if a range ends at 255. -/
theorem routerBuild_eq_none_iff (defaultId : ActorId)
    (mastersConfig : List (TransportConfig × ActorId)) :
    (∀ fuel, routerBuild defaultId mastersConfig fuel = none) ↔
      ¬ EndsBelow (mastersConfig.map Prod.fst) := by
  constructor
  · intro hnone hends
    have hsome := foldlM_setMaster_isSome hends (.new (tableDefault defaultId mastersConfig))
    rw [← routerBuild, hnone] at hsome
    cases hsome
  · exact fun hends fuel => foldlM_setMaster_eq_none hends fuel _

theorem not_admits {entry : TransportConfig × ActorId} {what : String}
    (hwhat : (platform.construct entry : Except _ (Participant β)) = .error what) :
    ¬ platform.Admits β entry := by
  rintro ⟨p, hp⟩
  rw [hwhat] at hp
  cases hp

/-- **Whether the gateway starts, throws, or never gets there.**  With a configuration that is
accepted it starts exactly if no constructor refuses its actor and no range ends at 255; it never
comes to its end exactly if a range does and no master is refused; and whatever it throws is what
a constructor has thrown, so that none of its own exceptions, which say that there is a bug,
ever is. -/
theorem modbusGateway_outcome {contrib : Contrib} {data : Json} {config : Config}
    (haccepted : config.Accepted contrib data)
    (hmasters : mastersConfig.map Prod.fst = config.masters)
    (hslaves : slavesConfig.map Prod.fst = config.slaves) {τ : Type} (platform : Platform τ)
    (β : Type) :
    ((∃ fuel, ∃ s : Network β,
        modbusGateway platform fuel mastersConfig slavesConfig = some (.ok s)) ↔
      EndsBelow config.masters ∧ ∀ entry ∈ mastersConfig ++ slavesConfig,
        platform.Admits β entry) ∧
    ((∀ fuel, (modbusGateway platform fuel mastersConfig slavesConfig :
        Option (Except _ (Network β))) = none) ↔
      ¬ EndsBelow config.masters ∧ ∀ entry ∈ mastersConfig, platform.Admits β entry) ∧
    ∀ fuel e, (modbusGateway platform fuel mastersConfig slavesConfig :
        Option (Except _ (Network β))) = some (.error e) →
      ∃ entry ∈ mastersConfig ++ slavesConfig, ∃ what,
        (platform.construct entry : Except _ (Participant β)) = .error what ∧
          e = .refused what := by
  have hnone := routerBuild_eq_none_iff platform.defaultId mastersConfig
  rw [hmasters] at hnone
  cases startBranch (haccepted.entries hmasters) (haccepted.slaveEntries hslaves) platform β with
  | @masterRefused entry what hentry hwhat hrun =>
    simp only [hrun]
    refine ⟨⟨?_, ?_⟩, ⟨?_, ?_⟩, ?_⟩
    · rintro ⟨fuel, s, h⟩
      cases h
    · rintro ⟨-, hall⟩
      exact absurd (hall entry (List.mem_append_left _ hentry)) (not_admits hwhat)
    · intro h
      cases h 0
    · rintro ⟨-, hall⟩
      exact absurd (hall entry hentry) (not_admits hwhat)
    · intro fuel e h
      cases h
      exact ⟨entry, List.mem_append_left _ hentry, what, hwhat, rfl⟩
  | @slaveRefused hadmits entry what hentry hwhat hrun =>
    simp only [hrun, Option.map_eq_none_iff, hnone]
    refine ⟨⟨?_, ?_⟩, (and_iff_left hadmits).symm, ?_⟩
    · rintro ⟨fuel, s, h⟩
      obtain ⟨b, -, hb⟩ := Option.map_eq_some_iff.mp h
      cases hb
    · rintro ⟨-, hall⟩
      exact absurd (hall entry (List.mem_append_right _ hentry)) (not_admits hwhat)
    · intro fuel e h
      obtain ⟨b, -, hb⟩ := Option.map_eq_some_iff.mp h
      cases hb
      exact ⟨entry, List.mem_append_right _ hentry, what, hwhat, rfl⟩
  | started hadmits hadmits' actors hrun =>
    simp only [hrun, Option.map_eq_none_iff, hnone]
    have hall : ∀ entry ∈ mastersConfig ++ slavesConfig, platform.Admits β entry :=
      List.forall_mem_append.mpr ⟨hadmits, hadmits'⟩
    refine ⟨⟨?_, ?_⟩, (and_iff_left hadmits).symm, ?_⟩
    · rintro ⟨fuel, s, h⟩
      obtain ⟨b, hb, -⟩ := Option.map_eq_some_iff.mp h
      refine ⟨?_, hall⟩
      by_contra hends
      rw [hnone.mpr hends fuel] at hb
      cases hb
    · rintro ⟨hends, -⟩
      by_contra hnever
      refine hnone.mp (fun fuel => ?_) hends
      cases hb : routerBuild platform.defaultId mastersConfig fuel with
      | none => rfl
      | some b => exact absurd ⟨fuel, _, by rw [hb]; rfl⟩ hnever
    · intro fuel e h
      obtain ⟨b, -, hb⟩ := Option.map_eq_some_iff.mp h
      cases hb

/-! ### What is started -/

/-- A part of what is done to a port comes after another. -/
theorem PortM.exists_of_bind {γ δ : Type} {m : PortM τ γ} {k : γ → PortM τ δ} {port : SerialPort τ}
    {d : δ} (h : ((m >>= k) port).1 = .ok d) : ∃ c port', (k c port').1 = .ok d := by
  rcases hrun : m port with ⟨e | c, port'⟩
  · rw [PortM.bind_error hrun] at h
    cases h
  · rw [PortM.bind_ok hrun] at h
    exact ⟨c, port', h⟩

/-- The master that is constructed has its timeout and its frame type. -/
theorem ModbusRtuMaster.construct_ok {driver : SerialDriver τ} {bits : Rs485Bits} {device : String}
    {options : RtuOptions} {timeout : Milliseconds} {frameType : FrameType} {port : SerialPort τ}
    {m : ModbusRtuMaster β}
    (h : (ModbusRtuMaster.construct driver bits device options timeout frameType port).1 = .ok m) :
    m = .new timeout frameType := by
  obtain ⟨_, _, h⟩ := PortM.exists_of_bind h
  obtain ⟨_, _, h⟩ := PortM.exists_of_bind h
  cases h
  rfl

/-- The slave that is constructed has its id and its frame type. -/
theorem ModbusRtuSlave.construct_ok {driver : SerialDriver τ} {device : String}
    {options : RtuOptions} {id : ActorId} {frameType : FrameType} {port : SerialPort τ}
    {s : ModbusRtuSlave β}
    (h : (ModbusRtuSlave.construct driver device options id frameType port).1 = .ok s) :
    s = .new id frameType := by
  obtain ⟨_, _, h⟩ := PortM.exists_of_bind h
  obtain ⟨_, _, h⟩ := PortM.exists_of_bind h
  obtain ⟨_, _, h⟩ := PortM.exists_of_bind h
  obtain ⟨_, _, h⟩ := PortM.exists_of_bind h
  obtain ⟨_, _, h⟩ := PortM.exists_of_bind h
  obtain ⟨_, _, h⟩ := PortM.exists_of_bind h
  cases h
  rfl

/-- The kind of actor that a configuration is for. -/
def TransportConfig.role : TransportConfig → Role
  | .TcpServer _ => .tcpServer
  | .RtuSlave config => .rtuSlave config.frameType
  | .TcpClient _ => .tcpClient
  | .RtuMaster config => .rtuMaster config.frameType

theorem TransportConfig.role_isMaster (config : TransportConfig) :
    config.role.isMaster = config.masterConfig.isSome := by
  cases config <;> rfl

theorem exists_of_map {ε γ δ : Type} {x : Except ε γ} {f : γ → δ} {d : δ}
    (h : f <$> x = .ok d) : ∃ c, x = .ok c ∧ f c = d := by
  cases x with
  | error e => cases h
  | ok c => exact ⟨c, rfl, Except.ok.inj h⟩

/-- An actor that is constructed and, if a slave, started is ready, and of the kind that is
configured. -/
theorem construct_fresh {entry : TransportConfig × ActorId} {p : Participant β}
    (h : platform.construct entry = .ok p) :
    p.start.Fresh entry.2 ∧ p.start.role = entry.1.role := by
  obtain ⟨config, id⟩ := entry
  cases config with
  | TcpClient config =>
    cases h
    exact ⟨⟨config.timeout, rfl⟩, rfl⟩
  | RtuMaster config =>
    obtain ⟨m, hm, rfl⟩ := exists_of_map h
    obtain rfl := ModbusRtuMaster.construct_ok hm
    exact ⟨⟨config.timeout, config.frameType, rfl⟩, rfl⟩
  | TcpServer config =>
    obtain ⟨_, -, rfl⟩ := exists_of_map h
    exact ⟨rfl, rfl⟩
  | RtuSlave config =>
    obtain ⟨slave, hslave, rfl⟩ := exists_of_map h
    obtain rfl := ModbusRtuSlave.construct_ok hslave
    exact ⟨⟨config.frameType, rfl⟩, rfl⟩

/-- A master is not started. -/
theorem construct_start {entry : TransportConfig × ActorId} {p : Participant β}
    (h : platform.construct entry = .ok p) (hmaster : entry.1.masterConfig.isSome = true) :
    p.start = p := by
  obtain ⟨config, id⟩ := entry
  cases config with
  | TcpClient config =>
    cases h
    rfl
  | RtuMaster config =>
    obtain ⟨m, -, rfl⟩ := exists_of_map h
    rfl
  | _ => cases hmaster

end Outcome

/-- The gateway as it has been configured, ready to run: every entry has its actor, nobody else
is registered, and the router sends the unit ids below 255 where the configuration says. -/
structure Network.Configured (defaultId : ActorId)
    (mastersConfig slavesConfig : List (TransportConfig × ActorId)) (s : Network β) : Prop where
  initial : s.Initial
  nobody : s.defaultId = defaultId
  actors : ∀ entry ∈ mastersConfig ++ slavesConfig,
    ∃ p, s.actors entry.2 = some p ∧ p.role = entry.1.role
  others : ∀ id, id ∉ (mastersConfig ++ slavesConfig).map Prod.snd → s.actors id = none
  routes : ∀ unitId : UnitId, unitId.toNat < 255 → ∀ pastEnd,
    s.router.route unitId pastEnd = routeOf defaultId mastersConfig unitId

namespace Startup

/-- Of actors whose ids differ either loop registers every one, after those before it. -/
theorem Registered.of_construct {platform : Platform τ}
    {create : TransportConfig × ActorId → Except StartException (Participant β)}
    {entries : List (TransportConfig × ActorId)} {actors actors' : Actors β}
    (h : Registered create entries actors actors')
    (hcreate : ∀ entry ∈ entries, create entry = (platform.construct entry).mapError .refused)
    (hids : (entries.map Prod.snd).Nodup) : ∀ entry ∈ entries, ∃ p,
      platform.construct entry = .ok p ∧ actors' entry.2 = some p := by
  intro entry hentry
  obtain ⟨p, hp, hregistered⟩ := h.made entry hentry
  rw [hcreate entry hentry, mapError_eq_ok] at hp
  exact ⟨p, hp, hregistered hids⟩

end Startup

/-- **What runs is what has been configured**, if the exchange gives different ids to the actors:
the masters as they were made, and the slaves started. -/
theorem modbusGateway_started {contrib : Contrib} {data : Json} {config : Config}
    {mastersConfig slavesConfig : List (TransportConfig × ActorId)}
    (haccepted : config.Accepted contrib data)
    (hmasters : mastersConfig.map Prod.fst = config.masters)
    (hslaves : slavesConfig.map Prod.fst = config.slaves)
    (hids : ((mastersConfig ++ slavesConfig).map Prod.snd).Nodup) {τ β : Type}
    {platform : Platform τ} {fuel : ℕ} {s : Network β}
    (hstart : modbusGateway platform fuel mastersConfig slavesConfig = some (.ok s)) :
    s.Configured platform.defaultId mastersConfig slavesConfig := by
  have h := haccepted.entries hmasters
  have hss := haccepted.slaveEntries hslaves
  cases hmake : Startup.makeMasters platform mastersConfig with
  | error e =>
    unfold modbusGateway at hstart
    rw [hmake] at hstart
    cases hstart
  | ok made =>
  obtain ⟨masters, actors⟩ := made
  rw [modbusGateway_of_masters h hss hmake] at hstart
  obtain ⟨b, hb, hstart⟩ := Option.map_eq_some_iff.mp hstart
  obtain ⟨⟨slaves, actors'⟩, hrun, rfl⟩ := exists_of_map hstart
  -- the actors
  rw [List.map_append, List.nodup_append] at hids
  obtain ⟨hms, hss', hdisjoint⟩ := hids
  obtain ⟨-, hmade⟩ := Startup.foldlM_makeActor_ok hmake
  obtain ⟨hadded, hmade'⟩ := Startup.foldlM_makeActor_ok hrun
  rw [Startup.foldlM_addSlave, List.nil_append] at hadded
  obtain rfl := Except.ok.inj hadded
  dsimp only at hmade hmade'
  have hmaster := hmade.of_construct
    (fun entry hentry => Startup.createMaster_eq (h.isMaster entry hentry) platform) hms
  have hslave := hmade'.of_construct
    (fun entry hentry => Startup.createSlave_eq (hss.isSlave entry hentry) platform) hss'
  have hall : ∀ entry ∈ mastersConfig ++ slavesConfig, ∃ p,
      platform.construct entry = .ok p ∧
        Startup.startSlaves (slavesConfig.map Prod.snd) actors' entry.2 = some p.start := by
    intro entry hentry
    rw [Startup.startSlaves_apply hss']
    rcases List.mem_append.mp hentry with hentry | hentry
    · obtain ⟨p, hp, hactor⟩ := hmaster entry hentry
      have hid : entry.2 ∉ slavesConfig.map Prod.snd := fun hid =>
        hdisjoint _ (List.mem_map_of_mem hentry) _ hid rfl
      refine ⟨p, hp, ?_⟩
      rw [if_neg hid, hmade'.others _ hid, construct_start hp (h.isMaster entry hentry)]
      exact hactor
    · obtain ⟨p, hp, hactor⟩ := hslave entry hentry
      refine ⟨p, hp, ?_⟩
      rw [if_pos (List.mem_map_of_mem hentry), hactor, Option.map_some]
  have hothers : ∀ id, id ∉ (mastersConfig ++ slavesConfig).map Prod.snd →
      Startup.startSlaves (slavesConfig.map Prod.snd) actors' id = none := by
    intro id hid
    rw [List.map_append, List.mem_append, not_or] at hid
    rw [Startup.startSlaves_apply hss', if_neg hid.2, hmade'.others id hid.2]
    exact hmade.others id hid.1
  have hends : EndsBelow (mastersConfig.map Prod.fst) := by
    by_contra hends
    rw [(routerBuild_eq_none_iff _ _).mpr hends] at hb
    cases hb
  refine ⟨⟨fun id p hp => ?_, rfl⟩, rfl, fun entry hentry => ?_, hothers,
    fun unitId hunit pastEnd => route_foldlM h.isMaster hends hb hunit pastEnd⟩
  · by_cases hid : id ∈ (mastersConfig ++ slavesConfig).map Prod.snd
    · obtain ⟨entry, hentry, rfl⟩ := List.mem_map.mp hid
      obtain ⟨q, hq, hactor⟩ := hall entry hentry
      obtain rfl := Option.some.inj (hactor.symm.trans hp)
      exact (construct_fresh hq).1
    · cases (hothers id hid).symm.trans hp
  · obtain ⟨q, hq, hactor⟩ := hall entry hentry
    exact ⟨q.start, hactor, (construct_fresh hq).2⟩

/-! ### A gateway that starts, and one that does not -/

namespace Sample

/-- A machine on which everything can be opened. -/
def platform : Platform (List SerialOption) where
  driver := SerialPort.recorder
  bits := SerialPort.linuxBits
  port _ := SerialPort.withFlags 0
  acceptor _ _ := .ok ()
  defaultId := 0

/-- The slave of the documents, with its id. -/
def slaves : List (TransportConfig × ActorId) := [(.TcpServer ⟨0, 502⟩, 9)]

theorem admits (masters : List (List UnitIdRange)) :
    ∀ entry ∈ entries masters ++ slaves, platform.Admits Frame entry := by
  intro entry hentry
  refine (List.mem_append.mp hentry).elim (fun hmaster => ?_) fun hslave => ?_
  · obtain ⟨unitIdSet, -, heq⟩ := List.mem_map.mp (List.fst_mem_of_mem_zipIdx hmaster)
    refine ⟨.tcpClient (.new 1000), ?_⟩
    rw [Platform.construct, ← heq]
    rfl
  · rw [slaves, List.mem_singleton] at hslave
    subst hslave
    exact ⟨.tcpServer .new, rfl⟩

theorem accepted_below : (config [[⟨10, 20⟩]]).Accepted contrib
    (document [master [("unit_id", .array [range 10 20])]]) :=
  ⟨by decide +kernel, by decide +kernel⟩

theorem accepted_last : (config [[⟨250, 255⟩]]).Accepted contrib
    (document [master [("unit_id", .array [range 250 255])]]) :=
  ⟨by decide +kernel, by decide +kernel⟩

end Sample

/-- With a range that ends at 20 the gateway starts; with one that ends at 255 it never does. -/
theorem modbusGateway_outcome_range :
    (∃ fuel, ∃ s : Network Frame, modbusGateway Sample.platform fuel
      (Sample.entries [[⟨10, 20⟩]]) Sample.slaves = some (.ok s)) ∧
    ∀ fuel, (modbusGateway Sample.platform fuel (Sample.entries [[⟨250, 255⟩]]) Sample.slaves :
      Option (Except _ (Network Frame))) = none := by
  constructor
  · exact (modbusGateway_outcome Sample.accepted_below rfl rfl Sample.platform Frame).1.mpr
      ⟨by decide, Sample.admits _⟩
  · refine (modbusGateway_outcome Sample.accepted_last rfl rfl Sample.platform Frame).2.1.mpr
      ⟨by decide, fun entry hentry => ?_⟩
    exact Sample.admits _ entry (List.mem_append_left _ hentry)

end ModbusGateway
