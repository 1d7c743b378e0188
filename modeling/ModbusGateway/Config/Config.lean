import ModbusGateway.Config.Extractor

/-!
# The configuration

`Config` of `config/config.cpp`: the constructor, after `json::parse`, and `Validate`.

* `Config.new`, `Config.validate` — the constructor and `Validate()`.
* `Config.Accepted` — what `main` goes on with.
* `Config.Accepted.masters_ok` — **what is known of the masters of a configuration that is
  accepted**.
-/

namespace ModbusGateway

/-- `Config`. -/
structure Config where
  configService : ConfigService
  slaves : List TransportConfig
  masters : List TransportConfig
  deriving DecidableEq

/-- The master takes the unit ids that no other one has. -/
def MasterConfig.isDefault (config : MasterConfig) : Bool := config.unitIdSet.isEmpty

/-- The transport is a master that takes the unit ids that no other one has. -/
def TransportConfig.isDefault (config : TransportConfig) : Bool :=
  config.masterConfig.any MasterConfig.isDefault

namespace Config

/-- The constructor, for the value that `json::parse` yields. -/
def new (contrib : Contrib) (data : Json) : Except Exception Config := do
  let tracePath : TracePath := ⟨["config"]⟩
  let configService ← extractConfigService contrib tracePath data
  let slaves ← extractSlaves contrib tracePath data
  let masters ← extractMasters contrib tracePath data
  return { configService, slaves, masters }

/-- `Validate()`; the checks of `validators.cpp` are commented out. -/
def validate (config : Config) : Except Exception Unit :=
  let tracePath : TracePath := ⟨["config"]⟩
  let defaultIdIndexes := config.masters.findIdxs TransportConfig.isDefault
  if defaultIdIndexes.length > 1 then
    invalidValue (TraceDeep.new tracePath keys.masters)
      "more then one master with default unit id"
  else .ok ()

/-- The configuration is what the constructor makes of the value, and `Validate` does not
throw. -/
structure Accepted (contrib : Contrib) (data : Json) (config : Config) : Prop where
  new : Config.new contrib data = .ok config
  validate : config.validate = .ok ()

end Config

/-- A transport is a master, and its ranges are in order. -/
def TransportConfig.Ordered (config : TransportConfig) : Prop :=
  ∃ masterConfig, config.masterConfig = some masterConfig ∧
    ∀ range ∈ masterConfig.unitIdSet, range.begin ≤ range.end

namespace Config

variable {contrib : Contrib} {data : Json} {config : Config}

/-- `Validate` counts the default masters. -/
theorem validate_eq_ok : config.validate = .ok () ↔
    config.masters.countP TransportConfig.isDefault ≤ 1 := by
  unfold validate
  simp only [List.length_findIdxs]
  by_cases hmany : config.masters.countP TransportConfig.isDefault > 1
  · rw [if_pos hmany]
    exact ⟨fun h => (by cases h), fun h => absurd h (Nat.not_le.mpr hmany)⟩
  · rw [if_neg hmany]
    exact ⟨fun _ => Nat.not_lt.mp hmany, fun _ => rfl⟩

/-- **The masters of a configuration that is accepted**: at least one, all of them masters with
their ranges in order, and at most one of them without any. -/
theorem Accepted.masters_ok (h : Accepted contrib data config) :
    config.masters ≠ [] ∧ (∀ master ∈ config.masters, master.Ordered) ∧
      config.masters.countP TransportConfig.isDefault ≤ 1 := by
  obtain ⟨configService, -, hnew⟩ := bind_eq_ok.mp h.new
  obtain ⟨slaves, -, hnew⟩ := bind_eq_ok.mp hnew
  obtain ⟨masters, hmasters, hnew⟩ := bind_eq_ok.mp hnew
  cases hnew
  obtain ⟨hne, value, -, hall⟩ := extractMasters_ok hmasters
  refine ⟨hne, ?_, validate_eq_ok.mp h.validate⟩
  intro master hmaster
  obtain ⟨element, -, masterConfig, hcast, tracePath, hconfig⟩ := exists_of_forall₂ hall hmaster
  exact ⟨masterConfig, hcast, (MasterConfig.new_ok hconfig).2⟩

end Config

end ModbusGateway
