import ModbusGateway.Config.Convertors
import ModbusGateway.Config.ParserException

/-!
# The extractor

`config/extractor.cpp` and the classes it fills, function by function.  A function that
throws yields an error; `obj` is the JSON value it reads from.

## Main definitions

* `Contrib` — what the configuration uses of the submodules.
* `UnitIdRange`, `MasterConfig`, `TransportConfig` — the configuration of a transport.
* `extractSlaves`, `extractMasters` — what is read of the two arrays.

## Main results

* `extractUnitIdRangeSet_ok` — a `unit_id` that is given is not empty, and its ranges are
  in order.
* `extractMasters_ok` — what `extractMasters` yields are configurations of masters.
-/

namespace ModbusGateway

/-- What the configuration uses of the submodules, and of the platform. -/
structure Contrib where
  /-- `asio::ip::make_address_v4(value, ec)`, `none` when it sets `ec`. -/
  makeAddressV4 : String → Option UInt32
  /-- `modbus::unitIdMin`. -/
  unitIdMin : UnitId
  /-- `modbus::unitIdMax`. -/
  unitIdMax : UnitId
  /-- What the conversion of a `double` to an unsigned type yields that has no such value. -/
  outOfRange : ℚ → ℕ

/-! ### Keys of the configuration -/

namespace keys

def service : String := "service"
def slaves : String := "slaves"
def masters : String := "masters"
def logLevel : String := "log_level"
def threads : String := "threads"
def frameType : String := "frame_type"
def timeout : String := "timeout_ms"
def ipAddress : String := "ip_address"
def ipPort : String := "ip_port"
def device : String := "device"
def baudRate : String := "baud_rate"
def characterSize : String := "character_size"
def parity : String := "parity"
def stopBits : String := "stop_bits"
def flowControl : String := "flow_control"
def rs485 : String := "rs485"
def rtsOnSend : String := "rts_on_send"
def rtsAfterSend : String := "rts_after_send"
def rxDuringTx : String := "rx_during_tx"
def terminateBus : String := "terminate_bus"
def delayRtsBeforeSend : String := "delay_rts_before_send"
def delayRtsAfterSend : String := "delay_rts_after_send"
def unitIdSet : String := "unit_id"
def numericRangeType : String := "type"
def numericRangeValue : String := "value"
def numericRangeBegin : String := "begin"
def numericRangeEnd : String := "end"

end keys

/-! ### Members and their types -/

/-- `FindObjectRaw(td, obj)`, `none` for `obj.end()`. -/
def findObjectRaw (td : TraceDeep) (obj : Json) : Option Json := obj.find td.key

/-- `FindObject(td, obj)`. -/
def findObject (td : TraceDeep) (obj : Json) : Except Exception Json :=
  match findObjectRaw td obj with
  | none => keyNotFound td
  | some value => .ok value

/-- `CheckType(td, obj, expectType)`. -/
def checkType (td : TraceDeep) (obj : Json) (expectType : ValueType) : Except Exception Unit :=
  let actualType := convertJsonTypeToValueType obj
  if actualType ≠ expectType then invalidType td expectType actualType else .ok ()

/-- `ExtractValueOpt<T>(tracePath, obj, key, valueType)`, with `get<T>()` as a function. -/
def extractValueOpt {α : Type} (get : Json → Option α) (tracePath : TracePath) (obj : Json)
    (key : String) (valueType : ValueType) : Except Exception (Option α) := do
  let td := TraceDeep.new tracePath key
  match findObjectRaw td obj with
  | none => return none
  | some value =>
    checkType td value valueType
    return some (← getOrThrow (get value))

/-- `ExtractUnsignedNumberOpt<T>(tracePath, obj, key)`, where `max` is the greatest value of
`T`. -/
def extractUnsignedNumberOpt (contrib : Contrib) (max : ℕ) (tracePath : TracePath) (obj : Json)
    (key : String) : Except Exception (Option ℕ) := do
  let td := TraceDeep.new tracePath key
  match findObjectRaw td obj with
  | none => return none
  | some value =>
    checkType td value .Number
    let value ← getOrThrow (value.getUnsigned 64 contrib.outOfRange)
    if value > max then invalidValue td (toString value) else return some value

/-- `ExtractUnsignedNumber<T>(tracePath, obj, key)`. -/
def extractUnsignedNumber (contrib : Contrib) (max : ℕ) (tracePath : TracePath) (obj : Json)
    (key : String) : Except Exception ℕ := do
  match ← extractUnsignedNumberOpt contrib max tracePath obj key with
  | some value => return value
  | none => keyNotFound (TraceDeep.new tracePath key)

/-- `ExtractString(tracePath, obj, key)`. -/
def extractString (tracePath : TracePath) (obj : Json) (key : String) :
    Except Exception String := do
  let td := TraceDeep.new tracePath key
  let res ← findObject td obj
  checkType td res .String
  getOrThrow res.getString

/-- `ExtractStringOpt(tracePath, obj, key)`. -/
def extractStringOpt : TracePath → Json → String → Except Exception (Option String) :=
  fun tracePath obj key => extractValueOpt Json.getString tracePath obj key .String

/-- The greatest value of `size_t`. -/
def sizeMax : ℕ := 2 ^ 64 - 1

/-! ### The service -/

/-- `ConfigService`. -/
structure ConfigService where
  logLevel : LogLevel := .Info
  threads : ℕ := 1
  deriving DecidableEq, Repr

/-- `ExtractLogLevel(tracePath, obj)`. -/
def extractLogLevel (tracePath : TracePath) (obj : Json) : Except Exception (Option LogLevel) := do
  let td := TraceDeep.new tracePath keys.logLevel
  match findObjectRaw td obj with
  | none => return none
  | some value =>
    checkType td value .String
    let value ← getOrThrow value.getString
    match convertLogLevel value with
    | none => invalidValue td value
    | some logLevel => return some logLevel

/-- The constructor of `ConfigService`. -/
def ConfigService.new (contrib : Contrib) (tracePath : TracePath) (data : Json) :
    Except Exception ConfigService := do
  let configService : ConfigService := {}
  let configService := match ← extractLogLevel tracePath data with
    | some logLevel => { configService with logLevel }
    | none => configService
  match ← extractUnsignedNumberOpt contrib sizeMax tracePath data keys.threads with
  | some threads => return { configService with threads }
  | none => return configService

/-- `ExtractConfigService(tracePath, obj)`. -/
def extractConfigService (contrib : Contrib) (tracePath : TracePath) (obj : Json) :
    Except Exception ConfigService := do
  let td := TraceDeep.new tracePath keys.service
  let res ← findObject td obj
  checkType td res .Object
  ConfigService.new contrib td.tracePath res

/-! ### Addresses -/

/-- `ExtractFrameType(tracePath, obj)`. -/
def extractFrameType (tracePath : TracePath) (obj : Json) : Except Exception FrameType := do
  let td := TraceDeep.new tracePath keys.frameType
  let value ← findObject td obj
  checkType td value .String
  let value ← getOrThrow value.getString
  match convertFrameType value with
  | none => invalidValue td value
  | some frameType => return frameType

/-- `ExtractIpAddressOptional(tracePath, obj)`. -/
def extractIpAddressOptional (contrib : Contrib) (tracePath : TracePath) (obj : Json) :
    Except Exception (Option UInt32) := do
  let td := TraceDeep.new tracePath keys.ipAddress
  match findObjectRaw td obj with
  | none => return none
  | some value =>
    checkType td value .String
    let value ← getOrThrow value.getString
    match contrib.makeAddressV4 value with
    | none => invalidValue td value
    | some address => return some address

/-- `ExtractIpAddress(tracePath, obj)`. -/
def extractIpAddress (contrib : Contrib) (tracePath : TracePath) (obj : Json) :
    Except Exception UInt32 := do
  match ← extractIpAddressOptional contrib tracePath obj with
  | none => keyNotFound (TraceDeep.new tracePath keys.ipAddress)
  | some address => return address

/-- `ExtractIpPort(tracePath, obj)`. -/
def extractIpPort (contrib : Contrib) (tracePath : TracePath) (obj : Json) :
    Except Exception UInt16 := do
  let td := TraceDeep.new tracePath keys.ipPort
  let value ← findObject td obj
  checkType td value .Number
  let value ← getOrThrow (value.getUnsigned 64 contrib.outOfRange)
  if value = 0 ∨ value > 65535 then invalidValue td (toString value)
  else return value.toUInt16

/-! ### Options of the serial port -/

/-- `Rs485`. -/
structure Rs485 where
  rtsOnSend : Option Bool
  rtsAfterSend : Option Bool
  rxDuringTx : Option Bool
  terminateBus : Option Bool
  delayRtsBeforeSend : Option UInt32
  delayRtsAfterSend : Option UInt32
  deriving DecidableEq, Repr

/-- `RtuOptions`, with the defaults of the options of `asio`. -/
structure RtuOptions where
  baudRate : UInt32 := 0
  characterSize : UInt32 := 8
  parity : Parity := .none
  stopBits : StopBits := .one
  flowControl : FlowControl := .none
  rs485 : Option Rs485 := none
  deriving DecidableEq, Repr

/-- `asio::serial_port_base::character_size(t)`, whose constructor makes the check: it is code of
`asio`, which `ExtractRtuOptions` relies on. -/
def characterSize (t : UInt32) : Except Exception UInt32 :=
  if t < 5 ∨ t > 8 then .error (.outOfRange "invalid character_size value") else .ok t

/-- `ExtractRs485Options(tracePath, obj)`. -/
def extractRs485Options (contrib : Contrib) (tracePath : TracePath) (obj : Json) :
    Except Exception (Option Rs485) := do
  let td := TraceDeep.new tracePath keys.rs485
  match findObjectRaw td obj with
  | none => return none
  | some value =>
    checkType td value .Object
    let flag := fun key => extractValueOpt Json.getBoolean td.tracePath value key .Boolean
    let delay := fun key =>
      extractValueOpt (fun n => (n.getUnsigned 32 contrib.outOfRange).map Nat.toUInt32)
        td.tracePath value key .Number
    let rtsOnSend ← flag keys.rtsOnSend
    let rtsAfterSend ← flag keys.rtsAfterSend
    let rxDuringTx ← flag keys.rxDuringTx
    let terminateBus ← flag keys.terminateBus
    let delayRtsBeforeSend ← delay keys.delayRtsBeforeSend
    let delayRtsAfterSend ← delay keys.delayRtsAfterSend
    return some { rtsOnSend, rtsAfterSend, rxDuringTx, terminateBus, delayRtsBeforeSend,
                  delayRtsAfterSend }

/-- An option that is given by a name; a name that `convert` does not know is refused. -/
def extractOption {α γ : Type} (extracted : Except Exception (Option α)) (convert : α → Option γ)
    (text : α → String) (tracePath : TracePath) (key : String) :
    Except Exception (Option γ) := do
  match ← extracted with
  | none => return none
  | some value =>
    match convert value with
    | none => invalidValue (TraceDeep.new tracePath key) (text value)
    | some option => return some option

/-- `ExtractRtuOptions(tracePath, obj)`. -/
def extractRtuOptions (contrib : Contrib) (tracePath : TracePath) (obj : Json) :
    Except Exception RtuOptions := do
  let rtuOptions : RtuOptions := {}
  let baudRate ← extractUnsignedNumberOpt contrib sizeMax tracePath obj keys.baudRate
  let size ← extractUnsignedNumberOpt contrib sizeMax tracePath obj keys.characterSize
  let size ← match size with
    | none => pure rtuOptions.characterSize
    | some size => characterSize size.toUInt32
  let parity ← extractOption (extractStringOpt tracePath obj keys.parity) convertParity id
    tracePath keys.parity
  let stopBits ← extractOption
    (extractValueOpt Json.getFloat tracePath obj keys.stopBits .Number) convertStopBits
    floatToString tracePath keys.stopBits
  let flowControl ← extractOption (extractStringOpt tracePath obj keys.flowControl)
    convertFlowControl id tracePath keys.flowControl
  let rs485 ← extractRs485Options contrib tracePath obj
  return {
    baudRate := (baudRate.map Nat.toUInt32).getD rtuOptions.baudRate
    characterSize := size
    parity := parity.getD rtuOptions.parity
    stopBits := stopBits.getD rtuOptions.stopBits
    flowControl := flowControl.getD rtuOptions.flowControl
    rs485 }

/-! ### Unit ids -/

/-- `UnitIdRange`. -/
structure UnitIdRange where
  begin : UnitId
  «end» : UnitId
  deriving DecidableEq, Repr

/-- `Normalize()`. -/
def UnitIdRange.normalize (range : UnitIdRange) : UnitIdRange :=
  if range.begin > range.end then ⟨range.end, range.begin⟩ else range

/-- `ExtractNumericRangeType(tracePath, obj)`; the path has the key on it when the member is
looked for, and gets it a second time. -/
def extractNumericRangeType (tracePath : TracePath) (obj : Json) :
    Except Exception NumericRangeType := do
  let td := TraceDeep.new tracePath keys.numericRangeType
  let value ← extractString td.tracePath obj td.key
  match convertNumericRangeType value with
  | none => invalidValue td value
  | some numericRangeType => return numericRangeType

/-- `ExtractModbusUnitId(tracePath, obj, key)`. -/
def extractModbusUnitId (contrib : Contrib) (tracePath : TracePath) (obj : Json) (key : String) :
    Except Exception UnitId := do
  let unitId := (← extractUnsignedNumber contrib 255 tracePath obj key).toUInt8
  if unitId < contrib.unitIdMin ∨ unitId > contrib.unitIdMax then
    invalidValue (TraceDeep.new tracePath key) (toString unitId.toNat)
  else return unitId

/-- The constructor of `UnitIdRange`. -/
def UnitIdRange.new (contrib : Contrib) (tracePath : TracePath) (obj : Json) :
    Except Exception UnitIdRange := do
  match ← extractNumericRangeType tracePath obj with
  | .Range =>
    let begin ← extractModbusUnitId contrib tracePath obj keys.numericRangeBegin
    let last ← extractModbusUnitId contrib tracePath obj keys.numericRangeEnd
    return UnitIdRange.normalize ⟨begin, last⟩
  | .Value =>
    let value ← extractModbusUnitId contrib tracePath obj keys.numericRangeValue
    return ⟨value, value⟩

/-- The elements of a value that is an array. -/
def elements : Json → List Json
  | .array elements => elements
  | _ => []

/-- The loop over the elements of an array from the given index on, with each index on the
path of its element. -/
def extractElements {α : Type} (extract : TracePath → Json → Except Exception α)
    (tracePath : TracePath) : ℕ → List Json → Except Exception (List α)
  | _, [] => return []
  | index, element :: elements => do
    let value ← extract (TraceDeep.new tracePath (toString index)).tracePath element
    return value :: (← extractElements extract tracePath (index + 1) elements)

/-- `ExtractUnitIdRangeSet(tracePath, obj)`. -/
def extractUnitIdRangeSet (contrib : Contrib) (tracePath : TracePath) (obj : Json) :
    Except Exception (Option (List UnitIdRange)) := do
  let td := TraceDeep.new tracePath keys.unitIdSet
  match findObjectRaw td obj with
  | none => return none
  | some unitIds =>
    checkType td unitIds .Array
    if (elements unitIds).isEmpty then invalidValue td (keys.unitIdSet ++ " empty")
    else
      return some (← extractElements (UnitIdRange.new contrib) td.tracePath 0 (elements unitIds))

/-! ### Masters and slaves -/

/-- `MasterConfig`. -/
structure MasterConfig where
  timeout : Milliseconds
  unitIdSet : List UnitIdRange
  deriving DecidableEq

/-- The constructor; the timeout is a `size_t` that becomes a signed number. -/
def MasterConfig.new (contrib : Contrib) (tracePath : TracePath) (obj : Json) :
    Except Exception MasterConfig := do
  let timeout ← extractUnsignedNumber contrib sizeMax tracePath obj keys.timeout
  let unitIdSet ← extractUnitIdRangeSet contrib tracePath obj
  return ⟨.ofNat timeout, unitIdSet.getD []⟩

/-- `TcpServerConfig`. -/
structure TcpServerConfig where
  address : UInt32
  port : UInt16
  deriving DecidableEq

/-- The constructor; without an address it is `any()`. -/
def TcpServerConfig.new (contrib : Contrib) (tracePath : TracePath) (obj : Json) :
    Except Exception TcpServerConfig := do
  let address ← extractIpAddressOptional contrib tracePath obj
  let port ← extractIpPort contrib tracePath obj
  return ⟨address.getD 0, port⟩

/-- `RtuSlaveConfig`. -/
structure RtuSlaveConfig where
  frameType : FrameType
  device : String
  rtuOptions : RtuOptions
  deriving DecidableEq

/-- The constructor. -/
def RtuSlaveConfig.new (contrib : Contrib) (tracePath : TracePath) (obj : Json)
    (frameType : FrameType) : Except Exception RtuSlaveConfig := do
  let device ← extractString tracePath obj keys.device
  let rtuOptions ← extractRtuOptions contrib tracePath obj
  return ⟨frameType, device, rtuOptions⟩

/-- `TcpClientConfig`. -/
structure TcpClientConfig extends MasterConfig where
  address : UInt32
  port : UInt16
  deriving DecidableEq

/-- The constructor. -/
def TcpClientConfig.new (contrib : Contrib) (tracePath : TracePath) (obj : Json) :
    Except Exception TcpClientConfig := do
  let masterConfig ← MasterConfig.new contrib tracePath obj
  let address ← extractIpAddress contrib tracePath obj
  let port ← extractIpPort contrib tracePath obj
  return { masterConfig with address, port }

/-- `RtuMasterConfig`. -/
structure RtuMasterConfig extends MasterConfig where
  frameType : FrameType
  device : String
  rtuOptions : RtuOptions
  deriving DecidableEq

/-- The constructor. -/
def RtuMasterConfig.new (contrib : Contrib) (tracePath : TracePath) (obj : Json)
    (frameType : FrameType) : Except Exception RtuMasterConfig := do
  let masterConfig ← MasterConfig.new contrib tracePath obj
  let device ← extractString tracePath obj keys.device
  let rtuOptions ← extractRtuOptions contrib tracePath obj
  return { masterConfig with frameType, device, rtuOptions }

/-- The classes of `ITransportConfig`, which `GetType()` tells apart. -/
inductive TransportConfig
  | TcpServer (config : TcpServerConfig)
  | RtuSlave (config : RtuSlaveConfig)
  | TcpClient (config : TcpClientConfig)
  | RtuMaster (config : RtuMasterConfig)
  deriving DecidableEq

/-- `dynamic_pointer_cast<MasterConfig>(config)`. -/
def TransportConfig.masterConfig : TransportConfig → Option MasterConfig
  | .TcpClient config => some config.toMasterConfig
  | .RtuMaster config => some config.toMasterConfig
  | .TcpServer _ => none
  | .RtuSlave _ => none

/-- `ExtractSlave(tracePath, obj)`. -/
def extractSlave (contrib : Contrib) (tracePath : TracePath) (obj : Json) :
    Except Exception TransportConfig := do
  match ← extractFrameType tracePath obj with
  | .TCP => return .TcpServer (← TcpServerConfig.new contrib tracePath obj)
  | .RTU => return .RtuSlave (← RtuSlaveConfig.new contrib tracePath obj .RTU)
  | .ASCII => return .RtuSlave (← RtuSlaveConfig.new contrib tracePath obj .ASCII)

/-- `ExtractMaster(tracePath, obj)`. -/
def extractMaster (contrib : Contrib) (tracePath : TracePath) (obj : Json) :
    Except Exception TransportConfig := do
  match ← extractFrameType tracePath obj with
  | .TCP => return .TcpClient (← TcpClientConfig.new contrib tracePath obj)
  | .RTU => return .RtuMaster (← RtuMasterConfig.new contrib tracePath obj .RTU)
  | .ASCII => return .RtuMaster (← RtuMasterConfig.new contrib tracePath obj .ASCII)

/-- The array under a key of the root, each of its elements extracted; it must not be empty. -/
def extractTransports (extract : TracePath → Json → Except Exception TransportConfig)
    (key : String) (tracePath : TracePath) (obj : Json) :
    Except Exception (List TransportConfig) := do
  let td := TraceDeep.new tracePath key
  let transports ← findObject td obj
  checkType td transports .Array
  if (elements transports).isEmpty then invalidValue td (key ++ " empty")
  else extractElements extract td.tracePath 0 (elements transports)

/-- `ExtractSlaves(tracePath, obj)`. -/
def extractSlaves (contrib : Contrib) :
    TracePath → Json → Except Exception (List TransportConfig) :=
  extractTransports (extractSlave contrib) keys.slaves

/-- `ExtractMasters(tracePath, obj)`. -/
def extractMasters (contrib : Contrib) :
    TracePath → Json → Except Exception (List TransportConfig) :=
  extractTransports (extractMaster contrib) keys.masters

/-! ### What is extracted -/

variable {contrib : Contrib} {tracePath : TracePath} {obj : Json}

/-- The loop yields one value for each element, extracted from it. -/
theorem extractElements_ok {α : Type} {extract : TracePath → Json → Except Exception α} :
    ∀ {index : ℕ} {elements : List Json} {values : List α},
      extractElements extract tracePath index elements = .ok values →
      List.Forall₂ (fun element value => ∃ tracePath', extract tracePath' element = .ok value)
        elements values := by
  intro index elements
  induction elements generalizing index with
  | nil =>
    intro values h
    cases h
    exact .nil
  | cons element elements ih =>
    intro values h
    obtain ⟨value, hvalue, h⟩ := bind_eq_ok.mp h
    obtain ⟨values', hvalues, h⟩ := bind_eq_ok.mp h
    cases h
    exact .cons ⟨_, hvalue⟩ (ih hvalues)

/-- From an array that is not empty something is extracted. -/
theorem extractElements_ne_nil {α : Type} {extract : TracePath → Json → Except Exception α}
    {index : ℕ} {elements : List Json} {values : List α}
    (h : extractElements extract tracePath index elements = .ok values)
    (hne : ¬ elements.isEmpty = true) : values ≠ [] := by
  rintro rfl
  have hnil := List.forall₂_nil_right_iff.mp (extractElements_ok h)
  exact hne (List.isEmpty_iff.mpr hnil)

/-- What one of two related lists has is related to what the other has. -/
theorem exists_of_forall₂ {α γ : Type} {R : α → γ → Prop} {as : List α} {cs : List γ}
    (h : List.Forall₂ R as cs) {c : γ} (hc : c ∈ cs) : ∃ a ∈ as, R a c := by
  induction h with
  | nil => cases hc
  | cons hR _ ih =>
    rcases List.mem_cons.mp hc with rfl | hc
    · exact ⟨_, List.mem_cons_self, hR⟩
    · obtain ⟨a, ha, hR'⟩ := ih hc
      exact ⟨a, List.mem_cons_of_mem _ ha, hR'⟩

/-- A range that is normalized is in order. -/
theorem UnitIdRange.normalize_ordered (range : UnitIdRange) :
    range.normalize.begin ≤ range.normalize.end := by
  unfold normalize
  split
  next h => exact UInt8.le_of_lt h
  next h => exact UInt8.not_lt.mp h

/-- A range that is extracted is in order. -/
theorem UnitIdRange.ordered_of_new {range : UnitIdRange}
    (h : UnitIdRange.new contrib tracePath obj = .ok range) : range.begin ≤ range.end := by
  obtain ⟨numericRangeType, -, h⟩ := bind_eq_ok.mp h
  cases numericRangeType with
  | Range =>
    obtain ⟨begin, -, h⟩ := bind_eq_ok.mp h
    obtain ⟨last, -, h⟩ := bind_eq_ok.mp h
    cases h
    exact normalize_ordered _
  | Value =>
    obtain ⟨value, -, h⟩ := bind_eq_ok.mp h
    cases h
    exact UInt8.le_refl value

/-- A `unit_id` that is given is not empty, and its ranges are in order. -/
theorem extractUnitIdRangeSet_ok {unitIdSet : Option (List UnitIdRange)}
    (h : extractUnitIdRangeSet contrib tracePath obj = .ok unitIdSet) :
    (unitIdSet = none ↔ obj.find keys.unitIdSet = none) ∧
    ∀ ranges, unitIdSet = some ranges →
      ranges ≠ [] ∧ ∀ range ∈ ranges, range.begin ≤ range.end := by
  unfold extractUnitIdRangeSet at h
  simp only [findObjectRaw, TraceDeep.new] at h
  cases hfind : obj.find keys.unitIdSet with
  | none =>
    rw [hfind] at h
    cases h
    exact ⟨⟨fun _ => rfl, fun _ => rfl⟩, fun ranges hranges => by cases hranges⟩
  | some unitIds =>
    rw [hfind] at h
    obtain ⟨-, -, h⟩ := bind_eq_ok.mp h
    by_cases hempty : (elements unitIds).isEmpty = true
    · rw [if_pos hempty] at h
      cases h
    · rw [if_neg hempty] at h
      obtain ⟨values, hvalues, h⟩ := bind_eq_ok.mp h
      cases h
      refine ⟨⟨fun hnone => (by cases hnone), fun hnone => (by cases hnone)⟩, ?_⟩
      rintro _ ⟨⟩
      refine ⟨extractElements_ne_nil hvalues hempty, fun range hrange => ?_⟩
      obtain ⟨element, -, tracePath', hnew⟩ :=
        exists_of_forall₂ (extractElements_ok hvalues) hrange
      exact UnitIdRange.ordered_of_new hnew

/-- What is extracted for a master: its ranges are in order, and it has none exactly if no
`unit_id` is given. -/
theorem MasterConfig.new_ok {config : MasterConfig}
    (h : MasterConfig.new contrib tracePath obj = .ok config) :
    (config.unitIdSet = [] ↔ obj.find keys.unitIdSet = none) ∧
      ∀ range ∈ config.unitIdSet, range.begin ≤ range.end := by
  obtain ⟨timeout, -, h⟩ := bind_eq_ok.mp h
  obtain ⟨unitIdSet, hset, h⟩ := bind_eq_ok.mp h
  cases h
  obtain ⟨hnone, hsome⟩ := extractUnitIdRangeSet_ok hset
  cases unitIdSet with
  | none => exact ⟨⟨fun _ => hnone.mp rfl, fun _ => rfl⟩, fun range hrange => by cases hrange⟩
  | some ranges =>
    obtain ⟨hne, hordered⟩ := hsome ranges rfl
    refine ⟨⟨fun hnil => absurd hnil hne, fun hfind => ?_⟩, hordered⟩
    cases hnone.mpr hfind

/-- What `extractMaster` yields is the configuration of a master. -/
theorem extractMaster_ok {config : TransportConfig}
    (h : extractMaster contrib tracePath obj = .ok config) :
    ∃ masterConfig, config.masterConfig = some masterConfig ∧
      ∃ tracePath', MasterConfig.new contrib tracePath' obj = .ok masterConfig := by
  have hrtu : ∀ {frameType : FrameType} {rtuMaster : RtuMasterConfig},
      RtuMasterConfig.new contrib tracePath obj frameType = .ok rtuMaster →
      MasterConfig.new contrib tracePath obj = .ok rtuMaster.toMasterConfig := by
    intro frameType rtuMaster hnew
    obtain ⟨masterConfig, hmaster, hnew⟩ := bind_eq_ok.mp hnew
    obtain ⟨device, -, hnew⟩ := bind_eq_ok.mp hnew
    obtain ⟨rtuOptions, -, hnew⟩ := bind_eq_ok.mp hnew
    cases hnew
    exact hmaster
  obtain ⟨frameType, -, h⟩ := bind_eq_ok.mp h
  cases frameType with
  | TCP =>
    obtain ⟨tcpClient, hnew, h⟩ := bind_eq_ok.mp h
    cases h
    obtain ⟨masterConfig, hmaster, hnew⟩ := bind_eq_ok.mp hnew
    obtain ⟨address, -, hnew⟩ := bind_eq_ok.mp hnew
    obtain ⟨port, -, hnew⟩ := bind_eq_ok.mp hnew
    cases hnew
    exact ⟨_, rfl, tracePath, hmaster⟩
  | RTU =>
    obtain ⟨rtuMaster, hnew, h⟩ := bind_eq_ok.mp h
    cases h
    exact ⟨_, rfl, tracePath, hrtu hnew⟩
  | ASCII =>
    obtain ⟨rtuMaster, hnew, h⟩ := bind_eq_ok.mp h
    cases h
    exact ⟨_, rfl, tracePath, hrtu hnew⟩

/-- What `extractMasters` yields are configurations of masters, one for each element of the
array, and at least one. -/
theorem extractMasters_ok {masters : List TransportConfig}
    (h : extractMasters contrib tracePath obj = .ok masters) :
    masters ≠ [] ∧ ∃ value, obj.find keys.masters = some value ∧
      List.Forall₂ (fun element config => ∃ masterConfig,
        TransportConfig.masterConfig config = some masterConfig ∧
        ∃ tracePath', MasterConfig.new contrib tracePath' element = .ok masterConfig)
        (elements value) masters := by
  obtain ⟨value, hvalue, h⟩ := bind_eq_ok.mp h
  obtain ⟨-, -, h⟩ := bind_eq_ok.mp h
  have hfind : obj.find keys.masters = some value := by
    unfold findObject findObjectRaw at hvalue
    split at hvalue
    · cases hvalue
    next value' hfind =>
      cases hvalue
      exact hfind
  by_cases hempty : (elements value).isEmpty = true
  · rw [if_pos hempty] at h
    cases h
  · rw [if_neg hempty] at h
    refine ⟨extractElements_ne_nil h hempty, value, hfind, (extractElements_ok h).imp ?_⟩
    rintro element config ⟨tracePath', hextract⟩
    exact extractMaster_ok hextract

end ModbusGateway
