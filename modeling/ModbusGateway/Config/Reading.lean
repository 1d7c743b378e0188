import ModbusGateway.Config.Config

/-!
# What the configuration reads

Each extractor yields a value exactly if the JSON value it reads from has it to read,
whatever the path: the relations below say what is read of which value, and there is one
lemma for each extractor that says that it computes its relation.

## Main definitions

* `Json.Has`, `ReadsOpt`, `ReadsOr` — a member of an object, one that may be absent, and one
  that has a default.
* `ReadsArray` — an array, read element by element.
* `Contrib.ReadsUnsigned`, `ReadsName` — what is read of a number and of a name.
* `RtuOptions.Reads`, `UnitIdRange.Reads`, `MasterConfig.Reads`, `TransportConfig.ReadsSlave`,
  `TransportConfig.ReadsMaster`, `Config.Reads` — what is read of larger parts.

## Main results

* `Config.new_eq_ok` — **the constructor yields a configuration exactly if it can be read.**
-/

namespace ModbusGateway

/-- The object has a member under the key, of which `P` holds. -/
def Json.Has (obj : Json) (key : String) (P : Json → Prop) : Prop :=
  ∃ value, obj.find key = some value ∧ P value

/-- What is read of a member that may be absent. -/
def ReadsOpt {α : Type} (obj : Json) (key : String) (R : Json → α → Prop) : Option α → Prop
  | none => obj.find key = none
  | some a => obj.Has key (R · a)

/-- What is read of a member that has a default. -/
def ReadsOr {α : Type} (obj : Json) (key : String) (R : Json → α → Prop) (default a : α) : Prop :=
  obj.find key = none ∧ a = default ∨ obj.Has key (R · a)

/-- An array that is not empty is read element by element. -/
def ReadsArray {α : Type} (R : Json → α → Prop) (value : Json) (as : List α) : Prop :=
  ∃ elements, value = .array elements ∧ elements ≠ [] ∧ List.Forall₂ R elements as

/-- A name is read as the value it stands for. -/
def ReadsName {α : Type} (convert : String → Option α) (value : Json) (a : α) : Prop :=
  ∃ s, value = .string s ∧ convert s = some a

/-- A number is read as an unsigned one. -/
def Contrib.ReadsUnsigned (contrib : Contrib) (max : ℕ) (value : Json) (n : ℕ) : Prop :=
  value.getUnsigned 64 contrib.outOfRange = some n ∧ n ≤ max

/-- What is read of a `unit_id` that a range is made of. -/
def Contrib.ReadsUnitId (contrib : Contrib) (value : Json) (unitId : UnitId) : Prop :=
  ∃ n, contrib.ReadsUnsigned 255 value n ∧ n.toUInt8 = unitId ∧
    contrib.unitIdMin ≤ unitId ∧ unitId ≤ contrib.unitIdMax

/-- What is read of `ip_port`. -/
def Contrib.ReadsIpPort (contrib : Contrib) (value : Json) (port : UInt16) : Prop :=
  ∃ n, contrib.ReadsUnsigned 65535 value n ∧ n ≠ 0 ∧ n.toUInt16 = port

/-- What is read of `baud_rate`. -/
def Contrib.ReadsBaudRate (contrib : Contrib) (value : Json) (baudRate : UInt32) : Prop :=
  ∃ n, contrib.ReadsUnsigned sizeMax value n ∧ n.toUInt32 = baudRate

/-- What is read of `character_size`. -/
def Contrib.ReadsCharacterSize (contrib : Contrib) (value : Json) (size : UInt32) : Prop :=
  contrib.ReadsBaudRate value size ∧ 5 ≤ size ∧ size ≤ 8

/-- What is read of `stop_bits`. -/
def ReadsStopBits (value : Json) (stopBits : StopBits) : Prop :=
  ∃ x, value.getFloat = some x ∧ convertStopBits x = some stopBits

/-- What is read of a delay. -/
def Contrib.ReadsDelay (contrib : Contrib) (value : Json) (delay : UInt32) : Prop :=
  ∃ n, value.getUnsigned 32 contrib.outOfRange = some n ∧ n.toUInt32 = delay

/-- What is read of `timeout_ms`. -/
def Contrib.ReadsTimeout (contrib : Contrib) (value : Json) (timeout : Milliseconds) : Prop :=
  ∃ n, contrib.ReadsUnsigned sizeMax value n ∧ .ofNat n = timeout

/-- What is read of the service. -/
structure ConfigService.Reads (contrib : Contrib) (value : Json) (configService : ConfigService) :
    Prop where
  type : convertJsonTypeToValueType value = .Object
  logLevel : ReadsOr value keys.logLevel (ReadsName convertLogLevel) .Info configService.logLevel
  threads : ReadsOr value keys.threads (contrib.ReadsUnsigned sizeMax) 1 configService.threads

/-- What is read of `rs485`. -/
structure Rs485.Reads (contrib : Contrib) (value : Json) (rs485 : Rs485) : Prop where
  type : convertJsonTypeToValueType value = .Object
  rtsOnSend : ReadsOpt value keys.rtsOnSend (· = .boolean ·) rs485.rtsOnSend
  rtsAfterSend : ReadsOpt value keys.rtsAfterSend (· = .boolean ·) rs485.rtsAfterSend
  rxDuringTx : ReadsOpt value keys.rxDuringTx (· = .boolean ·) rs485.rxDuringTx
  terminateBus : ReadsOpt value keys.terminateBus (· = .boolean ·) rs485.terminateBus
  delayRtsBeforeSend :
    ReadsOpt value keys.delayRtsBeforeSend contrib.ReadsDelay rs485.delayRtsBeforeSend
  delayRtsAfterSend :
    ReadsOpt value keys.delayRtsAfterSend contrib.ReadsDelay rs485.delayRtsAfterSend

/-- What is read of the options of a serial port. -/
structure RtuOptions.Reads (contrib : Contrib) (obj : Json) (rtuOptions : RtuOptions) : Prop where
  baudRate : ReadsOr obj keys.baudRate contrib.ReadsBaudRate 0 rtuOptions.baudRate
  characterSize :
    ReadsOr obj keys.characterSize contrib.ReadsCharacterSize 8 rtuOptions.characterSize
  parity : ReadsOr obj keys.parity (ReadsName convertParity) .none rtuOptions.parity
  stopBits : ReadsOr obj keys.stopBits ReadsStopBits .one rtuOptions.stopBits
  flowControl :
    ReadsOr obj keys.flowControl (ReadsName convertFlowControl) .none rtuOptions.flowControl
  rs485 : ReadsOpt obj keys.rs485 (Rs485.Reads contrib) rtuOptions.rs485

/-- What is read of an element of `unit_id`. -/
inductive UnitIdRange.Reads (contrib : Contrib) (obj : Json) : UnitIdRange → Prop
  | range {begin last : UnitId} (type : obj.find keys.numericRangeType = some (.string "range"))
      (hbegin : obj.Has keys.numericRangeBegin (contrib.ReadsUnitId · begin))
      (hend : obj.Has keys.numericRangeEnd (contrib.ReadsUnitId · last)) :
      Reads contrib obj (UnitIdRange.normalize ⟨begin, last⟩)
  | value {unitId : UnitId} (type : obj.find keys.numericRangeType = some (.string "value"))
      (hvalue : obj.Has keys.numericRangeValue (contrib.ReadsUnitId · unitId)) :
      Reads contrib obj ⟨unitId, unitId⟩

/-- What every master reads. -/
structure MasterConfig.Reads (contrib : Contrib) (obj : Json) (config : MasterConfig) :
    Prop where
  timeout : obj.Has keys.timeout (contrib.ReadsTimeout · config.timeout)
  unitIdSet :
    ReadsOr obj keys.unitIdSet (ReadsArray (UnitIdRange.Reads contrib)) [] config.unitIdSet

/-- What is read of an element of `slaves`. -/
inductive TransportConfig.ReadsSlave (contrib : Contrib) (obj : Json) : TransportConfig → Prop
  | TcpServer {config : TcpServerConfig}
      (frameType : obj.Has keys.frameType (ReadsName convertFrameType · .TCP))
      (address : ReadsOr obj keys.ipAddress (ReadsName contrib.makeAddressV4) 0 config.address)
      (port : obj.Has keys.ipPort (contrib.ReadsIpPort · config.port)) :
      ReadsSlave contrib obj (.TcpServer config)
  | RtuSlave {config : RtuSlaveConfig}
      (frameType : obj.Has keys.frameType (ReadsName convertFrameType · config.frameType))
      (ne : config.frameType ≠ .TCP)
      (device : obj.find keys.device = some (.string config.device))
      (rtuOptions : config.rtuOptions.Reads contrib obj) :
      ReadsSlave contrib obj (.RtuSlave config)

/-- What is read of an element of `masters`. -/
inductive TransportConfig.ReadsMaster (contrib : Contrib) (obj : Json) : TransportConfig → Prop
  | TcpClient {config : TcpClientConfig}
      (frameType : obj.Has keys.frameType (ReadsName convertFrameType · .TCP))
      (masterConfig : config.toMasterConfig.Reads contrib obj)
      (address : obj.Has keys.ipAddress (ReadsName contrib.makeAddressV4 · config.address))
      (port : obj.Has keys.ipPort (contrib.ReadsIpPort · config.port)) :
      ReadsMaster contrib obj (.TcpClient config)
  | RtuMaster {config : RtuMasterConfig}
      (frameType : obj.Has keys.frameType (ReadsName convertFrameType · config.frameType))
      (ne : config.frameType ≠ .TCP)
      (masterConfig : config.toMasterConfig.Reads contrib obj)
      (device : obj.find keys.device = some (.string config.device))
      (rtuOptions : config.rtuOptions.Reads contrib obj) :
      ReadsMaster contrib obj (.RtuMaster config)

/-- What is read of the root. -/
structure Config.Reads (contrib : Contrib) (data : Json) (config : Config) : Prop where
  configService : data.Has keys.service (config.configService.Reads contrib)
  slaves : data.Has keys.slaves (ReadsArray (TransportConfig.ReadsSlave contrib) · config.slaves)
  masters :
    data.Has keys.masters (ReadsArray (TransportConfig.ReadsMaster contrib) · config.masters)

variable {contrib : Contrib} {tracePath : TracePath} {obj : Json} {key : String}

/-! ### Steps that may throw -/

@[simp] theorem pure_eq_ok {α : Type} {a b : α} :
    (pure a : Except Exception α) = .ok b ↔ a = b := by
  simp [pure, Except.pure]

@[simp] theorem keyNotFound_ne_ok {α : Type} {td : TraceDeep} {a : α} :
    keyNotFound td ≠ .ok a := by
  simp [keyNotFound]

@[simp] theorem invalidType_ne_ok {α : Type} {td : TraceDeep} {expectType actualType : ValueType}
    {a : α} : invalidType td expectType actualType ≠ .ok a := by
  simp [invalidType]

@[simp] theorem invalidValue_ne_ok {α : Type} {td : TraceDeep} {value : String} {a : α} :
    invalidValue td value ≠ .ok a := by
  simp [invalidValue]

@[simp] theorem map_eq_ok {α γ : Type} {f : α → γ} {x : Except Exception α} {c : γ} :
    f <$> x = .ok c ↔ ∃ a, x = .ok a ∧ f a = c := by
  cases x <;> simp [Functor.map, Except.map]

@[simp] theorem findObject_eq_ok {td : TraceDeep} {value : Json} :
    findObject td obj = .ok value ↔ obj.find td.key = some value := by
  unfold findObject findObjectRaw
  cases obj.find td.key <;> simp

@[simp] theorem checkType_eq_ok {td : TraceDeep} {expectType : ValueType} {u : Unit} :
    checkType td obj expectType = .ok u ↔ convertJsonTypeToValueType obj = expectType := by
  unfold checkType
  by_cases h : convertJsonTypeToValueType obj = expectType <;> simp [h]

@[simp] theorem getOrThrow_eq_ok {α : Type} {o : Option α} {a : α} :
    getOrThrow o = .ok a ↔ o = some a := by
  cases o <;> simp [getOrThrow]

/-! ### Types and values -/

theorem type_eq_string {value : Json} {s : String} :
    convertJsonTypeToValueType value = .String ∧ value.getString = some s ↔ value = .string s := by
  cases value <;> simp [convertJsonTypeToValueType, Json.getString]

theorem type_of_getUnsigned {value : Json} {bits n : ℕ} {outOfRange : ℚ → ℕ}
    (h : value.getUnsigned bits outOfRange = some n) :
    convertJsonTypeToValueType value = .Number := by
  cases value <;> first | rfl | cases h

theorem type_of_getFloat {value : Json} {x : Single} (h : value.getFloat = some x) :
    convertJsonTypeToValueType value = .Number := by
  cases value <;> first | rfl | cases h

theorem type_eq_array {value : Json} :
    convertJsonTypeToValueType value = .Array ↔ value = .array (elements value) := by
  cases value <;> simp [convertJsonTypeToValueType, elements]

/-! ### Members -/

theorem extractValueOpt_eq_ok {α : Type} {get : Json → Option α} {valueType : ValueType}
    {r : Option α} : extractValueOpt get tracePath obj key valueType = .ok r ↔
      ReadsOpt obj key (fun value a => convertJsonTypeToValueType value = valueType ∧
        get value = some a) r := by
  unfold extractValueOpt findObjectRaw
  simp only [TraceDeep.new]
  cases hfind : obj.find key <;> cases r <;> simp [ReadsOpt, Json.Has, hfind, bind_eq_ok]

theorem extractUnsignedNumberOpt_eq_ok {max : ℕ} {r : Option ℕ} :
    extractUnsignedNumberOpt contrib max tracePath obj key = .ok r ↔
      ReadsOpt obj key (contrib.ReadsUnsigned max) r := by
  unfold extractUnsignedNumberOpt findObjectRaw
  simp only [TraceDeep.new]
  cases hfind : obj.find key with
  | none => cases r <;> simp [ReadsOpt, Json.Has, hfind]
  | some value =>
    simp only [bind_eq_ok, checkType_eq_ok, getOrThrow_eq_ok]
    constructor
    · rintro ⟨-, -, n, hget, h⟩
      by_cases hmax : n > max
      · simp [hmax] at h
      · obtain rfl : some n = r := by simpa [hmax] using h
        exact ⟨value, hfind, hget, Nat.not_lt.mp hmax⟩
    · intro h
      cases r with
      | none => cases hfind.symm.trans h
      | some n =>
        obtain ⟨_, hvalue, hget, hmax⟩ := h
        obtain rfl := Option.some.inj (hfind.symm.trans hvalue)
        exact ⟨(), type_of_getUnsigned hget, n, hget, by rw [if_neg (Nat.not_lt.mpr hmax)]; rfl⟩

theorem extractUnsignedNumber_eq_ok {max n : ℕ} :
    extractUnsignedNumber contrib max tracePath obj key = .ok n ↔
      obj.Has key (contrib.ReadsUnsigned max · n) := by
  unfold extractUnsignedNumber
  simp only [bind_eq_ok, extractUnsignedNumberOpt_eq_ok]
  constructor
  · rintro ⟨_ | m, hread, heq⟩
    · simp at heq
    · obtain rfl : m = n := by simpa using heq
      exact hread
  · exact fun h => ⟨some n, h, by simp⟩

theorem extractString_eq_ok {s : String} :
    extractString tracePath obj key = .ok s ↔ obj.find key = some (.string s) := by
  simp only [extractString, TraceDeep.new, bind_eq_ok, findObject_eq_ok, checkType_eq_ok,
    getOrThrow_eq_ok]
  constructor
  · rintro ⟨value, hfind, -, htype, hget⟩
    exact type_eq_string.mp ⟨htype, hget⟩ ▸ hfind
  · exact fun hfind => ⟨_, hfind, (), rfl, rfl⟩

theorem extractStringOpt_eq_ok {r : Option String} :
    extractStringOpt tracePath obj key = .ok r ↔
      ReadsOpt obj key (fun value s => value = .string s) r := by
  simp only [extractStringOpt, extractValueOpt_eq_ok, type_eq_string]

/-- A member that may be absent, where `step` reads it when it is there. -/
theorem optional_eq_ok {α : Type} {step : Json → Except Exception (Option α)}
    {R : Json → α → Prop} {r : Option α}
    (hstep : ∀ value r, step value = .ok r ↔ ∃ a, some a = r ∧ R value a) :
    (match obj.find key with
      | none => pure none
      | some value => step value) = .ok r ↔ ReadsOpt obj key R r := by
  cases hfind : obj.find key <;> cases r <;> simp [ReadsOpt, Json.Has, hfind, hstep]

/-- A value that must be a string. -/
theorem string_eq_ok {α : Type} {td : TraceDeep} {value : Json} {k : String → Except Exception α}
    {a : α} :
    (do checkType td value .String
        let s ← getOrThrow value.getString
        k s) = .ok a ↔ ∃ s, value = .string s ∧ k s = .ok a := by
  simp only [bind_eq_ok, checkType_eq_ok, getOrThrow_eq_ok]
  constructor
  · rintro ⟨-, htype, s, hget, hk⟩
    exact ⟨s, type_eq_string.mp ⟨htype, hget⟩, hk⟩
  · rintro ⟨s, rfl, hk⟩
    exact ⟨(), rfl, s, rfl, hk⟩

/-- A member that may be absent and is a name when it is there, which `step` converts. -/
theorem readsName_eq_ok {α : Type} {convert : String → Option α} {td : TraceDeep}
    {step : String → Except Exception (Option α)} {r : Option α}
    (hstep : ∀ s r, step s = .ok r ↔ ∃ a, some a = r ∧ convert s = some a) :
    (match obj.find key with
      | none => pure none
      | some value => do
        checkType td value .String
        let s ← getOrThrow value.getString
        step s) = .ok r ↔ ReadsOpt obj key (ReadsName convert) r := by
  refine optional_eq_ok fun value r => ?_
  simp only [string_eq_ok, hstep, ReadsName]
  constructor
  · rintro ⟨s, hs, a, hr, ha⟩
    exact ⟨a, hr, s, hs, ha⟩
  · rintro ⟨a, hr, s, hs, ha⟩
    exact ⟨s, hs, a, hr, ha⟩

theorem extractLogLevel_eq_ok {r : Option LogLevel} : extractLogLevel tracePath obj = .ok r ↔
    ReadsOpt obj keys.logLevel (ReadsName convertLogLevel) r := by
  refine readsName_eq_ok fun s r => ?_
  cases convertLogLevel s <;> simp

theorem extractIpAddressOptional_eq_ok {r : Option UInt32} :
    extractIpAddressOptional contrib tracePath obj = .ok r ↔
      ReadsOpt obj keys.ipAddress (ReadsName contrib.makeAddressV4) r := by
  refine readsName_eq_ok fun s r => ?_
  cases contrib.makeAddressV4 s <;> simp

theorem extractIpAddress_eq_ok {address : UInt32} :
    extractIpAddress contrib tracePath obj = .ok address ↔
      obj.Has keys.ipAddress (ReadsName contrib.makeAddressV4 · address) := by
  unfold extractIpAddress
  simp only [bind_eq_ok, extractIpAddressOptional_eq_ok]
  constructor
  · rintro ⟨_ | a, hread, heq⟩
    · simp at heq
    · obtain rfl : a = address := by simpa using heq
      exact hread
  · exact fun h => ⟨some address, h, by simp⟩

theorem extractFrameType_eq_ok {frameType : FrameType} :
    extractFrameType tracePath obj = .ok frameType ↔
      obj.Has keys.frameType (ReadsName convertFrameType · frameType) := by
  unfold extractFrameType
  simp only [TraceDeep.new, bind_eq_ok (α := Json), findObject_eq_ok, string_eq_ok, Json.Has,
    ReadsName]
  refine exists_congr fun value => and_congr_right fun _ => exists_congr fun s =>
    and_congr_right fun _ => ?_
  cases convertFrameType s <;> simp

theorem extractIpPort_eq_ok {port : UInt16} : extractIpPort contrib tracePath obj = .ok port ↔
    obj.Has keys.ipPort (contrib.ReadsIpPort · port) := by
  unfold extractIpPort
  simp only [TraceDeep.new, bind_eq_ok, findObject_eq_ok, checkType_eq_ok, getOrThrow_eq_ok]
  refine exists_congr fun value => and_congr_right fun _ => ?_
  constructor
  · rintro ⟨-, -, n, hget, h⟩
    by_cases hrange : n = 0 ∨ n > 65535
    · simp [hrange] at h
    · obtain ⟨hzero, hmax⟩ := not_or.mp hrange
      exact ⟨n, ⟨hget, Nat.not_lt.mp hmax⟩, hzero, by simpa [hrange] using h⟩
  · rintro ⟨n, ⟨hget, hmax⟩, hzero, rfl⟩
    refine ⟨(), type_of_getUnsigned hget, n, hget, ?_⟩
    rw [if_neg (not_or.mpr ⟨hzero, Nat.not_lt.mpr hmax⟩)]
    rfl

/-- What is read of a member that may be absent, with a default in its place. -/
theorem exists_getD_eq {α : Type} {R : Json → α → Prop} {default a : α} :
    (∃ r, ReadsOpt obj key R r ∧ r.getD default = a) ↔ ReadsOr obj key R default a := by
  constructor
  · rintro ⟨_ | a, hread, rfl⟩
    · exact .inl ⟨hread, rfl⟩
    · exact .inr hread
  · rintro (⟨hfind, rfl⟩ | hhas)
    · exact ⟨none, hfind, rfl⟩
    · exact ⟨some a, hhas, rfl⟩

/-! ### Objects -/

theorem ConfigService.new_eq_ok {configService : ConfigService} :
    ConfigService.new contrib tracePath obj = .ok configService ↔
      ReadsOr obj keys.logLevel (ReadsName convertLogLevel) .Info configService.logLevel ∧
        ReadsOr obj keys.threads (contrib.ReadsUnsigned sizeMax) 1 configService.threads := by
  unfold ConfigService.new
  simp only [bind_eq_ok, extractLogLevel_eq_ok, extractUnsignedNumberOpt_eq_ok, ← exists_getD_eq]
  constructor
  · rintro ⟨logLevel, hlog, threads, hthreads, h⟩
    cases logLevel <;> cases threads <;> cases h <;> exact ⟨⟨_, hlog, rfl⟩, _, hthreads, rfl⟩
  · rintro ⟨⟨logLevel, hlog, hlog'⟩, threads, hthreads, hthreads'⟩
    refine ⟨logLevel, hlog, threads, hthreads, ?_⟩
    obtain ⟨_, _⟩ := configService
    cases logLevel <;> cases threads <;> cases hlog' <;> cases hthreads' <;> rfl

theorem extractConfigService_eq_ok {configService : ConfigService} :
    extractConfigService contrib tracePath obj = .ok configService ↔
      obj.Has keys.service (configService.Reads contrib) := by
  unfold extractConfigService
  simp only [bind_eq_ok, findObject_eq_ok, checkType_eq_ok, ConfigService.new_eq_ok]
  refine exists_congr fun value => and_congr_right fun _ => ?_
  exact ⟨fun ⟨_, htype, hlog, hthreads⟩ => ⟨htype, hlog, hthreads⟩,
    fun ⟨htype, hlog, hthreads⟩ => ⟨(), htype, hlog, hthreads⟩⟩

/-- A flag. -/
theorem flag_eq_ok {r : Option Bool} :
    extractValueOpt Json.getBoolean tracePath obj key .Boolean = .ok r ↔
      ReadsOpt obj key (· = .boolean ·) r := by
  have hvalue : ∀ (value : Json) (b : Bool), convertJsonTypeToValueType value = .Boolean ∧
      value.getBoolean = some b ↔ value = .boolean b := by
    intro value b
    cases value <;> simp [convertJsonTypeToValueType, Json.getBoolean]
  simp only [extractValueOpt_eq_ok, hvalue]

/-- A delay. -/
theorem delay_eq_ok {r : Option UInt32} :
    extractValueOpt (fun n => (n.getUnsigned 32 contrib.outOfRange).map Nat.toUInt32)
      tracePath obj key .Number = .ok r ↔ ReadsOpt obj key contrib.ReadsDelay r := by
  have hvalue : ∀ (value : Json) (delay : UInt32), convertJsonTypeToValueType value = .Number ∧
      (value.getUnsigned 32 contrib.outOfRange).map Nat.toUInt32 = some delay ↔
        contrib.ReadsDelay value delay := by
    intro value delay
    rw [Option.map_eq_some_iff]
    exact ⟨fun ⟨_, h⟩ => h, fun ⟨n, hget, hn⟩ => ⟨type_of_getUnsigned hget, n, hget, hn⟩⟩
  simp only [extractValueOpt_eq_ok, hvalue]

/-- A `float`. -/
theorem float_eq_ok {r : Option Single} :
    extractValueOpt Json.getFloat tracePath obj key .Number = .ok r ↔
      ReadsOpt obj key (fun value x => value.getFloat = some x) r := by
  have hvalue : ∀ (value : Json) (x : Single), convertJsonTypeToValueType value = .Number ∧
      value.getFloat = some x ↔ value.getFloat = some x :=
    fun value x => and_iff_right_of_imp type_of_getFloat
  simp only [extractValueOpt_eq_ok, hvalue]

theorem extractRs485Options_eq_ok {r : Option Rs485} :
    extractRs485Options contrib tracePath obj = .ok r ↔
      ReadsOpt obj keys.rs485 (Rs485.Reads contrib) r := by
  refine optional_eq_ok fun value r => ?_
  simp only [bind_eq_ok, checkType_eq_ok, flag_eq_ok, delay_eq_ok, pure_eq_ok]
  constructor
  · rintro ⟨-, htype, r₁, h₁, r₂, h₂, r₃, h₃, r₄, h₄, r₅, h₅, r₆, h₆, rfl⟩
    exact ⟨_, rfl, htype, h₁, h₂, h₃, h₄, h₅, h₆⟩
  · rintro ⟨rs485, rfl, htype, h₁, h₂, h₃, h₄, h₅, h₆⟩
    exact ⟨(), htype, _, h₁, _, h₂, _, h₃, _, h₄, _, h₅, _, h₆, rfl⟩

/-- An option that is given by a name: what the name is converted to. -/
theorem extractOption_eq_ok {α γ : Type} {extracted : Except Exception (Option α)}
    {convert : α → Option γ} {text : α → String} {R : Json → α → Prop} {r : Option γ}
    (hextracted : ∀ o, extracted = .ok o ↔ ReadsOpt obj key R o) :
    extractOption extracted convert text tracePath key = .ok r ↔
      ReadsOpt obj key (fun value c => ∃ a, R value a ∧ convert a = some c) r := by
  unfold extractOption
  simp only [bind_eq_ok, hextracted]
  constructor
  · rintro ⟨_ | a, hread, h⟩
    · cases h
      exact hread
    · obtain ⟨value, hfind, ha⟩ := hread
      cases hconvert : convert a with
      | none => simp [hconvert] at h
      | some c =>
        obtain rfl : some c = r := by simpa [hconvert] using h
        exact ⟨value, hfind, a, ha, hconvert⟩
  · intro h
    cases r with
    | none => exact ⟨none, h, rfl⟩
    | some c =>
      obtain ⟨value, hfind, a, ha, hconvert⟩ := h
      exact ⟨some a, ⟨value, hfind, ha⟩, by simp [hconvert]⟩

theorem characterSize_eq_ok {t size : UInt32} :
    characterSize t = .ok size ↔ t = size ∧ 5 ≤ size ∧ size ≤ 8 := by
  unfold characterSize
  by_cases hrange : t < 5 ∨ t > 8
  · rw [if_pos hrange]
    refine ⟨fun h => (by cases h), ?_⟩
    rintro ⟨rfl, hmin, hmax⟩
    rcases hrange with h | h
    · exact absurd h (UInt32.not_lt.mpr hmin)
    · exact absurd h (UInt32.not_lt.mpr hmax)
  · rw [if_neg hrange]
    obtain ⟨hmin, hmax⟩ := not_or.mp hrange
    constructor
    · rintro ⟨⟩
      exact ⟨rfl, UInt32.not_lt.mp hmin, UInt32.not_lt.mp hmax⟩
    · rintro ⟨rfl, -⟩
      rfl

/-- What is read of a number that may be absent and is converted when it is there. -/
theorem exists_map_getD_eq {α γ : Type} {R : Json → α → Prop} {f : α → γ} {default c : γ} :
    (∃ r, ReadsOpt obj key R r ∧ (r.map f).getD default = c) ↔
      ReadsOr obj key (fun value c => ∃ a, R value a ∧ f a = c) default c := by
  constructor
  · rintro ⟨_ | a, hread, rfl⟩
    · exact .inl ⟨hread, rfl⟩
    · obtain ⟨value, hfind, ha⟩ := hread
      exact .inr ⟨value, hfind, a, ha, rfl⟩
  · rintro (⟨hfind, rfl⟩ | ⟨value, hfind, a, ha, rfl⟩)
    · exact ⟨none, hfind, rfl⟩
    · exact ⟨some a, ⟨value, hfind, ha⟩, rfl⟩

/-- The character size, or the default when it is absent. -/
def characterSizeOr (default : UInt32) : Option ℕ → Except Exception UInt32
  | none => pure default
  | some size => characterSize size.toUInt32

theorem exists_characterSizeOr_eq {default size : UInt32} :
    (∃ n, ReadsOpt obj key (contrib.ReadsUnsigned sizeMax) n ∧
      characterSizeOr default n = .ok size) ↔
      ReadsOr obj key contrib.ReadsCharacterSize default size := by
  constructor
  · rintro ⟨_ | n, hread, h⟩
    · exact .inl ⟨hread, (pure_eq_ok.mp h).symm⟩
    · obtain ⟨value, hfind, hn⟩ := hread
      obtain ⟨heq, hrange⟩ := characterSize_eq_ok.mp h
      exact .inr ⟨value, hfind, ⟨n, hn, heq⟩, hrange⟩
  · rintro (⟨hfind, rfl⟩ | ⟨value, hfind, ⟨n, hn, heq⟩, hrange⟩)
    · exact ⟨none, hfind, rfl⟩
    · exact ⟨some n, ⟨value, hfind, hn⟩, characterSize_eq_ok.mpr ⟨heq, hrange⟩⟩

/-- The options of a serial port are extracted in the order of their keys, but for
`rs485`. -/
theorem extractRtuOptions_eq : extractRtuOptions contrib tracePath obj = (do
    let baudRate ← extractUnsignedNumberOpt contrib sizeMax tracePath obj keys.baudRate
    let size ← extractUnsignedNumberOpt contrib sizeMax tracePath obj keys.characterSize
    let size ← characterSizeOr 8 size
    let parity ← extractOption (extractStringOpt tracePath obj keys.parity) convertParity id
      tracePath keys.parity
    let stopBits ← extractOption
      (extractValueOpt Json.getFloat tracePath obj keys.stopBits .Number) convertStopBits
      floatToString tracePath keys.stopBits
    let flowControl ← extractOption (extractStringOpt tracePath obj keys.flowControl)
      convertFlowControl id tracePath keys.flowControl
    let rs485 ← extractRs485Options contrib tracePath obj
    return ⟨(baudRate.map Nat.toUInt32).getD 0, size, parity.getD .none, stopBits.getD .one,
      flowControl.getD .none, rs485⟩) := by
  unfold extractRtuOptions
  refine congrArg (_ >>= ·) (funext fun baudRate => congrArg (_ >>= ·) (funext fun size => ?_))
  cases size <;> rfl

theorem extractRtuOptions_eq_ok {rtuOptions : RtuOptions} :
    extractRtuOptions contrib tracePath obj = .ok rtuOptions ↔ rtuOptions.Reads contrib obj := by
  simp only [extractRtuOptions_eq, bind_eq_ok, extractUnsignedNumberOpt_eq_ok,
    extractOption_eq_ok fun _ => extractStringOpt_eq_ok,
    extractOption_eq_ok fun _ => float_eq_ok, extractRs485Options_eq_ok, pure_eq_ok]
  constructor
  · rintro ⟨baudRate, hbaud, n, hn, size, hsize, parity, hparity, stopBits, hstop, flow, hflow,
      rs485, hrs485, rfl⟩
    exact
      { baudRate := exists_map_getD_eq.mp ⟨_, hbaud, rfl⟩
        characterSize := exists_characterSizeOr_eq.mp ⟨_, hn, hsize⟩
        parity := exists_getD_eq.mp ⟨_, hparity, rfl⟩
        stopBits := exists_getD_eq.mp ⟨_, hstop, rfl⟩
        flowControl := exists_getD_eq.mp ⟨_, hflow, rfl⟩
        rs485 := hrs485 }
  · intro h
    obtain ⟨baudRate, hbaud, hbaud'⟩ := exists_map_getD_eq.mpr h.baudRate
    obtain ⟨n, hn, hsize⟩ := exists_characterSizeOr_eq.mpr h.characterSize
    obtain ⟨parity, hparity, hparity'⟩ := exists_getD_eq.mpr h.parity
    obtain ⟨stopBits, hstop, hstop'⟩ := exists_getD_eq.mpr h.stopBits
    obtain ⟨flow, hflow, hflow'⟩ := exists_getD_eq.mpr h.flowControl
    refine ⟨_, hbaud, n, hn, _, hsize, _, hparity, _, hstop, _, hflow, _, h.rs485, ?_⟩
    rw [hbaud', hparity', hstop', hflow']

/-! ### Unit ids -/

/-- What a table yields for a name is one of its entries. -/
theorem mem_of_lookup {α : Type} {table : List (String × α)} {name : String} {a : α}
    (h : table.lookup name = some a) : (name, a) ∈ table := by
  induction table with
  | nil => cases h
  | cons entry table ih =>
    obtain ⟨name', a'⟩ := entry
    by_cases hname : name = name'
    · obtain rfl : a' = a := by simpa [hname] using h
      exact hname ▸ List.mem_cons_self
    · rw [List.lookup_cons, beq_false_of_ne hname] at h
      exact List.mem_cons_of_mem _ (ih h)

theorem convertNumericRangeType_eq {s : String} {numericRangeType : NumericRangeType} :
    convertNumericRangeType s = some numericRangeType ↔
      s = match numericRangeType with
        | .Range => "range"
        | .Value => "value" := by
  constructor
  · intro h
    rcases List.mem_pair.mp (mem_of_lookup h) with heq | heq <;> cases heq <;> rfl
  · rintro rfl
    cases numericRangeType <;> rfl

theorem extractNumericRangeType_eq_ok {numericRangeType : NumericRangeType} :
    extractNumericRangeType tracePath obj = .ok numericRangeType ↔
      obj.find keys.numericRangeType = some (.string (match numericRangeType with
        | .Range => "range"
        | .Value => "value")) := by
  unfold extractNumericRangeType
  simp only [TraceDeep.new, bind_eq_ok, extractString_eq_ok]
  constructor
  · rintro ⟨s, hfind, h⟩
    cases hconvert : convertNumericRangeType s with
    | none => simp [hconvert] at h
    | some numericRangeType' =>
      obtain rfl : numericRangeType' = numericRangeType := by simpa [hconvert] using h
      rw [hfind, convertNumericRangeType_eq.mp hconvert]
  · intro hfind
    exact ⟨_, hfind, by rw [convertNumericRangeType_eq.mpr rfl]; rfl⟩

theorem extractModbusUnitId_eq_ok {unitId : UnitId} :
    extractModbusUnitId contrib tracePath obj key = .ok unitId ↔
      obj.Has key (contrib.ReadsUnitId · unitId) := by
  unfold extractModbusUnitId
  simp only [bind_eq_ok, extractUnsignedNumber_eq_ok]
  constructor
  · rintro ⟨n, ⟨value, hfind, hn⟩, h⟩
    by_cases hrange : n.toUInt8 < contrib.unitIdMin ∨ n.toUInt8 > contrib.unitIdMax
    · simp [hrange] at h
    · obtain ⟨hmin, hmax⟩ := not_or.mp hrange
      obtain rfl : n.toUInt8 = unitId := by simpa [hrange] using h
      exact ⟨value, hfind, n, hn, rfl, UInt8.not_lt.mp hmin, UInt8.not_lt.mp hmax⟩
  · rintro ⟨value, hfind, n, hn, rfl, hmin, hmax⟩
    refine ⟨n, ⟨value, hfind, hn⟩, ?_⟩
    rw [if_neg (not_or.mpr ⟨UInt8.not_lt.mpr hmin, UInt8.not_lt.mpr hmax⟩)]
    rfl

theorem UnitIdRange.new_eq_ok {range : UnitIdRange} :
    UnitIdRange.new contrib tracePath obj = .ok range ↔ range.Reads contrib obj := by
  unfold UnitIdRange.new
  simp only [bind_eq_ok, extractNumericRangeType_eq_ok]
  constructor
  · rintro ⟨_ | _, htype, h⟩
    · simp only [bind_eq_ok, extractModbusUnitId_eq_ok, pure_eq_ok] at h
      obtain ⟨begin, hbegin, last, hlast, rfl⟩ := h
      exact .range htype hbegin hlast
    · simp only [bind_eq_ok, extractModbusUnitId_eq_ok, pure_eq_ok] at h
      obtain ⟨unitId, hvalue, rfl⟩ := h
      exact .value htype hvalue
  · intro h
    cases h with
    | range htype hbegin hlast =>
      refine ⟨.Range, htype, ?_⟩
      simp only [bind_eq_ok, extractModbusUnitId_eq_ok, pure_eq_ok]
      exact ⟨_, hbegin, _, hlast, rfl⟩
    | value htype hvalue =>
      refine ⟨.Value, htype, ?_⟩
      simp only [bind_eq_ok, extractModbusUnitId_eq_ok, pure_eq_ok]
      exact ⟨_, hvalue, rfl⟩

/-! ### Arrays -/

/-- The loop reads the elements one by one. -/
theorem extractElements_eq_ok {α : Type} {extract : TracePath → Json → Except Exception α}
    {R : Json → α → Prop}
    (hextract : ∀ tracePath element a, extract tracePath element = .ok a ↔ R element a)
    {index : ℕ} {elements : List Json} {values : List α} :
    extractElements extract tracePath index elements = .ok values ↔
      List.Forall₂ R elements values := by
  induction elements generalizing index values with
  | nil =>
    rw [List.forall₂_nil_left_iff]
    exact pure_eq_ok.trans eq_comm
  | cons element elements ih =>
    simp only [extractElements, bind_eq_ok, hextract, ih, pure_eq_ok]
    rw [List.forall₂_cons_left_iff]
    exact ⟨fun ⟨value, hvalue, values', hvalues, heq⟩ =>
        ⟨value, values', hvalue, hvalues, heq.symm⟩,
      fun ⟨value, values', hvalue, hvalues, heq⟩ => ⟨value, hvalue, values', hvalues, heq.symm⟩⟩

/-- An array that must not be empty, what the loop reads of it, and how it goes on. -/
theorem readsArray_eq_ok {α γ : Type} {extract : TracePath → Json → Except Exception α}
    {R : Json → α → Prop}
    (hextract : ∀ tracePath element a, extract tracePath element = .ok a ↔ R element a)
    {td : TraceDeep} {text : String} {value : Json} {k : List α → Except Exception γ} {c : γ} :
    (do checkType td value .Array
        if (elements value).isEmpty then invalidValue td text
        else do
          let values ← extractElements extract td.tracePath 0 (elements value)
          k values) = .ok c ↔
      ∃ values, ReadsArray R value values ∧ k values = .ok c := by
  rw [bind_eq_ok]
  constructor
  · rintro ⟨u, htype, h⟩
    by_cases hempty : (elements value).isEmpty = true
    · simp [hempty] at h
    · rw [if_neg hempty] at h
      obtain ⟨values, hvalues, hk⟩ := bind_eq_ok.mp h
      exact ⟨values, ⟨_, type_eq_array.mp (checkType_eq_ok.mp htype),
        by simpa using hempty,
        (extractElements_eq_ok hextract).mp hvalues⟩, hk⟩
  · rintro ⟨values, ⟨elements, rfl, hne, hall⟩, hk⟩
    refine ⟨(), checkType_eq_ok.mpr rfl, ?_⟩
    rw [if_neg (by simpa [ModbusGateway.elements] using hne), bind_eq_ok]
    exact ⟨values, (extractElements_eq_ok hextract).mpr hall, hk⟩

theorem extractUnitIdRangeSet_eq_ok {r : Option (List UnitIdRange)} :
    extractUnitIdRangeSet contrib tracePath obj = .ok r ↔
      ReadsOpt obj keys.unitIdSet (ReadsArray (UnitIdRange.Reads contrib)) r := by
  have hnew : ∀ tracePath element range, UnitIdRange.new contrib tracePath element = .ok range ↔
      range.Reads contrib element := fun _ _ _ => UnitIdRange.new_eq_ok
  refine optional_eq_ok fun value r => ?_
  rw [readsArray_eq_ok hnew]
  exact exists_congr fun ranges => and_comm.trans (and_congr_left' pure_eq_ok)

theorem extractTransports_eq_ok {extract : TracePath → Json → Except Exception TransportConfig}
    {R : Json → TransportConfig → Prop}
    (hextract : ∀ tracePath element a, extract tracePath element = .ok a ↔ R element a)
    {transports : List TransportConfig} :
    extractTransports extract key tracePath obj = .ok transports ↔
      obj.Has key (ReadsArray R · transports) := by
  unfold extractTransports
  rw [bind_eq_ok]
  refine exists_congr fun value => and_congr findObject_eq_ok ?_
  have hreads := @readsArray_eq_ok _ _ extract R hextract (TraceDeep.new tracePath key)
    (key ++ " empty") value pure transports
  simpa only [bind_pure, pure_eq_ok, exists_eq_right] using hreads

theorem MasterConfig.new_eq_ok {config : MasterConfig} :
    MasterConfig.new contrib tracePath obj = .ok config ↔ config.Reads contrib obj := by
  unfold MasterConfig.new
  simp only [bind_eq_ok, extractUnsignedNumber_eq_ok, extractUnitIdRangeSet_eq_ok, pure_eq_ok]
  constructor
  · rintro ⟨n, ⟨value, hfind, hn⟩, ranges, hranges, rfl⟩
    exact ⟨⟨value, hfind, n, hn, rfl⟩, exists_getD_eq.mp ⟨_, hranges, rfl⟩⟩
  · rintro ⟨⟨value, hfind, n, hn, htimeout⟩, hset⟩
    obtain ⟨ranges, hranges, hset⟩ := exists_getD_eq.mpr hset
    exact ⟨n, ⟨value, hfind, hn⟩, ranges, hranges, by rw [htimeout, hset]⟩

/-! ### Slaves and masters -/

theorem TcpServerConfig.new_eq_ok {config : TcpServerConfig} :
    TcpServerConfig.new contrib tracePath obj = .ok config ↔
      ReadsOr obj keys.ipAddress (ReadsName contrib.makeAddressV4) 0 config.address ∧
        obj.Has keys.ipPort (contrib.ReadsIpPort · config.port) := by
  unfold TcpServerConfig.new
  simp only [bind_eq_ok, extractIpAddressOptional_eq_ok, extractIpPort_eq_ok, pure_eq_ok]
  constructor
  · rintro ⟨address, haddress, port, hport, rfl⟩
    exact ⟨exists_getD_eq.mp ⟨_, haddress, rfl⟩, hport⟩
  · rintro ⟨haddress, hport⟩
    obtain ⟨address, haddress, heq⟩ := exists_getD_eq.mpr haddress
    exact ⟨address, haddress, _, hport, by rw [heq]⟩

theorem RtuSlaveConfig.new_eq_ok {frameType : FrameType} {config : RtuSlaveConfig} :
    RtuSlaveConfig.new contrib tracePath obj frameType = .ok config ↔
      config.frameType = frameType ∧ obj.find keys.device = some (.string config.device) ∧
        config.rtuOptions.Reads contrib obj := by
  unfold RtuSlaveConfig.new
  simp only [bind_eq_ok, extractString_eq_ok, extractRtuOptions_eq_ok, pure_eq_ok]
  constructor
  · rintro ⟨device, hdevice, rtuOptions, hoptions, rfl⟩
    exact ⟨rfl, hdevice, hoptions⟩
  · rintro ⟨rfl, hdevice, hoptions⟩
    exact ⟨_, hdevice, _, hoptions, rfl⟩

theorem TcpClientConfig.new_eq_ok {config : TcpClientConfig} :
    TcpClientConfig.new contrib tracePath obj = .ok config ↔
      config.toMasterConfig.Reads contrib obj ∧
        obj.Has keys.ipAddress (ReadsName contrib.makeAddressV4 · config.address) ∧
        obj.Has keys.ipPort (contrib.ReadsIpPort · config.port) := by
  unfold TcpClientConfig.new
  simp only [bind_eq_ok, MasterConfig.new_eq_ok, extractIpAddress_eq_ok, extractIpPort_eq_ok,
    pure_eq_ok]
  constructor
  · rintro ⟨masterConfig, hmaster, address, haddress, port, hport, rfl⟩
    exact ⟨hmaster, haddress, hport⟩
  · rintro ⟨hmaster, haddress, hport⟩
    exact ⟨_, hmaster, _, haddress, _, hport, rfl⟩

theorem RtuMasterConfig.new_eq_ok {frameType : FrameType} {config : RtuMasterConfig} :
    RtuMasterConfig.new contrib tracePath obj frameType = .ok config ↔
      config.frameType = frameType ∧ config.toMasterConfig.Reads contrib obj ∧
        obj.find keys.device = some (.string config.device) ∧
        config.rtuOptions.Reads contrib obj := by
  unfold RtuMasterConfig.new
  simp only [bind_eq_ok, MasterConfig.new_eq_ok, extractString_eq_ok, extractRtuOptions_eq_ok,
    pure_eq_ok]
  constructor
  · rintro ⟨masterConfig, hmaster, device, hdevice, rtuOptions, hoptions, rfl⟩
    exact ⟨rfl, hmaster, hdevice, hoptions⟩
  · rintro ⟨rfl, hmaster, hdevice, hoptions⟩
    exact ⟨_, hmaster, _, hdevice, _, hoptions, rfl⟩

theorem extractSlave_eq_ok {config : TransportConfig} :
    extractSlave contrib tracePath obj = .ok config ↔ config.ReadsSlave contrib obj := by
  have hserial : ∀ frameType : FrameType, frameType ≠ .TCP →
      obj.Has keys.frameType (ReadsName convertFrameType · frameType) →
      (RtuSlaveConfig.new contrib tracePath obj frameType >>= fun slave => pure (.RtuSlave slave)) =
        .ok config → config.ReadsSlave contrib obj := by
    -- the two branches of a serial port differ in nothing but the frame type
    intro frameType hne hframe h
    obtain ⟨slave, hnew, ⟨⟩⟩ := bind_eq_ok.mp h
    obtain ⟨rfl, hdevice, hoptions⟩ := RtuSlaveConfig.new_eq_ok.mp hnew
    exact .RtuSlave hframe hne hdevice hoptions
  unfold extractSlave
  simp only [bind_eq_ok, extractFrameType_eq_ok]
  constructor
  · rintro ⟨frameType, hframe, h⟩
    cases frameType with
    | TCP =>
      obtain ⟨server, hnew, ⟨⟩⟩ := bind_eq_ok.mp h
      obtain ⟨haddress, hport⟩ := TcpServerConfig.new_eq_ok.mp hnew
      exact .TcpServer hframe haddress hport
    | RTU => exact hserial .RTU (by decide) hframe h
    | ASCII => exact hserial .ASCII (by decide) hframe h
  · intro h
    cases h with
    | TcpServer hframe haddress hport =>
      exact ⟨.TCP, hframe, bind_eq_ok.mpr
        ⟨_, TcpServerConfig.new_eq_ok.mpr ⟨haddress, hport⟩, rfl⟩⟩
    | RtuSlave hframe hne hdevice hoptions =>
      rename_i slave
      have hnew : RtuSlaveConfig.new contrib tracePath obj slave.frameType = .ok slave :=
        RtuSlaveConfig.new_eq_ok.mpr ⟨rfl, hdevice, hoptions⟩
      -- the branch that is taken is that of the frame type that the object stores
      refine ⟨slave.frameType, hframe, ?_⟩
      revert hnew hne
      cases slave.frameType with
      | TCP => exact fun hne _ => absurd rfl hne
      | RTU => exact fun _ hnew => bind_eq_ok.mpr ⟨slave, hnew, rfl⟩
      | ASCII => exact fun _ hnew => bind_eq_ok.mpr ⟨slave, hnew, rfl⟩

theorem extractSlaves_eq_ok {slaves : List TransportConfig} :
    extractSlaves contrib tracePath obj = .ok slaves ↔
      obj.Has keys.slaves (ReadsArray (TransportConfig.ReadsSlave contrib) · slaves) := by
  have hslave : ∀ tracePath element config, extractSlave contrib tracePath element = .ok config ↔
      config.ReadsSlave contrib element := fun _ _ _ => extractSlave_eq_ok
  exact extractTransports_eq_ok hslave

theorem extractMaster_eq_ok {config : TransportConfig} :
    extractMaster contrib tracePath obj = .ok config ↔ config.ReadsMaster contrib obj := by
  have hserial : ∀ frameType : FrameType, frameType ≠ .TCP →
      obj.Has keys.frameType (ReadsName convertFrameType · frameType) →
      (RtuMasterConfig.new contrib tracePath obj frameType >>= fun master =>
        pure (.RtuMaster master)) = .ok config → config.ReadsMaster contrib obj := by
    -- the two branches of a serial port differ in nothing but the frame type
    intro frameType hne hframe h
    obtain ⟨master, hnew, ⟨⟩⟩ := bind_eq_ok.mp h
    obtain ⟨rfl, hmaster, hdevice, hoptions⟩ := RtuMasterConfig.new_eq_ok.mp hnew
    exact .RtuMaster hframe hne hmaster hdevice hoptions
  unfold extractMaster
  simp only [bind_eq_ok, extractFrameType_eq_ok]
  constructor
  · rintro ⟨frameType, hframe, h⟩
    cases frameType with
    | TCP =>
      obtain ⟨client, hnew, ⟨⟩⟩ := bind_eq_ok.mp h
      obtain ⟨hmaster, haddress, hport⟩ := TcpClientConfig.new_eq_ok.mp hnew
      exact .TcpClient hframe hmaster haddress hport
    | RTU => exact hserial .RTU (by decide) hframe h
    | ASCII => exact hserial .ASCII (by decide) hframe h
  · intro h
    cases h with
    | TcpClient hframe hmaster haddress hport =>
      exact ⟨.TCP, hframe, bind_eq_ok.mpr
        ⟨_, TcpClientConfig.new_eq_ok.mpr ⟨hmaster, haddress, hport⟩, rfl⟩⟩
    | RtuMaster hframe hne hmaster hdevice hoptions =>
      rename_i master
      have hnew : RtuMasterConfig.new contrib tracePath obj master.frameType = .ok master :=
        RtuMasterConfig.new_eq_ok.mpr ⟨rfl, hmaster, hdevice, hoptions⟩
      -- the branch that is taken is that of the frame type that the object stores
      refine ⟨master.frameType, hframe, ?_⟩
      revert hnew hne
      cases master.frameType with
      | TCP => exact fun hne _ => absurd rfl hne
      | RTU => exact fun _ hnew => bind_eq_ok.mpr ⟨master, hnew, rfl⟩
      | ASCII => exact fun _ hnew => bind_eq_ok.mpr ⟨master, hnew, rfl⟩

theorem extractMasters_eq_ok {masters : List TransportConfig} :
    extractMasters contrib tracePath obj = .ok masters ↔
      obj.Has keys.masters (ReadsArray (TransportConfig.ReadsMaster contrib) · masters) := by
  have hmaster : ∀ tracePath element config, extractMaster contrib tracePath element = .ok config ↔
      config.ReadsMaster contrib element := fun _ _ _ => extractMaster_eq_ok
  exact extractTransports_eq_ok hmaster

/-- **The constructor yields a configuration exactly if it can be read.** -/
theorem Config.new_eq_ok {data : Json} {config : Config} :
    Config.new contrib data = .ok config ↔ config.Reads contrib data := by
  unfold Config.new
  simp only [bind_eq_ok, extractConfigService_eq_ok, extractSlaves_eq_ok, extractMasters_eq_ok,
    pure_eq_ok]
  constructor
  · rintro ⟨configService, hservice, slaves, hslaves, masters, hmasters, rfl⟩
    exact ⟨hservice, hslaves, hmasters⟩
  · rintro ⟨hservice, hslaves, hmasters⟩
    exact ⟨_, hservice, _, hslaves, _, hmasters, rfl⟩

end ModbusGateway
