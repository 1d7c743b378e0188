import ModbusGateway.Config.Reading

/-!
# The format of a configuration

What a document has to have, as its reader would say it, for any tests of the numbers in it;
and the two tests that matter here: of the numbers as they are written, and of what the
extractors make of them.

## Main definitions

* `Json.number` — the number that is written.
* `NumberTests`, `NumberTests.written`, `NumberTests.read` — tests of the numbers.
* `Format`, `Numbers` — the format, and what it says of the numbers alone.
* `Config.Mirrors` — there is a transport for each element, of the class that it names.

## Main results

* `format_iff` — **a stricter test of the numbers says nothing of anything else.**
* `written_le_read` — a number that is written as the format has it is read so.
-/

namespace ModbusGateway

/-- The number that is written: the value that `json::parse` has made of it. -/
def Json.number : Json → Option ℚ
  | .numberUnsigned n => some n.toNat
  | .numberInteger i => some i.toInt
  | .numberFloat x => some x
  | _ => none

/-- If the object has a member under the key, `P` holds of it. -/
def Json.MayHave (obj : Json) (key : String) (P : Json → Prop) : Prop :=
  ∀ value, obj.find key = some value → P value

/-- A number is written. -/
def IsNumber (value : Json) : Prop := ∃ x, value.number = some x

/-- An integer between the bounds is written. -/
def WrittenBetween (min max : ℕ) (value : Json) : Prop :=
  ∃ n : ℕ, value.number = some (n : ℚ) ∧ min ≤ n ∧ n ≤ max

/-- One of the names is written. -/
def Named (names : List String) (value : Json) : Prop := ∃ s ∈ names, value = .string s

/-- A boolean is written. -/
def IsBoolean (value : Json) : Prop := ∃ b, value = .boolean b

/-- An IPv4 address is written. -/
def Contrib.IsAddress (contrib : Contrib) (value : Json) : Prop :=
  ∃ s, value = .string s ∧ contrib.makeAddressV4 s ≠ none

/-- An array that is not empty, of elements that have `P`. -/
def IsArrayOf (P : Json → Prop) (value : Json) : Prop :=
  ∃ elements, value = .array elements ∧ elements ≠ [] ∧ ∀ element ∈ elements, P element

/-- A test for each kind of number in a configuration, of the value that `json::parse` yields. -/
structure NumberTests where
  threads : Json → Prop
  ipPort : Json → Prop
  timeout : Json → Prop
  baudRate : Json → Prop
  characterSize : Json → Prop
  stopBits : Json → Prop
  delay : Json → Prop
  unitId : Json → Prop

/-- One test admits what the other one admits. -/
structure NumberTests.Le (t s : NumberTests) : Prop where
  threads : ∀ value, t.threads value → s.threads value
  ipPort : ∀ value, t.ipPort value → s.ipPort value
  timeout : ∀ value, t.timeout value → s.timeout value
  baudRate : ∀ value, t.baudRate value → s.baudRate value
  characterSize : ∀ value, t.characterSize value → s.characterSize value
  stopBits : ∀ value, t.stopBits value → s.stopBits value
  delay : ∀ value, t.delay value → s.delay value
  unitId : ∀ value, t.unitId value → s.unitId value

/-! ### The format -/

section Format

variable (contrib : Contrib) (t : NumberTests)

/-- The service. -/
structure ServiceFormat (value : Json) : Prop where
  type : convertJsonTypeToValueType value = .Object
  logLevel : value.MayHave keys.logLevel
    (Named ["trace", "debug", "info", "warning", "error", "critical"])
  threads : value.MayHave keys.threads t.threads

/-- The object under `rs485`. -/
structure Rs485Format (value : Json) : Prop where
  type : convertJsonTypeToValueType value = .Object
  rtsOnSend : value.MayHave keys.rtsOnSend IsBoolean
  rtsAfterSend : value.MayHave keys.rtsAfterSend IsBoolean
  rxDuringTx : value.MayHave keys.rxDuringTx IsBoolean
  terminateBus : value.MayHave keys.terminateBus IsBoolean
  delayRtsBeforeSend : value.MayHave keys.delayRtsBeforeSend t.delay
  delayRtsAfterSend : value.MayHave keys.delayRtsAfterSend t.delay

/-- The members of an element that is not a TCP one. -/
structure RtuFormat (obj : Json) : Prop where
  device : obj.Has keys.device (∃ s, · = .string s)
  baudRate : obj.MayHave keys.baudRate t.baudRate
  characterSize : obj.MayHave keys.characterSize t.characterSize
  parity : obj.MayHave keys.parity (Named ["none", "odd", "even"])
  stopBits : obj.MayHave keys.stopBits t.stopBits
  flowControl : obj.MayHave keys.flowControl (Named ["none", "software", "hardware"])
  rs485 : obj.MayHave keys.rs485 (Rs485Format t)

/-- An element of `unit_id`. -/
inductive RangeFormat (obj : Json) : Prop
  | range (type : obj.find keys.numericRangeType = some (.string "range"))
      (hbegin : obj.Has keys.numericRangeBegin t.unitId)
      (hend : obj.Has keys.numericRangeEnd t.unitId)
  | value (type : obj.find keys.numericRangeType = some (.string "value"))
      (hvalue : obj.Has keys.numericRangeValue t.unitId)

/-- An element of `slaves`. -/
inductive SlaveFormat (obj : Json) : Prop
  | tcp (frameType : obj.find keys.frameType = some (.string "tcp"))
      (address : obj.MayHave keys.ipAddress contrib.IsAddress)
      (port : obj.Has keys.ipPort t.ipPort)
  | rtu (frameType : obj.Has keys.frameType (Named ["rtu", "ascii"]))
      (rtu : RtuFormat t obj)

/-- What every element of `masters` has. -/
structure AnyMasterFormat (obj : Json) : Prop where
  timeout : obj.Has keys.timeout t.timeout
  unitIdSet : obj.MayHave keys.unitIdSet (IsArrayOf (RangeFormat t))

/-- An element of `masters`. -/
inductive MasterFormat (obj : Json) : Prop
  | tcp (frameType : obj.find keys.frameType = some (.string "tcp"))
      (master : AnyMasterFormat t obj)
      (address : obj.Has keys.ipAddress contrib.IsAddress)
      (port : obj.Has keys.ipPort t.ipPort)
  | rtu (frameType : obj.Has keys.frameType (Named ["rtu", "ascii"]))
      (master : AnyMasterFormat t obj)
      (rtu : RtuFormat t obj)

/-- The root. -/
structure Format (data : Json) : Prop where
  service : data.Has keys.service (ServiceFormat t)
  slaves : data.Has keys.slaves (IsArrayOf (SlaveFormat contrib t))
  masters : data.Has keys.masters (IsArrayOf (MasterFormat contrib t))
  default : data.MayHave keys.masters fun value =>
    (elements value).countP (fun element => (element.find keys.unitIdSet).isNone) ≤ 1

end Format

/-! ### The classes of the transports -/

/-- A slave is of the class, and has the frame type, that its element names. -/
inductive MirrorsSlave (obj : Json) : TransportConfig → Prop
  | tcp (frameType : obj.find keys.frameType = some (.string "tcp")) (config : TcpServerConfig) :
      MirrorsSlave obj (.TcpServer config)
  | rtu (frameType : obj.find keys.frameType = some (.string "rtu")) (config : RtuSlaveConfig)
      (h : config.frameType = .RTU) : MirrorsSlave obj (.RtuSlave config)
  | ascii (frameType : obj.find keys.frameType = some (.string "ascii"))
      (config : RtuSlaveConfig) (h : config.frameType = .ASCII) :
      MirrorsSlave obj (.RtuSlave config)

/-- A master is of the class, and has the frame type, that its element names. -/
inductive MirrorsMaster (obj : Json) : TransportConfig → Prop
  | tcp (frameType : obj.find keys.frameType = some (.string "tcp")) (config : TcpClientConfig) :
      MirrorsMaster obj (.TcpClient config)
  | rtu (frameType : obj.find keys.frameType = some (.string "rtu")) (config : RtuMasterConfig)
      (h : config.frameType = .RTU) : MirrorsMaster obj (.RtuMaster config)
  | ascii (frameType : obj.find keys.frameType = some (.string "ascii"))
      (config : RtuMasterConfig) (h : config.frameType = .ASCII) :
      MirrorsMaster obj (.RtuMaster config)

/-- There is a transport for each element of the arrays, in their order. -/
structure Config.Mirrors (data : Json) (config : Config) : Prop where
  slaves : ∃ elements, data.find keys.slaves = some (.array elements) ∧
    List.Forall₂ MirrorsSlave elements config.slaves
  masters : ∃ elements, data.find keys.masters = some (.array elements) ∧
    List.Forall₂ MirrorsMaster elements config.masters

/-! ### The numbers in it -/

section Numbers

variable (t : NumberTests)

/-- The numbers under `rs485`. -/
structure Rs485Numbers (value : Json) : Prop where
  delayRtsBeforeSend : value.MayHave keys.delayRtsBeforeSend t.delay
  delayRtsAfterSend : value.MayHave keys.delayRtsAfterSend t.delay

/-- The numbers of an element, which depend on its frame type. -/
structure TransportNumbers (obj : Json) : Prop where
  ipPort : obj.find keys.frameType = some (.string "tcp") → obj.MayHave keys.ipPort t.ipPort
  baudRate : obj.Has keys.frameType (Named ["rtu", "ascii"]) →
    obj.MayHave keys.baudRate t.baudRate
  characterSize : obj.Has keys.frameType (Named ["rtu", "ascii"]) →
    obj.MayHave keys.characterSize t.characterSize
  stopBits : obj.Has keys.frameType (Named ["rtu", "ascii"]) →
    obj.MayHave keys.stopBits t.stopBits
  rs485 : obj.Has keys.frameType (Named ["rtu", "ascii"]) →
    obj.MayHave keys.rs485 (Rs485Numbers t)

/-- The numbers of an element of `unit_id`. -/
structure RangeNumbers (obj : Json) : Prop where
  range : obj.find keys.numericRangeType = some (.string "range") →
    obj.MayHave keys.numericRangeBegin t.unitId ∧ obj.MayHave keys.numericRangeEnd t.unitId
  value : obj.find keys.numericRangeType = some (.string "value") →
    obj.MayHave keys.numericRangeValue t.unitId

/-- The numbers of an element of `masters`. -/
structure MasterNumbers (obj : Json) : Prop extends TransportNumbers t obj where
  timeout : obj.MayHave keys.timeout t.timeout
  unitIdSet : obj.MayHave keys.unitIdSet fun value => ∀ element ∈ elements value,
    RangeNumbers t element

/-- The numbers of the root. -/
structure Numbers (data : Json) : Prop where
  service : data.MayHave keys.service fun value => value.MayHave keys.threads t.threads
  slaves : data.MayHave keys.slaves fun value => ∀ element ∈ elements value,
    TransportNumbers t element
  masters : data.MayHave keys.masters fun value => ∀ element ∈ elements value,
    MasterNumbers t element

end Numbers

/-! ### The format and its numbers -/

theorem Json.Has.mono {obj : Json} {key : String} {P Q : Json → Prop}
    (h : obj.Has key P) (hPQ : ∀ value, P value → Q value) : obj.Has key Q := by
  obtain ⟨value, hfind, hP⟩ := h
  exact ⟨value, hfind, hPQ value hP⟩

theorem Json.MayHave.mono {obj : Json} {key : String} {P Q : Json → Prop}
    (h : obj.MayHave key P) (hPQ : ∀ value, P value → Q value) : obj.MayHave key Q :=
  fun value hfind => hPQ value (h value hfind)

theorem Json.Has.mayHave {obj : Json} {key : String} {P : Json → Prop} (h : obj.Has key P) :
    obj.MayHave key P := by
  obtain ⟨value, hfind, hP⟩ := h
  intro value' hfind'
  exact Option.some.inj (hfind.symm.trans hfind') ▸ hP

/-- A member that is there has what it may have. -/
theorem Json.Has.and {obj : Json} {key : String} {P Q : Json → Prop} (h : obj.Has key P)
    (hQ : obj.MayHave key Q) : obj.Has key fun value => P value ∧ Q value := by
  obtain ⟨value, hfind, hP⟩ := h
  exact ⟨value, hfind, hP, hQ value hfind⟩

variable {contrib : Contrib} {t s : NumberTests} {obj value data : Json} {key : String}

theorem IsArrayOf.forall {P : Json → Prop} (h : IsArrayOf P value) :
    ∀ element ∈ elements value, P element := by
  obtain ⟨elements, rfl, -, hall⟩ := h
  exact hall

theorem IsArrayOf.mono {P Q : Json → Prop} (h : IsArrayOf P value)
    (hPQ : ∀ element ∈ elements value, P element → Q element) : IsArrayOf Q value := by
  obtain ⟨elements, rfl, hne, hall⟩ := h
  exact ⟨elements, rfl, hne, fun element hmem => hPQ element hmem (hall element hmem)⟩

/-- A member that is there and may be of a kind is of that kind. -/
theorem Json.MayHave.has {P Q : Json → Prop} (h : obj.MayHave key Q) (hP : obj.Has key P) :
    obj.Has key Q :=
  (hP.and h).mono fun _ => And.right

theorem rs485Format_iff (hle : t.Le s) :
    Rs485Format t value ↔ Rs485Format s value ∧ Rs485Numbers t value := by
  constructor
  · intro h
    exact ⟨{ h with
      delayRtsBeforeSend := h.delayRtsBeforeSend.mono hle.delay
      delayRtsAfterSend := h.delayRtsAfterSend.mono hle.delay },
      ⟨h.delayRtsBeforeSend, h.delayRtsAfterSend⟩⟩
  · rintro ⟨h, hn⟩
    exact { h with
      delayRtsBeforeSend := hn.delayRtsBeforeSend
      delayRtsAfterSend := hn.delayRtsAfterSend }

/-- An element has one frame type. -/
theorem not_rtu_of_tcp (htcp : obj.find keys.frameType = some (.string "tcp")) :
    ¬ obj.Has keys.frameType (Named ["rtu", "ascii"]) := by
  rintro ⟨value, hfind, name, hname, rfl⟩
  obtain rfl : "tcp" = name := by simpa using htcp.symm.trans hfind
  exact absurd hname (by decide)

/-- What an RTU or ASCII element says of its numbers. -/
theorem rtuFormat_iff (hle : t.Le s) (hframe : obj.Has keys.frameType (Named ["rtu", "ascii"])) :
    RtuFormat t obj ↔ RtuFormat s obj ∧ TransportNumbers t obj := by
  constructor
  · intro h
    exact ⟨{ h with
      baudRate := h.baudRate.mono hle.baudRate
      characterSize := h.characterSize.mono hle.characterSize
      stopBits := h.stopBits.mono hle.stopBits
      rs485 := h.rs485.mono fun _ hv => ((rs485Format_iff hle).mp hv).1 },
      fun htcp => absurd hframe (not_rtu_of_tcp htcp), fun _ => h.baudRate,
      fun _ => h.characterSize, fun _ => h.stopBits,
      fun _ => h.rs485.mono fun _ hv => ((rs485Format_iff hle).mp hv).2⟩
  · rintro ⟨h, hn⟩
    exact { h with
      baudRate := hn.baudRate hframe
      characterSize := hn.characterSize hframe
      stopBits := hn.stopBits hframe
      rs485 := fun value hfind =>
        (rs485Format_iff hle).mpr ⟨h.rs485 value hfind, hn.rs485 hframe value hfind⟩ }

/-- What a TCP element says of its numbers. -/
theorem tcpNumbers_iff (hframe : obj.find keys.frameType = some (.string "tcp")) :
    TransportNumbers t obj ↔ obj.MayHave keys.ipPort t.ipPort := by
  have hrtu := not_rtu_of_tcp hframe
  exact ⟨fun h => h.ipPort hframe, fun h => ⟨fun _ => h, fun hr => absurd hr hrtu,
    fun hr => absurd hr hrtu, fun hr => absurd hr hrtu, fun hr => absurd hr hrtu⟩⟩

theorem slaveFormat_iff (hle : t.Le s) :
    SlaveFormat contrib t obj ↔ SlaveFormat contrib s obj ∧ TransportNumbers t obj := by
  constructor
  · intro h
    cases h with
    | tcp hframe haddress hport =>
      exact ⟨.tcp hframe haddress (hport.mono hle.ipPort),
        (tcpNumbers_iff hframe).mpr hport.mayHave⟩
    | rtu hframe hrtu =>
      obtain ⟨hrtu, hn⟩ := (rtuFormat_iff hle hframe).mp hrtu
      exact ⟨.rtu hframe hrtu, hn⟩
  · rintro ⟨h, hn⟩
    cases h with
    | tcp hframe haddress hport => exact .tcp hframe haddress ((hn.ipPort hframe).has hport)
    | rtu hframe hrtu => exact .rtu hframe ((rtuFormat_iff hle hframe).mpr ⟨hrtu, hn⟩)

theorem rangeFormat_iff (hle : t.Le s) :
    RangeFormat t obj ↔ RangeFormat s obj ∧ RangeNumbers t obj := by
  have hne : ∀ {name name' : String}, obj.find keys.numericRangeType = some (.string name) →
      obj.find keys.numericRangeType = some (.string name') → name = name' := by
    intro name name' h h'
    simpa using h.symm.trans h'
  constructor
  · intro h
    cases h with
    | range htype hbegin hend =>
      exact ⟨.range htype (hbegin.mono hle.unitId) (hend.mono hle.unitId),
        fun _ => ⟨hbegin.mayHave, hend.mayHave⟩,
        fun htype' => absurd (hne htype htype') (by decide)⟩
    | value htype hvalue =>
      exact ⟨.value htype (hvalue.mono hle.unitId),
        fun htype' => absurd (hne htype htype') (by decide), fun _ => hvalue.mayHave⟩
  · rintro ⟨h, hn⟩
    cases h with
    | range htype hbegin hend =>
      exact .range htype ((hn.range htype).1.has hbegin) ((hn.range htype).2.has hend)
    | value htype hvalue => exact .value htype ((hn.value htype).has hvalue)

theorem anyMasterFormat_iff (hle : t.Le s) :
    AnyMasterFormat t obj ↔ AnyMasterFormat s obj ∧ obj.MayHave keys.timeout t.timeout ∧
      obj.MayHave keys.unitIdSet fun value => ∀ element ∈ elements value,
        RangeNumbers t element := by
  constructor
  · intro h
    refine ⟨⟨h.timeout.mono hle.timeout, h.unitIdSet.mono fun value hv => hv.mono fun _ _ =>
      fun hr => ((rangeFormat_iff hle).mp hr).1⟩, h.timeout.mayHave, ?_⟩
    exact h.unitIdSet.mono fun value hv element hmem =>
      ((rangeFormat_iff hle).mp (hv.forall element hmem)).2
  · rintro ⟨h, htimeout, hset⟩
    refine ⟨htimeout.has h.timeout, fun value hfind => ?_⟩
    exact (h.unitIdSet value hfind).mono fun element hmem hr =>
      (rangeFormat_iff hle).mpr ⟨hr, hset value hfind element hmem⟩

theorem masterFormat_iff (hle : t.Le s) :
    MasterFormat contrib t obj ↔ MasterFormat contrib s obj ∧ MasterNumbers t obj := by
  constructor
  · intro h
    cases h with
    | tcp hframe hmaster haddress hport =>
      obtain ⟨hmaster, htimeout, hset⟩ := (anyMasterFormat_iff hle).mp hmaster
      exact ⟨.tcp hframe hmaster haddress (hport.mono hle.ipPort),
        ⟨(tcpNumbers_iff hframe).mpr hport.mayHave, htimeout, hset⟩⟩
    | rtu hframe hmaster hrtu =>
      obtain ⟨hmaster, htimeout, hset⟩ := (anyMasterFormat_iff hle).mp hmaster
      obtain ⟨hrtu, hn⟩ := (rtuFormat_iff hle hframe).mp hrtu
      exact ⟨.rtu hframe hmaster hrtu, ⟨hn, htimeout, hset⟩⟩
  · rintro ⟨h, hn⟩
    cases h with
    | tcp hframe hmaster haddress hport =>
      exact .tcp hframe ((anyMasterFormat_iff hle).mpr ⟨hmaster, hn.timeout, hn.unitIdSet⟩)
        haddress ((hn.ipPort hframe).has hport)
    | rtu hframe hmaster hrtu =>
      exact .rtu hframe ((anyMasterFormat_iff hle).mpr ⟨hmaster, hn.timeout, hn.unitIdSet⟩)
        ((rtuFormat_iff hle hframe).mpr ⟨hrtu, hn.toTransportNumbers⟩)

/-- **A format that tests the numbers more strictly** says the same of everything else. -/
theorem format_iff (hle : t.Le s) :
    Format contrib t data ↔ Format contrib s data ∧ Numbers t data := by
  constructor
  · intro h
    refine ⟨⟨h.service.mono fun value hv => ⟨hv.type, hv.logLevel, hv.threads.mono hle.threads⟩,
      h.slaves.mono fun _ hv => hv.mono fun _ _ hs => ((slaveFormat_iff hle).mp hs).1,
      h.masters.mono fun _ hv => hv.mono fun _ _ hm => ((masterFormat_iff hle).mp hm).1,
      h.default⟩, ?_, ?_, ?_⟩
    · exact h.service.mayHave.mono fun _ hv => hv.threads
    · exact h.slaves.mayHave.mono fun _ hv element hmem =>
        ((slaveFormat_iff hle).mp (hv.forall element hmem)).2
    · exact h.masters.mayHave.mono fun _ hv element hmem =>
        ((masterFormat_iff hle).mp (hv.forall element hmem)).2
  · rintro ⟨h, hn⟩
    refine ⟨(h.service.and hn.service).mono fun _ ⟨hv, hthreads⟩ =>
      ⟨hv.type, hv.logLevel, hthreads⟩, ?_, ?_, h.default⟩
    · exact (h.slaves.and hn.slaves).mono fun _ ⟨hv, hall⟩ => hv.mono fun element hmem hs =>
        (slaveFormat_iff hle).mpr ⟨hs, hall element hmem⟩
    · exact (h.masters.and hn.masters).mono fun _ ⟨hv, hall⟩ => hv.mono fun element hmem hm =>
        (masterFormat_iff hle).mpr ⟨hm, hall element hmem⟩

/-! ### Numbers as they are written and as they are read -/

/-- The conversion to an unsigned 64-bit number yields one between the bounds. -/
def Contrib.ReadBetween (contrib : Contrib) (min max : ℕ) (value : Json) : Prop :=
  ∃ n, value.getUnsigned 64 contrib.outOfRange = some n ∧ min ≤ n ∧ n ≤ max

/-- The numbers of the format, as they are written: each is the number that `json::parse` makes of
the text. -/
def NumberTests.written (contrib : Contrib) : NumberTests where
  threads := IsNumber
  ipPort := WrittenBetween 1 65535
  timeout := IsNumber
  baudRate := IsNumber
  characterSize := WrittenBetween 5 8
  stopBits value := value.number = some 1 ∨ value.number = some (3 / 2) ∨ value.number = some 2
  delay := IsNumber
  unitId := WrittenBetween contrib.unitIdMin.toNat contrib.unitIdMax.toNat

/-- The numbers of the format, as the extractors test them: after the conversion to an unsigned
64-bit number, which of a character size the low 32 bits are left of, or to a `float`. -/
def NumberTests.read (contrib : Contrib) : NumberTests where
  threads := IsNumber
  ipPort := contrib.ReadBetween 1 65535
  timeout := IsNumber
  baudRate := IsNumber
  characterSize value := ∃ n, value.getUnsigned 64 contrib.outOfRange = some n ∧
    5 ≤ n % 2 ^ 32 ∧ n % 2 ^ 32 ≤ 8
  stopBits value := ∃ x, value.getFloat = some x ∧ convertStopBits x ≠ none
  delay := IsNumber
  unitId := contrib.ReadBetween contrib.unitIdMin.toNat contrib.unitIdMax.toNat

/-- The integral part of an integer. -/
theorem truncate_intCast (i : ℤ) : truncate i = i := by
  unfold truncate
  split <;> simp

/-- A natural number that fits is converted to itself. -/
theorem getUnsigned_of_number {bits n : ℕ} {outOfRange : ℚ → ℕ}
    (hnumber : value.number = some (n : ℚ)) (hn : n < 2 ^ bits) :
    value.getUnsigned bits outOfRange = some n := by
  cases value with
  | numberUnsigned m =>
    obtain rfl : m.toNat = n := by simpa [Json.number] using hnumber
    exact congrArg some (Nat.mod_eq_of_lt hn)
  | numberInteger i =>
    have hi : i.toInt = n := by
      have := Option.some.inj hnumber
      exact_mod_cast this
    have hmod : (n : ℤ) % 2 ^ bits = n := Int.emod_eq_of_lt (by omega) (by exact_mod_cast hn)
    simp only [Json.getUnsigned, hi, hmod, Int.toNat_natCast]
  | numberFloat x =>
    obtain rfl : x = ((n : ℤ) : ℚ) := by simpa [Json.number] using hnumber
    have hrange : 0 ≤ (n : ℤ) ∧ (n : ℤ) < 2 ^ bits := ⟨by omega, by exact_mod_cast hn⟩
    simp only [Json.getUnsigned, truncate_intCast, Int.toNat_natCast]
    rw [if_pos hrange]
  | null => cases hnumber
  | boolean b => cases hnumber
  | string s => cases hnumber
  | array elements => cases hnumber
  | object members => cases hnumber

/-- What a number is converted to fits. -/
theorem getUnsigned_lt {bits n : ℕ} {outOfRange : ℚ → ℕ}
    (h : value.getUnsigned bits outOfRange = some n) : n < 2 ^ bits := by
  have hpos : 0 < 2 ^ bits := Nat.two_pow_pos bits
  cases value with
  | numberUnsigned m =>
    obtain rfl : m.toNat % 2 ^ bits = n := Option.some.inj h
    exact Nat.mod_lt _ hpos
  | numberInteger i =>
    obtain rfl : (i.toInt % 2 ^ bits).toNat = n := Option.some.inj h
    have hlt : i.toInt % 2 ^ bits < 2 ^ bits := Int.emod_lt_of_pos _ (by exact_mod_cast hpos)
    have hnonneg : 0 ≤ i.toInt % 2 ^ bits := Int.emod_nonneg _ (by exact_mod_cast hpos.ne')
    zify
    rw [Int.toNat_of_nonneg hnonneg]
    exact hlt
  | numberFloat x =>
    simp only [Json.getUnsigned] at h
    split at h
    next hrange =>
      -- the number has a value in the type once its fraction is cut off
      obtain rfl := Option.some.inj h
      zify
      rw [Int.toNat_of_nonneg hrange.1]
      exact hrange.2
    next =>
      obtain rfl := Option.some.inj h
      exact Nat.mod_lt _ hpos
  | null => cases h
  | boolean b => cases h
  | string s => cases h
  | array elements => cases h
  | object members => cases h

/-- Every number is converted. -/
theorem isNumber_iff {bits : ℕ} {outOfRange : ℚ → ℕ} :
    IsNumber value ↔ ∃ n, value.getUnsigned bits outOfRange = some n := by
  unfold IsNumber
  cases value <;> simp [Json.number, Json.getUnsigned]
  split <;> simp

theorem getFloat_eq : value.getFloat = value.number.map toFloat := by
  cases value <;> rfl

theorem written_le_read : (NumberTests.written contrib).Le (.read contrib) where
  threads _ h := h
  ipPort value := by
    rintro ⟨n, hn, hmin, hmax⟩
    exact ⟨n, getUnsigned_of_number hn (by omega), hmin, hmax⟩
  timeout _ h := h
  baudRate _ h := h
  characterSize value := by
    rintro ⟨n, hn, hmin, hmax⟩
    exact ⟨n, getUnsigned_of_number hn (by omega), by omega, by omega⟩
  stopBits value := by
    intro h
    have hall : ∀ x ∈ [(1 : ℚ), 3 / 2, 2], convertStopBits (toFloat x) ≠ none := by decide +kernel
    obtain ⟨x, hx, hnumber⟩ : ∃ x ∈ [(1 : ℚ), 3 / 2, 2], value.number = some x := by
      simpa [NumberTests.written] using h
    exact ⟨toFloat x, by rw [getFloat_eq, hnumber]; rfl, hall x hx⟩
  delay _ h := h
  unitId value := by
    rintro ⟨n, hn, hmin, hmax⟩
    have hlt := UInt8.toNat_lt contrib.unitIdMax
    exact ⟨n, getUnsigned_of_number hn (by omega), hmin, hmax⟩

end ModbusGateway
