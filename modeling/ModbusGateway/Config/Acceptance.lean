import ModbusGateway.Config.Format

/-!
# What is accepted

What can be read of a document, relation by relation, and with it the documents that the
constructor and `Validate` accept.

* `Config.exists_accepted_iff` — **a configuration is accepted exactly if the document has the
  format**, with the numbers that the extractors make of those written.
* `Config.Accepted.mirrors` — what is accepted mirrors the document.
* `Config.accepts_format_iff` — the format is what is accepted, as long as no number is taken
  for another one.
-/

namespace ModbusGateway

section Acceptance

variable {contrib : Contrib} {obj value data : Json} {key : String}

/-! ### What can be read -/

theorem exists_has {α : Type} {R : Json → α → Prop} :
    (∃ a, obj.Has key (R · a)) ↔ obj.Has key fun value => ∃ a, R value a := by
  constructor
  · rintro ⟨a, value, hfind, ha⟩
    exact ⟨value, hfind, a, ha⟩
  · rintro ⟨value, hfind, a, ha⟩
    exact ⟨a, value, hfind, ha⟩

theorem exists_has_iff {α : Type} {R : Json → α → Prop} {P : Json → Prop}
    (h : ∀ {value}, (∃ a, R value a) ↔ P value) :
    (∃ a, obj.Has key (R · a)) ↔ obj.Has key P :=
  exists_has.trans (exists_congr fun _ => and_congr_right fun _ => h)

theorem exists_readsOpt {α : Type} {R : Json → α → Prop} :
    (∃ r, ReadsOpt obj key R r) ↔ obj.MayHave key fun value => ∃ a, R value a := by
  constructor
  · rintro ⟨_ | a, hread⟩ value hfind
    · cases hfind.symm.trans hread
    · exact (exists_has.mp ⟨a, hread⟩).mayHave value hfind
  · intro h
    cases hfind : obj.find key with
    | none => exact ⟨none, hfind⟩
    | some value =>
      obtain ⟨a, ha⟩ := h value hfind
      exact ⟨some a, value, hfind, ha⟩

theorem exists_readsOpt_iff {α : Type} {R : Json → α → Prop} {P : Json → Prop}
    (h : ∀ {value}, (∃ a, R value a) ↔ P value) :
    (∃ r, ReadsOpt obj key R r) ↔ obj.MayHave key P :=
  exists_readsOpt.trans (forall₂_congr fun _ _ => h)

theorem exists_readsOr {α : Type} {R : Json → α → Prop} {default : α} :
    (∃ a, ReadsOr obj key R default a) ↔ obj.MayHave key fun value => ∃ a, R value a := by
  simp only [← exists_getD_eq, ← exists_readsOpt]
  exact ⟨fun ⟨_, r, hread, _⟩ => ⟨r, hread⟩, fun ⟨r, hread⟩ => ⟨_, r, hread, rfl⟩⟩

theorem exists_readsOr_iff {α : Type} {R : Json → α → Prop} {default : α} {P : Json → Prop}
    (h : ∀ {value}, (∃ a, R value a) ↔ P value) :
    (∃ a, ReadsOr obj key R default a) ↔ obj.MayHave key P :=
  exists_readsOr.trans (forall₂_congr fun _ _ => h)

/-- Elements that can be read one by one can be read together. -/
theorem exists_forall₂ {α γ : Type} {R : α → γ → Prop} {as : List α} :
    (∃ cs, List.Forall₂ R as cs) ↔ ∀ a ∈ as, ∃ c, R a c := by
  induction as with
  | nil => exact ⟨fun _ a ha => (by cases ha), fun _ => ⟨[], .nil⟩⟩
  | cons a as ih =>
    rw [List.forall_mem_cons, ← ih]
    constructor
    · rintro ⟨_, hall⟩
      cases hall with
      | cons hc hcs => exact ⟨⟨_, hc⟩, _, hcs⟩
    · rintro ⟨⟨c, hc⟩, cs, hcs⟩
      exact ⟨c :: cs, .cons hc hcs⟩

theorem exists_readsArray {α : Type} {R : Json → α → Prop} :
    (∃ as, ReadsArray R value as) ↔ IsArrayOf (fun element => ∃ a, R element a) value := by
  constructor
  · rintro ⟨as, elements, rfl, hne, hall⟩
    exact ⟨elements, rfl, hne, exists_forall₂.mp ⟨as, hall⟩⟩
  · rintro ⟨elements, rfl, hne, hall⟩
    obtain ⟨as, hall⟩ := exists_forall₂.mpr hall
    exact ⟨as, elements, rfl, hne, hall⟩

/-- A table has an entry for each of its names. -/
theorem exists_lookup {α : Type} {table : List (String × α)} {name : String} :
    (∃ a, table.lookup name = some a) ↔ name ∈ table.map Prod.fst := by
  induction table with
  | nil => simp
  | cons entry table ih =>
    obtain ⟨name', a⟩ := entry
    by_cases hname : name = name'
    · simp [hname]
    · simp [List.lookup_cons, beq_false_of_ne hname, ih, hname]

/-- What a table has an entry for is one of its names. -/
theorem exists_readsName {α : Type} {table : List (String × α)} :
    (∃ a, ReadsName (table.lookup ·) value a) ↔ Named (table.map Prod.fst) value := by
  simp only [Named, ← exists_lookup]
  constructor
  · rintro ⟨a, name, hname, ha⟩
    exact ⟨name, ⟨a, ha⟩, hname⟩
  · rintro ⟨name, ⟨a, ha⟩, hname⟩
    exact ⟨a, name, hname, ha⟩

theorem exists_readsAddress :
    (∃ address, ReadsName contrib.makeAddressV4 value address) ↔ contrib.IsAddress value := by
  constructor
  · rintro ⟨address, s, hs, haddress⟩
    exact ⟨s, hs, by rw [haddress]; exact Option.some_ne_none _⟩
  · rintro ⟨s, hs, hsome⟩
    obtain ⟨address, haddress⟩ := Option.ne_none_iff_exists'.mp hsome
    exact ⟨address, s, hs, haddress⟩

theorem exists_readsThreads :
    (∃ n, contrib.ReadsUnsigned sizeMax value n) ↔ IsNumber value := by
  refine ⟨fun ⟨n, hn, _⟩ => isNumber_iff.mpr ⟨n, hn⟩, fun h => ?_⟩
  obtain ⟨n, hn⟩ := isNumber_iff.mp h
  exact ⟨n, hn, Nat.le_sub_one_of_lt (getUnsigned_lt hn)⟩

theorem exists_readsIpPort :
    (∃ port, contrib.ReadsIpPort value port) ↔ contrib.ReadBetween 1 65535 value := by
  constructor
  · rintro ⟨port, n, ⟨hn, hmax⟩, hzero, -⟩
    exact ⟨n, hn, by omega, hmax⟩
  · rintro ⟨n, hn, hmin, hmax⟩
    exact ⟨_, n, ⟨hn, hmax⟩, by omega, rfl⟩

theorem exists_readsBaudRate : (∃ baudRate, contrib.ReadsBaudRate value baudRate) ↔
    IsNumber value := by
  rw [← exists_readsThreads]
  exact ⟨fun ⟨_, n, hn, _⟩ => ⟨n, hn⟩, fun ⟨n, hn⟩ => ⟨_, n, hn, rfl⟩⟩

theorem exists_readsTimeout : (∃ timeout, contrib.ReadsTimeout value timeout) ↔
    IsNumber value := by
  rw [← exists_readsThreads]
  exact ⟨fun ⟨_, n, hn, _⟩ => ⟨n, hn⟩, fun ⟨n, hn⟩ => ⟨_, n, hn, rfl⟩⟩

theorem exists_readsCharacterSize : (∃ size, contrib.ReadsCharacterSize value size) ↔
    (NumberTests.read contrib).characterSize value := by
  constructor
  · rintro ⟨_, ⟨n, ⟨hn, -⟩, rfl⟩, hmin, hmax⟩
    exact ⟨n, hn, UInt32.le_iff_toNat_le.mp hmin, UInt32.le_iff_toNat_le.mp hmax⟩
  · rintro ⟨n, hn, hmin, hmax⟩
    exact ⟨_, ⟨n, ⟨hn, Nat.le_sub_one_of_lt (getUnsigned_lt hn)⟩, rfl⟩,
      UInt32.le_iff_toNat_le.mpr hmin, UInt32.le_iff_toNat_le.mpr hmax⟩

theorem exists_readsStopBits : (∃ stopBits, ReadsStopBits value stopBits) ↔
    (NumberTests.read contrib).stopBits value := by
  constructor
  · rintro ⟨stopBits, x, hx, hconvert⟩
    exact ⟨x, hx, by rw [hconvert]; exact Option.some_ne_none _⟩
  · rintro ⟨x, hx, hsome⟩
    obtain ⟨stopBits, hconvert⟩ := Option.ne_none_iff_exists'.mp hsome
    exact ⟨stopBits, x, hx, hconvert⟩

theorem exists_readsDelay : (∃ delay, contrib.ReadsDelay value delay) ↔ IsNumber value := by
  rw [isNumber_iff]
  exact ⟨fun ⟨_, n, hn, _⟩ => ⟨n, hn⟩, fun ⟨n, hn⟩ => ⟨_, n, hn, rfl⟩⟩

theorem exists_readsUnitId : (∃ unitId, contrib.ReadsUnitId value unitId) ↔
    (NumberTests.read contrib).unitId value := by
  have hlt := UInt8.toNat_lt contrib.unitIdMax
  constructor
  · rintro ⟨_, n, ⟨hn, hmax⟩, rfl, hlow, hhigh⟩
    have hmod : n.toUInt8.toNat = n := Nat.mod_eq_of_lt (Nat.lt_succ_of_le hmax)
    exact ⟨n, hn, hmod ▸ UInt8.le_iff_toNat_le.mp hlow, hmod ▸ UInt8.le_iff_toNat_le.mp hhigh⟩
  · rintro ⟨n, hn, hlow, hhigh⟩
    have hmod : n.toUInt8.toNat = n := Nat.mod_eq_of_lt (by omega)
    exact ⟨_, n, ⟨hn, by omega⟩, rfl, UInt8.le_iff_toNat_le.mpr (hmod.symm ▸ hlow),
      UInt8.le_iff_toNat_le.mpr (hmod.symm ▸ hhigh)⟩

/-! ### What is accepted -/

theorem exists_serviceReads :
    (∃ configService : ConfigService, configService.Reads contrib value) ↔
      ServiceFormat (.read contrib) value := by
  have hlog : (∃ logLevel, ReadsOr value keys.logLevel (ReadsName convertLogLevel) .Info logLevel) ↔
      value.MayHave keys.logLevel
        (Named ["trace", "debug", "info", "warning", "error", "critical"]) :=
    exists_readsOr_iff exists_readsName
  have hthreads : (∃ n, ReadsOr value keys.threads (contrib.ReadsUnsigned sizeMax) 1 n) ↔
      value.MayHave keys.threads IsNumber :=
    exists_readsOr_iff exists_readsThreads
  constructor
  · rintro ⟨configService, h⟩
    exact ⟨h.type, hlog.mp ⟨_, h.logLevel⟩, hthreads.mp ⟨_, h.threads⟩⟩
  · intro h
    obtain ⟨logLevel, hl⟩ := hlog.mpr h.logLevel
    obtain ⟨threads, ht⟩ := hthreads.mpr h.threads
    exact ⟨⟨logLevel, threads⟩, h.type, hl, ht⟩

theorem exists_rs485Reads : (∃ rs485 : Rs485, rs485.Reads contrib value) ↔
    Rs485Format (.read contrib) value := by
  have hflag : ∀ {key : String}, (∃ r, ReadsOpt value key (· = .boolean ·) r) ↔
      value.MayHave key IsBoolean := exists_readsOpt
  have hdelay : ∀ {key : String}, (∃ r, ReadsOpt value key contrib.ReadsDelay r) ↔
      value.MayHave key IsNumber :=
    exists_readsOpt_iff exists_readsDelay
  constructor
  · rintro ⟨rs485, h⟩
    exact ⟨h.type, hflag.mp ⟨_, h.rtsOnSend⟩, hflag.mp ⟨_, h.rtsAfterSend⟩,
      hflag.mp ⟨_, h.rxDuringTx⟩, hflag.mp ⟨_, h.terminateBus⟩,
      hdelay.mp ⟨_, h.delayRtsBeforeSend⟩, hdelay.mp ⟨_, h.delayRtsAfterSend⟩⟩
  · intro h
    obtain ⟨rtsOnSend, h₁⟩ := hflag.mpr h.rtsOnSend
    obtain ⟨rtsAfterSend, h₂⟩ := hflag.mpr h.rtsAfterSend
    obtain ⟨rxDuringTx, h₃⟩ := hflag.mpr h.rxDuringTx
    obtain ⟨terminateBus, h₄⟩ := hflag.mpr h.terminateBus
    obtain ⟨delayRtsBeforeSend, h₅⟩ := hdelay.mpr h.delayRtsBeforeSend
    obtain ⟨delayRtsAfterSend, h₆⟩ := hdelay.mpr h.delayRtsAfterSend
    exact ⟨⟨rtsOnSend, rtsAfterSend, rxDuringTx, terminateBus, delayRtsBeforeSend,
      delayRtsAfterSend⟩, h.type, h₁, h₂, h₃, h₄, h₅, h₆⟩

/-- The options of a serial port can be read exactly if, with the device, they have the
format. -/
theorem exists_rtuReads : (∃ device, obj.find keys.device = some (.string device)) ∧
    (∃ rtuOptions : RtuOptions, rtuOptions.Reads contrib obj) ↔
      RtuFormat (.read contrib) obj := by
  have hdevice : (∃ device, obj.find keys.device = some (.string device)) ↔
      obj.Has keys.device (∃ s, · = .string s) := by
    constructor
    · rintro ⟨device, hfind⟩
      exact ⟨_, hfind, device, rfl⟩
    · rintro ⟨_, hfind, device, rfl⟩
      exact ⟨device, hfind⟩
  have hbaud : (∃ b, ReadsOr obj keys.baudRate contrib.ReadsBaudRate 0 b) ↔
      obj.MayHave keys.baudRate IsNumber :=
    exists_readsOr_iff exists_readsBaudRate
  have hsize : (∃ size, ReadsOr obj keys.characterSize contrib.ReadsCharacterSize 8 size) ↔
      obj.MayHave keys.characterSize (NumberTests.read contrib).characterSize :=
    exists_readsOr_iff exists_readsCharacterSize
  have hparity : (∃ p, ReadsOr obj keys.parity (ReadsName convertParity) .none p) ↔
      obj.MayHave keys.parity (Named ["none", "odd", "even"]) :=
    exists_readsOr_iff exists_readsName
  have hstop : (∃ b, ReadsOr obj keys.stopBits ReadsStopBits .one b) ↔
      obj.MayHave keys.stopBits (NumberTests.read contrib).stopBits :=
    exists_readsOr_iff exists_readsStopBits
  have hflow : (∃ f, ReadsOr obj keys.flowControl (ReadsName convertFlowControl) .none f) ↔
      obj.MayHave keys.flowControl (Named ["none", "software", "hardware"]) :=
    exists_readsOr_iff exists_readsName
  have hrs485 : (∃ r, ReadsOpt obj keys.rs485 (Rs485.Reads contrib) r) ↔
      obj.MayHave keys.rs485 (Rs485Format (.read contrib)) :=
    exists_readsOpt_iff exists_rs485Reads
  constructor
  · rintro ⟨hd, rtuOptions, h⟩
    exact ⟨hdevice.mp hd, hbaud.mp ⟨_, h.baudRate⟩, hsize.mp ⟨_, h.characterSize⟩,
      hparity.mp ⟨_, h.parity⟩, hstop.mp ⟨_, h.stopBits⟩, hflow.mp ⟨_, h.flowControl⟩,
      hrs485.mp ⟨_, h.rs485⟩⟩
  · intro h
    obtain ⟨baudRate, h₁⟩ := hbaud.mpr h.baudRate
    obtain ⟨size, h₂⟩ := hsize.mpr h.characterSize
    obtain ⟨parity, h₃⟩ := hparity.mpr h.parity
    obtain ⟨stopBits, h₄⟩ := hstop.mpr h.stopBits
    obtain ⟨flowControl, h₅⟩ := hflow.mpr h.flowControl
    obtain ⟨rs485, h₆⟩ := hrs485.mpr h.rs485
    exact ⟨hdevice.mpr h.device, ⟨baudRate, size, parity, stopBits, flowControl, rs485⟩,
      h₁, h₂, h₃, h₄, h₅, h₆⟩

theorem exists_rangeReads : (∃ range : UnitIdRange, range.Reads contrib obj) ↔
    RangeFormat (.read contrib) obj := by
  have hunit : ∀ {key : String}, (∃ unitId, obj.Has key (contrib.ReadsUnitId · unitId)) ↔
      obj.Has key (NumberTests.read contrib).unitId :=
    exists_has_iff exists_readsUnitId
  constructor
  · rintro ⟨range, h⟩
    cases h with
    | range htype hbegin hend => exact .range htype (hunit.mp ⟨_, hbegin⟩) (hunit.mp ⟨_, hend⟩)
    | value htype hvalue => exact .value htype (hunit.mp ⟨_, hvalue⟩)
  · intro h
    cases h with
    | range htype hbegin hend =>
      obtain ⟨begin, hbegin⟩ := hunit.mpr hbegin
      obtain ⟨last, hlast⟩ := hunit.mpr hend
      exact ⟨_, .range htype hbegin hlast⟩
    | value htype hvalue =>
      obtain ⟨unitId, hvalue⟩ := hunit.mpr hvalue
      exact ⟨_, .value htype hvalue⟩

theorem exists_masterConfigReads : (∃ config : MasterConfig, config.Reads contrib obj) ↔
    AnyMasterFormat (.read contrib) obj := by
  have htimeout : (∃ timeout, obj.Has keys.timeout (contrib.ReadsTimeout · timeout)) ↔
      obj.Has keys.timeout IsNumber :=
    exists_has_iff exists_readsTimeout
  have hset : (∃ ranges, ReadsOr obj keys.unitIdSet (ReadsArray (UnitIdRange.Reads contrib)) []
      ranges) ↔ obj.MayHave keys.unitIdSet (IsArrayOf (RangeFormat (.read contrib))) := by
    simp only [exists_readsOr, exists_readsArray, exists_rangeReads]
  constructor
  · rintro ⟨config, h⟩
    exact ⟨htimeout.mp ⟨_, h.timeout⟩, hset.mp ⟨_, h.unitIdSet⟩⟩
  · intro h
    obtain ⟨timeout, ht⟩ := htimeout.mpr h.timeout
    obtain ⟨ranges, hr⟩ := hset.mpr h.unitIdSet
    exact ⟨⟨timeout, ranges⟩, ht, hr⟩

/-- The name of a frame type. -/
def frameTypeName : FrameType → String
  | .TCP => "tcp"
  | .RTU => "rtu"
  | .ASCII => "ascii"

theorem convertFrameType_eq {name : String} {frameType : FrameType} :
    convertFrameType name = some frameType ↔ name = frameTypeName frameType := by
  constructor
  · intro h
    rcases List.mem_cons.mp (mem_of_lookup h) with heq | hmem
    · cases heq
      rfl
    · rcases List.mem_pair.mp hmem with heq | heq <;> cases heq <;> rfl
  · rintro rfl
    cases frameType <;> rfl

theorem has_frameType {frameType : FrameType} :
    obj.Has keys.frameType (ReadsName convertFrameType · frameType) ↔
      obj.find keys.frameType = some (.string (frameTypeName frameType)) := by
  constructor
  · rintro ⟨_, hfind, name, rfl, hname⟩
    rw [hfind, convertFrameType_eq.mp hname]
  · intro hfind
    exact ⟨_, hfind, _, rfl, convertFrameType_eq.mpr rfl⟩

/-- The frame types of a serial port. -/
theorem exists_rtuFrameType :
    (∃ frameType, obj.find keys.frameType = some (.string (frameTypeName frameType)) ∧
      frameType ≠ .TCP) ↔ obj.Has keys.frameType (Named ["rtu", "ascii"]) := by
  constructor
  · rintro ⟨frameType, hfind, hne⟩
    refine ⟨_, hfind, _, ?_, rfl⟩
    cases frameType with
    | TCP => exact absurd rfl hne
    | RTU => decide
    | ASCII => decide
  · rintro ⟨_, hfind, name, hname, rfl⟩
    rcases List.mem_pair.mp hname with rfl | rfl
    · exact ⟨.RTU, hfind, by decide⟩
    · exact ⟨.ASCII, hfind, by decide⟩

theorem exists_hasIpPort : (∃ port, obj.Has keys.ipPort (contrib.ReadsIpPort · port)) ↔
    obj.Has keys.ipPort (contrib.ReadBetween 1 65535) :=
  exists_has_iff exists_readsIpPort

theorem exists_readsSlave : (∃ config, TransportConfig.ReadsSlave contrib obj config) ↔
    SlaveFormat contrib (.read contrib) obj := by
  have haddress : (∃ a, ReadsOr obj keys.ipAddress (ReadsName contrib.makeAddressV4) 0 a) ↔
      obj.MayHave keys.ipAddress contrib.IsAddress :=
    exists_readsOr_iff exists_readsAddress
  constructor
  · rintro ⟨config, h⟩
    cases h with
    | TcpServer hframe ha hp =>
      exact .tcp (has_frameType.mp hframe) (haddress.mp ⟨_, ha⟩) (exists_hasIpPort.mp ⟨_, hp⟩)
    | RtuSlave hframe hne hdevice hoptions =>
      exact .rtu (exists_rtuFrameType.mp ⟨_, has_frameType.mp hframe, hne⟩)
        (exists_rtuReads.mp ⟨⟨_, hdevice⟩, _, hoptions⟩)
  · intro h
    cases h with
    | tcp hframe ha hp =>
      obtain ⟨address, ha⟩ := haddress.mpr ha
      obtain ⟨port, hp⟩ := exists_hasIpPort.mpr hp
      exact ⟨.TcpServer ⟨address, port⟩, .TcpServer (has_frameType.mpr hframe) ha hp⟩
    | rtu hframe hrtu =>
      obtain ⟨frameType, hframe, hne⟩ := exists_rtuFrameType.mpr hframe
      obtain ⟨⟨device, hdevice⟩, rtuOptions, hoptions⟩ := exists_rtuReads.mpr hrtu
      exact ⟨.RtuSlave ⟨frameType, device, rtuOptions⟩,
        .RtuSlave (has_frameType.mpr hframe) hne hdevice hoptions⟩

theorem exists_readsMaster : (∃ config, TransportConfig.ReadsMaster contrib obj config) ↔
    MasterFormat contrib (.read contrib) obj := by
  have haddress : (∃ a, obj.Has keys.ipAddress (ReadsName contrib.makeAddressV4 · a)) ↔
      obj.Has keys.ipAddress contrib.IsAddress :=
    exists_has_iff exists_readsAddress
  constructor
  · rintro ⟨config, h⟩
    cases h with
    | TcpClient hframe hmaster ha hp =>
      exact .tcp (has_frameType.mp hframe) (exists_masterConfigReads.mp ⟨_, hmaster⟩)
        (haddress.mp ⟨_, ha⟩) (exists_hasIpPort.mp ⟨_, hp⟩)
    | RtuMaster hframe hne hmaster hdevice hoptions =>
      exact .rtu (exists_rtuFrameType.mp ⟨_, has_frameType.mp hframe, hne⟩)
        (exists_masterConfigReads.mp ⟨_, hmaster⟩)
        (exists_rtuReads.mp ⟨⟨_, hdevice⟩, _, hoptions⟩)
  · intro h
    cases h with
    | tcp hframe hmaster ha hp =>
      obtain ⟨masterConfig, hmaster⟩ := exists_masterConfigReads.mpr hmaster
      obtain ⟨address, ha⟩ := haddress.mpr ha
      obtain ⟨port, hp⟩ := exists_hasIpPort.mpr hp
      exact ⟨.TcpClient ⟨masterConfig, address, port⟩,
        .TcpClient (has_frameType.mpr hframe) hmaster ha hp⟩
    | rtu hframe hmaster hrtu =>
      obtain ⟨frameType, hframe, hne⟩ := exists_rtuFrameType.mpr hframe
      obtain ⟨masterConfig, hmaster⟩ := exists_masterConfigReads.mpr hmaster
      obtain ⟨⟨device, hdevice⟩, rtuOptions, hoptions⟩ := exists_rtuReads.mpr hrtu
      exact ⟨.RtuMaster ⟨masterConfig, frameType, device, rtuOptions⟩,
        .RtuMaster (has_frameType.mpr hframe) hne hmaster hdevice hoptions⟩

/-- A master takes what is left exactly if its element has no `unit_id`. -/
theorem MasterConfig.Reads.isDefault_eq {config : MasterConfig} (h : config.Reads contrib obj) :
    config.isDefault = (obj.find keys.unitIdSet).isNone := by
  unfold MasterConfig.isDefault
  rcases h.unitIdSet with ⟨hfind, hset⟩ | ⟨value, hfind, elements, -, hne, hall⟩
  · rw [hfind, hset]
    rfl
  · have hnil : config.unitIdSet ≠ [] := by
      intro hnil
      rw [hnil, List.forall₂_nil_right_iff] at hall
      exact hne hall
    simpa [hfind] using hnil

theorem TransportConfig.ReadsMaster.isDefault_eq {config : TransportConfig}
    (h : config.ReadsMaster contrib obj) :
    config.isDefault = (obj.find keys.unitIdSet).isNone := by
  cases h with
  | TcpClient _ hmaster _ _ => exact hmaster.isDefault_eq
  | RtuMaster _ _ hmaster _ _ => exact hmaster.isDefault_eq

/-- The masters that take what is left are counted in the document. -/
theorem countP_isDefault {elements : List Json} {masters : List TransportConfig}
    (h : List.Forall₂ (TransportConfig.ReadsMaster contrib) elements masters) :
    masters.countP TransportConfig.isDefault =
      elements.countP (fun element => (element.find keys.unitIdSet).isNone) := by
  induction h with
  | nil => rfl
  | cons hmaster _ ih => simp only [List.countP_cons, ih, hmaster.isDefault_eq]

theorem Config.accepted_iff {config : Config} : config.Accepted contrib data ↔
    config.Reads contrib data ∧ config.masters.countP TransportConfig.isDefault ≤ 1 :=
  ⟨fun h => ⟨Config.new_eq_ok.mp h.new, Config.validate_eq_ok.mp h.validate⟩,
    fun h => ⟨Config.new_eq_ok.mpr h.1, Config.validate_eq_ok.mpr h.2⟩⟩

/-- **A configuration is accepted exactly if the document has the format**, with the numbers
that the extractors make of those written. -/
theorem Config.exists_accepted_iff : (∃ config : Config, config.Accepted contrib data) ↔
    Format contrib (.read contrib) data := by
  have hservice : (∃ s : ConfigService, data.Has keys.service (s.Reads contrib ·)) ↔
      data.Has keys.service (ServiceFormat (.read contrib)) :=
    exists_has_iff exists_serviceReads
  have hslaves : (∃ slaves, data.Has keys.slaves
      (ReadsArray (TransportConfig.ReadsSlave contrib) · slaves)) ↔
      data.Has keys.slaves (IsArrayOf (SlaveFormat contrib (.read contrib))) := by
    simp only [exists_has, exists_readsArray, exists_readsSlave]
  have hmasters : (∃ masters, data.Has keys.masters
      (ReadsArray (TransportConfig.ReadsMaster contrib) · masters)) ↔
      data.Has keys.masters (IsArrayOf (MasterFormat contrib (.read contrib))) := by
    simp only [exists_has, exists_readsArray, exists_readsMaster]
  simp only [Config.accepted_iff]
  constructor
  · rintro ⟨config, h, hdefault⟩
    refine ⟨hservice.mp ⟨_, h.configService⟩, hslaves.mp ⟨_, h.slaves⟩, hmasters.mp ⟨_, h.masters⟩,
      fun value hfind => ?_⟩
    obtain ⟨_, hfind', elements, rfl, -, hall⟩ := h.masters
    obtain rfl := Option.some.inj (hfind'.symm.trans hfind)
    exact (countP_isDefault hall).symm.trans_le hdefault
  · intro h
    obtain ⟨configService, hs⟩ := hservice.mpr h.service
    obtain ⟨slaves, hl⟩ := hslaves.mpr h.slaves
    obtain ⟨masters, hm⟩ := hmasters.mpr h.masters
    refine ⟨⟨configService, slaves, masters⟩, ⟨hs, hl, hm⟩, ?_⟩
    obtain ⟨_, hfind, elements, rfl, -, hall⟩ := hm
    exact (countP_isDefault hall).trans_le (h.default _ hfind)

/-- The frame type of a serial port is under its name in the document. -/
theorem find_serialFrameType {frameType : FrameType}
    (hframe : obj.Has keys.frameType (ReadsName convertFrameType · frameType))
    (hne : frameType ≠ .TCP) :
    (obj.find keys.frameType = some (.string "rtu") ∧ frameType = .RTU) ∨
      (obj.find keys.frameType = some (.string "ascii") ∧ frameType = .ASCII) := by
  have hfind := has_frameType.mp hframe
  cases frameType with
  | TCP => exact absurd rfl hne
  | RTU => exact Or.inl ⟨hfind, rfl⟩
  | ASCII => exact Or.inr ⟨hfind, rfl⟩

theorem TransportConfig.ReadsSlave.mirrors {config : TransportConfig}
    (h : config.ReadsSlave contrib obj) : MirrorsSlave obj config := by
  cases h with
  | TcpServer hframe _ _ => exact .tcp (has_frameType.mp hframe) _
  | @RtuSlave config hframe hne _ _ =>
    rcases find_serialFrameType hframe hne with ⟨hfind, htype⟩ | ⟨hfind, htype⟩
    · exact .rtu hfind config htype
    · exact .ascii hfind config htype

theorem TransportConfig.ReadsMaster.mirrors {config : TransportConfig}
    (h : config.ReadsMaster contrib obj) : MirrorsMaster obj config := by
  cases h with
  | TcpClient hframe _ _ _ => exact .tcp (has_frameType.mp hframe) _
  | @RtuMaster config hframe hne _ _ _ =>
    rcases find_serialFrameType hframe hne with ⟨hfind, htype⟩ | ⟨hfind, htype⟩
    · exact .rtu hfind config htype
    · exact .ascii hfind config htype

/-- **What is accepted mirrors the document.** -/
theorem Config.Accepted.mirrors {config : Config} (h : config.Accepted contrib data) :
    config.Mirrors data := by
  obtain ⟨hreads, -⟩ := Config.accepted_iff.mp h
  obtain ⟨_, hslaves, slaves, rfl, -, hall⟩ := hreads.slaves
  obtain ⟨_, hmasters, masters, rfl, -, hall'⟩ := hreads.masters
  exact ⟨⟨slaves, hslaves, hall.imp fun _ _ hs => hs.mirrors⟩,
    ⟨masters, hmasters, hall'.imp fun _ _ hm => hm.mirrors⟩⟩

end Acceptance

/-! ### Documents that are evaluated -/

namespace Document

/-- The address and the limits that the documents use. -/
def contrib : Contrib where
  makeAddressV4 s := if s = "192.168.2.2" then some 0xC0A80202 else none
  unitIdMin := 1
  unitIdMax := 247
  outOfRange _ := 0

/-- A document with one TCP slave and one TCP master. -/
def tcp (service : List (String × Json)) (slavePort timeout : Json)
    (master : List (String × Json)) : Json :=
  .object [("service", .object service),
    ("slaves", .array [.object [("frame_type", .string "tcp"), ("ip_port", slavePort)]]),
    ("masters", .array [.object ([("frame_type", .string "tcp"), ("timeout_ms", timeout),
      ("ip_address", .string "192.168.2.2"), ("ip_port", .numberUnsigned 502)] ++ master)])]

/-- The configuration of such a document. -/
def config (threads : ℕ) (slavePort : UInt16) (timeout : Milliseconds)
    (unitIdSet : List UnitIdRange) : Config where
  configService := { threads }
  slaves := [.TcpServer { address := 0, port := slavePort }]
  masters := [.TcpClient { timeout, unitIdSet, address := 0xC0A80202, port := 502 }]

end Document

/-- **The format is what is accepted**, and what is accepted mirrors the document, as long as
no number is taken for another one. -/
theorem Config.accepts_format_iff (contrib : Contrib) (data : Json) :
    ((∃ config : Config, config.Accepted contrib data) ↔ Format contrib (.written contrib) data) ∧
      (∀ config : Config, config.Accepted contrib data → config.Mirrors data) ↔
    (Format contrib (.read contrib) data → Numbers (.written contrib) data) := by
  rw [Config.exists_accepted_iff, format_iff written_le_read]
  constructor
  · rintro ⟨hiff, -⟩ hread
    exact (hiff.mp hread).2
  · intro hnumbers
    exact ⟨⟨fun hread => ⟨hread, hnumbers hread⟩, And.left⟩, fun _ h => h.mirrors⟩

/-- An `ip_port` of 65535.5 is accepted. -/
theorem Config.accepts_format_fraction :
    let data := Document.tcp [] (.numberFloat (131071 / 2)) (.numberUnsigned 1000) []
    ¬ (((∃ config : Config, config.Accepted Document.contrib data) ↔
        Format Document.contrib (.written Document.contrib) data) ∧
      ∀ config : Config, config.Accepted Document.contrib data → config.Mirrors data) := by
  intro data h
  have haccepted : (Document.config 1 65535 1000 []).Accepted Document.contrib data :=
    ⟨by decide +kernel, by decide +kernel⟩
  obtain ⟨value, hfind, harray⟩ := (h.1.mp ⟨_, haccepted⟩).slaves
  obtain rfl := Option.some.inj hfind
  cases harray.forall _ List.mem_cons_self with
  | tcp hframe haddress hport =>
    obtain ⟨value, hfind, n, hn, -⟩ := hport
    obtain rfl := Option.some.inj hfind
    have hcast : (131071 / 2 : ℚ) = n := Option.some.inj hn
    have hden := congrArg Rat.den hcast
    rw [Rat.den_natCast] at hden
    exact absurd hden (by decide +kernel)
  | rtu hframe hrtu => exact not_rtu_of_tcp rfl hframe

end ModbusGateway
