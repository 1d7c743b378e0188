import Mathlib.Data.List.Nodup
import ModbusGateway.Config.Numbers

/-!
# The configurations that have a document

Which configurations the constructor can yield and `Validate` lets through: those that are well
formed, and every one of them, since a document can be written for it.

## Main definitions

* `Json.ofMembers` — an object some of whose members may be absent.
* `UnitIdRange.document`, `Rs485.document`, `RtuOptions.members` — parts of a document.
* `Config.WellFormed` — what is known of a configuration without its document.

## Main results

* `find_ofMembers` — the members of such an object.
* `Config.exists_document_iff` — **a configuration is accepted for some document exactly if it is
  well formed.**
-/

namespace ModbusGateway

/-! ### Well-formed configurations -/

/-- Some text is read as the address. -/
def Contrib.Known (contrib : Contrib) (address : UInt32) : Prop :=
  ∃ s, contrib.makeAddressV4 s = some address

/-- A range of unit ids that may be listed. -/
structure UnitIdRange.WellFormed (contrib : Contrib) (range : UnitIdRange) : Prop where
  min : contrib.unitIdMin ≤ range.begin
  ordered : range.begin ≤ range.end
  max : range.end ≤ contrib.unitIdMax

/-- Options that the serial port takes. -/
def RtuOptions.WellFormed (rtuOptions : RtuOptions) : Prop :=
  5 ≤ rtuOptions.characterSize ∧ rtuOptions.characterSize ≤ 8

/-- The ranges of a master are those that may be listed; any timeout can be. -/
def MasterConfig.WellFormed (contrib : Contrib) (config : MasterConfig) : Prop :=
  ∀ range ∈ config.unitIdSet, range.WellFormed contrib

/-- A slave that may be listed. -/
inductive TransportConfig.WellFormedSlave (contrib : Contrib) : TransportConfig → Prop
  | TcpServer {config : TcpServerConfig}
      (address : config.address = 0 ∨ contrib.Known config.address) (port : config.port ≠ 0) :
      WellFormedSlave contrib (.TcpServer config)
  | RtuSlave {config : RtuSlaveConfig} (ne : config.frameType ≠ .TCP)
      (rtuOptions : config.rtuOptions.WellFormed) : WellFormedSlave contrib (.RtuSlave config)

/-- A master that may be listed. -/
inductive TransportConfig.WellFormedMaster (contrib : Contrib) : TransportConfig → Prop
  | TcpClient {config : TcpClientConfig} (masterConfig : config.toMasterConfig.WellFormed contrib)
      (address : contrib.Known config.address) (port : config.port ≠ 0) :
      WellFormedMaster contrib (.TcpClient config)
  | RtuMaster {config : RtuMasterConfig} (ne : config.frameType ≠ .TCP)
      (masterConfig : config.toMasterConfig.WellFormed contrib)
      (rtuOptions : config.rtuOptions.WellFormed) : WellFormedMaster contrib (.RtuMaster config)

/-- What is known of a configuration without its document. -/
structure Config.WellFormed (contrib : Contrib) (config : Config) : Prop where
  threads : config.configService.threads ≤ sizeMax
  slaves_ne : config.slaves ≠ []
  slaves : ∀ slave ∈ config.slaves, slave.WellFormedSlave contrib
  masters_ne : config.masters ≠ []
  masters : ∀ master ∈ config.masters, master.WellFormedMaster contrib
  /-- At most one master takes the unit ids that no other one has. -/
  default : config.masters.countP TransportConfig.isDefault ≤ 1

variable {contrib : Contrib} {obj value : Json} {key : String}

/-! ### What is read is well formed -/

theorem ReadsOr.of_default {α : Type} {R : Json → α → Prop} {default a : α} {P : α → Prop}
    (h : ReadsOr obj key R default a) (hdefault : P default) (hread : ∀ value, R value a → P a) :
    P a := by
  rcases h with ⟨-, rfl⟩ | ⟨value, -, ha⟩
  · exact hdefault
  · exact hread value ha

theorem port_ne_zero {port : UInt16} (h : contrib.ReadsIpPort value port) : port ≠ 0 := by
  obtain ⟨n, ⟨-, hmax⟩, hne, rfl⟩ := h
  intro hzero
  have hmod := congrArg UInt16.toNat hzero
  simp only [Nat.toUInt16_eq, UInt16.toNat_ofNat', UInt16.toNat_zero] at hmod
  omega

theorem UnitIdRange.Reads.wellFormed {range : UnitIdRange} (h : range.Reads contrib obj) :
    range.WellFormed contrib := by
  cases h with
  | @range begin last type hbegin hend =>
    obtain ⟨_, -, _, -, -, hbeginMin, hbeginMax⟩ := hbegin
    obtain ⟨_, -, _, -, -, hendMin, hendMax⟩ := hend
    have hordered := UnitIdRange.normalize_ordered ⟨begin, last⟩
    rcases UnitIdRange.normalize_cases begin last with ⟨-, heq⟩ | ⟨-, heq⟩
    · rw [heq] at hordered ⊢
      exact ⟨hbeginMin, hordered, hendMax⟩
    · rw [heq] at hordered ⊢
      exact ⟨hendMin, hordered, hbeginMax⟩
  | @value unitId type hvalue =>
    obtain ⟨_, -, _, -, -, hmin, hmax⟩ := hvalue
    exact ⟨hmin, UInt8.le_refl _, hmax⟩

theorem RtuOptions.Reads.wellFormed {rtuOptions : RtuOptions} (h : rtuOptions.Reads contrib obj) :
    rtuOptions.WellFormed :=
  h.characterSize.of_default (P := fun size => 5 ≤ size ∧ size ≤ 8) ⟨by decide, by decide⟩
    fun _ hread => hread.2

theorem MasterConfig.Reads.wellFormed {config : MasterConfig} (h : config.Reads contrib obj) :
    config.WellFormed contrib := by
  intro range hrange
  rcases h.unitIdSet with ⟨-, hnil⟩ | ⟨_, -, elements, -, -, hall⟩
  · rw [hnil] at hrange
    cases hrange
  · obtain ⟨element, -, hread⟩ := exists_of_forall₂ hall hrange
    exact hread.wellFormed

theorem TransportConfig.ReadsSlave.wellFormed {config : TransportConfig}
    (h : config.ReadsSlave contrib obj) : config.WellFormedSlave contrib := by
  cases h with
  | TcpServer frameType address port =>
    obtain ⟨_, -, hport⟩ := port
    refine .TcpServer ?_ (port_ne_zero hport)
    rcases address with ⟨-, hdefault⟩ | ⟨_, -, s, -, hs⟩
    · exact Or.inl hdefault
    · exact Or.inr ⟨s, hs⟩
  | RtuSlave frameType ne device rtuOptions => exact .RtuSlave ne rtuOptions.wellFormed

theorem TransportConfig.ReadsMaster.wellFormed {config : TransportConfig}
    (h : config.ReadsMaster contrib obj) : config.WellFormedMaster contrib := by
  cases h with
  | TcpClient frameType masterConfig address port =>
    obtain ⟨_, -, hport⟩ := port
    obtain ⟨_, -, s, -, hs⟩ := address
    exact .TcpClient masterConfig.wellFormed ⟨s, hs⟩ (port_ne_zero hport)
  | RtuMaster frameType ne masterConfig device rtuOptions =>
    exact .RtuMaster ne masterConfig.wellFormed rtuOptions.wellFormed

/-! ### Objects -/

/-- An object of the members that are there. -/
def Json.ofMembers (table : List (String × Option Json)) : Json :=
  .object (table.filterMap fun member => member.2.map (member.1, ·))

/-- What has an entry in a table without duplicates is looked up as that. -/
theorem lookup_of_mem {α : Type} {table : List (String × α)} (h : (table.map Prod.fst).Nodup)
    {key : String} {a : α} (hmem : (key, a) ∈ table) : table.lookup key = some a := by
  obtain ⟨before, after, rfl⟩ := List.append_of_mem hmem
  rw [List.lookup_eq_some_iff]
  refine ⟨before, after, rfl, fun entry hentry => ?_⟩
  rw [List.map_append, List.nodup_append] at h
  have hne := h.2.2 entry.1 (List.mem_map_of_mem hentry) key List.mem_cons_self
  exact bne_iff_ne.mpr (Ne.symm hne)

/-- In a table without duplicates the last entry of a key is its first one. -/
theorem lookup_reverse {α : Type} {table : List (String × α)} (h : (table.map Prod.fst).Nodup)
    (key : String) : table.reverse.lookup key = table.lookup key := by
  cases hlookup : table.lookup key with
  | none =>
    rw [List.lookup_eq_none_iff] at hlookup ⊢
    exact fun entry hentry => hlookup entry (List.mem_reverse.mp hentry)
  | some a =>
    have hreverse : (table.reverse.map Prod.fst).Nodup := by
      rw [List.map_reverse]
      exact List.nodup_reverse.mpr h
    exact lookup_of_mem hreverse (List.mem_reverse.mpr (mem_of_lookup hlookup))

/-- The members that are there have no key twice, if the table has none. -/
theorem nodup_members {table : List (String × Option Json)} (h : (table.map Prod.fst).Nodup) :
    ((table.filterMap fun member => member.2.map (member.1, ·)).map Prod.fst).Nodup := by
  refine h.sublist ?_
  rw [List.map_filterMap, ← List.filterMap_eq_map]
  induction table with
  | nil => exact List.Sublist.refl _
  | cons member table ih =>
    obtain ⟨name, o⟩ := member
    rw [List.map_cons, List.nodup_cons] at h
    cases o with
    | none => exact (ih h.2).cons _
    | some value => exact (ih h.2).cons_cons _

/-- A member of such an object, when no key comes twice. -/
theorem find_ofMembers (table : List (String × Option Json)) (h : (table.map Prod.fst).Nodup)
    (key : String) : (Json.ofMembers table).find key = (table.lookup key).join := by
  rw [Json.ofMembers, Json.find, lookup_reverse (nodup_members h)]
  induction table with
  | nil => rfl
  | cons member table ih =>
    obtain ⟨name, o⟩ := member
    rw [List.map_cons, List.nodup_cons] at h
    by_cases hname : key = name
    · subst hname
      cases o with
      | some value => simp
      | none =>
        have hnone : table.lookup key = none := by
          rw [List.lookup_eq_none_iff]
          intro entry hentry
          have hne : key ≠ entry.1 := fun heq =>
            h.1 (List.mem_map.mpr ⟨entry, hentry, heq.symm⟩)
          simpa using hne
        simp [ih h.2, hnone]
    · cases o <;> simp [List.lookup_cons, beq_false_of_ne hname, ih h.2]

/-- A member of a part of the object. -/
theorem find_of_lookup (table : List (String × Option Json)) {part : List (String × Option Json)}
    (h : (table.map Prod.fst).Nodup) (hpart : part ⊆ table) (key : String) (value : Option Json)
    (hlookup : part.lookup key = some value) : (Json.ofMembers table).find key = value := by
  rw [find_ofMembers table h, lookup_of_mem h (hpart (mem_of_lookup hlookup))]
  rfl

theorem readsOpt_of_find {α : Type} {R : Json → α → Prop} {write : α → Json} {r : Option α}
    (hfind : obj.find key = r.map write) (hread : ∀ a, R (write a) a) : ReadsOpt obj key R r := by
  cases r with
  | none => exact hfind
  | some a => exact ⟨write a, hfind, hread a⟩

theorem readsOr_of_find {α : Type} {R : Json → α → Prop} {default a : α}
    (hfind : obj.find key = some value) (hread : R value a) : ReadsOr obj key R default a :=
  Or.inr ⟨value, hfind, hread⟩

/-! ### Values -/

/-- A number in a document. -/
def Json.ofNat (n : ℕ) : Json := .numberUnsigned n.toUInt64

theorem getUnsigned_ofNat {bits n : ℕ} {outOfRange : ℚ → ℕ} (hbits : bits ≤ 64)
    (hn : n < 2 ^ bits) : (Json.ofNat n).getUnsigned bits outOfRange = some n := by
  have hlt : n < 2 ^ 64 := hn.trans_le (Nat.pow_le_pow_right (by decide) hbits)
  refine getUnsigned_of_number ?_ hn
  simp [Json.ofNat, Json.number]
  omega

theorem readsUnsigned_ofNat {max n : ℕ} (hmax : max ≤ sizeMax) (hn : n ≤ max) :
    contrib.ReadsUnsigned max (.ofNat n) n := by
  have hlt : n < 2 ^ 64 := by
    have hle := hn.trans hmax
    rw [sizeMax] at hle
    omega
  exact ⟨getUnsigned_ofNat (Nat.le_refl _) hlt, hn⟩

/-- The name of a log level. -/
def LogLevel.name : LogLevel → String
  | .Trace => "trace"
  | .Debug => "debug"
  | .Info => "info"
  | .Warning => "warning"
  | .Error => "error"
  | .Critical => "critical"

/-- The name of a parity. -/
def Parity.name : Parity → String
  | .none => "none"
  | .odd => "odd"
  | .even => "even"

/-- The name of a flow control. -/
def FlowControl.name : FlowControl → String
  | .none => "none"
  | .software => "software"
  | .hardware => "hardware"

/-- The number of stop bits. -/
def StopBits.number : StopBits → ℚ
  | .one => 1
  | .onepointfive => 3 / 2
  | .two => 2

theorem convertLogLevel_name (logLevel : LogLevel) :
    convertLogLevel logLevel.name = some logLevel := by
  cases logLevel <;> decide

theorem convertParity_name (parity : Parity) : convertParity parity.name = some parity := by
  cases parity <;> decide

theorem convertFlowControl_name (flowControl : FlowControl) :
    convertFlowControl flowControl.name = some flowControl := by
  cases flowControl <;> decide

theorem readsStopBits_number (stopBits : StopBits) :
    ReadsStopBits (.numberFloat stopBits.number) stopBits := by
  refine ⟨_, rfl, ?_⟩
  cases stopBits <;> decide +kernel

theorem readsIpPort_ofNat {port : UInt16} (h : port ≠ 0) :
    contrib.ReadsIpPort (.ofNat port.toNat) port := by
  have hlt := port.toNat_lt
  refine ⟨port.toNat, readsUnsigned_ofNat (by decide) (by omega), fun hzero => h ?_, ?_⟩
  · exact UInt16.toNat_inj.mp hzero
  · simp

theorem readsUnitId_ofNat {unitId : UnitId} (hmin : contrib.unitIdMin ≤ unitId)
    (hmax : unitId ≤ contrib.unitIdMax) : contrib.ReadsUnitId (.ofNat unitId.toNat) unitId := by
  have hlt := unitId.toNat_lt
  exact ⟨unitId.toNat, readsUnsigned_ofNat (by decide) (by omega), by simp, hmin, hmax⟩

theorem readsBaudRate_ofNat (baudRate : UInt32) :
    contrib.ReadsBaudRate (.ofNat baudRate.toNat) baudRate := by
  have hlt := baudRate.toNat_lt
  exact ⟨baudRate.toNat, readsUnsigned_ofNat (Nat.le_refl _) (by rw [sizeMax]; omega), by simp⟩

theorem readsDelay_ofNat (delay : UInt32) : contrib.ReadsDelay (.ofNat delay.toNat) delay :=
  ⟨delay.toNat, getUnsigned_ofNat (by decide) delay.toNat_lt, by simp⟩

/-- Any timeout can be written, a negative one as the number it has been made of. -/
theorem readsTimeout_ofNat (timeout : Milliseconds) :
    contrib.ReadsTimeout (.ofNat timeout.toUInt64.toNat) timeout := by
  have hlt := timeout.toUInt64.toNat_lt
  refine ⟨timeout.toUInt64.toNat, readsUnsigned_ofNat (Nat.le_refl _) (by rw [sizeMax]; omega), ?_⟩
  exact Int64.toBitVec_inj.mp (BitVec.ofNat_toNat 64 timeout.toBitVec)

/-! ### Documents -/

/-- The document of a range. -/
def UnitIdRange.document (range : UnitIdRange) : Json :=
  .object [(keys.numericRangeType, .string "range"),
    (keys.numericRangeBegin, .ofNat range.begin.toNat),
    (keys.numericRangeEnd, .ofNat range.end.toNat)]

/-- The document of the RS485 options. -/
def Rs485.document (rs485 : Rs485) : Json :=
  .ofMembers [(keys.rtsOnSend, rs485.rtsOnSend.map .boolean),
    (keys.rtsAfterSend, rs485.rtsAfterSend.map .boolean),
    (keys.rxDuringTx, rs485.rxDuringTx.map .boolean),
    (keys.terminateBus, rs485.terminateBus.map .boolean),
    (keys.delayRtsBeforeSend, rs485.delayRtsBeforeSend.map fun delay => .ofNat delay.toNat),
    (keys.delayRtsAfterSend, rs485.delayRtsAfterSend.map fun delay => .ofNat delay.toNat)]

/-- The members of the options of a serial port. -/
def RtuOptions.members (rtuOptions : RtuOptions) : List (String × Option Json) :=
  [(keys.baudRate, some (.ofNat rtuOptions.baudRate.toNat)),
    (keys.characterSize, some (.ofNat rtuOptions.characterSize.toNat)),
    (keys.parity, some (.string rtuOptions.parity.name)),
    (keys.stopBits, some (.numberFloat rtuOptions.stopBits.number)),
    (keys.flowControl, some (.string rtuOptions.flowControl.name)),
    (keys.rs485, rtuOptions.rs485.map Rs485.document)]

/-- The members of every master. -/
def MasterConfig.members (config : MasterConfig) : List (String × Option Json) :=
  [(keys.timeout, some (.ofNat config.timeout.toUInt64.toNat)),
    (keys.unitIdSet, if config.unitIdSet = [] then none
      else some (.array (config.unitIdSet.map UnitIdRange.document)))]

theorem UnitIdRange.reads_document {range : UnitIdRange} (h : range.WellFormed contrib) :
    range.Reads contrib range.document := by
  obtain ⟨first, last⟩ := range
  have heq : UnitIdRange.normalize ⟨first, last⟩ = ⟨first, last⟩ := by
    rcases UnitIdRange.normalize_cases first last with ⟨-, heq⟩ | ⟨hlt, -⟩
    · exact heq
    · exact absurd h.ordered (UInt8.not_le.mpr hlt)
  have hreads : (UnitIdRange.normalize ⟨first, last⟩).Reads contrib
      (UnitIdRange.document ⟨first, last⟩) :=
    .range rfl ⟨_, rfl, readsUnitId_ofNat h.min (UInt8.le_trans h.ordered h.max)⟩
      ⟨_, rfl, readsUnitId_ofNat (UInt8.le_trans h.min h.ordered) h.max⟩
  rwa [heq] at hreads

theorem Rs485.reads_document (rs485 : Rs485) : rs485.Reads contrib rs485.document := by
  have hfind : ∀ key, rs485.document.find key = _ := find_ofMembers _ (by simp [keys.rtsOnSend,
    keys.rtsAfterSend, keys.rxDuringTx, keys.terminateBus, keys.delayRtsBeforeSend,
    keys.delayRtsAfterSend])
  exact ⟨rfl, readsOpt_of_find (hfind _) fun _ => rfl, readsOpt_of_find (hfind _) fun _ => rfl,
    readsOpt_of_find (hfind _) fun _ => rfl, readsOpt_of_find (hfind _) fun _ => rfl,
    readsOpt_of_find (hfind _) readsDelay_ofNat, readsOpt_of_find (hfind _) readsDelay_ofNat⟩

/-- The options of a serial port are read of an object that has their members. -/
theorem RtuOptions.reads_members {rtuOptions : RtuOptions} (h : rtuOptions.WellFormed)
    (hfind : ∀ key value, rtuOptions.members.lookup key = some value → obj.find key = value) :
    rtuOptions.Reads contrib obj where
  baudRate := readsOr_of_find (hfind _ _ rfl) (readsBaudRate_ofNat _)
  characterSize := readsOr_of_find (hfind _ _ rfl) ⟨readsBaudRate_ofNat _, h⟩
  parity := readsOr_of_find (hfind _ _ rfl) ⟨_, rfl, convertParity_name _⟩
  stopBits := readsOr_of_find (hfind _ _ rfl) (readsStopBits_number _)
  flowControl := readsOr_of_find (hfind _ _ rfl) ⟨_, rfl, convertFlowControl_name _⟩
  rs485 := readsOpt_of_find (hfind _ _ rfl) Rs485.reads_document

/-- A master is read of an object that has its members. -/
theorem MasterConfig.reads_members {config : MasterConfig} (h : config.WellFormed contrib)
    (hfind : ∀ key value, config.members.lookup key = some value → obj.find key = value) :
    config.Reads contrib obj where
  timeout := ⟨_, hfind _ _ rfl, readsTimeout_ofNat _⟩
  unitIdSet := by
    have hset := hfind keys.unitIdSet _ rfl
    by_cases hnil : config.unitIdSet = []
    · rw [if_pos hnil] at hset
      exact Or.inl ⟨hset, hnil⟩
    · rw [if_neg hnil] at hset
      refine readsOr_of_find hset ⟨_, rfl, fun hmap => hnil (List.map_eq_nil_iff.mp hmap), ?_⟩
      rw [List.forall₂_map_left_iff, List.forall₂_same]
      exact fun range hrange => UnitIdRange.reads_document (h range hrange)

/-- A slave that is well formed has a document. -/
theorem TransportConfig.WellFormedSlave.exists_reads {config : TransportConfig}
    (h : config.WellFormedSlave contrib) : ∃ obj, config.ReadsSlave contrib obj := by
  cases h with
  | @TcpServer config address port =>
    obtain ⟨text, htext⟩ : ∃ text : Option Json,
        text = none ∧ config.address = 0 ∨
          ∃ value, text = some value ∧ ReadsName contrib.makeAddressV4 value config.address := by
      rcases address with hzero | ⟨s, hs⟩
      · exact ⟨none, Or.inl ⟨rfl, hzero⟩⟩
      · exact ⟨_, Or.inr ⟨_, rfl, s, rfl, hs⟩⟩
    have hnodup : [keys.frameType, keys.ipAddress, keys.ipPort].Nodup := by decide
    have hfind := find_ofMembers [(keys.frameType, some (.string "tcp")), (keys.ipAddress, text),
      (keys.ipPort, some (.ofNat config.port.toNat))] hnodup
    refine ⟨_, .TcpServer ⟨_, hfind _, _, rfl, rfl⟩ ?_ ⟨_, hfind _, readsIpPort_ofNat port⟩⟩
    rcases htext with ⟨rfl, hzero⟩ | ⟨value, rfl, hread⟩
    · exact Or.inl ⟨hfind _, hzero⟩
    · exact readsOr_of_find (hfind _) hread
  | @RtuSlave config ne rtuOptions =>
    have hnodup : [keys.frameType, keys.device, keys.baudRate, keys.characterSize, keys.parity,
      keys.stopBits, keys.flowControl, keys.rs485].Nodup := by decide
    let table := [(keys.frameType, some (.string (frameTypeName config.frameType))),
      (keys.device, some (.string config.device))] ++ config.rtuOptions.members
    have hfind := find_ofMembers table hnodup
    refine ⟨.ofMembers table, .RtuSlave (has_frameType.mpr (hfind _)) ne (hfind _) ?_⟩
    exact RtuOptions.reads_members rtuOptions
      (find_of_lookup table hnodup (List.subset_append_right _ _))

/-- A master that is well formed has a document. -/
theorem TransportConfig.WellFormedMaster.exists_reads {config : TransportConfig}
    (h : config.WellFormedMaster contrib) : ∃ obj, config.ReadsMaster contrib obj := by
  cases h with
  | @TcpClient config masterConfig address port =>
    obtain ⟨text, htext⟩ := address
    have hnodup : [keys.frameType, keys.ipAddress, keys.ipPort, keys.timeout,
      keys.unitIdSet].Nodup := by decide
    let table := [(keys.frameType, some (.string "tcp")), (keys.ipAddress, some (.string text)),
      (keys.ipPort, some (.ofNat config.port.toNat))] ++ config.toMasterConfig.members
    have hfind := find_ofMembers table hnodup
    refine ⟨.ofMembers table, .TcpClient ⟨_, hfind _, _, rfl, rfl⟩ ?_ ⟨_, hfind _, _, rfl, htext⟩
      ⟨_, hfind _, readsIpPort_ofNat port⟩⟩
    exact MasterConfig.reads_members masterConfig
      (find_of_lookup table hnodup (List.subset_append_right _ _))
  | @RtuMaster config ne masterConfig rtuOptions =>
    have hnodup : [keys.frameType, keys.device, keys.timeout, keys.unitIdSet, keys.baudRate,
      keys.characterSize, keys.parity, keys.stopBits, keys.flowControl, keys.rs485].Nodup := by
      decide
    let table := [(keys.frameType, some (.string (frameTypeName config.frameType))),
      (keys.device, some (.string config.device))] ++
        (config.toMasterConfig.members ++ config.rtuOptions.members)
    have hfind := find_ofMembers table hnodup
    refine ⟨.ofMembers table, .RtuMaster (has_frameType.mpr (hfind _)) ne ?_ (hfind _) ?_⟩
    · refine MasterConfig.reads_members masterConfig (find_of_lookup table hnodup ?_)
      exact fun _ hmember => List.mem_append_right _ (List.mem_append_left _ hmember)
    · refine RtuOptions.reads_members rtuOptions (find_of_lookup table hnodup ?_)
      exact fun _ hmember => List.mem_append_right _ (List.mem_append_right _ hmember)

theorem ConfigService.exists_reads (contrib : Contrib) {configService : ConfigService}
    (h : configService.threads ≤ sizeMax) : ∃ value, configService.Reads contrib value :=
  ⟨.object [(keys.logLevel, .string configService.logLevel.name),
    (keys.threads, .ofNat configService.threads)], rfl,
    readsOr_of_find rfl ⟨_, rfl, convertLogLevel_name _⟩,
    readsOr_of_find rfl (readsUnsigned_ofNat (Nat.le_refl _) h)⟩

/-- What can be written one by one can be written as an array. -/
theorem exists_readsArray_of_forall {α : Type} {R : Json → α → Prop} {as : List α}
    (hne : as ≠ []) (h : ∀ a ∈ as, ∃ element, R element a) : ∃ value, ReadsArray R value as := by
  obtain ⟨elements, hall⟩ := exists_forall₂.mpr h
  refine ⟨.array elements, elements, rfl, ?_, List.Forall₂.flip hall⟩
  rintro rfl
  exact hne (List.forall₂_nil_right_iff.mp hall)

/-- **A configuration is accepted for some document exactly if it is well formed.** -/
theorem Config.exists_document_iff (contrib : Contrib) (config : Config) :
    (∃ data, config.Accepted contrib data) ↔ config.WellFormed contrib := by
  simp only [Config.accepted_iff]
  constructor
  · rintro ⟨data, hreads, hdefault⟩
    obtain ⟨_, -, hservice⟩ := hreads.configService
    obtain ⟨_, -, slaves, -, hslaves, hall⟩ := hreads.slaves
    obtain ⟨_, -, masters, -, hmasters, hall'⟩ := hreads.masters
    refine ⟨?_, ?_, fun slave hslave => ?_, ?_, fun master hmaster => ?_, hdefault⟩
    · exact hservice.threads.of_default (P := (· ≤ sizeMax)) (by decide) fun _ hread => hread.2
    · intro hnil
      rw [hnil, List.forall₂_nil_right_iff] at hall
      exact hslaves hall
    · obtain ⟨element, -, hread⟩ := exists_of_forall₂ hall hslave
      exact hread.wellFormed
    · intro hnil
      rw [hnil, List.forall₂_nil_right_iff] at hall'
      exact hmasters hall'
    · obtain ⟨element, -, hread⟩ := exists_of_forall₂ hall' hmaster
      exact hread.wellFormed
  · intro h
    obtain ⟨service, hservice⟩ := ConfigService.exists_reads contrib h.threads
    obtain ⟨slaves, hslaves⟩ := exists_readsArray_of_forall h.slaves_ne fun slave hslave =>
      (h.slaves slave hslave).exists_reads
    obtain ⟨masters, hmasters⟩ := exists_readsArray_of_forall h.masters_ne fun master hmaster =>
      (h.masters master hmaster).exists_reads
    exact ⟨.object [(keys.service, service), (keys.slaves, slaves), (keys.masters, masters)],
      ⟨⟨service, rfl, hservice⟩, ⟨slaves, rfl, hslaves⟩, ⟨masters, rfl, hmasters⟩⟩, h.default⟩

end ModbusGateway
