import ModbusGateway.Config.Acceptance

/-!
# The numbers of a configuration

The numbers that a configuration stores, beside those that are written in the document.  They
are the same as long as each number is a natural one that fits the type that stores it; the
extractors refuse none of the others for it.

* `Config.StoresNumbers` — every number that is stored is the one that is written.
* `NumberTests.fits` — the numbers that fit.
* `Config.Accepted.storesNumbers` — **numbers that fit are stored as they are written**.
* `Config.storesNumbers_iff` — exactly the documents that are misread.
-/

namespace ModbusGateway

/-- The number `x` is written. -/
def Json.IsWritten (value : Json) (x : ℚ) : Prop := value.number = some x

/-! ### What is stored -/

/-- The service stores the number written for `threads`. -/
def ConfigService.StoresNumbers (value : Json) (configService : ConfigService) : Prop :=
  value.MayHave keys.threads (·.IsWritten configService.threads)

/-- The delays that are written are stored. -/
structure Rs485.StoresNumbers (value : Json) (rs485 : Rs485) : Prop where
  delayRtsBeforeSend : value.MayHave keys.delayRtsBeforeSend fun v =>
    ∃ delay, rs485.delayRtsBeforeSend = some delay ∧ v.IsWritten delay.toNat
  delayRtsAfterSend : value.MayHave keys.delayRtsAfterSend fun v =>
    ∃ delay, rs485.delayRtsAfterSend = some delay ∧ v.IsWritten delay.toNat

/-- The numbers of the options of a serial port that are written are stored. -/
structure RtuOptions.StoresNumbers (obj : Json) (rtuOptions : RtuOptions) : Prop where
  baudRate : obj.MayHave keys.baudRate (·.IsWritten rtuOptions.baudRate.toNat)
  characterSize : obj.MayHave keys.characterSize (·.IsWritten rtuOptions.characterSize.toNat)
  rs485 : obj.MayHave keys.rs485 fun value =>
    ∃ rs485, rtuOptions.rs485 = some rs485 ∧ rs485.StoresNumbers value

/-- A range stores the numbers written for its ends, the smaller one first. -/
inductive UnitIdRange.StoresNumbers (obj : Json) : UnitIdRange → Prop
  | range {begin last : UnitId} {range : UnitIdRange}
      (type : obj.find keys.numericRangeType = some (.string "range"))
      (hbegin : obj.Has keys.numericRangeBegin (·.IsWritten begin.toNat))
      (hend : obj.Has keys.numericRangeEnd (·.IsWritten last.toNat))
      (h : begin ≤ last ∧ range = ⟨begin, last⟩ ∨ last < begin ∧ range = ⟨last, begin⟩) :
      StoresNumbers obj range
  | value {unitId : UnitId} (type : obj.find keys.numericRangeType = some (.string "value"))
      (hvalue : obj.Has keys.numericRangeValue (·.IsWritten unitId.toNat)) :
      StoresNumbers obj ⟨unitId, unitId⟩

/-- A master stores the numbers written for its timeout and its unit ids. -/
structure MasterConfig.StoresNumbers (obj : Json) (config : MasterConfig) : Prop where
  timeout : obj.MayHave keys.timeout (·.IsWritten config.timeout.toInt)
  unitIdSet : obj.MayHave keys.unitIdSet fun value =>
    List.Forall₂ UnitIdRange.StoresNumbers (elements value) config.unitIdSet

/-- A slave stores the numbers of its element. -/
inductive SlaveStoresNumbers (obj : Json) : TransportConfig → Prop
  | TcpServer {config : TcpServerConfig}
      (port : obj.MayHave keys.ipPort (·.IsWritten config.port.toNat)) :
      SlaveStoresNumbers obj (.TcpServer config)
  | RtuSlave {config : RtuSlaveConfig} (rtuOptions : config.rtuOptions.StoresNumbers obj) :
      SlaveStoresNumbers obj (.RtuSlave config)

/-- A master stores the numbers of its element. -/
inductive MasterStoresNumbers (obj : Json) : TransportConfig → Prop
  | TcpClient {config : TcpClientConfig} (master : config.toMasterConfig.StoresNumbers obj)
      (port : obj.MayHave keys.ipPort (·.IsWritten config.port.toNat)) :
      MasterStoresNumbers obj (.TcpClient config)
  | RtuMaster {config : RtuMasterConfig} (master : config.toMasterConfig.StoresNumbers obj)
      (rtuOptions : config.rtuOptions.StoresNumbers obj) :
      MasterStoresNumbers obj (.RtuMaster config)

/-- Every number that is stored is the one that is written. -/
structure Config.StoresNumbers (data : Json) (config : Config) : Prop where
  service : data.MayHave keys.service (config.configService.StoresNumbers ·)
  slaves : data.MayHave keys.slaves fun value =>
    List.Forall₂ SlaveStoresNumbers (elements value) config.slaves
  masters : data.MayHave keys.masters fun value =>
    List.Forall₂ MasterStoresNumbers (elements value) config.masters

/-- The numbers that fit the types that store them; a timeout becomes a signed number. -/
def NumberTests.fits : NumberTests where
  threads := WrittenBetween 0 (2 ^ 64 - 1)
  ipPort := WrittenBetween 0 (2 ^ 16 - 1)
  timeout := WrittenBetween 0 (2 ^ 63 - 1)
  baudRate := WrittenBetween 0 (2 ^ 32 - 1)
  characterSize := WrittenBetween 0 (2 ^ 32 - 1)
  stopBits _ := True
  delay := WrittenBetween 0 (2 ^ 32 - 1)
  unitId := WrittenBetween 0 (2 ^ 8 - 1)

/-! ### Numbers that fit -/

section Fits

variable {contrib : Contrib} {obj value data : Json} {key : String}

/-- A natural number that fits is read as it is written. -/
theorem isWritten_of_getUnsigned {bits m n : ℕ} {outOfRange : ℚ → ℕ}
    (hfits : WrittenBetween 0 m value) (hm : m < 2 ^ bits)
    (hread : value.getUnsigned bits outOfRange = some n) : value.IsWritten n ∧ n ≤ m := by
  obtain ⟨k, hk, -, hkm⟩ := hfits
  have hread' : value.getUnsigned bits outOfRange = some k :=
    getUnsigned_of_number hk (Nat.lt_of_le_of_lt hkm hm)
  obtain rfl := Option.some.inj (hread'.symm.trans hread)
  exact ⟨hk, hkm⟩

/-- What is read of a member that has a default, when the number that is written fits. -/
theorem ReadsOr.isWritten {α : Type} {R : Json → α → Prop} {test : Json → Prop} {default a : α}
    {x : ℚ} (h : ReadsOr obj key R default a) (htest : obj.MayHave key test)
    (hR : ∀ value, R value a → test value → value.IsWritten x) :
    obj.MayHave key (·.IsWritten x) := by
  intro value hfind
  rcases h with ⟨hnone, -⟩ | ⟨value', hfind', ha⟩
  · cases hfind.symm.trans hnone
  · obtain rfl := Option.some.inj (hfind'.symm.trans hfind)
    exact hR _ ha (htest _ hfind)

/-- The same of a member that may be absent. -/
theorem ReadsOpt.exists_of_find {α : Type} {R : Json → α → Prop} {r : Option α}
    (h : ReadsOpt obj key R r) (hfind : obj.find key = some value) :
    ∃ a, r = some a ∧ R value a := by
  cases r with
  | none => cases hfind.symm.trans h
  | some a =>
    obtain ⟨value', hfind', ha⟩ := h
    obtain rfl := Option.some.inj (hfind'.symm.trans hfind)
    exact ⟨a, rfl, ha⟩

theorem ConfigService.Reads.storesNumbers {configService : ConfigService}
    (h : configService.Reads contrib value)
    (hn : value.MayHave keys.threads NumberTests.fits.threads) :
    configService.StoresNumbers value :=
  h.threads.isWritten hn fun _ hread hfits =>
    (isWritten_of_getUnsigned hfits (by decide) hread.1).1

theorem delay_isWritten {delay : UInt32} (hread : contrib.ReadsDelay value delay)
    (hfits : NumberTests.fits.delay value) : value.IsWritten delay.toNat := by
  obtain ⟨n, hn, rfl⟩ := hread
  obtain ⟨hwritten, hle⟩ := isWritten_of_getUnsigned hfits (by decide) hn
  rwa [show n.toUInt32.toNat = n from Nat.mod_eq_of_lt (by omega)]

theorem Rs485.Reads.storesNumbers {rs485 : Rs485} (h : rs485.Reads contrib value)
    (hn : Rs485Numbers .fits value) : rs485.StoresNumbers value where
  delayRtsBeforeSend v hfind := by
    obtain ⟨delay, hdelay, hread⟩ := h.delayRtsBeforeSend.exists_of_find hfind
    exact ⟨delay, hdelay, delay_isWritten hread (hn.delayRtsBeforeSend v hfind)⟩
  delayRtsAfterSend v hfind := by
    obtain ⟨delay, hdelay, hread⟩ := h.delayRtsAfterSend.exists_of_find hfind
    exact ⟨delay, hdelay, delay_isWritten hread (hn.delayRtsAfterSend v hfind)⟩

theorem baudRate_isWritten {baudRate : UInt32} (hread : contrib.ReadsBaudRate value baudRate)
    (hfits : NumberTests.fits.baudRate value) : value.IsWritten baudRate.toNat := by
  obtain ⟨n, hn, rfl⟩ := hread
  obtain ⟨hwritten, hle⟩ := isWritten_of_getUnsigned hfits (by decide) hn.1
  rwa [show n.toUInt32.toNat = n from Nat.mod_eq_of_lt (by omega)]

theorem RtuOptions.Reads.storesNumbers {rtuOptions : RtuOptions}
    (h : rtuOptions.Reads contrib obj) (hn : TransportNumbers .fits obj)
    (hframe : obj.Has keys.frameType (Named ["rtu", "ascii"])) :
    rtuOptions.StoresNumbers obj where
  baudRate := h.baudRate.isWritten (hn.baudRate hframe) fun _ => baudRate_isWritten
  characterSize := h.characterSize.isWritten (hn.characterSize hframe) fun _ hread =>
    baudRate_isWritten hread.1
  rs485 value hfind := by
    obtain ⟨rs485, hrs485, hread⟩ := h.rs485.exists_of_find hfind
    exact ⟨rs485, hrs485, hread.storesNumbers (hn.rs485 hframe value hfind)⟩

theorem port_isWritten {port : UInt16} (hread : obj.Has keys.ipPort (contrib.ReadsIpPort · port))
    (hn : obj.MayHave keys.ipPort NumberTests.fits.ipPort) :
    obj.MayHave keys.ipPort (·.IsWritten port.toNat) := by
  refine ((hread.and hn).mono ?_).mayHave
  rintro value ⟨⟨n, ⟨hn, -⟩, -, rfl⟩, hfits⟩
  obtain ⟨hwritten, hle⟩ := isWritten_of_getUnsigned hfits (by decide) hn
  rwa [show n.toUInt16.toNat = n from Nat.mod_eq_of_lt (by omega)]

theorem unitId_isWritten {unitId : UnitId} (hread : obj.Has key (contrib.ReadsUnitId · unitId))
    (hn : obj.MayHave key NumberTests.fits.unitId) :
    obj.Has key (·.IsWritten unitId.toNat) := by
  refine (hread.and hn).mono ?_
  rintro value ⟨⟨n, ⟨hn, -⟩, rfl, -⟩, hfits⟩
  obtain ⟨hwritten, hle⟩ := isWritten_of_getUnsigned hfits (by decide) hn
  rwa [show n.toUInt8.toNat = n from Nat.mod_eq_of_lt (by omega)]

/-- `Normalize` puts the smaller end first. -/
theorem UnitIdRange.normalize_cases (begin last : UnitId) :
    begin ≤ last ∧ UnitIdRange.normalize ⟨begin, last⟩ = ⟨begin, last⟩ ∨
      last < begin ∧ UnitIdRange.normalize ⟨begin, last⟩ = ⟨last, begin⟩ := by
  unfold UnitIdRange.normalize
  by_cases h : begin > last
  · exact .inr ⟨h, if_pos h⟩
  · exact .inl ⟨UInt8.not_lt.mp h, if_neg h⟩

theorem UnitIdRange.Reads.storesNumbers {range : UnitIdRange} (h : range.Reads contrib obj)
    (hn : RangeNumbers .fits obj) : range.StoresNumbers obj := by
  cases h with
  | range htype hbegin hend =>
    exact .range htype (unitId_isWritten hbegin (hn.range htype).1)
      (unitId_isWritten hend (hn.range htype).2) (UnitIdRange.normalize_cases _ _)
  | value htype hvalue => exact .value htype (unitId_isWritten hvalue (hn.value htype))

/-- Two lists stay related when more is known of the first one. -/
theorem forall₂_imp_of_forall {α γ : Type} {R S : α → γ → Prop} {P : α → Prop} {as : List α}
    {cs : List γ} (h : List.Forall₂ R as cs) (hP : ∀ a ∈ as, P a)
    (hRS : ∀ a c, P a → R a c → S a c) : List.Forall₂ S as cs := by
  induction h with
  | nil => exact .nil
  | cons hR _ ih =>
    rw [List.forall_mem_cons] at hP
    exact .cons (hRS _ _ hP.1 hR) (ih hP.2)

theorem MasterConfig.Reads.storesNumbers {config : MasterConfig} (h : config.Reads contrib obj)
    (hn : MasterNumbers .fits obj) : config.StoresNumbers obj := by
  constructor
  · refine ((h.timeout.and hn.timeout).mono ?_).mayHave
    rintro value ⟨⟨n, hread, htimeout⟩, hfits⟩
    obtain ⟨hwritten, hle⟩ := isWritten_of_getUnsigned hfits (by decide) hread.1
    rw [← htimeout, Int64.toInt_ofNat_of_lt (by omega)]
    exact hwritten
  · intro value hfind
    rcases h.unitIdSet with ⟨hnone, -⟩ | ⟨value', hfind', elements, rfl, -, hall⟩
    · cases hfind.symm.trans hnone
    · obtain rfl := Option.some.inj (hfind'.symm.trans hfind)
      exact forall₂_imp_of_forall hall (hn.unitIdSet _ hfind) fun _ _ hn hr => hr.storesNumbers hn

theorem TransportConfig.ReadsSlave.storesNumbers {config : TransportConfig}
    (h : config.ReadsSlave contrib obj) (hn : TransportNumbers .fits obj) :
    SlaveStoresNumbers obj config := by
  cases h with
  | TcpServer hframe _ hport =>
    exact .TcpServer (port_isWritten hport (hn.ipPort (has_frameType.mp hframe)))
  | RtuSlave hframe hne _ hoptions =>
    exact .RtuSlave (hoptions.storesNumbers hn
      (exists_rtuFrameType.mp ⟨_, has_frameType.mp hframe, hne⟩))

theorem TransportConfig.ReadsMaster.storesNumbers {config : TransportConfig}
    (h : config.ReadsMaster contrib obj) (hn : MasterNumbers .fits obj) :
    MasterStoresNumbers obj config := by
  cases h with
  | TcpClient hframe hmaster _ hport =>
    exact .TcpClient (hmaster.storesNumbers hn)
      (port_isWritten hport (hn.ipPort (has_frameType.mp hframe)))
  | RtuMaster hframe hne hmaster _ hoptions =>
    exact .RtuMaster (hmaster.storesNumbers hn) (hoptions.storesNumbers hn.toTransportNumbers
      (exists_rtuFrameType.mp ⟨_, has_frameType.mp hframe, hne⟩))

/-- **Numbers that fit are stored as they are written.** -/
theorem Config.Accepted.storesNumbers {config : Config} (h : config.Accepted contrib data)
    (hn : Numbers .fits data) : config.StoresNumbers data := by
  obtain ⟨hreads, -⟩ := Config.accepted_iff.mp h
  refine ⟨?_, ?_, ?_⟩
  · exact ((hreads.configService.and hn.service).mono fun _ hv => hv.1.storesNumbers hv.2).mayHave
  · refine ((hreads.slaves.and hn.slaves).mono ?_).mayHave
    rintro _ ⟨⟨elements, rfl, -, hall⟩, hn⟩
    exact forall₂_imp_of_forall hall hn fun _ _ hn hs => hs.storesNumbers hn
  · refine ((hreads.masters.and hn.masters).mono ?_).mayHave
    rintro _ ⟨⟨elements, rfl, -, hall⟩, hn⟩
    exact forall₂_imp_of_forall hall hn fun _ _ hn hm => hm.storesNumbers hn

end Fits

/-- **Exactly the documents that are misread**: every number is stored as it is written, and
none that does not fit is accepted, as long as no document is accepted for what its numbers are
converted to. -/
theorem Config.storesNumbers_iff (contrib : Contrib) (data : Json) :
    (∀ config : Config, config.Accepted contrib data → config.StoresNumbers data) ∧
      (¬ Numbers .fits data → ¬ ∃ config : Config, config.Accepted contrib data) ↔
    (Format contrib (.read contrib) data → Numbers .fits data) := by
  rw [Config.exists_accepted_iff, not_imp_not]
  constructor
  · exact And.right
  · intro hfits
    refine ⟨fun config h => h.storesNumbers ?_, hfits⟩
    exact hfits (Config.exists_accepted_iff.mp ⟨config, h⟩)

/-- A `threads` of -1 is accepted, and stored as the greatest value of `size_t`. -/
theorem Config.storesNumbers_negative :
    let data := Document.tcp [("threads", .numberInteger (-1))] (.numberUnsigned 502)
      (.numberUnsigned 1000) []
    ¬ ((∀ config : Config, config.Accepted Document.contrib data → config.StoresNumbers data) ∧
      (¬ Numbers .fits data → ¬ ∃ config : Config, config.Accepted Document.contrib data)) := by
  intro data h
  have haccepted : (Document.config sizeMax 502 1000 []).Accepted Document.contrib data :=
    ⟨by decide +kernel, by decide +kernel⟩
  have hwritten := (h.1 _ haccepted).service _ rfl _ rfl
  have hcast : ((-1 : ℤ) : ℚ) = ((sizeMax : ℕ) : ℚ) := Option.some.inj hwritten
  rw [← Int.cast_natCast, Int.cast_inj] at hcast
  exact absurd hcast (by decide)

end ModbusGateway
