import ModbusGateway.Config.Rejection

/-!
# What of a document matters

The constructor looks at the members of the format and at nothing else: documents that have these
members alike give the same configuration, or the same exception.  Members with other keys, and
the order of members with different keys, do not matter.

## Main definitions

* `Alike` — two values that have the members of the format alike.

## Main results

* `Config.new_congr` — **documents that are alike give the same.**
-/

namespace ModbusGateway

/-- Two values that have the members of the format alike. -/
inductive Alike (contrib : Contrib) : Node → Json → Json → Prop
  | same (node : Node) (value : Json) : Alike contrib node value value
  | object {node : Node} {members members' : List (String × Json)} (htype : node.type = .Object)
      (habsent : ∀ key child, (node.members contrib).lookup key = some child →
        ((Json.object members).find key = none ↔ (Json.object members').find key = none))
      (h : ∀ key child value value', (node.members contrib).lookup key = some child →
        (Json.object members).find key = some value →
        (Json.object members').find key = some value' → Alike contrib child value value') :
      Alike contrib node (.object members) (.object members')
  | array {node child : Node} {elements elements' : List Json}
      (helement : node.element = some child) (hlength : elements.length = elements'.length)
      (h : ∀ (i : ℕ) (value value' : Json), elements[i]? = some value →
        elements'[i]? = some value' → Alike contrib child value value') :
      Alike contrib node (.array elements) (.array elements')

variable {contrib : Contrib} {node child : Node} {obj obj' : Json} {key : String}
  {tracePath : TracePath}

namespace Alike

/-- Values that are alike have the same type. -/
theorem type_eq (h : Alike contrib node obj obj') :
    convertJsonTypeToValueType obj = convertJsonTypeToValueType obj' := by
  cases h <;> rfl

/-- A member of the format is absent from both, or alike in both. -/
theorem member (h : Alike contrib node obj obj') (key : String)
    (hmember : (node.members contrib).lookup key = some child) :
    obj.find key = none ∧ obj'.find key = none ∨ ∃ value value', obj.find key = some value ∧
      obj'.find key = some value' ∧ Alike contrib child value value' := by
  cases h with
  | same node value =>
    cases hfind : obj.find key with
    | none => exact Or.inl ⟨rfl, rfl⟩
    | some value => exact Or.inr ⟨value, value, rfl, rfl, .same _ _⟩
  | @object node members members' htype habsent h =>
    cases hfind : (Json.object members).find key with
    | none => exact Or.inl ⟨rfl, (habsent key child hmember).mp hfind⟩
    | some value =>
      have hsome : (Json.object members').find key ≠ none := fun hnone => by
        rw [(habsent key child hmember).mpr hnone] at hfind
        cases hfind
      obtain ⟨value', hfind'⟩ := Option.ne_none_iff_exists'.mp hsome
      exact Or.inr ⟨value, value', rfl, hfind', h key child _ _ hmember hfind hfind'⟩
  | array helement hlength h => exact Or.inl ⟨rfl, rfl⟩

/-- Of a value with no members and no elements everything matters. -/
theorem eq_of_leaf {valueType : ValueType} {P : Json → Prop} (htype : valueType ≠ .Object)
    (h : Alike contrib (.leaf valueType P) obj obj') : obj = obj' := by
  cases h with
  | same node value => rfl
  | object htype' habsent h => exact absurd htype' htype
  | array helement hlength h => cases helement

/-- Such a member is the same in both. -/
theorem find_leaf (h : Alike contrib node obj obj') (key : String) {valueType : ValueType}
    {P : Json → Prop} (hmember : (node.members contrib).lookup key = some (.leaf valueType P))
    (htype : valueType ≠ .Object) : obj.find key = obj'.find key := by
  rcases h.member key hmember with ⟨hnone, hnone'⟩ | ⟨value, value', hfind, hfind', hvalue⟩
  · rw [hnone, hnone']
  · rw [hfind, hfind', hvalue.eq_of_leaf htype]

/-- The elements of an array are alike. -/
theorem elements (h : Alike contrib node obj obj') (helement : node.element = some child)
    (hobject : node.type ≠ .Object) :
    List.Forall₂ (Alike contrib child) (elements obj) (ModbusGateway.elements obj') := by
  cases h with
  | same node value => exact List.forall₂_same.mpr fun element _ => .same _ _
  | object htype habsent h => exact absurd htype hobject
  | array helement' hlength h =>
    obtain rfl := Option.some.inj (helement.symm.trans helement')
    refine List.forall₂_iff_get.mpr ⟨hlength, fun i hi hi' => ?_⟩
    exact h i _ _ (List.getElem?_eq_getElem hi) (List.getElem?_eq_getElem hi')

end Alike

/-! ### Members that are the same -/

theorem extractValueOpt_congr {α : Type} (hfind : obj.find key = obj'.find key)
    (get : Json → Option α) (valueType : ValueType) :
    extractValueOpt get tracePath obj key valueType =
      extractValueOpt get tracePath obj' key valueType := by
  simp only [extractValueOpt, findObjectRaw, TraceDeep.new, hfind]

theorem extractUnsignedNumberOpt_congr (hfind : obj.find key = obj'.find key) (max : ℕ) :
    extractUnsignedNumberOpt contrib max tracePath obj key =
      extractUnsignedNumberOpt contrib max tracePath obj' key := by
  simp only [extractUnsignedNumberOpt, findObjectRaw, TraceDeep.new, hfind]

theorem extractUnsignedNumber_congr (hfind : obj.find key = obj'.find key) (max : ℕ) :
    extractUnsignedNumber contrib max tracePath obj key =
      extractUnsignedNumber contrib max tracePath obj' key := by
  simp only [extractUnsignedNumber, extractUnsignedNumberOpt_congr hfind]

theorem extractString_congr (hfind : obj.find key = obj'.find key) :
    extractString tracePath obj key = extractString tracePath obj' key := by
  simp only [extractString, findObject, findObjectRaw, TraceDeep.new, hfind]

theorem extractModbusUnitId_congr (hfind : obj.find key = obj'.find key) :
    extractModbusUnitId contrib tracePath obj key =
      extractModbusUnitId contrib tracePath obj' key := by
  simp only [extractModbusUnitId, extractUnsignedNumber_congr hfind]

theorem extractLogLevel_congr (hfind : obj.find keys.logLevel = obj'.find keys.logLevel) :
    extractLogLevel tracePath obj = extractLogLevel tracePath obj' := by
  simp only [extractLogLevel, findObjectRaw, TraceDeep.new, hfind]

theorem extractFrameType_congr (hfind : obj.find keys.frameType = obj'.find keys.frameType) :
    extractFrameType tracePath obj = extractFrameType tracePath obj' := by
  simp only [extractFrameType, findObject, findObjectRaw, TraceDeep.new, hfind]

theorem extractIpAddressOptional_congr
    (hfind : obj.find keys.ipAddress = obj'.find keys.ipAddress) :
    extractIpAddressOptional contrib tracePath obj =
      extractIpAddressOptional contrib tracePath obj' := by
  simp only [extractIpAddressOptional, findObjectRaw, TraceDeep.new, hfind]

theorem extractIpPort_congr (hfind : obj.find keys.ipPort = obj'.find keys.ipPort) :
    extractIpPort contrib tracePath obj = extractIpPort contrib tracePath obj' := by
  simp only [extractIpPort, findObject, findObjectRaw, TraceDeep.new, hfind]

/-! ### Members that are alike -/

theorem checkType_congr (h : Alike contrib node obj obj') (td : TraceDeep)
    (expectType : ValueType) : checkType td obj expectType = checkType td obj' expectType := by
  rw [checkType, checkType, h.type_eq]

/-- A member is looked for, and read on where it is there. -/
theorem findObject_congr {α : Type} (h : Alike contrib node obj obj') (td : TraceDeep)
    (hmember : (node.members contrib).lookup td.key = some child)
    {k k' : Json → Except Exception α}
    (hk : ∀ value value', Alike contrib child value value' → k value = k' value') :
    (findObject td obj >>= k) = findObject td obj' >>= k' := by
  rcases h.member td.key hmember with ⟨hnone, hnone'⟩ | ⟨value, value', hfind, hfind', hvalue⟩
  · simp only [findObject, findObjectRaw, hnone, hnone']
    rfl
  · simp only [findObject, findObjectRaw, hfind, hfind']
    exact hk value value' hvalue

/-- A member that may be absent is looked for, and read on where it is there. -/
theorem findObjectRaw_congr {α : Type} (h : Alike contrib node obj obj') (td : TraceDeep)
    (hmember : (node.members contrib).lookup td.key = some child)
    {k k' : Json → Except Exception α} {absent : Except Exception α}
    (hk : ∀ value value', Alike contrib child value value' → k value = k' value') :
    (match findObjectRaw td obj with
      | none => absent
      | some value => k value) =
    match findObjectRaw td obj' with
      | none => absent
      | some value => k' value := by
  rcases h.member td.key hmember with ⟨hnone, hnone'⟩ | ⟨value, value', hfind, hfind', hvalue⟩
  · simp only [findObjectRaw, hnone, hnone']
  · simp only [findObjectRaw, hfind, hfind']
    exact hk value value' hvalue

/-- Elements that are alike are read alike. -/
theorem extractElements_congr {α : Type} {extract : TracePath → Json → Except Exception α}
    (hextract : ∀ tracePath element element', Alike contrib child element element' →
      extract tracePath element = extract tracePath element') {elements elements' : List Json}
    (h : List.Forall₂ (Alike contrib child) elements elements') (index : ℕ) :
    extractElements extract tracePath index elements =
      extractElements extract tracePath index elements' := by
  induction h generalizing index with
  | nil => rfl
  | cons helement _ ih => simp only [extractElements, hextract _ _ _ helement, ih]

/-- An array whose elements are read. -/
theorem array_congr {α : Type} (extract : TracePath → Json → Except Exception α)
    (tracePath : TracePath) (hextract : ∀ tracePath element element',
      Alike contrib child element element' →
        extract tracePath element = extract tracePath element')
    (h : Alike contrib node obj obj') (helement : node.element = some child)
    (hobject : node.type ≠ .Object) :
    (elements obj).isEmpty = (elements obj').isEmpty ∧
      extractElements extract tracePath 0 (elements obj) =
        extractElements extract tracePath 0 (elements obj') := by
  have hall := h.elements helement hobject
  refine ⟨?_, extractElements_congr hextract hall 0⟩
  rw [Bool.eq_iff_iff, List.isEmpty_iff_length_eq_zero, List.isEmpty_iff_length_eq_zero,
    hall.length_eq]

/-! ### The parts of a document -/

theorem configService_congr (h : Alike contrib .service obj obj') :
    ConfigService.new contrib tracePath obj = ConfigService.new contrib tracePath obj' := by
  have hlogLevel := h.find_leaf keys.logLevel rfl (by decide)
  have hthreads := h.find_leaf keys.threads rfl (by decide)
  simp only [ConfigService.new, extractLogLevel_congr hlogLevel,
    extractUnsignedNumberOpt_congr hthreads]

theorem extractConfigService_congr (h : Alike contrib .root obj obj') :
    extractConfigService contrib tracePath obj = extractConfigService contrib tracePath obj' :=
  findObject_congr h _ rfl fun value value' hvalue => by
    rw [checkType_congr hvalue, configService_congr hvalue]

theorem extractRs485Options_congr (h : Alike contrib node obj obj')
    (hmember : (node.members contrib).lookup keys.rs485 = some .rs485) :
    extractRs485Options contrib tracePath obj = extractRs485Options contrib tracePath obj' :=
  findObjectRaw_congr h _ hmember fun value value' hvalue => by
    have hrtsOnSend := hvalue.find_leaf keys.rtsOnSend rfl (by decide)
    have hrtsAfterSend := hvalue.find_leaf keys.rtsAfterSend rfl (by decide)
    have hrxDuringTx := hvalue.find_leaf keys.rxDuringTx rfl (by decide)
    have hterminateBus := hvalue.find_leaf keys.terminateBus rfl (by decide)
    have hbefore := hvalue.find_leaf keys.delayRtsBeforeSend rfl (by decide)
    have hafter := hvalue.find_leaf keys.delayRtsAfterSend rfl (by decide)
    simp only [checkType_congr hvalue, extractValueOpt_congr hrtsOnSend,
      extractValueOpt_congr hrtsAfterSend, extractValueOpt_congr hrxDuringTx,
      extractValueOpt_congr hterminateBus, extractValueOpt_congr hbefore,
      extractValueOpt_congr hafter]

theorem extractRtuOptions_congr (hnode : node.IsTransport contrib)
    (h : Alike contrib node obj obj') :
    extractRtuOptions contrib tracePath obj = extractRtuOptions contrib tracePath obj' := by
  have hbaudRate := h.find_leaf keys.baudRate (hnode rfl) (by decide)
  have hcharacterSize := h.find_leaf keys.characterSize (hnode rfl) (by decide)
  have hparity := h.find_leaf keys.parity (hnode rfl) (by decide)
  have hstopBits := h.find_leaf keys.stopBits (hnode rfl) (by decide)
  have hflowControl := h.find_leaf keys.flowControl (hnode rfl) (by decide)
  simp only [extractRtuOptions, extractStringOpt, extractUnsignedNumberOpt_congr hbaudRate,
    extractUnsignedNumberOpt_congr hcharacterSize, extractValueOpt_congr hparity,
    extractValueOpt_congr hstopBits, extractValueOpt_congr hflowControl,
    extractRs485Options_congr h (hnode rfl)]

theorem transport_congr (tracePath : TracePath) (hnode : node.IsTransport contrib)
    (h : Alike contrib node obj obj') :
    extractFrameType tracePath obj = extractFrameType tracePath obj' ∧
      extractIpAddressOptional contrib tracePath obj =
        extractIpAddressOptional contrib tracePath obj' ∧
      extractIpPort contrib tracePath obj = extractIpPort contrib tracePath obj' ∧
      extractString tracePath obj keys.device = extractString tracePath obj' keys.device :=
  ⟨extractFrameType_congr (h.find_leaf _ (hnode rfl) (by decide)),
    extractIpAddressOptional_congr (h.find_leaf _ (hnode rfl) (by decide)),
    extractIpPort_congr (h.find_leaf _ (hnode rfl) (by decide)),
    extractString_congr (h.find_leaf _ (hnode rfl) (by decide))⟩

theorem unitIdRange_congr (h : Alike contrib .range obj obj') :
    UnitIdRange.new contrib tracePath obj = UnitIdRange.new contrib tracePath obj' := by
  have htype := h.find_leaf keys.numericRangeType rfl (by decide)
  have hbegin := h.find_leaf keys.numericRangeBegin rfl (by decide)
  have hend := h.find_leaf keys.numericRangeEnd rfl (by decide)
  have hvalue := h.find_leaf keys.numericRangeValue rfl (by decide)
  simp only [UnitIdRange.new, extractNumericRangeType, TraceDeep.new, extractString_congr htype,
    extractModbusUnitId_congr hbegin, extractModbusUnitId_congr hend,
    extractModbusUnitId_congr hvalue]

theorem extractUnitIdRangeSet_congr (h : Alike contrib .master obj obj') :
    extractUnitIdRangeSet contrib tracePath obj = extractUnitIdRangeSet contrib tracePath obj' :=
  findObjectRaw_congr h _ rfl fun value value' hvalue => by
    obtain ⟨hempty, helements⟩ := array_congr (UnitIdRange.new contrib)
      (TraceDeep.new tracePath keys.unitIdSet).tracePath (fun _ _ _ => unitIdRange_congr)
      hvalue rfl (by decide)
    simp only [checkType_congr hvalue, hempty, helements]

theorem masterConfig_congr (h : Alike contrib .master obj obj') :
    MasterConfig.new contrib tracePath obj = MasterConfig.new contrib tracePath obj' := by
  have htimeout := h.find_leaf keys.timeout rfl (by decide)
  simp only [MasterConfig.new, extractUnsignedNumber_congr htimeout,
    extractUnitIdRangeSet_congr h]

theorem extractSlave_congr (h : Alike contrib .slave obj obj') :
    extractSlave contrib tracePath obj = extractSlave contrib tracePath obj' := by
  obtain ⟨hframeType, haddress, hport, hdevice⟩ :=
    transport_congr tracePath isTransport_slave h
  simp only [extractSlave, TcpServerConfig.new, RtuSlaveConfig.new, hframeType, haddress, hport,
    hdevice, extractRtuOptions_congr isTransport_slave h]

theorem extractMaster_congr (h : Alike contrib .master obj obj') :
    extractMaster contrib tracePath obj = extractMaster contrib tracePath obj' := by
  obtain ⟨hframeType, haddress, hport, hdevice⟩ :=
    transport_congr tracePath isTransport_master h
  simp only [extractMaster, TcpClientConfig.new, RtuMasterConfig.new, extractIpAddress,
    hframeType, haddress, hport, hdevice, masterConfig_congr h,
    extractRtuOptions_congr isTransport_master h]

/-- The array under a key of the root, whose elements are read alike. -/
theorem extractTransports_congr {array : Node}
    {extract : TracePath → Json → Except Exception TransportConfig}
    (hextract : ∀ tracePath element element', Alike contrib child element element' →
      extract tracePath element = extract tracePath element')
    (h : Alike contrib .root obj obj')
    (hmember : (Node.root.members contrib).lookup key = some array)
    (helement : array.element = some child) (hobject : array.type ≠ .Object) :
    extractTransports extract key tracePath obj = extractTransports extract key tracePath obj' :=
  findObject_congr h _ hmember fun value value' hvalue => by
    obtain ⟨hempty, helements⟩ := array_congr extract (TraceDeep.new tracePath key).tracePath
      hextract hvalue helement hobject
    simp only [checkType_congr hvalue, hempty, helements]

/-- **Documents that are alike give the same**: the same configuration, or the same exception
about the same path.  Members with other keys, and the order of members with different keys, do
not matter, in the root and in every object below. -/
theorem Config.new_congr (contrib : Contrib) {data data' : Json}
    (h : Alike contrib .root data data') : Config.new contrib data = Config.new contrib data' := by
  have hslaves : ∀ tracePath, extractSlaves contrib tracePath data =
      extractSlaves contrib tracePath data' := fun tracePath =>
    extractTransports_congr (fun _ _ _ => extractSlave_congr) h rfl rfl (by decide)
  have hmasters : ∀ tracePath, extractMasters contrib tracePath data =
      extractMasters contrib tracePath data' := fun tracePath =>
    extractTransports_congr (fun _ _ _ => extractMaster_congr) h rfl rfl (by decide)
  simp only [Config.new, extractConfigService_congr h, hslaves, hmasters]

/-- Objects that have the same members of the format are alike. -/
theorem Alike.of_find {members members' : List (String × Json)} (htype : node.type = .Object)
    (h : ∀ key child, (key, child) ∈ node.members contrib →
      (Json.object members).find key = (Json.object members').find key) :
    Alike contrib node (.object members) (.object members') := by
  refine .object htype (fun key child hmember => ?_) fun key child value value' hmember hv hv' => ?_
  · rw [h key child (mem_of_lookup hmember)]
  · rw [h key child (mem_of_lookup hmember), hv'] at hv
    obtain rfl := Option.some.inj hv
    exact .same _ _

/-- A document is read as one with its members in another order and one that the format does not
have. -/
theorem Config.new_congr_reordered :
    let service := Json.object [("threads", .numberUnsigned 2)]
    let slaves := Json.array
      [.object [("frame_type", .string "tcp"), ("ip_port", .numberUnsigned 5020)]]
    let masters := Json.array [.object [("frame_type", .string "tcp"),
      ("timeout_ms", .numberUnsigned 1000), ("ip_address", .string "192.168.2.2"),
      ("ip_port", .numberUnsigned 502)]]
    Config.new Document.contrib (.object [("comment", .string "no key of the format"),
        ("masters", masters), ("slaves", slaves), ("service", service)]) =
      Config.new Document.contrib (.object [("service", service), ("slaves", slaves),
        ("masters", masters)]) ∧
    Config.new Document.contrib (.object [("service", service), ("slaves", slaves),
      ("masters", masters)]) = .ok (Document.config 2 5020 1000 []) := by
  intro service slaves masters
  refine ⟨Config.new_congr _ (.of_find rfl fun key child hmember => ?_), by decide +kernel⟩
  simp only [Node.members, List.mem_cons, Prod.mk.injEq, List.not_mem_nil, or_false] at hmember
  rcases hmember with ⟨rfl, -⟩ | ⟨rfl, -⟩ | ⟨rfl, -⟩ <;> rfl

end ModbusGateway
