import ModbusGateway.Config.ErrorPath

/-!
# What is rejected, and where the exception points

Each extractor throws exceptions that point to what they are about, but for the one that reads
the `type` of an element of `unit_id`: it has the key on the path when it looks for the member,
so that the key is there twice if the member is absent or no string.

* `throws_…` — where the exceptions of an extractor point, one lemma for each.
* `UntypedFirst` — the first thing that cannot be read is an element of `unit_id` without a
  proper `type`.
* `Config.rejected_points` — **every other exception points to what it is about.**
* `Config.pointsRight_iff` — exactly the documents whose exceptions point right.
-/

namespace ModbusGateway

/-- The first element of `unit_id` that cannot be read has no `type` that is a string. -/
def Untyped (contrib : Contrib) (obj : Json) : Prop :=
  ∃ ranges range rest, obj.find keys.unitIdSet = some (.array (ranges ++ range :: rest)) ∧
    (∀ range ∈ ranges, RangeFormat (.read contrib) range) ∧
    ¬ ∃ s, range.find keys.numericRangeType = some (.string s)

/-- The first thing that cannot be read is such an element: the masters before its own, and the
members that are read before `unit_id`, can be read. -/
def UntypedFirst (contrib : Contrib) (data : Json) : Prop :=
  data.Has keys.service (ServiceFormat (.read contrib)) ∧
    data.Has keys.slaves (IsArrayOf (SlaveFormat contrib (.read contrib))) ∧
    ∃ masters master rest, data.find keys.masters = some (.array (masters ++ master :: rest)) ∧
      (∀ master ∈ masters, MasterFormat contrib (.read contrib) master) ∧
      master.Has keys.frameType (Named ["tcp", "rtu", "ascii"]) ∧
      master.Has keys.timeout IsNumber ∧ Untyped contrib master

/-! ### Steps that may throw, and where their exceptions point -/

section Points

variable {contrib : Contrib} {node child : Node} {obj value : Json} {tracePath : TracePath}
  {key : String}

theorem throws_getOrThrow {α : Type} {o : Option α} :
    Throws (getOrThrow o) (Points contrib node obj tracePath) := by
  cases o with
  | none => exact .error fun _ h => by cases h
  | some a => exact .ok a

theorem throws_keyNotFound {α : Type} (hrequires : node.Requires obj key)
    (hfind : obj.find key = none) :
    Throws (keyNotFound (TraceDeep.new tracePath key) : Except Exception α)
      (Points contrib node obj tracePath) :=
  .error (.here ⟨hrequires, hfind⟩)

theorem throws_findObject (hrequires : node.Requires obj key) :
    Throws (findObject (TraceDeep.new tracePath key) obj) (Points contrib node obj tracePath) := by
  unfold findObject findObjectRaw
  simp only [TraceDeep.new]
  cases hfind : obj.find key with
  | none => exact throws_keyNotFound hrequires hfind
  | some value => exact .ok value

theorem throws_checkType {expectType : ValueType}
    (hmember : (node.members contrib).lookup key = some child)
    (htype : child.type = expectType) (hfind : obj.find key = some value) :
    Throws (checkType (TraceDeep.new tracePath key) value expectType)
      (Points contrib node obj tracePath) := by
  unfold checkType
  refine .dite (fun hne => .error (.here ?_)) fun _ => .ok ()
  exact ⟨Ne.symm hne, child, value, hmember, hfind, htype, rfl⟩

theorem throws_invalidValue {α : Type} {text : String}
    (hmember : (node.members contrib).lookup key = some child)
    (hfind : obj.find key = some value) (htype : child.type = convertJsonTypeToValueType value)
    (hadmits : ¬ child.Admits value) :
    Throws (invalidValue (TraceDeep.new tracePath key) text : Except Exception α)
      (Points contrib node obj tracePath) :=
  .error (.here ⟨child, value, hmember, hfind, htype, hadmits⟩)

/-! ### Members -/

/-- A member that may be absent, where `step` reads it when it is there. -/
theorem throws_optional {α : Type} {step : Json → Except Exception (Option α)}
    (hstep : ∀ value, obj.find key = some value →
      Throws (step value) (Points contrib node obj tracePath)) :
    Throws (match obj.find key with
      | none => pure none
      | some value => step value) (Points contrib node obj tracePath) := by
  cases hfind : obj.find key with
  | none => exact .pure none
  | some value => exact hstep value hfind

theorem throws_extractValueOpt {α : Type} {get : Json → Option α} {valueType : ValueType}
    {P : Json → Prop} (hmember : (node.members contrib).lookup key = some (.leaf valueType P)) :
    Throws (extractValueOpt get tracePath obj key valueType)
      (Points contrib node obj tracePath) := by
  refine throws_optional fun value hfind => ?_
  refine .bind (throws_checkType hmember rfl hfind) fun _ _ => ?_
  exact .bind throws_getOrThrow fun a _ => .pure (some a)

/-- A string that must be converted. -/
theorem throws_string {α : Type} {P : Json → Prop} {step : String → Except Exception α}
    (hmember : (node.members contrib).lookup key = some (.leaf .String P))
    (hfind : obj.find key = some value)
    (hstep : ∀ s, value = .string s → Throws (step s) (Points contrib node obj tracePath)) :
    Throws (do
      checkType (TraceDeep.new tracePath key) value .String
      let s ← getOrThrow value.getString
      step s) (Points contrib node obj tracePath) := by
  refine .bind (throws_checkType hmember rfl hfind) fun _ htype => ?_
  refine .bind throws_getOrThrow fun s hget => hstep s ?_
  exact type_eq_string.mp ⟨checkType_eq_ok.mp htype, getOrThrow_eq_ok.mp hget⟩

theorem throws_extractUnsignedNumberOpt {max : ℕ} {P : Json → Prop}
    (hmember : (node.members contrib).lookup key = some (.leaf .Number P))
    (hP : ∀ value, P value → ∃ n, contrib.ReadsUnsigned max value n) :
    Throws (extractUnsignedNumberOpt contrib max tracePath obj key)
      (Points contrib node obj tracePath) := by
  refine throws_optional fun value hfind => ?_
  refine .bind (throws_checkType hmember rfl hfind) fun _ htype => ?_
  refine .bind throws_getOrThrow fun n hget => ?_
  refine .dite (fun hmax => ?_) fun _ => .pure (some n)
  refine throws_invalidValue hmember hfind (checkType_eq_ok.mp htype).symm fun hvalue => ?_
  obtain ⟨n', hget', hmax'⟩ := hP value hvalue
  obtain rfl := Option.some.inj ((getOrThrow_eq_ok.mp hget).symm.trans hget')
  exact absurd hmax (Nat.not_lt.mpr hmax')

theorem throws_extractUnsignedNumber {max : ℕ} {P : Json → Prop}
    (hmember : (node.members contrib).lookup key = some (.leaf .Number P))
    (hrequires : node.Requires obj key)
    (hP : ∀ value, P value → ∃ n, contrib.ReadsUnsigned max value n) :
    Throws (extractUnsignedNumber contrib max tracePath obj key)
      (Points contrib node obj tracePath) := by
  refine .bind (throws_extractUnsignedNumberOpt hmember hP) fun r hr => ?_
  cases r with
  | none => exact throws_keyNotFound hrequires (extractUnsignedNumberOpt_eq_ok.mp hr)
  | some n => exact .pure n

theorem throws_extractString {P : Json → Prop}
    (hmember : (node.members contrib).lookup key = some (.leaf .String P))
    (hrequires : node.Requires obj key) :
    Throws (extractString tracePath obj key) (Points contrib node obj tracePath) := by
  refine .bind (throws_findObject hrequires) fun value hfind => ?_
  refine .bind (throws_checkType hmember rfl (findObject_eq_ok.mp hfind)) fun _ _ => ?_
  exact throws_getOrThrow

/-- A name that is not in its table. -/
theorem not_named_of_lookup {α : Type} {table : List (String × α)} {s : String}
    (h : table.lookup s = none) : ¬ Named (table.map Prod.fst) (.string s) := by
  rintro ⟨name, hname, heq⟩
  obtain rfl := Json.string.inj heq
  obtain ⟨a, ha⟩ := exists_lookup.mpr hname
  cases ha.symm.trans h

theorem throws_extractLogLevel : Throws (extractLogLevel tracePath obj)
    (Points contrib .service obj tracePath) := by
  refine throws_optional fun value hfind => ?_
  refine throws_string rfl hfind fun s hs => ?_
  cases hconvert : convertLogLevel s with
  | none =>
    exact throws_invalidValue rfl hfind (by rw [hs]; rfl) (hs ▸ not_named_of_lookup hconvert)
  | some logLevel => exact .pure (some logLevel)

theorem throws_configService : Throws (ConfigService.new contrib tracePath obj)
    (Points contrib .service obj tracePath) := by
  refine .bind throws_extractLogLevel fun _ _ => ?_
  refine .bind (throws_extractUnsignedNumberOpt rfl fun _ => exists_readsThreads.mpr) fun r _ => ?_
  cases r <;> exact .pure _

theorem throws_extractConfigService : Throws (extractConfigService contrib tracePath obj)
    (Points contrib .root obj tracePath) := by
  have hmember : (Node.root.members contrib).lookup keys.service = some .service := rfl
  refine .bind (throws_findObject .service) fun value hfind => ?_
  rw [findObject_eq_ok] at hfind
  refine .bind (throws_checkType hmember rfl hfind) fun _ _ => ?_
  exact throws_configService.mono fun _ => .member hmember hfind

/-! ### Members of a transport -/

/-- The part of the format has the members that every transport may have. -/
def Node.IsTransport (contrib : Contrib) (node : Node) : Prop :=
  ∀ {key : String} {child : Node}, (Node.transportMembers contrib).lookup key = some child →
    (node.members contrib).lookup key = some child

theorem isTransport_slave : Node.slave.IsTransport contrib := id

theorem isTransport_master : Node.master.IsTransport contrib := by
  intro key child h
  simp only [Node.members, List.lookup_append, h, Option.some_or]

theorem throws_extractFrameType (hnode : node.IsTransport contrib)
    (hrequires : node.Requires obj keys.frameType) :
    Throws (extractFrameType tracePath obj) (Points contrib node obj tracePath) := by
  have hmember : (node.members contrib).lookup keys.frameType =
      some (.leaf .String (Named ["tcp", "rtu", "ascii"])) := hnode rfl
  refine .bind (throws_findObject hrequires) fun value hfind => ?_
  rw [findObject_eq_ok] at hfind
  refine throws_string hmember hfind fun s hs => ?_
  cases hconvert : convertFrameType s with
  | none =>
    exact throws_invalidValue hmember hfind (by rw [hs]; rfl) (hs ▸ not_named_of_lookup hconvert)
  | some frameType => exact .pure frameType

theorem throws_extractIpAddressOptional (hnode : node.IsTransport contrib) :
    Throws (extractIpAddressOptional contrib tracePath obj)
      (Points contrib node obj tracePath) := by
  refine throws_optional fun value hfind => ?_
  refine throws_string (hnode rfl) hfind fun s hs => ?_
  cases haddress : contrib.makeAddressV4 s with
  | none =>
    refine throws_invalidValue (hnode rfl) hfind (by rw [hs]; rfl) ?_
    rintro ⟨s', hs', hsome⟩
    obtain rfl := Json.string.inj (hs.symm.trans hs')
    exact hsome haddress
  | some address => exact .pure (some address)

theorem throws_extractIpAddress (hnode : node.IsTransport contrib)
    (hrequires : node.Requires obj keys.ipAddress) :
    Throws (extractIpAddress contrib tracePath obj) (Points contrib node obj tracePath) := by
  refine .bind (throws_extractIpAddressOptional hnode) fun r hr => ?_
  cases r with
  | none => exact throws_keyNotFound hrequires (extractIpAddressOptional_eq_ok.mp hr)
  | some address => exact .pure address

theorem throws_extractIpPort (hnode : node.IsTransport contrib)
    (hrequires : node.Requires obj keys.ipPort) :
    Throws (extractIpPort contrib tracePath obj) (Points contrib node obj tracePath) := by
  have hmember : (node.members contrib).lookup keys.ipPort =
      some (.leaf .Number (contrib.ReadBetween 1 65535)) := hnode rfl
  refine .bind (throws_findObject hrequires) fun value hfind => ?_
  rw [findObject_eq_ok] at hfind
  refine .bind (throws_checkType hmember rfl hfind) fun _ htype => ?_
  refine .bind throws_getOrThrow fun n hget => ?_
  refine .dite (fun hrange => ?_) fun _ => .pure _
  refine throws_invalidValue hmember hfind (checkType_eq_ok.mp htype).symm ?_
  rintro ⟨n', hget', hmin, hmax⟩
  obtain rfl := Option.some.inj ((getOrThrow_eq_ok.mp hget).symm.trans hget')
  omega

theorem throws_extractRs485Options (hnode : node.IsTransport contrib) :
    Throws (extractRs485Options contrib tracePath obj) (Points contrib node obj tracePath) := by
  have hmember : (node.members contrib).lookup keys.rs485 = some .rs485 := hnode rfl
  refine throws_optional fun value hfind => ?_
  refine .bind (throws_checkType hmember rfl hfind) fun _ _ => ?_
  refine .mono ?_ fun _ => Points.member hmember hfind
  refine .bind (throws_extractValueOpt rfl) fun _ _ => ?_
  refine .bind (throws_extractValueOpt rfl) fun _ _ => ?_
  refine .bind (throws_extractValueOpt rfl) fun _ _ => ?_
  refine .bind (throws_extractValueOpt rfl) fun _ _ => ?_
  refine .bind (throws_extractValueOpt rfl) fun _ _ => ?_
  exact .bind (throws_extractValueOpt rfl) fun _ _ => .pure _

/-- An option that is given by a name, and cannot be read if the name cannot be converted. -/
theorem throws_extractOption {α γ : Type} {extracted : Except Exception (Option α)}
    {convert : α → Option γ} {text : α → String} {R : Json → α → Prop} {valueType : ValueType}
    {P : Json → Prop} (hmember : (node.members contrib).lookup key = some (.leaf valueType P))
    (hthrows : Throws extracted (Points contrib node obj tracePath))
    (hextracted : ∀ o, extracted = .ok o ↔ ReadsOpt obj key R o)
    (hR : ∀ value a, R value a → valueType = convertJsonTypeToValueType value ∧
      (convert a = none → ¬ P value)) :
    Throws (extractOption extracted convert text tracePath key)
      (Points contrib node obj tracePath) := by
  refine .bind hthrows fun o ho => ?_
  cases o with
  | none => exact .pure none
  | some a =>
    obtain ⟨value, hfind, ha⟩ := (hextracted _).mp ho
    obtain ⟨htype, hP⟩ := hR value a ha
    cases hconvert : convert a with
    | none =>
      simp only [hconvert]
      exact throws_invalidValue hmember hfind htype (hP hconvert)
    | some c =>
      simp only [hconvert]
      exact .pure (some c)

/-- An option that is given by a string. -/
theorem throws_namedOption {γ : Type} {table : List (String × γ)}
    (hmember : (node.members contrib).lookup key =
      some (.leaf .String (Named (table.map Prod.fst)))) :
    Throws (extractOption (extractStringOpt tracePath obj key) (table.lookup ·) id tracePath key)
      (Points contrib node obj tracePath) := by
  refine throws_extractOption hmember (throws_extractValueOpt hmember)
    (fun _ => extractStringOpt_eq_ok) ?_
  rintro _ s rfl
  exact ⟨rfl, not_named_of_lookup⟩

theorem throws_stopBits
    (hmember : (node.members contrib).lookup key =
      some (.leaf .Number (NumberTests.read contrib).stopBits)) :
    Throws (extractOption (extractValueOpt Json.getFloat tracePath obj key .Number)
      convertStopBits floatToString tracePath key) (Points contrib node obj tracePath) := by
  refine throws_extractOption hmember (throws_extractValueOpt hmember) (fun _ => float_eq_ok) ?_
  intro value x hx
  refine ⟨(type_of_getFloat hx).symm, ?_⟩
  rintro hconvert ⟨x', hx', hsome⟩
  obtain rfl := Option.some.inj (hx.symm.trans hx')
  exact hsome hconvert

theorem throws_characterSizeOr {default : UInt32} {size : Option ℕ} :
    Throws (characterSizeOr default size) (Points contrib node obj tracePath) := by
  cases size with
  | none => exact .pure default
  | some size => exact .dite (fun _ => .error fun _ h => by cases h) fun _ => .ok _

theorem throws_extractRtuOptions (hnode : node.IsTransport contrib) :
    Throws (extractRtuOptions contrib tracePath obj) (Points contrib node obj tracePath) := by
  rw [extractRtuOptions_eq]
  refine .bind (throws_extractUnsignedNumberOpt (hnode rfl) fun _ => exists_readsThreads.mpr)
    fun _ _ => ?_
  refine .bind (throws_extractUnsignedNumberOpt (hnode rfl) fun _ => exists_readsThreads.mpr)
    fun _ _ => ?_
  refine .bind throws_characterSizeOr fun _ _ => ?_
  refine .bind (throws_namedOption (hnode rfl)) fun _ _ => ?_
  refine .bind (throws_stopBits (hnode rfl)) fun _ _ => ?_
  refine .bind (throws_namedOption (hnode rfl)) fun _ _ => ?_
  exact .bind (throws_extractRs485Options hnode) fun _ _ => .pure _

/-! ### Elements of the arrays -/

/-- An exception in a loop over an array, from an index on, comes from one of the elements, those
before it having been read. -/
theorem throws_extractElements_from {α : Type} {extract : TracePath → Json → Except Exception α}
    {R : Json → α → Prop} {all : List Json}
    (hextract : ∀ tracePath element a, extract tracePath element = .ok a ↔ R element a)
    (helement : node.element = some child)
    (h : ∀ done element rest, all = done ++ element :: rest → (∀ d ∈ done, ∃ a, R d a) →
      ∀ tracePath, Throws (extract tracePath element) (Points contrib child element tracePath)) :
    ∀ rest done, all = done ++ rest → (∀ d ∈ done, ∃ a, R d a) →
      Throws (extractElements extract tracePath done.length rest)
        (Points contrib node (.array all) tracePath) := by
  intro rest
  induction rest with
  | nil => exact fun _ _ _ => .pure []
  | cons element rest ih =>
    -- the index of the loop is the number of the elements that have been read
    intro done hall hdone
    have hget : all[done.length]? = some element := by rw [hall]; simp
    refine .bind ((h done element rest hall hdone _).mono fun _ => .index helement hget)
      fun a ha => ?_
    have hdone' : ∀ d ∈ done ++ [element], ∃ a, R d a := by
      intro d hd
      rcases List.mem_append.mp hd with hd | hd
      · exact hdone d hd
      · obtain rfl := List.mem_singleton.mp hd
        exact ⟨a, (hextract _ _ _).mp ha⟩
    have hrest := ih (done ++ [element]) (by simpa using hall) hdone'
    rw [List.length_append] at hrest
    exact .bind hrest fun _ _ => .pure _

/-- The same of the whole loop. -/
theorem throws_extractElements {α : Type} {extract : TracePath → Json → Except Exception α}
    {R : Json → α → Prop} {all : List Json} (harray : value = .array all)
    (hextract : ∀ tracePath element a, extract tracePath element = .ok a ↔ R element a)
    (helement : node.element = some child)
    (h : ∀ done element rest, value = .array (done ++ element :: rest) →
      (∀ d ∈ done, ∃ a, R d a) →
      ∀ tracePath, Throws (extract tracePath element) (Points contrib child element tracePath)) :
    Throws (extractElements extract tracePath 0 all) (Points contrib node value tracePath) := by
  subst harray
  refine throws_extractElements_from hextract helement ?_ all [] rfl fun _ h => by cases h
  exact fun done element rest heq => h done element rest (congrArg Json.array heq)

theorem throws_extractNumericRangeType
    (htyped : ∃ s, obj.find keys.numericRangeType = some (.string s)) :
    Throws (extractNumericRangeType tracePath obj) (Points contrib .range obj tracePath) := by
  have hmember : (Node.range.members contrib).lookup keys.numericRangeType =
      some (.leaf .String (Named ["range", "value"])) := rfl
  obtain ⟨s, hfind⟩ := htyped
  have hstring : extractString (TraceDeep.new tracePath keys.numericRangeType).tracePath obj
      keys.numericRangeType = .ok s := extractString_eq_ok.mpr hfind
  unfold extractNumericRangeType
  refine .bind (fun _ h => by cases hstring.symm.trans h) fun s' hs' => ?_
  obtain rfl := Except.ok.inj (hstring.symm.trans hs')
  cases hconvert : convertNumericRangeType s with
  | none => exact throws_invalidValue hmember hfind rfl (not_named_of_lookup hconvert)
  | some numericRangeType => exact .pure numericRangeType

theorem throws_extractModbusUnitId (hrequires : Node.range.Requires obj key)
    (hmember : (Node.range.members contrib).lookup key =
      some (.leaf .Number (NumberTests.read contrib).unitId)) :
    Throws (extractModbusUnitId contrib tracePath obj key)
      (Points contrib .range obj tracePath) := by
  have hlt := UInt8.toNat_lt contrib.unitIdMax
  refine .bind (throws_extractUnsignedNumber hmember hrequires ?_) fun n hn => ?_
  · rintro value ⟨n, hget, hmin, hmax⟩
    exact ⟨n, hget, by omega⟩
  · obtain ⟨value, hfind, hget, hmax⟩ := extractUnsignedNumber_eq_ok.mp hn
    have hmod : n.toUInt8.toNat = n := Nat.mod_eq_of_lt (by omega)
    refine .dite (fun hrange => ?_) fun _ => .pure _
    refine throws_invalidValue hmember hfind (type_of_getUnsigned hget).symm ?_
    rintro ⟨n', hget', hlow, hhigh⟩
    obtain rfl := Option.some.inj (hget.symm.trans hget')
    rcases hrange with hrange | hrange
    · have := UInt8.lt_iff_toNat_lt.mp hrange
      omega
    · have := UInt8.lt_iff_toNat_lt.mp hrange
      omega

theorem throws_unitIdRange (htyped : ∃ s, obj.find keys.numericRangeType = some (.string s)) :
    Throws (UnitIdRange.new contrib tracePath obj) (Points contrib .range obj tracePath) := by
  refine .bind (throws_extractNumericRangeType htyped) fun numericRangeType htype => ?_
  rw [extractNumericRangeType_eq_ok] at htype
  cases numericRangeType with
  | Range =>
    refine .bind (throws_extractModbusUnitId (.begin htype) rfl) fun _ _ => ?_
    exact .bind (throws_extractModbusUnitId (.end htype) rfl) fun _ _ => .pure _
  | Value => exact .bind (throws_extractModbusUnitId (.value htype) rfl) fun _ _ => .pure _

theorem throws_extractUnitIdRangeSet (htyped : ¬ Untyped contrib obj) :
    Throws (extractUnitIdRangeSet contrib tracePath obj)
      (Points contrib .master obj tracePath) := by
  have hmember : (Node.master.members contrib).lookup keys.unitIdSet = some .unitIdSet := rfl
  have hnew : ∀ tracePath element range, UnitIdRange.new contrib tracePath element = .ok range ↔
      range.Reads contrib element := fun _ _ _ => UnitIdRange.new_eq_ok
  refine throws_optional fun value hfind => ?_
  refine .bind (throws_checkType hmember rfl hfind) fun _ htype => ?_
  refine .dite (fun hempty => ?_) fun _ => ?_
  · refine throws_invalidValue hmember hfind (checkType_eq_ok.mp htype).symm fun hne => ?_
    exact hne (List.isEmpty_iff.mp hempty)
  · refine .bind (.mono ?_ fun _ => .member hmember hfind) fun _ _ => .pure _
    refine throws_extractElements (type_eq_array.mp (checkType_eq_ok.mp htype)) hnew rfl ?_
    intro ranges range rest heq hranges tracePath
    refine throws_unitIdRange (not_not.mp fun huntyped => htyped ?_)
    exact ⟨ranges, range, rest, hfind.trans (congrArg some heq),
      fun r hr => exists_rangeReads.mp (hranges r hr), huntyped⟩

theorem throws_masterConfig (htyped : obj.Has keys.timeout IsNumber → ¬ Untyped contrib obj) :
    Throws (MasterConfig.new contrib tracePath obj) (Points contrib .master obj tracePath) := by
  refine .bind (throws_extractUnsignedNumber rfl .timeout fun _ => exists_readsThreads.mpr)
    fun n hn => ?_
  have htimeout : obj.Has keys.timeout IsNumber :=
    (extractUnsignedNumber_eq_ok.mp hn).mono fun _ hread => exists_readsThreads.mp ⟨n, hread⟩
  exact .bind (throws_extractUnitIdRangeSet (htyped htimeout)) fun _ _ => .pure _

/-- The frame type that has been read is one of the three names. -/
theorem named_of_frameType {frameType : FrameType}
    (h : extractFrameType tracePath obj = .ok frameType) :
    obj.Has keys.frameType (Named ["tcp", "rtu", "ascii"]) := by
  refine ⟨_, has_frameType.mp (extractFrameType_eq_ok.mp h), _, ?_, rfl⟩
  cases frameType <;> decide

/-- The frame type of a serial port. -/
theorem rtu_of_frameType {frameType : FrameType}
    (h : extractFrameType tracePath obj = .ok frameType) (hne : frameType ≠ .TCP) :
    obj.Has keys.frameType (Named ["rtu", "ascii"]) :=
  exists_rtuFrameType.mp ⟨frameType, has_frameType.mp (extractFrameType_eq_ok.mp h), hne⟩

theorem throws_rtuSlave {frameType : FrameType}
    (hframe : obj.Has keys.frameType (Named ["rtu", "ascii"])) :
    Throws (RtuSlaveConfig.new contrib tracePath obj frameType)
      (Points contrib .slave obj tracePath) := by
  refine .bind (throws_extractString rfl (.slaveDevice hframe)) fun _ _ => ?_
  exact .bind (throws_extractRtuOptions isTransport_slave) fun _ _ => .pure _

theorem throws_extractSlave : Throws (extractSlave contrib tracePath obj)
    (Points contrib .slave obj tracePath) := by
  refine .bind (throws_extractFrameType isTransport_slave .slaveFrameType) fun frameType h => ?_
  cases frameType with
  | TCP =>
    have htcp := has_frameType.mp (extractFrameType_eq_ok.mp h)
    refine .bind (.bind (throws_extractIpAddressOptional isTransport_slave) fun _ _ => ?_)
      fun _ _ => .pure _
    exact .bind (throws_extractIpPort isTransport_slave (.slaveIpPort htcp)) fun _ _ => .pure _
  | RTU => exact .bind (throws_rtuSlave (rtu_of_frameType h (by decide))) fun _ _ => .pure _
  | ASCII => exact .bind (throws_rtuSlave (rtu_of_frameType h (by decide))) fun _ _ => .pure _

theorem throws_rtuMaster {frameType : FrameType}
    (hframe : obj.Has keys.frameType (Named ["rtu", "ascii"]))
    (htyped : obj.Has keys.timeout IsNumber → ¬ Untyped contrib obj) :
    Throws (RtuMasterConfig.new contrib tracePath obj frameType)
      (Points contrib .master obj tracePath) := by
  refine .bind (throws_masterConfig htyped) fun _ _ => ?_
  refine .bind (throws_extractString rfl (.masterDevice hframe)) fun _ _ => ?_
  exact .bind (throws_extractRtuOptions isTransport_master) fun _ _ => .pure _

theorem throws_extractMaster
    (htyped : obj.Has keys.frameType (Named ["tcp", "rtu", "ascii"]) →
      obj.Has keys.timeout IsNumber → ¬ Untyped contrib obj) :
    Throws (extractMaster contrib tracePath obj) (Points contrib .master obj tracePath) := by
  refine .bind (throws_extractFrameType isTransport_master .masterFrameType) fun frameType h => ?_
  have htyped' := htyped (named_of_frameType h)
  cases frameType with
  | TCP =>
    have htcp := has_frameType.mp (extractFrameType_eq_ok.mp h)
    refine .bind (.bind (throws_masterConfig htyped') fun _ _ => ?_) fun _ _ => .pure _
    refine .bind (throws_extractIpAddress isTransport_master (.masterIpAddress htcp))
      fun _ _ => ?_
    exact .bind (throws_extractIpPort isTransport_master (.masterIpPort htcp)) fun _ _ => .pure _
  | RTU =>
    exact .bind (throws_rtuMaster (rtu_of_frameType h (by decide)) htyped') fun _ _ => .pure _
  | ASCII =>
    exact .bind (throws_rtuMaster (rtu_of_frameType h (by decide)) htyped') fun _ _ => .pure _

/-! ### The root -/

/-- The array under a key of the root. -/
theorem throws_extractTransports {extract : TracePath → Json → Except Exception TransportConfig}
    {R : Json → TransportConfig → Prop} {item : Node} (hrequires : Node.root.Requires obj key)
    (hmember : (Node.root.members contrib).lookup key = some child)
    (htype : child.type = .Array) (hadmits : ∀ value, child.Admits value → elements value ≠ [])
    (helement : child.element = some item)
    (hextract : ∀ tracePath element a, extract tracePath element = .ok a ↔ R element a)
    (h : ∀ done element rest, obj.find key = some (.array (done ++ element :: rest)) →
      (∀ d ∈ done, ∃ a, R d a) →
      ∀ tracePath, Throws (extract tracePath element) (Points contrib item element tracePath)) :
    Throws (extractTransports extract key tracePath obj) (Points contrib .root obj tracePath) := by
  refine .bind (throws_findObject hrequires) fun value hfind => ?_
  rw [findObject_eq_ok] at hfind
  refine .bind (throws_checkType hmember htype hfind) fun _ hcheck => ?_
  have hvalue := checkType_eq_ok.mp hcheck
  refine .dite (fun hempty => ?_) fun _ => ?_
  · refine throws_invalidValue hmember hfind (htype.trans hvalue.symm) fun hvalue' => ?_
    exact hadmits value hvalue' (List.isEmpty_iff.mp hempty)
  · refine .mono ?_ fun _ => .member hmember hfind
    refine throws_extractElements (type_eq_array.mp hvalue) hextract helement ?_
    exact fun done element rest heq => h done element rest (hfind.trans (congrArg some heq))

theorem throws_extractSlaves : Throws (extractSlaves contrib tracePath obj)
    (Points contrib .root obj tracePath) := by
  have hslave : ∀ tracePath element config, extractSlave contrib tracePath element = .ok config ↔
      config.ReadsSlave contrib element := fun _ _ _ => extractSlave_eq_ok
  exact throws_extractTransports .slaves rfl rfl (fun _ => id) rfl hslave
    fun _ _ _ _ _ _ => throws_extractSlave

theorem throws_extractMasters
    (htyped : ∀ masters master rest,
      obj.find keys.masters = some (.array (masters ++ master :: rest)) →
      (∀ master ∈ masters, MasterFormat contrib (.read contrib) master) →
      master.Has keys.frameType (Named ["tcp", "rtu", "ascii"]) →
      master.Has keys.timeout IsNumber → ¬ Untyped contrib master) :
    Throws (extractMasters contrib tracePath obj) (Points contrib .root obj tracePath) := by
  have hmaster : ∀ tracePath element config, extractMaster contrib tracePath element = .ok config ↔
      config.ReadsMaster contrib element := fun _ _ _ => extractMaster_eq_ok
  refine throws_extractTransports .masters rfl rfl (fun _ => And.left) rfl hmaster ?_
  intro masters master rest hfind hmasters _
  exact throws_extractMaster (htyped masters master rest hfind fun m hm =>
    exists_readsMaster.mp (hmasters m hm))

/-- `Validate` points to the array of the masters. -/
theorem throws_validate {config : Config} (h : config.Reads contrib obj) :
    Throws config.validate (Points contrib .root obj ⟨["config"]⟩) := by
  have hmember : (Node.root.members contrib).lookup keys.masters = some .masters := rfl
  obtain ⟨_, hfind, elements, rfl, -, hall⟩ := h.masters
  unfold Config.validate
  refine .dite (fun hmany => ?_) fun _ => .ok ()
  refine throws_invalidValue hmember hfind rfl fun hadmits => ?_
  rw [List.length_findIdxs, countP_isDefault hall] at hmany
  exact absurd hadmits.2 (Nat.not_le.mpr hmany)

end Points

/-! ### Where every exception points -/

/-- **An exception points to what it is about**, unless the first thing that cannot be read is an
element of `unit_id` without a proper `type`. -/
theorem Config.rejected_points {contrib : Contrib} {data : Json}
    (htyped : ¬ UntypedFirst contrib data) {e : ParserException}
    (h : Config.Rejected contrib data e) : Config.PointsRight contrib data e := by
  have hnew : Throws (Config.new contrib data) (Points contrib .root data ⟨["config"]⟩) := by
    refine .bind throws_extractConfigService fun configService hservice => ?_
    refine .bind throws_extractSlaves fun slaves hslaves => ?_
    refine .bind (throws_extractMasters ?_) fun _ _ => .pure _
    intro masters master rest hfind hmasters hframe htimeout huntyped
    refine htyped ⟨?_, ?_, masters, master, rest, hfind, hmasters, hframe, htimeout, huntyped⟩
    · exact (extractConfigService_eq_ok.mp hservice).mono fun _ h =>
        exists_serviceReads.mp ⟨_, h⟩
    · refine (extractSlaves_eq_ok.mp hslaves).mono fun _ h => ?_
      simpa only [exists_readsSlave] using exists_readsArray.mp ⟨_, h⟩
  have hpoints : Points contrib .root data ⟨["config"]⟩ (.parser e) := by
    rcases h with h | ⟨config, hok, h⟩
    · exact hnew _ h
    · exact throws_validate (Config.new_eq_ok.mp hok) _ h
  obtain ⟨steps, node, obj, hleads, hpath, hoffends⟩ := hpoints e rfl
  refine ⟨steps, node, obj, hleads, ?_, hoffends⟩
  unfold ParserException.getFullPath TracePath.getPath
  rw [hpath]
  rfl

/-! ### Where the others point -/

section Untyped

variable {contrib : Contrib} {obj data : Json} {tracePath : TracePath}

theorem bind_error {ε α γ : Type} {x : Except ε α} {f : α → Except ε γ} {e : ε}
    (h : x = .error e) : x >>= f = .error e := by
  rw [h]
  rfl

theorem bind_ok {ε α γ : Type} {x : Except ε α} {f : α → Except ε γ} {a : α} (h : x = .ok a) :
    x >>= f = f a := by
  rw [h]
  rfl

/-- An element that throws, after others that have been read. -/
theorem extractElements_error {α : Type} {extract : TracePath → Json → Except Exception α}
    {element : Json} {x : TracePath → Exception}
    (helement : ∀ tracePath, extract tracePath element = .error (x tracePath)) :
    ∀ {done rest : List Json} {index : ℕ},
      (∀ d ∈ done, ∃ a, ∀ tracePath, extract tracePath d = .ok a) →
      extractElements extract tracePath index (done ++ element :: rest) =
        .error (x (tracePath.push (toString (index + done.length)))) := by
  intro done
  induction done with
  | nil => exact fun _ => bind_error (helement _)
  | cons d done ih =>
    intro rest index hdone
    obtain ⟨⟨a, ha⟩, hdone⟩ := List.forall_mem_cons.mp hdone
    refine (bind_ok (ha _)).trans (bind_error ((ih hdone).trans ?_))
    rw [List.length_cons, Nat.add_assoc, Nat.add_comm 1]

/-- The path that an exception about the `type` of an element of `unit_id` bears. -/
def typePath (tracePath : TracePath) : TracePath :=
  (tracePath.push keys.numericRangeType).push keys.numericRangeType

theorem unitIdRange_error (h : ¬ ∃ s, obj.find keys.numericRangeType = some (.string s)) :
    ∃ kind, ∀ tracePath, UnitIdRange.new contrib tracePath obj =
      .error (.parser ⟨typePath tracePath, keys.numericRangeType, kind⟩) := by
  cases hfind : obj.find keys.numericRangeType with
  | none =>
    refine ⟨.KeyNotFoundException, fun tracePath => bind_error (bind_error (bind_error ?_))⟩
    simp [findObject, findObjectRaw, TraceDeep.new, hfind, keyNotFound, ParserException.new,
      typePath]
  | some value =>
    have htype : convertJsonTypeToValueType value ≠ .String := by
      intro htype
      cases value with
      | string s => exact h ⟨s, hfind⟩
      | _ => cases htype
    refine ⟨.InvalidTypeException .String (convertJsonTypeToValueType value),
      fun tracePath => bind_error (bind_error ?_)⟩
    refine (bind_ok (findObject_eq_ok.mpr hfind)).trans (bind_error ?_)
    simp [checkType, htype, invalidType, ParserException.new, TraceDeep.new, typePath]

theorem extractUnitIdRangeSet_error (h : Untyped contrib obj) :
    ∃ (j : ℕ) (kind : ParserExceptionKind), ∀ tracePath,
      extractUnitIdRangeSet contrib tracePath obj = .error (.parser
        ⟨typePath ((tracePath.push keys.unitIdSet).push (toString j)), keys.numericRangeType,
          kind⟩) := by
  obtain ⟨ranges, range, rest, hfind, hranges, hrange⟩ := h
  obtain ⟨kind, hkind⟩ : ∃ kind, ∀ tracePath, UnitIdRange.new contrib tracePath range =
      .error (.parser ⟨typePath tracePath, keys.numericRangeType, kind⟩) :=
    unitIdRange_error hrange
  refine ⟨0 + ranges.length, kind, fun tracePath => ?_⟩
  have hdone : ∀ r ∈ ranges, ∃ a, ∀ tracePath, UnitIdRange.new contrib tracePath r = .ok a := by
    intro r hr
    obtain ⟨a, ha⟩ := exists_rangeReads.mpr (hranges r hr)
    exact ⟨a, fun _ => UnitIdRange.new_eq_ok.mpr ha⟩
  unfold extractUnitIdRangeSet findObjectRaw
  simp only [TraceDeep.new, hfind]
  refine (bind_ok (a := ()) (checkType_eq_ok.mpr rfl)).trans ?_
  rw [if_neg (by simp [elements])]
  exact bind_error (extractElements_error hkind hdone)

theorem masterConfig_error (htimeout : obj.Has keys.timeout IsNumber) (h : Untyped contrib obj) :
    ∃ (j : ℕ) (kind : ParserExceptionKind), ∀ tracePath,
      MasterConfig.new contrib tracePath obj = .error (.parser
        ⟨typePath ((tracePath.push keys.unitIdSet).push (toString j)), keys.numericRangeType,
          kind⟩) := by
  obtain ⟨j, kind, hset⟩ := extractUnitIdRangeSet_error h
  obtain ⟨n, hn⟩ := exists_has.mpr (htimeout.mono fun _ => exists_readsThreads.mpr)
  exact ⟨j, kind, fun tracePath =>
    (bind_ok (extractUnsignedNumber_eq_ok.mpr hn)).trans (bind_error (hset tracePath))⟩

theorem extractMaster_error (hframe : obj.Has keys.frameType (Named ["tcp", "rtu", "ascii"]))
    (htimeout : obj.Has keys.timeout IsNumber) (h : Untyped contrib obj) :
    ∃ (j : ℕ) (kind : ParserExceptionKind), ∀ tracePath,
      extractMaster contrib tracePath obj = .error (.parser
        ⟨typePath ((tracePath.push keys.unitIdSet).push (toString j)), keys.numericRangeType,
          kind⟩) := by
  obtain ⟨j, kind, hmaster⟩ := masterConfig_error htimeout h
  obtain ⟨frameType, hframe⟩ :
      ∃ frameType, obj.Has keys.frameType (ReadsName convertFrameType · frameType) :=
    exists_has.mpr (hframe.mono fun _ h => exists_readsName.mpr h)
  refine ⟨j, kind, fun tracePath => (bind_ok (extractFrameType_eq_ok.mpr hframe)).trans ?_⟩
  cases frameType <;> exact bind_error (bind_error (hmaster tracePath))

/-- The exception that is thrown then. -/
theorem UntypedFirst.error (h : UntypedFirst contrib data) :
    ∃ (i j : ℕ) (kind : ParserExceptionKind), Config.new contrib data = .error (.parser
      ⟨⟨["config", keys.masters, toString i, keys.unitIdSet, toString j, keys.numericRangeType,
        keys.numericRangeType]⟩, keys.numericRangeType, kind⟩) := by
  obtain ⟨hservice, hslaves, masters, master, rest, hfind, hmasters, hframe, htimeout, h⟩ := h
  obtain ⟨j, kind, hmaster⟩ := extractMaster_error hframe htimeout h
  obtain ⟨configService, hservice⟩ :=
    exists_has.mpr (hservice.mono fun _ => exists_serviceReads.mpr)
  have hslaves' : data.Has keys.slaves fun value =>
      ∃ slaves, ReadsArray (TransportConfig.ReadsSlave contrib) value slaves := by
    simpa only [exists_readsArray, exists_readsSlave] using hslaves
  obtain ⟨slaves, hslaves⟩ := exists_has.mpr hslaves'
  have hdone : ∀ m ∈ masters, ∃ a, ∀ tracePath, extractMaster contrib tracePath m = .ok a := by
    intro m hm
    obtain ⟨a, ha⟩ := exists_readsMaster.mpr (hmasters m hm)
    exact ⟨a, fun _ => extractMaster_eq_ok.mpr ha⟩
  refine ⟨0 + masters.length, j, kind, ?_⟩
  refine (bind_ok (extractConfigService_eq_ok.mpr hservice)).trans ?_
  refine (bind_ok (extractSlaves_eq_ok.mpr hslaves)).trans (bind_error ?_)
  refine (bind_ok (findObject_eq_ok.mpr hfind)).trans ?_
  refine (bind_ok (a := ()) (checkType_eq_ok.mpr rfl)).trans ?_
  rw [if_neg (by simp [elements])]
  exact extractElements_error hmaster hdone

/-- No exception with two steps for one `type` points right: the format has nothing below it. -/
theorem not_pointsRight {i j : ℕ} {kind : ParserExceptionKind} :
    ¬ Config.PointsRight contrib data ⟨⟨["config", keys.masters, toString i, keys.unitIdSet,
      toString j, keys.numericRangeType, keys.numericRangeType]⟩, keys.numericRangeType, kind⟩ := by
  rintro ⟨steps, node, obj, hleads, hpath, hoffends⟩
  have hsteps : ["config", keys.masters, toString i, keys.unitIdSet, toString j,
      keys.numericRangeType, keys.numericRangeType] =
      "config" :: steps ++ [keys.numericRangeType] := by
    refine intercalate_inj ?_ ?_ (by simp) (by simp) hpath
    · simp only [List.forall_mem_cons]
      exact ⟨by decide, by decide, index_dotFree i, by decide, index_dotFree j, by decide,
        by decide, fun _ h => by cases h⟩
    · rw [List.cons_append, List.forall_mem_cons, List.forall_mem_append]
      exact ⟨by decide, hleads.dotFree, by decide⟩
  have htail : [keys.masters, toString i, keys.unitIdSet, toString j, keys.numericRangeType] ++
      [keys.numericRangeType] = steps ++ [keys.numericRangeType] :=
    List.tail_eq_of_cons_eq hsteps
  obtain rfl := List.append_cancel_right htail
  -- `masters`, an index, `unit_id`, an index and `type` are walked; a `type` has no members.
  obtain ⟨_, _, ⟨⟩, hleads⟩ := hleads.key_inv rfl
  obtain ⟨_, _, ⟨⟩, hleads⟩ := hleads.index_inv rfl
  obtain ⟨_, _, ⟨⟩, hleads⟩ := hleads.key_inv rfl
  obtain ⟨_, _, ⟨⟩, hleads⟩ := hleads.index_inv rfl
  obtain ⟨_, _, ⟨⟩, hleads⟩ := hleads.key_inv rfl
  cases hleads
  exact not_offends_leaf hoffends

end Untyped

/-- **Exactly the documents whose exceptions point right**: the others are those where the first
thing that cannot be read is an element of `unit_id` without a `type` that is a string. -/
theorem Config.pointsRight_iff (contrib : Contrib) (data : Json) :
    (∀ e, Config.Rejected contrib data e → Config.PointsRight contrib data e) ↔
      ¬ UntypedFirst contrib data := by
  constructor
  · intro h hfirst
    obtain ⟨i, j, kind, herror⟩ := hfirst.error
    exact not_pointsRight (h _ (.inl herror))
  · exact fun htyped e => Config.rejected_points htyped

/-- Of a range without `type` the path says `type` twice. -/
theorem Config.pointsRight_missing :
    let data := Document.tcp [] (.numberUnsigned 502) (.numberUnsigned 1000)
      [("unit_id", .array [.object [("value", .numberUnsigned 25)]])]
    ¬ ∀ e, Config.Rejected Document.contrib data e →
      Config.PointsRight Document.contrib data e := by
  intro data h
  have herror : Config.new Document.contrib data = .error (.parser
      ⟨⟨["config", keys.masters, toString 0, keys.unitIdSet, toString 0, keys.numericRangeType,
        keys.numericRangeType]⟩, keys.numericRangeType, .KeyNotFoundException⟩) := by
    decide +kernel
  exact not_pointsRight (h _ (.inl herror))

end ModbusGateway
