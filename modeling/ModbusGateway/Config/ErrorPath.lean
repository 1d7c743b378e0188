import ModbusGateway.Config.Acceptance
import ModbusGateway.Library.Throws

/-!
# Where errors point

The path of a `ParserException` beside the document: the steps from the root to the member or
element that the exception is about.  A document is walked together with the part of the
format that each of its values is to have.

## Main definitions

* `Node`, `Node.members`, `Node.element` — the parts of the format, and how they nest.
* `Leads` — the steps from one value of a document to another.
* `Offends` — what an exception is about.
* `Config.PointsRight` — the path of an exception leads to what it is about.
* `Points` — the same of an exception that is thrown below a value.

## Main results

* `Points.here`, `Points.member`, `Points.index` — how an exception points from further up.
* `intercalate_inj` — the steps are known from the text of a path.
-/

namespace ModbusGateway

/-- The parts of the format; a `leaf` has a type, and a value that can be read. -/
inductive Node
  | root
  | service
  | slaves
  | slave
  | masters
  | master
  | rs485
  | unitIdSet
  | range
  | leaf (valueType : ValueType) (P : Json → Prop)

namespace Node

/-- The type that the value must have. -/
def type : Node → ValueType
  | .slaves => .Array
  | .masters => .Array
  | .unitIdSet => .Array
  | .leaf valueType _ => valueType
  | _ => .Object

/-- What else is asked of the value. -/
def Admits : Node → Json → Prop
  | .slaves, value => elements value ≠ []
  | .masters, value => elements value ≠ [] ∧
    (elements value).countP (fun element => (element.find keys.unitIdSet).isNone) ≤ 1
  | .unitIdSet, value => elements value ≠ []
  | .leaf _ P, value => P value
  | _, _ => True

/-- The members that every transport may have. -/
def transportMembers (contrib : Contrib) : List (String × Node) :=
  [(keys.frameType, .leaf .String (Named ["tcp", "rtu", "ascii"])),
    (keys.ipAddress, .leaf .String contrib.IsAddress),
    (keys.ipPort, .leaf .Number (contrib.ReadBetween 1 65535)),
    (keys.device, .leaf .String fun _ => True),
    (keys.baudRate, .leaf .Number IsNumber),
    (keys.characterSize, .leaf .Number IsNumber),
    (keys.parity, .leaf .String (Named ["none", "odd", "even"])),
    (keys.stopBits, .leaf .Number (NumberTests.read contrib).stopBits),
    (keys.flowControl, .leaf .String (Named ["none", "software", "hardware"])),
    (keys.rs485, .rs485)]

/-- The members of an object, and the part of the format that each of them is. -/
def members (contrib : Contrib) : Node → List (String × Node)
  | .root => [(keys.service, .service), (keys.slaves, .slaves), (keys.masters, .masters)]
  | .service =>
    [(keys.logLevel, .leaf .String
        (Named ["trace", "debug", "info", "warning", "error", "critical"])),
      (keys.threads, .leaf .Number IsNumber)]
  | .slave => transportMembers contrib
  | .master => transportMembers contrib ++
    [(keys.timeout, .leaf .Number IsNumber), (keys.unitIdSet, .unitIdSet)]
  | .rs485 =>
    [(keys.rtsOnSend, .leaf .Boolean IsBoolean), (keys.rtsAfterSend, .leaf .Boolean IsBoolean),
      (keys.rxDuringTx, .leaf .Boolean IsBoolean), (keys.terminateBus, .leaf .Boolean IsBoolean),
      (keys.delayRtsBeforeSend, .leaf .Number IsNumber),
      (keys.delayRtsAfterSend, .leaf .Number IsNumber)]
  | .range =>
    [(keys.numericRangeType, .leaf .String (Named ["range", "value"])),
      (keys.numericRangeBegin, .leaf .Number (NumberTests.read contrib).unitId),
      (keys.numericRangeEnd, .leaf .Number (NumberTests.read contrib).unitId),
      (keys.numericRangeValue, .leaf .Number (NumberTests.read contrib).unitId)]
  | _ => []

/-- What the elements of an array are. -/
def element : Node → Option Node
  | .slaves => some .slave
  | .masters => some .master
  | .unitIdSet => some .range
  | _ => none

/-- The members that must not be absent. -/
inductive Requires (obj : Json) : Node → String → Prop
  | service : Requires obj .root keys.service
  | slaves : Requires obj .root keys.slaves
  | masters : Requires obj .root keys.masters
  | slaveFrameType : Requires obj .slave keys.frameType
  | slaveIpPort (h : obj.find keys.frameType = some (.string "tcp")) :
      Requires obj .slave keys.ipPort
  | slaveDevice (h : obj.Has keys.frameType (Named ["rtu", "ascii"])) :
      Requires obj .slave keys.device
  | masterFrameType : Requires obj .master keys.frameType
  | masterIpAddress (h : obj.find keys.frameType = some (.string "tcp")) :
      Requires obj .master keys.ipAddress
  | masterIpPort (h : obj.find keys.frameType = some (.string "tcp")) :
      Requires obj .master keys.ipPort
  | masterDevice (h : obj.Has keys.frameType (Named ["rtu", "ascii"])) :
      Requires obj .master keys.device
  | timeout : Requires obj .master keys.timeout
  | rangeType : Requires obj .range keys.numericRangeType
  | begin (h : obj.find keys.numericRangeType = some (.string "range")) :
      Requires obj .range keys.numericRangeBegin
  | «end» (h : obj.find keys.numericRangeType = some (.string "range")) :
      Requires obj .range keys.numericRangeEnd
  | value (h : obj.find keys.numericRangeType = some (.string "value")) :
      Requires obj .range keys.numericRangeValue

end Node

/-- The steps from a value of a document to another one: the key of a member, or the index of an
element. -/
inductive Leads (contrib : Contrib) : Node → Json → List String → Node → Json → Prop
  | here {node : Node} {obj : Json} : Leads contrib node obj [] node obj
  | key {node child last : Node} {obj value target : Json} {key : String} {steps : List String}
      (hmember : (node.members contrib).lookup key = some child)
      (hfind : obj.find key = some value) (h : Leads contrib child value steps last target) :
      Leads contrib node obj (key :: steps) last target
  | index {node child last : Node} {elements : List Json} {value target : Json} {i : ℕ}
      {steps : List String} (helement : node.element = some child)
      (hget : elements[i]? = some value) (h : Leads contrib child value steps last target) :
      Leads contrib node (.array elements) (toString i :: steps) last target

/-- What an exception is about: a member of an object that is absent but must not be, that is not
of its type, or whose value cannot be read. -/
def Offends (contrib : Contrib) (node : Node) (obj : Json) (key : String) :
    ParserExceptionKind → Prop
  | .KeyNotFoundException => node.Requires obj key ∧ obj.find key = none
  | .InvalidTypeException expectType actualType => expectType ≠ actualType ∧
    ∃ child value, (node.members contrib).lookup key = some child ∧ obj.find key = some value ∧
      child.type = expectType ∧ convertJsonTypeToValueType value = actualType
  | .InvalidValueException _ =>
    ∃ child value, (node.members contrib).lookup key = some child ∧ obj.find key = some value ∧
      child.type = convertJsonTypeToValueType value ∧ ¬ child.Admits value

/-- The constructor or `Validate` throws the exception. -/
def Config.Rejected (contrib : Contrib) (data : Json) (e : ParserException) : Prop :=
  Config.new contrib data = .error (.parser e) ∨
    ∃ config, Config.new contrib data = .ok config ∧ config.validate = .error (.parser e)

/-- The path of an exception leads, from the root, to what it is about. -/
def Config.PointsRight (contrib : Contrib) (data : Json) (e : ParserException) : Prop :=
  ∃ steps node obj, Leads contrib .root data steps node obj ∧
    e.getFullPath = ".".intercalate ("config" :: steps ++ [e.getTargetKey]) ∧
    Offends contrib node obj e.getTargetKey e.kind

/-! ### Exceptions below a value -/

/-- An exception that is thrown where extraction is at `tracePath`, with `obj`, leads from there
to what it is about. -/
def Points (contrib : Contrib) (node : Node) (obj : Json) (tracePath : TracePath)
    (x : Exception) : Prop :=
  ∀ e, x = .parser e → ∃ steps last target, Leads contrib node obj steps last target ∧
    e.path.path = tracePath.path ++ steps ++ [e.key] ∧ Offends contrib last target e.key e.kind

section Points

variable {contrib : Contrib} {node child : Node} {obj value : Json} {tracePath : TracePath}
  {key : String}

/-- An exception about a member of the object itself. -/
theorem Points.here {kind : ParserExceptionKind} (h : Offends contrib node obj key kind) :
    Points contrib node obj tracePath (.parser (.new (TraceDeep.new tracePath key) kind)) := by
  rintro _ ⟨⟩
  refine ⟨[], node, obj, .here, ?_, h⟩
  simp [ParserException.new, TraceDeep.new, TracePath.push]

/-- An exception below a member. -/
theorem Points.member {x : Exception} (hmember : (node.members contrib).lookup key = some child)
    (hfind : obj.find key = some value)
    (h : Points contrib child value (TraceDeep.new tracePath key).tracePath x) :
    Points contrib node obj tracePath x := by
  intro e he
  obtain ⟨steps, last, target, hleads, hpath, hoffends⟩ := h e he
  refine ⟨key :: steps, last, target, .key hmember hfind hleads, ?_, hoffends⟩
  simpa [TraceDeep.new, TracePath.push] using hpath

/-- An exception below an element. -/
theorem Points.index {x : Exception} {elements : List Json} {i : ℕ}
    (helement : node.element = some child) (hget : elements[i]? = some value)
    (h : Points contrib child value (TraceDeep.new tracePath (toString i)).tracePath x) :
    Points contrib node (.array elements) tracePath x := by
  intro e he
  obtain ⟨steps, last, target, hleads, hpath, hoffends⟩ := h e he
  refine ⟨toString i :: steps, last, target, .index helement hget hleads, ?_, hoffends⟩
  simpa [TraceDeep.new, TracePath.push] using hpath

/-! ### Paths and their texts -/

theorem members_dotFree {node : Node} {key : String}
    (h : key ∈ (node.members contrib).map Prod.fst) : '.' ∉ key.toList := by
  cases node <;> simp only [Node.members, Node.transportMembers, List.map_cons, List.map_nil,
    List.map_append] at h
  all_goals
    revert key
    decide

theorem index_dotFree (i : ℕ) : '.' ∉ (toString i).toList := by
  intro h
  have hdigits : '.' ∈ Nat.toDigits 10 i := by simpa [toString, Nat.repr] using h
  have hdigit := Nat.isDigit_of_mem_toDigits (by decide) (by decide) hdigits
  simp at hdigit

/-- The steps of the format have no dots in them. -/
theorem Leads.dotFree {node last : Node} {target : Json} {steps : List String}
    (h : Leads contrib node obj steps last target) : ∀ s ∈ steps, '.' ∉ s.toList := by
  induction h with
  | here => exact fun s hs => by cases hs
  | key hmember _ _ ih =>
    exact List.forall_mem_cons.mpr ⟨members_dotFree (exists_lookup.mp ⟨_, hmember⟩), ih⟩
  | index _ _ _ ih => exact List.forall_mem_cons.mpr ⟨index_dotFree _, ih⟩

/-- Steps without dots are known from the path that is made of them. -/
theorem intercalate_inj {l l' : List String} (hl : ∀ s ∈ l, '.' ∉ s.toList)
    (hl' : ∀ s ∈ l', '.' ∉ s.toList) (hne : l ≠ []) (hne' : l' ≠ [])
    (h : ".".intercalate l = ".".intercalate l') : l = l' := by
  have hdot : String.singleton '.' = "." := rfl
  have hsplit := String.toList_split_intercalate hl
  have hsplit' := String.toList_split_intercalate hl'
  rw [if_neg hne] at hsplit
  rw [if_neg hne'] at hsplit'
  rw [← hsplit, ← hsplit', hdot, h]

/-- From an object that is no array a step is a key. -/
theorem Leads.key_inv {node last : Node} {target : Json} {step : String} {steps : List String}
    (h : Leads contrib node obj (step :: steps) last target) (helement : node.element = none) :
    ∃ child value, (node.members contrib).lookup step = some child ∧
      Leads contrib child value steps last target := by
  generalize hcons : step :: steps = all at h
  cases h with
  | here => cases hcons
  | key hmember _ h =>
    obtain ⟨rfl, rfl⟩ := List.cons.inj hcons
    exact ⟨_, _, hmember, h⟩
  | index helement' _ _ => cases helement.symm.trans helement'

/-- From an array a step is an index. -/
theorem Leads.index_inv {node last : Node} {target : Json} {step : String} {steps : List String}
    (h : Leads contrib node obj (step :: steps) last target)
    (hmembers : node.members contrib = []) :
    ∃ child value, node.element = some child ∧ Leads contrib child value steps last target := by
  generalize hcons : step :: steps = all at h
  cases h with
  | here => cases hcons
  | key hmember _ _ =>
    rw [hmembers] at hmember
    cases hmember
  | index helement _ h =>
    obtain ⟨rfl, rfl⟩ := List.cons.inj hcons
    exact ⟨_, _, helement, h⟩

/-- What can be thrown about a value without members: nothing. -/
theorem not_offends_leaf {valueType : ValueType} {P : Json → Prop} {key : String}
    {kind : ParserExceptionKind} : ¬ Offends contrib (.leaf valueType P) obj key kind := by
  cases kind with
  | KeyNotFoundException =>
    rintro ⟨hrequires, -⟩
    cases hrequires
  | InvalidTypeException expectType actualType =>
    rintro ⟨-, child, value, hmember, -⟩
    cases hmember
  | InvalidValueException text =>
    rintro ⟨child, value, hmember, -⟩
    cases hmember

end Points

end ModbusGateway
