import Mathlib.Algebra.Order.Floor.Defs
import Mathlib.Data.Rat.Floor
import ModbusGateway.Message.ModbusMessage

/-!
# JSON values

What `src/config` uses of `nlohmann::json`: the values that `json::parse` yields, and the
conversions of `get`.  A number is the one that `json::parse` makes of the text: a `double` is the
rational it stands for, which need not be the decimal fraction that is written, and what is not
finite is refused.  The members of an object are those of the text.

* `Json` — the values, with the three kinds of numbers.
* `ValueType`, `convertJsonTypeToValueType` — the types the configuration tells apart.
* `Json.find` — the member of an object under a key.
* `Json.getUnsigned`, `Json.getFloat` and others — `get<T>()`.
-/

namespace ModbusGateway

/-- `nlohmann::json`. -/
inductive Json
  | null
  | boolean (b : Bool)
  | numberInteger (i : Int64)
  | numberUnsigned (n : UInt64)
  | numberFloat (x : ℚ)
  | string (s : String)
  | array (elements : List Json)
  | object (members : List (String × Json))

/-- `ValueType`. -/
inductive ValueType
  | Unknown
  | Object
  | Array
  | String
  | Boolean
  | Number
  deriving DecidableEq, Repr

/-- `ConvertJsonTypeToValueType(obj.type())`. -/
def convertJsonTypeToValueType : Json → ValueType
  | .object _ => .Object
  | .array _ => .Array
  | .string _ => .String
  | .boolean _ => .Boolean
  | .numberInteger _ => .Number
  | .numberUnsigned _ => .Number
  | .numberFloat _ => .Number
  | .null => .Unknown

/-- `ConvertValueTypeToString(valueType)`. -/
def convertValueTypeToString : ValueType → String
  | .Object => "object"
  | .Array => "array"
  | .String => "string"
  | .Boolean => "boolean"
  | .Number => "number"
  | .Unknown => "unknown"

/-! ### Conversions of numbers -/

/-- The integral part of a `double`. -/
def truncate (x : ℚ) : ℤ := if 0 ≤ x then ⌊x⌋ else ⌈x⌉

/-- The nearest integer, the even one of two. -/
def roundHalfEven (x : ℚ) : ℤ :=
  let below := ⌊x⌋
  if x - below < 1 / 2 then below
  else if 1 / 2 < x - below then below + 1
  else if below % 2 = 0 then below
  else below + 1

/-- The exponent of the greatest power of two that is at most `x`, for `x > 0`. -/
def exponent (x : ℚ) : ℤ :=
  let e : ℤ := (Nat.log2 x.num.natAbs : ℤ) - Nat.log2 x.den
  if (2 : ℚ) ^ e ≤ x then e else e - 1

/-- A `float`: its sign and its magnitude, which is `none` when it is infinite. -/
structure Single where
  negative : Bool
  magnitude : Option ℚ
  deriving DecidableEq

/-- `static_cast<float>` of a number. -/
def toFloat (x : ℚ) : Single where
  negative := decide (x < 0)
  magnitude :=
    if x = 0 then some 0
    else
      let ulp : ℚ := (2 : ℚ) ^ max (exponent |x| - 23) (-149)
      let rounded := roundHalfEven (|x| / ulp) * ulp
      if rounded < (2 : ℚ) ^ (128 : ℕ) then some rounded else none

/-- `std::to_string(value)` of a `float`, which has six decimals. -/
def floatToString (value : Single) : String :=
  (if value.negative then "-" else "") ++
  match value.magnitude with
  | none => "inf"
  | some x =>
    let millionths := (roundHalfEven (x * 1000000)).toNat
    let decimals := toString (millionths % 1000000)
    toString (millionths / 1000000) ++ "." ++ "".pushn '0' (6 - decimals.length) ++ decimals

namespace Json

/-- `find(key)`, `none` for `end()`; only an object has members, and of those with one key
`json::parse` keeps the last. -/
def find (key : String) : Json → Option Json
  | .object members => members.reverse.lookup key
  | _ => none

/-- `get<std::string>()`, `none` when it throws a type error. -/
def getString : Json → Option String
  | .string s => some s
  | _ => none

/-- `get<bool>()`. -/
def getBoolean : Json → Option Bool
  | .boolean b => some b
  | _ => none

/-- `get<T>()` for an unsigned type of the given width, with what the conversion of a `double`
yields that has no value in the type. -/
def getUnsigned (bits : ℕ) (outOfRange : ℚ → ℕ) : Json → Option ℕ
  | .numberUnsigned n => some (n.toNat % 2 ^ bits)
  | .numberInteger i => some (i.toInt % 2 ^ bits).toNat
  | .numberFloat x =>
    if 0 ≤ truncate x ∧ truncate x < 2 ^ bits then some (truncate x).toNat
    else some (outOfRange x % 2 ^ bits)
  | _ => none

/-- `get<float>()`. -/
def getFloat : Json → Option Single
  | .numberUnsigned n => some (toFloat n.toNat)
  | .numberInteger i => some (toFloat i.toInt)
  | .numberFloat x => some (toFloat x)
  | _ => none

end Json

example : toFloat (3 / 2) = ⟨false, some (3 / 2)⟩ := by decide +kernel

example : floatToString (toFloat (-5 / 2)) = "-2.500000" := by decide +kernel

end ModbusGateway
