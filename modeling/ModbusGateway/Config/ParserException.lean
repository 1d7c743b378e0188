import ModbusGateway.Config.Json

/-!
# What the configuration throws

The exceptions of `src/config`, and the path a `ParserException` names.  A `TraceDeep`
pushes its key on the path while it lives; here the path with the key on it is passed to
what is called in the meantime, so that it needs no popping.

* `TracePath`, `TraceDeep` — the path from the root to where extraction is.
* `ParserException`, `Exception` — what is thrown.
* `bind_eq_ok` — how extraction goes through a step that may throw.
-/

namespace ModbusGateway

/-- `TracePath`. -/
structure TracePath where
  path : List String
  deriving DecidableEq, Repr

/-- `Push(s)`. -/
def TracePath.push (tracePath : TracePath) (s : String) : TracePath := ⟨tracePath.path ++ [s]⟩

/-- `GetPath()`. -/
def TracePath.getPath (tracePath : TracePath) : String := ".".intercalate tracePath.path

/-- `TraceDeep`: a path with the key on it. -/
structure TraceDeep where
  tracePath : TracePath
  key : String
  deriving DecidableEq, Repr

/-- The constructor. -/
def TraceDeep.new (tracePath : TracePath) (key : String) : TraceDeep := ⟨tracePath.push key, key⟩

/-- The classes of `ParserException`. -/
inductive ParserExceptionKind
  | KeyNotFoundException
  | InvalidTypeException (expectType actualType : ValueType)
  | InvalidValueException (value : String)
  deriving DecidableEq, Repr

/-- `ParserException`. -/
structure ParserException where
  path : TracePath
  key : String
  kind : ParserExceptionKind
  deriving DecidableEq, Repr

namespace ParserException

/-- The constructor. -/
def new (td : TraceDeep) (kind : ParserExceptionKind) : ParserException :=
  ⟨td.tracePath, td.key, kind⟩

/-- `GetFullPath()`. -/
def getFullPath (e : ParserException) : String := e.path.getPath

/-- `GetTargetKey()`. -/
def getTargetKey (e : ParserException) : String := e.key

/-- `what()`. -/
def what (e : ParserException) : String :=
  match e.kind with
  | .KeyNotFoundException => "key not found"
  | .InvalidTypeException _ _ => "invalid type"
  | .InvalidValueException _ => "invalid value"

end ParserException

/-- What is thrown. -/
inductive Exception
  | parser (e : ParserException)
  /-- `nlohmann::json::type_error`, by `get`. -/
  | typeError
  /-- `std::out_of_range`, by the options of the serial port. -/
  | outOfRange (what : String)
  /-- `std::logic_error`. -/
  | logicError (what : String)
  deriving DecidableEq, Repr

/-- `throw KeyNotFoundException(td)`. -/
def keyNotFound {α : Type} (td : TraceDeep) : Except Exception α :=
  .error (.parser (.new td .KeyNotFoundException))

/-- `throw InvalidTypeException(td, expectType, actualType)`. -/
def invalidType {α : Type} (td : TraceDeep) (expectType actualType : ValueType) :
    Except Exception α :=
  .error (.parser (.new td (.InvalidTypeException expectType actualType)))

/-- `throw InvalidValueException(td, value)`. -/
def invalidValue {α : Type} (td : TraceDeep) (value : String) : Except Exception α :=
  .error (.parser (.new td (.InvalidValueException value)))

/-- What `get` yields, or a type error. -/
def getOrThrow {α : Type} : Option α → Except Exception α
  | some a => .ok a
  | none => .error .typeError

/-- A step that may throw is gone through when it has not. -/
theorem bind_eq_ok {ε α γ : Type} {x : Except ε α} {f : α → Except ε γ} {c : γ} :
    x >>= f = .ok c ↔ ∃ a, x = .ok a ∧ f a = .ok c := by
  cases x with
  | error e =>
    refine ⟨fun h => ?_, ?_⟩
    · cases h
    · rintro ⟨a, h, -⟩
      cases h
  | ok a =>
    refine ⟨fun h => ⟨a, rfl, h⟩, ?_⟩
    rintro ⟨_, ⟨⟩, h⟩
    exact h

end ModbusGateway
