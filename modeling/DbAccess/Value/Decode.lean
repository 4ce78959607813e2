import DbAccess.Error.Fault
import DbAccess.Text.Utf8
import DbAccess.Value.Basic
import DbAccess.Width
/-!
# Reading values

A `Decoder α` takes a value out of its dynamic type, or says why it cannot.
-/

namespace DbAccess

open Decimal

/-- Reads a value as an `α`. -/
abbrev Decoder (α : Type) := Value → Except DecodeFault α

namespace Value

/-- The value is not of the type that was expected. -/
def unexpected {α : Type} (expected : String) (v : Value) : Except DecodeFault α :=
  .error (.mismatch expected v.typeName)

/-- Reads by an optional view of the value. -/
def expect {α : Type} (expected : String) (view : Value → Option α) : Decoder α := fun v =>
  match view v with
  | some a => .ok a
  | none => v.unexpected expected

/-- A 64-bit integer. -/
def toInt64 : Decoder Int64 := expect "integer" asInt64?

/-- A 32-bit integer; a wider one is refused. -/
def toInt32 : Decoder Int32 := fun v => do
  let n ← v.toInt64
  if -(limit31 : Int) ≤ n.toInt ∧ n.toInt < limit31 then .ok (.ofInt n.toInt) else .error (.outOfRange n.toInt)

/-- A double. -/
def toDouble : Decoder Binary64 := expect "number" asDouble?

/-- A truth value; of integers, zero is false. -/
def toBool : Decoder Bool := expect "boolean" fun v => v.asInt64?.map (· != 0)

/-- Text, or the text of a decimal or of a JSON value. -/
def toText : Decoder String
  | text s => .ok s
  | decimal s => .ok s
  | json j => .ok j.render
  | v => v.unexpected "text"

/-- Bytes, or those of a text. -/
def toBytes : Decoder (List UInt8)
  | bytes b => .ok b
  | text s => .ok (Text.utf8 s)
  | v => v.unexpected "bytes"

/-- A JSON value, or the one that a text writes. -/
def toJson : Decoder Json
  | json j => .ok j
  | text s =>
    match Json.parse? s with
    | some j => .ok j
    | none => .error .badJson
  | v => v.unexpected "json"

/-- Nothing for SQL's null; any other value must be readable. -/
def toOption {α : Type} (d : Decoder α) : Decoder (Option α) := fun v =>
  if v.isNull then .ok none else (d v).map some

end Value

end DbAccess
