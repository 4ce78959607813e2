import DbAccess.Json.Printer
/-!
# Values

A `Value` is what a statement takes as an argument and what a row holds in a column.
-/

namespace DbAccess

open Decimal

/-- A dynamically typed SQL value. -/
inductive Value where
  | null
  | bool (b : Bool)
  | tinyInt (n : Int8)
  | smallInt (n : Int16)
  | int (n : Int32)
  | bigInt (n : Int64)
  | float (x : Binary32)
  | double (x : Binary64)
  /-- A decimal number, kept as text. -/
  | decimal (s : String)
  | text (s : String)
  | bytes (b : List UInt8)
  /-- Microseconds since the beginning of 1970. -/
  | timestamp (n : Int64)
  | json (j : Json)
deriving Repr, Inhabited

namespace Value

/-- SQL's null. -/
def isNull : Value → Bool
  | null => true
  | _ => false

/-- The name of a value's type. -/
def typeName : Value → String
  | null => "NULL"
  | bool _ => "BOOL"
  | tinyInt _ => "TINYINT"
  | smallInt _ => "SMALLINT"
  | int _ => "INT"
  | bigInt _ => "BIGINT"
  | float _ => "FLOAT"
  | double _ => "DOUBLE"
  | decimal _ => "DECIMAL"
  | text _ => "TEXT"
  | bytes _ => "BYTES"
  | timestamp _ => "TIMESTAMP"
  | json _ => "JSON"

/-- An optional value; nothing is SQL's null. -/
def ofOption {α : Type} (f : α → Value) : Option α → Value
  | none => null
  | some a => f a

/-- Truth values and integers, widened. -/
def asInt64? : Value → Option Int64
  | bool b => some (if b then 1 else 0)
  | tinyInt n => some n.toInt64
  | smallInt n => some n.toInt64
  | int n => some n.toInt64
  | bigInt n => some n
  | timestamp n => some n
  | _ => none

/-- Numbers as doubles; a decimal is read from its text. -/
def asDouble? : Value → Option Binary64
  | float x => some x.widen
  | double x => some x
  | decimal s => Binary64.parse? s
  | v => v.asInt64?.map fun n => .ofInt n.toInt

/-- Text, and the text of a decimal. -/
def asText? : Value → Option String
  | text s => some s
  | decimal s => some s
  | _ => none

/-- Equality of values; what is no number equals nothing, not even itself. -/
def same : Value → Value → Bool
  | null, null => true
  | bool a, bool b => a == b
  | tinyInt a, tinyInt b => a == b
  | smallInt a, smallInt b => a == b
  | int a, int b => a == b
  | bigInt a, bigInt b => a == b
  | float a, float b => a.same b
  | double a, double b => a.same b
  | decimal a, decimal b => a == b
  | text a, text b => a == b
  | bytes a, bytes b => a == b
  | timestamp a, timestamp b => a == b
  | json a, json b => a.same b
  | _, _ => false

end Value

end DbAccess
