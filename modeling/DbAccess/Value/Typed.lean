import DbAccess.Value.Decode
/-!
# Reading values by named types

A `ValueType` names a type that values can be read as, and `ValueType.decode` is the decoder of that type.
What it reads is a `Typed`.
-/

namespace DbAccess

open Decimal

/-- A type that values can be read as. -/
inductive ValueType where
  | int64
  | int32
  | double
  | bool
  | text
  | bytes
  | json
  /-- Nothing, or something of a type. -/
  | option (t : ValueType)
deriving DecidableEq, Repr

/-- A value that was read as some type. -/
inductive Typed where
  | int64 (n : Int64)
  | int32 (n : Int32)
  | double (x : Binary64)
  | bool (b : Bool)
  | text (s : String)
  | bytes (b : List UInt8)
  | json (j : Json)
  | nothing
deriving Repr

namespace ValueType

/-- The types without options, in the order in which they are listed. -/
def plain : List ValueType := [int64, int32, double, bool, text, bytes, json]

/-- All types that are listed: the plain ones, and then each of them as an option. -/
def all : List ValueType := plain ++ plain.map option

/-- The name of a type. -/
def name : ValueType → String
  | int64 => "i64"
  | int32 => "i32"
  | double => "f64"
  | bool => "bool"
  | text => "string"
  | bytes => "bytes"
  | json => "json"
  | option t => "opt_" ++ t.name

/-- The listed type of a name. -/
def ofName? (s : String) : Option ValueType := all.find? fun t => t.name = s

/-- Reads a value as the type. -/
def decode : ValueType → Decoder Typed
  | int64 => fun v => v.toInt64.map .int64
  | int32 => fun v => v.toInt32.map .int32
  | double => fun v => v.toDouble.map .double
  | bool => fun v => v.toBool.map .bool
  | text => fun v => v.toText.map .text
  | bytes => fun v => v.toBytes.map .bytes
  | json => fun v => v.toJson.map .json
  | option t => fun v => (Value.toOption t.decode v).map fun r => r.getD .nothing

end ValueType

end DbAccess
