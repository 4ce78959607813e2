import DbAccess.Json.Reader
import DbAccess.Value.Basic
import DbAccess.Width
/-!
# Values as JSON

A value is written as a choice: the name of its type with its content. Numbers that are not finite have
no written form and become `null`, which reads as no number.
-/

namespace DbAccess.Value

open Json Decimal

/-- The nearest single to an integer. -/
def singleOfInt (n : Int) : Binary32 := .pack (single.ofRatio (n < 0) n.natAbs 1)

/-- Reads a single; a double is rounded once more. -/
def readSingle : Reader Binary32 := fun t =>
  (readNumber t).map fun
    | .int n => singleOfInt n
    | .double x => x.narrow

/-- Reads a signed integer with a limit. -/
def readSigned (limit : Nat) : Reader Int := readInt (-(limit : Int)) limit

/-- Reads the content of a type by the name of the type. -/
def readContent (name : String) (t : Tree) : Option Value :=
  match name with
  | "Bool" => (readBool t).map bool
  | "TinyInt" => (readSigned 0x80 t).map fun n => tinyInt (.ofInt n)
  | "SmallInt" => (readSigned 0x8000 t).map fun n => smallInt (.ofInt n)
  | "Int" => (readSigned limit31 t).map fun n => int (.ofInt n)
  | "BigInt" => (readSigned limit63 t).map fun n => bigInt (.ofInt n)
  | "Float" => (readSingle t).map float
  | "Double" => (readNumber t).map fun n => double n.toBinary64
  | "Decimal" => (readText t).map decimal
  | "Text" => (readText t).map text
  | "Bytes" => (readList (readNat 256) t).map fun ns => bytes (ns.map Nat.toUInt8)
  | "Timestamp" => (readSigned limit63 t).map fun n => timestamp (.ofInt n)
  | "Json" => (ofTree? (maxDepth - 1) t).map json
  | _ => none

/-- Reads a value. -/
def read : Reader Value := fun t => do
  let (name, content) ← readChoice t
  match name, content with
  | "Null", none => some null
  | "Null", some .null => some null
  | _, some content => readContent name content
  | _, none => none

/-- The written form of a choice with content. -/
def choiceText (name content : String) : String := objectText [(name, content)]

/-- The form of singles in documents, which are positional from `0.000001` up to below `1e+13`. -/
def documentSingle : NumberStyle := { document with plainFrom := -6, plainBelow := 13 }

/-- A value as JSON. -/
def toJsonText : Value → String
  | null => Json.quote "Null"
  | bool b => choiceText "Bool" (Json.boolText b)
  | tinyInt n => choiceText "TinyInt" (toString n.toInt)
  | smallInt n => choiceText "SmallInt" (toString n.toInt)
  | int n => choiceText "Int" (toString n.toInt)
  | bigInt n => choiceText "BigInt" (toString n.toInt)
  | float x => choiceText "Float" (x.render documentSingle)
  | double x => choiceText "Double" (x.render document)
  | decimal s => choiceText "Decimal" (Json.quote s)
  | text s => choiceText "Text" (Json.quote s)
  | bytes b => choiceText "Bytes" (arrayText (b.map fun x => toString x.toNat))
  | timestamp n => choiceText "Timestamp" (toString n.toInt)
  | json j => choiceText "Json" j.render

end DbAccess.Value
