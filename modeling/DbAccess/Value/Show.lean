import DbAccess.Text.Diagnostic
import DbAccess.Value.Basic
/-!
# Values in diagnostic text

A value is shown as its constructor and its content.
-/

namespace DbAccess

open Text Decimal

mutual

/-- A JSON value in diagnostic text. -/
def Json.diagnostic : Json → String
  | .null => "Null"
  | .bool b => callText "Bool" [boolText b]
  | .number n => callText "Number" [n.render]
  | .string s => callText "String" [Text.quote s]
  | .array vs => "Array " ++ listText (Json.diagnostics vs)
  | .object ms => "Object \x7b" ++ commas (Json.memberDiagnostics ms) ++ "\x7d"

/-- The items of an array in diagnostic text. -/
def Json.diagnostics : List Json → List String
  | [] => []
  | v :: vs => v.diagnostic :: Json.diagnostics vs

/-- The members of an object in diagnostic text. -/
def Json.memberDiagnostics : List (String × Json) → List String
  | [] => []
  | (key, v) :: ms => (Text.quote key ++ ": " ++ v.diagnostic) :: Json.memberDiagnostics ms

end

namespace Value

/-- A value in diagnostic text. -/
def diagnostic : Value → String
  | null => "Null"
  | bool b => callText "Bool" [boolText b]
  | tinyInt n => callText "TinyInt" [toString n.toInt]
  | smallInt n => callText "SmallInt" [toString n.toInt]
  | int n => callText "Int" [toString n.toInt]
  | bigInt n => callText "BigInt" [toString n.toInt]
  | float x => callText "Float" [x.render Decimal.diagnostic]
  | double x => callText "Double" [x.render Decimal.diagnostic]
  | decimal s => callText "Decimal" [Text.quote s]
  | text s => callText "Text" [Text.quote s]
  | bytes b => callText "Bytes" [listText (b.map fun x => toString x.toNat)]
  | timestamp n => callText "Timestamp" [toString n.toInt]
  | json j => callText "Json" [j.diagnostic]

/-- Arguments in diagnostic text. -/
def listDiagnostic (vs : List Value) : String := listText (vs.map diagnostic)

end Value

end DbAccess
