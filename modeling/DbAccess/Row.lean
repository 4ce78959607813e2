import DbAccess.Error.Basic
import DbAccess.Value.Decode
import DbAccess.Value.Show
/-!
# Rows

A row pairs the column names of its result with its values. The two lists need not be of one length: a
name without a value finds nothing, and a value without a name is reached by its index.
-/

namespace DbAccess

/-- A row of a result. -/
structure Row where
  columns : List String
  values : List Value
deriving Repr, Inhabited

namespace Row

/-- The number of values. -/
def size (r : Row) : Nat := r.values.length

/-- The value at an index. -/
def get? (r : Row) (index : Nat) : Option Value := r.values[index]?

/-- The value of the first column of that name. -/
def find? (r : Row) (name : String) : Option Value :=
  (r.columns.idxOf? name).bind fun i => r.values[i]?

/-- Reads a value, with its fault as an error. -/
def decode {α : Type} (d : Decoder α) (v : Value) : Except Error α := (d v).mapError .decode

/-- Reads the value at an index. -/
def getAs {α : Type} (r : Row) (index : Nat) (d : Decoder α) : Except Error α :=
  match r.get? index with
  | some v => decode d v
  | none => .error (.decode (.noColumn index r.size))

/-- Reads the value of a column by name. -/
def findAs {α : Type} (r : Row) (name : String) (d : Decoder α) : Except Error α :=
  match r.find? name with
  | some v => decode d v
  | none => .error (.decode (.noColumnNamed name))

/-- Equality of rows, by their columns and the equality of values. -/
def same (r s : Row) : Bool :=
  r.columns == s.columns && r.values.length == s.values.length &&
    (r.values.zip s.values).all fun p => p.1.same p.2

/-- A row in diagnostic text. -/
def diagnostic (r : Row) : String :=
  Text.recordText "Row"
    [("columns", Text.listText (r.columns.map Text.quote)),
      ("values", Value.listDiagnostic r.values)]

end Row

end DbAccess
