import DbAccess.Decimal.Reader
import DbAccess.Text.Utf8
import DbAccess.Value.Basic
/-!
# Storage classes

SQLite keeps a value in one of five storage classes. `Stored.ofValue` binds an argument of a statement, and
`Stored.toValue` reads a column of a row. Text is kept as bytes, which need not be well-formed; reading
replaces what is not.
-/

namespace DbAccess.Sqlite

open Decimal

/-- A value as SQLite keeps it. -/
inductive Stored where
  | null
  | integer (n : Int64)
  | real (x : Binary64)
  | text (utf8 : List UInt8)
  | blob (bytes : List UInt8)
deriving DecidableEq, Repr, Inhabited

namespace Stored

/-- A real; what is no number becomes null. -/
def ofDouble (x : Binary64) : Stored := if x.unpack = .nan then null else real x

/-- A text. -/
def ofText (s : String) : Stored := text (Text.utf8 s)

/-- What an argument is bound as. -/
def ofValue : Value → Stored
  | .null => null
  | .bool b => integer (if b then 1 else 0)
  | .tinyInt n => integer n.toInt64
  | .smallInt n => integer n.toInt64
  | .int n => integer n.toInt64
  | .bigInt n => integer n
  | .timestamp n => integer n
  | .float x => ofDouble x.widen
  | .double x => ofDouble x
  | .decimal s => ofText s
  | .text s => ofText s
  | .json j => ofText j.render
  | .bytes b => blob b

/-- What a column is read as. -/
def toValue : Stored → Value
  | null => .null
  | integer n => .bigInt n
  | real x => .double x
  | text b => .text (Text.decodeLossy b)
  | blob b => .bytes b

/-- SQL's null. -/
def isNull : Stored → Bool
  | null => true
  | _ => false

end Stored

end DbAccess.Sqlite
