import DbAccess.Dialect
import DbAccess.Json.Printer
import DbAccess.Json.Reader
import DbAccess.Text.Diagnostic
/-!
# What drivers are told and tell

Transaction options, prepared statements, and the numbers about a driver's connections.
-/

namespace DbAccess

/-- How far a transaction is kept apart from others. -/
inductive IsolationLevel where
  | readUncommitted
  | readCommitted
  | repeatableRead
  | serializable
deriving DecidableEq, Repr

namespace IsolationLevel

/-- All levels. -/
def all : List IsolationLevel := [readUncommitted, readCommitted, repeatableRead, serializable]

/-- The level that stands where none is named. -/
def default : IsolationLevel := readCommitted

/-- The level in SQL. -/
def sql : IsolationLevel → String
  | readUncommitted => "READ UNCOMMITTED"
  | readCommitted => "READ COMMITTED"
  | repeatableRead => "REPEATABLE READ"
  | serializable => "SERIALIZABLE"

/-- The name of a level: its words in lower case, joined by underscores. -/
def name (l : IsolationLevel) : String :=
  String.ofList (l.sql.toList.map fun c => if c = ' ' then '_' else c.toLower)

/-- The level of a name. -/
def ofName? (s : String) : Option IsolationLevel := all.find? fun l => l.name = s

end IsolationLevel

/-- How a transaction is to begin. -/
structure TxOptions where
  /-- The isolation asked for; the backend chooses when there is none. -/
  isolation : Option IsolationLevel
  readOnly : Bool
deriving DecidableEq, Repr

/-- No isolation asked for, and writes allowed. -/
def TxOptions.default : TxOptions := ⟨none, false⟩

/-- A statement that a backend has prepared. -/
structure PreparedStatement where
  id : Nat
  sql : String
  paramCount : Nat
deriving DecidableEq, Repr

/-- A prepared statement in diagnostic text. -/
def PreparedStatement.diagnostic (p : PreparedStatement) : String :=
  Text.recordText "PreparedStatement"
    [("id", toString p.id), ("sql", Text.quote p.sql), ("param_count", toString p.paramCount)]

/-- How many connections there are; a maximum of zero stands for no limit. -/
structure PoolStats where
  openConnections : Nat
  inUse : Nat
  idle : Nat
  maxOpen : Nat
deriving DecidableEq, Repr

/-- A driver that counts nothing. -/
def PoolStats.none : PoolStats := ⟨0, 0, 0, 0⟩

/-- The numbers in diagnostic text. -/
def PoolStats.diagnostic (s : PoolStats) : String :=
  Text.recordText "PoolStats"
    [("open_connections", toString s.openConnections), ("in_use", toString s.inUse),
      ("idle", toString s.idle), ("max_open", toString s.maxOpen)]

open Json

/-- Reads a dialect by its name. -/
def Dialect.read : Reader Dialect := readName Dialect.ofName?

/-- A dialect as JSON. -/
def Dialect.json (d : Dialect) : String := Json.quote d.name

/-- Reads a level by its name. -/
def IsolationLevel.read : Reader IsolationLevel := readName IsolationLevel.ofName?

/-- A level as JSON. -/
def IsolationLevel.json (l : IsolationLevel) : String := Json.quote l.name

/-- Reads transaction options; `read_only` must be there. -/
def TxOptions.read : Reader TxOptions := fun t => do
  let f ← readFields ["isolation", "read_only"] t
  let isolation ← f.getOption 0 IsolationLevel.read
  let readOnly ← f.get 1 readBool
  some ⟨isolation, readOnly⟩

/-- Transaction options as JSON. -/
def TxOptions.json (o : TxOptions) : String :=
  objectText
    [("isolation", (o.isolation.map IsolationLevel.json).getD "null"),
      ("read_only", Json.boolText o.readOnly)]

end DbAccess
