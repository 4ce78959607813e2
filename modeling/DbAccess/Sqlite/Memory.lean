import DbAccess.Sqlite.Sql.Reader
import DbAccess.Sqlite.Table
/-!
# A database in memory

`Memory` is the state of an engine that keeps its tables in memory, and `Memory.engine` is that engine. Outside a
transaction every statement takes effect at once. A transaction remembers the tables it began with, and each
savepoint those at which it was set, so rolling back is going back.
-/

namespace DbAccess.Sqlite

/-- A savepoint: its name, and the tables when it was set. -/
structure Savepoint where
  name : String
  tables : Tables
deriving Repr

/-- An open transaction: the tables it began with, and its savepoints, the newest first. -/
structure OpenTransaction where
  start : Tables
  savepoints : List Savepoint
  /-- It was begun by its first savepoint, and ends with the release of that. -/
  bySavepoint : Bool
deriving Repr

/-- The state of a database in memory. -/
structure Memory where
  tables : Tables
  transaction : Option OpenTransaction
  /-- Nothing can ever be written. -/
  readOnly : Bool
  /-- Nothing may be written for now. -/
  queryOnly : Bool
  foreignKeys : Bool
  changes : Nat
  totalChanges : Nat
deriving Repr

namespace Memory

/-- An empty database. -/
def fresh (readOnly foreignKeys : Bool) : Memory := ⟨[], none, readOnly, false, foreignKeys, 0, 0⟩

/-- The refusal of a transaction command that does not fit. -/
def misplaced {α : Type} (message : String) : Except Failure α := .error (.code 1 message)

/-- Begins a transaction. -/
def begin (m : Memory) : Except Failure Memory :=
  match m.transaction with
  | some _ => misplaced "cannot start a transaction within a transaction"
  | none => .ok { m with transaction := some ⟨m.tables, [], false⟩ }

/-- Makes the changes of the transaction final. -/
def commit (m : Memory) : Except Failure Memory :=
  match m.transaction with
  | some _ => .ok { m with transaction := none }
  | none => misplaced "cannot commit - no transaction is active"

/-- Goes back to where the transaction began. -/
def rollback (m : Memory) : Except Failure Memory :=
  match m.transaction with
  | some t => .ok { m with tables := t.start, transaction := none }
  | none => misplaced "cannot rollback - no transaction is active"

/-- Sets a savepoint; outside a transaction it begins one. -/
def savepoint (m : Memory) (name : String) : Memory :=
  let point : Savepoint := ⟨name, m.tables⟩
  { m with
    transaction := some (match m.transaction with
      | some t => { t with savepoints := point :: t.savepoints }
      | none => ⟨m.tables, [point], true⟩) }

/-- The savepoints from the newest of a name on. -/
def pointsFrom (name : String) (points : List Savepoint) : List Savepoint :=
  points.dropWhile fun p => !sameName p.name name

/-- The transaction with the savepoints from the newest of a name on, and that savepoint. -/
def seek (m : Memory) (name : String) :
    Except Failure (OpenTransaction × Savepoint × List Savepoint) :=
  match m.transaction.map fun t => (t, pointsFrom name t.savepoints) with
  | some (t, p :: older) => .ok (t, p, older)
  | _ => misplaced ("no such savepoint: " ++ name)

/-- Goes back to a savepoint, which stays. -/
def rollbackTo (m : Memory) (name : String) : Except Failure Memory := do
  let (t, p, older) ← m.seek name
  .ok { m with tables := p.tables, transaction := some { t with savepoints := p :: older } }

/-- Gives up a savepoint and the newer ones, and keeps the changes. -/
def release (m : Memory) (name : String) : Except Failure Memory := do
  let (t, _, older) ← m.seek name
  if older.isEmpty && t.bySavepoint then .ok { m with transaction := none }
  else .ok { m with transaction := some { t with savepoints := older } }

/-- The statement changes tables. -/
def isWrite : Command → Bool
  | .createTable .. | .dropTable _ | .insert .. | .update .. | .delete .. => true
  | _ => false

/-- The statement changes rows, and the rows it changes are counted. -/
def isCounted : Command → Bool
  | .insert .. | .update .. | .delete .. => true
  | _ => false

/-- Carries out a statement on tables. -/
def applyTables (m : Memory) (args : List Stored) (c : Command) :
    Except Failure (List (List Stored)) × Memory :=
  let result := if (m.readOnly || m.queryOnly) && isWrite c then
      .error (.code 8 "attempt to write a readonly database")
    else m.tables.applyChecked m.foreignKeys args c
  match result with
  | .ok e =>
    let m := { m with tables := e.tables }
    (.ok e.rows, if isCounted c then
      { m with changes := e.changed, totalChanges := m.totalChanges + e.changed } else m)
  | .error f => (.error f, if isCounted c then { m with changes := 0 } else m)

/-- The setting is switched on. -/
def isOn (value : String) : Bool := ["ON", "TRUE", "YES", "1"].contains value.toUpper

/-- Changes a setting, or asks for one. -/
def pragma (m : Memory) (setting value : String) : List (List Stored) × Memory :=
  match setting.toLower with
  | "query_only" => ([], { m with queryOnly := isOn value })
  | "foreign_keys" => ([], { m with foreignKeys := isOn value })
  | "journal_mode" => ([[.ofText "memory"]], m)
  | _ => ([], m)

/-- A command without rows that may be refused. -/
def control (m : Memory) (r : Except Failure Memory) : Except Failure (List (List Stored)) × Memory :=
  match r with
  | .ok m' => (.ok [], m')
  | .error f => (.error f, m)

/-- Carries out a statement that comes to an end. -/
def perform (m : Memory) (args : List Stored) : Command → Except Failure (List (List Stored)) × Memory
  | .nothing => (.error (.code 21 "not an error"), m)
  | .begin => m.control m.begin
  | .commit => m.control m.commit
  | .rollback => m.control m.rollback
  | .savepoint name => (.ok [], m.savepoint name)
  | .rollbackTo name => m.control (m.rollbackTo name)
  | .release name => m.control (m.release name)
  | .pragma setting value =>
    let (rows, m) := m.pragma setting value
    (.ok rows, m)
  | c => m.applyTables args c

/-- The message that a token does not fit, or that the text ends too soon. -/
def refusal (sql : String) : Option Token → Failure
  | some t => .input ("near \"" ++ t.text ++ "\": syntax error") sql (byteOffset sql t.start)
  | none => .code 1 "incomplete input"

/-- The table that a statement is about. -/
def tableOf : Command → Option String
  | .dropTable name => some name
  | .insert table .. => some table
  | .select _ source => source.map (·.table)
  | .update table .. => some table
  | .delete table _ => some table
  | _ => none

/-- A column that a statement mentions and the table does not have. -/
def missingColumn? (columns : List ColumnDef) (c : Command) : Option (String × Nat) :=
  (c.exprs.flatMap Expr.columns).find? fun p => !columns.any fun c => sameName c.name p.1

/-- What is wrong with a statement on these columns. -/
def columnFault? (sql table : String) (columns : List ColumnDef) (c : Command) : Option Failure :=
  let unknown (name : String) : Bool := !columns.any fun c => sameName c.name name
  match c with
  | .insert _ names values _ =>
    match names.bind fun ns => ns.find? unknown with
    | some name => some (.code 1 ("table " ++ table ++ " has no column named " ++ name))
    | none =>
      let n := ((names.map (·.length)).getD columns.length)
      if values.length = n then missing
      else if names.isSome then
        some (.code 1 (toString values.length ++ " values for " ++ toString n ++ " columns"))
      else some (.code 1 ("table " ++ table ++ " has " ++ toString n ++ " columns but " ++
        toString values.length ++ " values were supplied"))
  | .update _ column _ _ =>
    if unknown column then some (.code 1 ("no such column: " ++ column)) else missing
  | .unbounded .. => none
  | _ => missing
where
  /-- A mentioned column that is missing. -/
  missing : Option Failure :=
    (missingColumn? columns c).map fun p =>
      .input ("no such column: " ++ p.1) sql (byteOffset sql p.2)

/-- The columns of the rows of a statement. -/
def outputColumns (columns : List ColumnDef) : Command → List String
  | .select .star _ => columns.map (·.name)
  | .select (.list es) _ => es.map Expr.sql
  | .insert _ _ _ returning => returning.map Expr.sql
  | .pragma setting _ => if setting.toLower = "journal_mode" then [setting.toLower] else []
  | .unbounded .. => [Expr.countRows.sql]
  | _ => []

/-- Reads a statement, and checks that the tables have what it mentions. -/
def resolve (m : Memory) (sql : String) : Except Failure (Command × Compiled) := do
  let c ← (Command.read sql).mapError (refusal sql)
  match c with
  | .createTable name columns =>
    let _ ← m.tables.create name columns
    return (c, ⟨[], 0⟩)
  | _ =>
    let table ← (tableOf c).mapM m.tables.need
    let columns := (table.map (·.columns)).getD []
    match columnFault? sql ((table.map (·.name)).getD "") columns c with
    | some f => .error f
    | none => return (c, ⟨outputColumns columns c, c.params⟩)

/-- When a statement without end is stopped: at once, at the deadline, or never. -/
def stopAt (handler : Option Watcher) (env : Env) : Option Env :=
  handler.bind fun w => if w.isDone env then some env else w.deadline.map env.advanceTo

/-- Runs the first statement of a text. -/
def run (extent : Extent) (sql : String) (args : List Stored) (handler : Option Watcher) (env : Env)
    (m : Memory) : Work Memory (List (List Stored)) :=
  match m.resolve sql with
  | .error f => ⟨.failed f, env, m⟩
  | .ok (.unbounded .., _) =>
    match stopAt handler env with
    | some env => ⟨.failed .interrupted, env, m⟩
    | none => ⟨.never, env, m⟩
  | .ok (c, _) =>
    match m.perform args c with
    | (.ok rows, m) => ⟨.done (if extent = .first then rows.take 1 else rows), env, m⟩
    | (.error f, m) => ⟨.failed f, env, m⟩

/-- The engine of databases in memory. -/
def engine : Engine Memory where
  compile sql _ env m := (.ofExcept ((m.resolve sql).map (·.2)), env)
  run := run
  changes m := m.changes
  totalChanges m := m.totalChanges
  inTransaction m := m.transaction.isSome
  close _ := none

end Memory

end DbAccess.Sqlite
