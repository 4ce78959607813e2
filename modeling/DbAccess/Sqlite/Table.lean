import DbAccess.Sqlite.Engine
import DbAccess.Sqlite.Sql.Syntax
/-!
# Tables

A database is a list of tables, and a table a list of rows ascending by their row numbers. A table whose
primary key is a single integer column has its row numbers in that column. Every change is checked row by
row against the constraints of the table, and references are checked when all rows are changed; a statement
that fails leaves the database as it was.
-/

namespace DbAccess.Sqlite

/-- A table. -/
structure Table where
  name : String
  columns : List ColumnDef
  rows : List (Int × List Stored)
deriving Repr

/-- Tables by name. -/
abbrev Tables := List Table

/-- Names are the same in any letter case. -/
def sameName (a b : String) : Bool := a.toLower = b.toLower

/-- The table of a name. -/
def Tables.find? (ts : Tables) (name : String) : Option Table :=
  List.find? (fun t : Table => sameName t.name name) ts

/-- Puts a changed table in the place of the old one. -/
def Tables.put (ts : Tables) (t : Table) : Tables :=
  ts.map fun u => if sameName u.name t.name then t else u

namespace Table

/-- The place of a column. -/
def columnIndex? (t : Table) (name : String) : Option Nat :=
  t.columns.findIdx? fun c => sameName c.name name

/-- The column is the number of the row. -/
def isRowNumber (c : ColumnDef) : Bool := c.primaryKey && c.affinity = .integer

/-- The place of the column that is the number of the row. -/
def rowNumberIndex? (t : Table) : Option Nat := t.columns.findIdx? isRowNumber

/-- The first number from `k` on that no row has; the rows ascend by their numbers. -/
def freeNumber (k : Int) : List (Int × List Stored) → Int
  | [] => k
  | (n, _) :: rest => if k < n then k else if n = k then freeNumber (k + 1) rest else freeNumber k rest

/-- The number for a new row: the one after the largest, or a free one when the largest has none after it. -/
def nextNumber (t : Table) : Int :=
  match t.rows.getLast? with
  | some (n, _) => if n + 1 < limit63 then n + 1 else freeNumber 1 t.rows
  | none => 1

/-- Puts a row into its place. -/
def insertRow (n : Int) (row : List Stored) : List (Int × List Stored) → List (Int × List Stored)
  | [] => [(n, row)]
  | (k, r) :: rest => if n < k then (n, row) :: (k, r) :: rest else (k, r) :: insertRow n row rest

end Table

/-- What an expression can look at: the arguments, and a row with its columns. -/
structure RowScope where
  args : List Stored
  columns : List ColumnDef
  row : List Stored
  /-- The number of rows that are counted. -/
  count : Nat

/-- A truth value. -/
def Stored.ofBool (b : Bool) : Stored := .integer (if b then 1 else 0)

/-- The value counts as true. -/
def Stored.isTrue (s : Stored) : Bool :=
  match s.toNumber with
  | .integer n => n != 0
  | .real x => !x.same (.ofInt 0)
  | _ => false

namespace Expr

/-- The preference of an operand. -/
def affinity (columns : List ColumnDef) : Expr → Affinity
  | column name _ => ((columns.find? fun c => sameName c.name name).map (·.affinity)).getD .none
  | asText _ => .text
  | _ => .none

/-- Compares two operands after bringing one to the preference of the other. With null there is no order. -/
def compareAs (left right : Affinity) (a b : Stored) : Option Ordering :=
  if a.isNull || b.isNull then none
  else
    let (a, b) := match left, right with
      | .integer, .integer => (a, b)
      | .integer, _ => (a, b.convert .integer)
      | _, .integer => (a.convert .integer, b)
      | .text, .none => (a, b.convert .text)
      | .none, .text => (a.convert .text, b)
      | _, _ => (a, b)
    some (a.order b)

/-- The outcome of a comparison as a truth value, null when there is none. -/
def truthOf (f : Ordering → Bool) (o : Option Ordering) : Stored :=
  (o.map fun o => Stored.ofBool (f o)).getD .null

/-- The value of an expression. -/
def eval (s : RowScope) : Expr → Stored
  | null => .null
  | integer n => .ofInt n
  | text t => .ofText t
  | param n => (s.args[n - 1]?).getD .null
  | column name _ =>
    ((s.columns.findIdx? fun c => sameName c.name name).bind fun i => s.row[i]?).getD .null
  | plus a b => (a.eval s).sum (b.eval s)
  | equal a b =>
    truthOf (· == .eq) (compareAs (a.affinity s.columns) (b.affinity s.columns) (a.eval s) (b.eval s))
  | atLeast a b =>
    truthOf (· != .lt) (compareAs (a.affinity s.columns) (b.affinity s.columns) (a.eval s) (b.eval s))
  | asText e => ((e.eval s).textBytes?.map Stored.text).getD .null
  | countRows => .ofInt s.count

end Expr

namespace Table

/-- What expressions see of a row. -/
def scope (t : Table) (args : List Stored) (row : List Stored) : RowScope := ⟨args, t.columns, row, 0⟩

/-- The row meets a condition, if there is one. -/
def meets (t : Table) (args : List Stored) (condition : Option Expr) (row : List Stored) : Bool :=
  condition.all fun e => (e.eval (t.scope args row)).isTrue

/-- A violated constraint of a column. -/
def columnFailure (t : Table) (code : Int) (kind : String) (c : ColumnDef) : Failure :=
  .code code (kind ++ " constraint failed: " ++ t.name ++ "." ++ c.name)

/-- The row lacks a value that must be there. -/
def nullFailure? (t : Table) (row : List Stored) : Option Failure :=
  (t.columns.zip row).findSome? fun p =>
    if p.1.notNull && p.2.isNull then some (t.columnFailure 1299 "NOT NULL" p.1) else none

/-- The row fails a check; null passes every check. -/
def checkFailure? (t : Table) (row : List Stored) : Option Failure :=
  t.columns.findSome? fun c =>
    c.check.bind fun e =>
      let v := e.eval (t.scope [] row)
      if v.isNull || v.isTrue then none
      else some (.code 275 ("CHECK constraint failed: " ++ e.sql))

/-- Another row has the same number. -/
def numberFailure? (t : Table) (others : List (Int × List Stored)) (n : Int) : Option Failure :=
  if others.any fun r => r.1 = n then
    (t.columns.find? isRowNumber).map (t.columnFailure 1555 "UNIQUE")
  else none

/-- Another row has the same value where values must differ. -/
def uniqueFailure? (t : Table) (others : List (Int × List Stored)) (row : List Stored) :
    Option Failure :=
  (t.columns.zipIdx).findSome? fun p =>
    let (c, i) := p
    if (c.unique || c.primaryKey) && !isRowNumber c then
      let v := (row[i]?).getD .null
      if !v.isNull && others.any fun r => ((r.2[i]?).getD .null).order v == .eq then
        some (t.columnFailure (if c.primaryKey then 1555 else 2067) "UNIQUE" c)
      else none
    else none

/-- What is wrong with a row among others. -/
def failure? (t : Table) (others : List (Int × List Stored)) (n : Int) (row : List Stored) :
    Option Failure :=
  (t.nullFailure? row).or <| (t.checkFailure? row).or <|
    (t.numberFailure? others n).or (t.uniqueFailure? others row)

/-- The values of a row, converted for their columns. -/
def converted (t : Table) (row : List Stored) : List Stored :=
  (t.columns.zip row).map fun p => p.2.convert p.1.affinity

/-- A row with its number: a row number that is null is a new one, and nothing but an integer is one. -/
def numbered (t : Table) (row : List Stored) : Except Failure (Int × List Stored) :=
  match t.rowNumberIndex? with
  | none => .ok (t.nextNumber, row)
  | some i =>
    match (row[i]?).getD .null with
    | .null => .ok (t.nextNumber, row.set i (.ofInt t.nextNumber))
    | .integer n => .ok (n.toInt, row)
    | _ => .error (.code 20 "datatype mismatch")

/-- Adds a row. -/
def insert (t : Table) (row : List Stored) : Except Failure (List Stored × Table) := do
  let (n, row) ← t.numbered (t.converted row)
  match t.failure? t.rows n row with
  | some f => .error f
  | none => .ok (row, { t with rows := insertRow n row t.rows })

/-- Sets a column of one row. -/
def setColumn (t : Table) (index : Nat) (value : Expr) (args : List Stored)
    (r : Int × List Stored) : Except Failure Table := do
  let others := t.rows.filter fun o => o.1 != r.1
  let row := t.converted (r.2.set index (value.eval (t.scope args r.2)))
  let (n, row) ← (do
    if t.rowNumberIndex? = some index then
      match (row[index]?).getD .null with
      | .integer n => .ok (n.toInt, row)
      | _ => .error (.code 20 "datatype mismatch")
    else .ok (r.1, row) : Except Failure (Int × List Stored))
  match t.failure? others n row with
  | some f => .error f
  | none => .ok { t with rows := insertRow n row others }

/-- Sets a column of many rows, one after another. -/
def setColumns (t : Table) (index : Nat) (value : Expr) (args : List Stored) :
    List (Int × List Stored) → Except Failure Table
  | [] => .ok t
  | r :: rest => do (← t.setColumn index value args r).setColumns index value args rest

end Table

namespace Tables

/-- A value refers to something in the column of a table. -/
def hasTarget (ts : Tables) (table column : String) (v : Stored) : Bool :=
  (ts.find? table).any fun t =>
    (t.columnIndex? column).any fun i =>
      t.rows.any fun r => ((r.2[i]?).getD .null).order v == .eq

/-- All references of a table have targets; null refers to nothing. -/
def tableHolds (ts : Tables) (t : Table) : Bool :=
  (t.columns.zipIdx).all fun p =>
    p.1.references.all fun target =>
      t.rows.all fun r =>
        let v := (r.2[p.2]?).getD .null
        v.isNull || ts.hasTarget target.1 target.2 v

/-- All references have targets. -/
def referencesHold (ts : Tables) : Bool := ts.all ts.tableHolds

/-- A violated reference. -/
def referenceFailure : Failure := .code 787 "FOREIGN KEY constraint failed"

end Tables

/-- What a statement on tables comes to: the tables, the rows it gives, and how many rows it changed. -/
structure Effect where
  tables : Tables
  rows : List (List Stored)
  changed : Nat

namespace Tables

/-- The table of a name, or the failure that there is none. -/
def need (ts : Tables) (name : String) : Except Failure Table :=
  match ts.find? name with
  | some t => .ok t
  | none => .error (.code 1 ("no such table: " ++ name))

/-- The new row of an insertion: columns that are not named are null. -/
def newRow (t : Table) (columns : Option (List String)) (values : List Stored) : List Stored :=
  match columns with
  | none => values
  | some names =>
    let named := names.zip values
    t.columns.map fun c => ((named.find? fun p => sameName p.1 c.name).map (·.2)).getD .null

/-- Rows by the value of an expression, equal ones in their old order. -/
def sorted (t : Table) (args : List Stored) (orderBy : Option Expr) (rows : List (List Stored)) :
    List (List Stored) :=
  match orderBy with
  | none => rows
  | some e => rows.mergeSort fun a b =>
      (e.eval (t.scope args a)).order (e.eval (t.scope args b)) != .gt

/-- The rows of a query. -/
def select (ts : Tables) (outputs : Outputs) (source : Option Source) (args : List Stored) :
    Except Failure (List (List Stored)) := do
  match source with
  | none =>
    match outputs with
    | .star => return []
    | .list es => return [es.map fun e => e.eval ⟨args, [], [], 1⟩]
  | some s =>
    let t ← ts.need s.table
    let rows := sorted t args s.orderBy ((t.rows.map (·.2)).filter (t.meets args s.condition))
    match outputs with
    | .star => return rows
    | .list es =>
      if es.contains .countRows then
        return [es.map fun e => e.eval ⟨args, t.columns, (rows.head?).getD [], rows.length⟩]
      else return rows.map fun r => es.map fun e => e.eval (t.scope args r)

/-- Adds a table. -/
def create (ts : Tables) (name : String) (columns : List ColumnDef) : Except Failure Tables :=
  match ts.find? name with
  | some _ => .error (.code 1 ("table " ++ name ++ " already exists"))
  | none => .ok (ts ++ [⟨name, columns, []⟩])

/-- Carries out a statement on tables. What is no such statement does nothing. -/
def apply (ts : Tables) (args : List Stored) : Command → Except Failure Effect
  | .createTable name columns => do return ⟨← ts.create name columns, [], 0⟩
  | .dropTable name => do
    let t ← ts.need name
    return ⟨ts.filter fun u => !sameName u.name t.name, [], 0⟩
  | .insert table columns values returning => do
    let t ← ts.need table
    let (row, t) ← t.insert (newRow t columns (values.map fun e => e.eval ⟨args, [], [], 0⟩))
    return ⟨ts.put t, if returning.isEmpty then [] else
      [returning.map fun e => e.eval (t.scope args row)], 1⟩
  | .select outputs source => do return ⟨ts, ← ts.select outputs source args, 0⟩
  | .update table column value condition => do
    let t ← ts.need table
    let rows := t.rows.filter fun r => t.meets args condition r.2
    let t ← t.setColumns ((t.columnIndex? column).getD 0) value args rows
    return ⟨ts.put t, [], rows.length⟩
  | .delete table condition => do
    let t ← ts.need table
    let kept := t.rows.filter fun r => !t.meets args condition r.2
    return ⟨ts.put { t with rows := kept }, [], t.rows.length - kept.length⟩
  | _ => .ok ⟨ts, [], 0⟩

/-- Carries out a statement, and checks references afterwards when they are to be checked. -/
def applyChecked (ts : Tables) (foreignKeys : Bool) (args : List Stored) (c : Command) :
    Except Failure Effect := do
  let e ← ts.apply args c
  if foreignKeys && e.changed != 0 && !e.tables.referencesHold then .error referenceFailure
  else .ok e

end Tables

end DbAccess.Sqlite
