import DbAccess.Sqlite.Affinity
/-!
# Commands of SQL

The part of SQL that the engine understands: tables with constraints, statements on rows, transactions and
savepoints, and settings.
-/

namespace DbAccess.Sqlite

/-- An expression. A column knows where it was written. -/
inductive Expr where
  | null
  | integer (n : Nat)
  | text (s : String)
  | param (n : Nat)
  | column (name : String) (start : Nat)
  | plus (a b : Expr)
  | equal (a b : Expr)
  | atLeast (a b : Expr)
  | asText (e : Expr)
  | countRows
deriving DecidableEq, Repr

namespace Expr

/-- The expression in SQL, which also names a column of a result. -/
def sql : Expr → String
  | null => "NULL"
  | integer n => toString n
  | text s => String.ofList (quoteMark :: s.toList ++ [quoteMark])
  | param n => "?" ++ toString n
  | column name _ => name
  | plus a b => a.sql ++ " + " ++ b.sql
  | equal a b => a.sql ++ " = " ++ b.sql
  | atLeast a b => a.sql ++ " >= " ++ b.sql
  | asText e => "CAST(" ++ e.sql ++ " AS TEXT)"
  | countRows => "count(*)"
where
  /-- The quotation mark of texts. -/
  quoteMark : Char := Char.ofNat 0x27

/-- The greatest number of a parameter. -/
def params : Expr → Nat
  | param n => n
  | plus a b | equal a b | atLeast a b => max a.params b.params
  | asText e => e.params
  | _ => 0

/-- The columns that are mentioned, with their places. -/
def columns : Expr → List (String × Nat)
  | column name start => [(name, start)]
  | plus a b | equal a b | atLeast a b => a.columns ++ b.columns
  | asText e => e.columns
  | _ => []

end Expr

/-- A column of a table. -/
structure ColumnDef where
  name : String
  affinity : Affinity
  primaryKey : Bool
  notNull : Bool
  unique : Bool
  check : Option Expr
  /-- The table and the column that hold what this one may refer to. -/
  references : Option (String × String)
deriving DecidableEq, Repr

/-- What a query is to give. -/
inductive Outputs where
  | star
  | list (es : List Expr)
deriving DecidableEq, Repr

/-- The rows that a query looks at. -/
structure Source where
  table : String
  condition : Option Expr
  orderBy : Option Expr
deriving DecidableEq, Repr

/-- A statement. -/
inductive Command where
  | nothing
  | createTable (name : String) (columns : List ColumnDef)
  | dropTable (name : String)
  | insert (table : String) (columns : Option (List String)) (values returning : List Expr)
  | select (outputs : Outputs) (source : Option Source)
  | update (table column : String) (value : Expr) (condition : Option Expr)
  | delete (table : String) (condition : Option Expr)
  | pragma (setting value : String)
  | begin
  | commit
  | rollback
  | savepoint (name : String)
  | rollbackTo (name : String)
  | release (name : String)
  /-- Counts the rows that a start and a step without condition give again and again. -/
  | unbounded (start next : Expr)
deriving DecidableEq, Repr

namespace Command

/-- The expressions of a statement. -/
def exprs : Command → List Expr
  | insert _ _ values returning => values ++ returning
  | select outputs source =>
    (match outputs with
      | .star => []
      | .list es => es) ++ (source.bind (·.condition)).toList ++ (source.bind (·.orderBy)).toList
  | update _ _ value condition => value :: condition.toList
  | delete _ condition => condition.toList
  | unbounded start next => [start, next]
  | _ => []

/-- The number of parameters of a statement. -/
def params (c : Command) : Nat := c.exprs.foldl (fun n e => max n e.params) 0

end Command

end DbAccess.Sqlite
