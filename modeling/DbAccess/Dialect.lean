/-!
# Dialects

The families of database backends that the library knows.
-/

namespace DbAccess

/-- A family of backends. -/
inductive Dialect where
  | postgres
  | mysql
  | sqlite
deriving DecidableEq, Repr

namespace Dialect

/-- The name of a dialect. -/
def name : Dialect → String
  | postgres => "postgres"
  | mysql => "mysql"
  | sqlite => "sqlite"

/-- All dialects. -/
def all : List Dialect := [postgres, mysql, sqlite]

/-- The dialect of a name. -/
def ofName? (s : String) : Option Dialect := all.find? fun d => d.name = s

/-- The dialect in diagnostic text. -/
def diagnostic : Dialect → String
  | postgres => "Postgres"
  | mysql => "Mysql"
  | sqlite => "Sqlite"

end Dialect

end DbAccess
