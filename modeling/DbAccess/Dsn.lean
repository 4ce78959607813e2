import DbAccess.Error.Basic
import DbAccess.Json.Printer
import DbAccess.Json.Reader
import DbAccess.SortedMap
import DbAccess.Text.Blank
import DbAccess.Width
/-!
# Connection strings

`ConnectionOptions` say where a database is in terms that every backend shares; `postgres`, `mysql` and
`sqlite` write them in the form of one backend.
-/

namespace DbAccess

/-- Where a database is and how to get in. -/
structure ConnectionOptions where
  host : String
  /-- Zero stands for the backend's usual port. -/
  port : Nat
  user : String
  password : String
  /-- The name of the database, or the path of its file. -/
  database : String
  sslMode : Option String
  /-- Further parameters. -/
  extra : Parameters
deriving DecidableEq, Repr

namespace ConnectionOptions

/-- Nothing is set. -/
def empty : ConnectionOptions := ⟨"", 0, "", "", "", none, .empty⟩

/-- Sets a further parameter. -/
def param (o : ConnectionOptions) (key value : String) : ConnectionOptions :=
  { o with extra := o.extra.set key value }

open Json

/-- Reads options; what is missing is not set. -/
def read : Reader ConnectionOptions := fun t => do
  let f ← readFields ["host", "port", "user", "password", "database", "ssl_mode", "extra"] t
  let host ← f.getD 0 readText ""
  let port ← f.getD 1 (readNat limit16) 0
  let user ← f.getD 2 readText ""
  let password ← f.getD 3 readText ""
  let database ← f.getD 4 readText ""
  let sslMode ← f.getD 5 (readOption readText) none
  let extra ← f.getD 6 (readMembers readText) []
  some ⟨host, port, user, password, database, sslMode, .ofList extra⟩

/-- The options as JSON. -/
def json (o : ConnectionOptions) : String :=
  objectText
    [("host", Json.quote o.host), ("port", toString o.port), ("user", Json.quote o.user),
      ("password", Json.quote o.password), ("database", Json.quote o.database),
      ("ssl_mode", (o.sslMode.map Json.quote).getD "null"),
      ("extra", objectText (o.extra.entries.map fun p => (p.1, Json.quote p.2)))]

/-- A parameter as `key=value`. -/
def pairText (p : String × String) : String := p.1 ++ "=" ++ p.2

/-- Refuses options without host or database. -/
def requireHost (o : ConnectionOptions) (driver : String) : Except Error Unit :=
  if o.host.isEmpty || o.database.isEmpty then .error (.config (.missingHostOrDatabase driver))
  else .ok ()

/-- The port, or the usual one. -/
def portOr (o : ConnectionOptions) (usual : Nat) : Nat := if o.port = 0 then usual else o.port

/-- Keywords with values, separated by spaces. -/
def postgres (o : ConnectionOptions) : Except Error String := do
  o.requireHost "postgres"
  let known :=
    [("host", o.host), ("port", toString (o.portOr 5432)), ("user", o.user),
      ("password", o.password), ("dbname", o.database), ("sslmode", o.sslMode.getD "disable")]
  return String.intercalate " " ((known ++ o.extra.entries).map pairText)

/-- User and password, address, database, and parameters behind a question mark. -/
def mysql (o : ConnectionOptions) : Except Error String := do
  o.requireHost "mysql"
  return o.user ++ ":" ++ o.password ++ "@tcp(" ++ o.host ++ ":" ++ toString (o.portOr 3306) ++ ")/" ++
    o.database ++ "?" ++ String.intercalate "&" ((("parseTime", "true") :: o.extra.entries).map pairText)

/-- The path, and parameters behind a question mark when there are any. -/
def sqlite (o : ConnectionOptions) : Except Error String :=
  if o.database.isEmpty then .error (.config .missingPath)
  else if o.extra.entries.isEmpty then .ok o.database
  else .ok (o.database ++ "?" ++ String.intercalate "&" (o.extra.entries.map pairText))

end ConnectionOptions

/-- The environment variable that usually holds a connection string. -/
def urlVariable : String := "DATABASE_URL"

/-- The connection string in an environment variable; a blank one counts as not set. -/
def dsnOfVariable (name : String) (value : Option String) : Except Error String :=
  match value with
  | some dsn => if Text.allBlank dsn then .error (.config (.unsetVariable name)) else .ok dsn
  | none => .error (.config (.unsetVariable name))

end DbAccess
