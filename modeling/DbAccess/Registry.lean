import DbAccess.Dsn
import DbAccess.Session.Database
import DbAccess.SortedMap
/-!
# Registries

A registry knows factories by name, and a factory knows how to reach one kind of backend. Registries are
values; opening a database asks the one it is given.
-/

namespace DbAccess

/-- What came of asking a factory to connect. -/
structure FactoryRun (δ : Type) where
  answer : Except Error (Driver δ)
  env : Env
  state : δ

/-- Reaches one kind of backend, for drivers whose states are parts of one `δ`. -/
structure Factory (δ : Type) where
  name : String
  /-- The connection string of neutral options. -/
  dsn : ConnectionOptions → Except Error String
  /-- Asked first about the errors of this backend. -/
  mapper : Mapper
  /-- Connects, which may take time. -/
  connect : Config → Env → δ → FactoryRun δ

/-- Factories by name. -/
structure Registry (δ : Type) where
  factories : List (String × Factory δ)

namespace Registry

variable {δ σ ν : Type}

/-- No factories. -/
def empty : Registry δ := ⟨[]⟩

/-- The factory of a name. -/
def find? (r : Registry δ) (name : String) : Option (Factory δ) := r.factories.lookup name

/-- There is a factory of that name. -/
def contains (r : Registry δ) (name : String) : Bool := (r.find? name).isSome

/-- The names, ascending. -/
def names (r : Registry δ) : List String := SortedMap.keys r.factories

/-- Puts a factory under its name, in place of the one that was there, which is handed back. -/
def replace (r : Registry δ) (f : Factory δ) : Option (Factory δ) × Registry δ :=
  (r.find? f.name, ⟨SortedMap.insert f.name f r.factories⟩)

/-- Adds a factory; a name that is taken is refused. -/
def register (r : Registry δ) (f : Factory δ) : Except Error (Registry δ) :=
  if r.contains f.name then .error (.config (.alreadyRegistered f.name))
  else .ok (r.replace f).2

/-- The factory of a name, or the error that names those there are. -/
def lookup (r : Registry δ) (name : String) : Except Error (Factory δ) :=
  match r.find? name with
  | some f => .ok f
  | none => .error (.config (.unknownDriver name r.names))

/-- The registry in diagnostic text. -/
def diagnostic (r : Registry δ) : String :=
  Text.recordText "DriverRegistry" [("drivers", Text.listText (r.names.map Text.quote))]

end Registry

namespace Database

variable {δ σ ν : Type}

open SessionM

/-- How long the first ping may take. -/
def openPingTimeout : Span := .ofSeconds 5

/-- Connects by a factory. -/
def connect (f : Factory δ) (config : Config) : SessionM δ σ ν (Driver δ) := fun w =>
  let r := f.connect config w.env w.driver
  let w := { w with env := r.env, driver := r.state }
  match r.answer with
  | .ok d => ⟨.value d, w, [.opened f.name config.dsn]⟩
  | .error e => ⟨.failed e, w, [.opened f.name config.dsn]⟩

/-- Opens the database that the settings name, and makes sure that it answers. A driver that does not answer
the first ping is closed. -/
def openWith (registry : Registry δ) (config : Config) (hooks : List (Hook σ ν)) :
    SessionM δ σ ν (Database δ σ ν) := do
  ofExcept config.validate
  if config.dsn.isEmpty then fail (.config .emptyDsn)
  else
    let factory ← ofExcept (registry.lookup config.driver)
    let driver ← connect factory config
    let db : Database δ σ ν := { ofDriver driver config hooks with mapper := .forDriver factory.mapper }
    match ← attempt (db.ping (Context.background.withTimeout (← env) openPingTimeout)) with
    | .ok () => return db
    | .error e =>
      log (.firstPingFailed e)
      let _ ← db.dispatch .background .close
      fail e

/-- Opens the database of a driver at the place that neutral options describe. -/
def openWithOptions (registry : Registry δ) (driver : String) (options : ConnectionOptions)
    (config : Config) (hooks : List (Hook σ ν)) : SessionM δ σ ν (Database δ σ ν) := do
  let factory ← ofExcept (registry.lookup driver)
  let dsn ← ofExcept ((factory.dsn options).mapError fun e => .config (.unbuildableDsn e.message))
  openWith registry { config with driver := driver, dsn := dsn } hooks

/-- Opens the database whose connection string stands in the environment. -/
def openFromEnv (registry : Registry δ) (driver : String) (variableValue : Option String) :
    SessionM δ σ ν (Database δ σ ν) := do
  let dsn ← ofExcept (dsnOfVariable urlVariable variableValue)
  openWith registry (.new driver dsn) []

end Database

end DbAccess
