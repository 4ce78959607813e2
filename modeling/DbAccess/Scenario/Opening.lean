import DbAccess.Scenario.Play
/-!
# Whole scenarios

A `SessionPlan` opens a database in one of several ways and plays its steps. At the end the transactions that are
still open are dropped in the order of their names.
-/

namespace DbAccess.Scenario

/-- How the database of a scenario is made. -/
inductive Opening where
  /-- A scripted driver behind a handle. -/
  | scripted (script : Scripted.Script)
  /-- A database in memory behind a handle, by a connection string or by default options, on which a script
  is run first. -/
  | sqlite (dsn : Option String) (schema : String)
  /-- By a registry with these factories. -/
  | registry (factories : List FactoryPlan)
  /-- By a registry with these factories, for a driver at the place that options describe. -/
  | options (factories : List FactoryPlan) (driver : String) (options : ConnectionOptions)
  /-- By the registry of the library. -/
  | library
  /-- By the registry of the library, for a driver at the place that the environment names. -/
  | environment (driver : String) (variableValue : Option String)

/-- A scenario. -/
structure SessionPlan (ρ : Type) where
  opening : Opening
  config : Config
  hooks : List HookPlan
  /-- Takes the place of the mapper of a handle. -/
  mapper : Option Mapper
  steps : List (Step ρ)

/-- What came of a scenario. -/
structure Story (ρ : Type) where
  /-- The connection string of the database that was opened. -/
  opened : Except Error String
  openTrace : List (Event Observation)
  steps : List (Report ρ)
  endTrace : List (Event Observation)

variable {ρ : Type}

open SessionM

/-- A registry of drivers whose states are part of a stage. -/
def Registry.onStage (r : Registry Backends) : Registry Stage :=
  ⟨r.factories.map fun e => (e.1,
    { name := e.2.name
      dsn := e.2.dsn
      mapper := e.2.mapper
      connect := fun config env s =>
        let r := e.2.connect config env s.backends
        ⟨r.answer.map fun d => d.within Stage.backendsPlace, r.env, { s with backends := r.state }⟩ })⟩

/-- A connection to a database in memory. Refusals to open it stay raw. -/
def connectSqlite (dsn : Option String) (schema : String) : Play ρ Unit := do
  let options ← ofExcept (match dsn with
    | some dsn => (Sqlite.Options.parse dsn).1.mapError Error.config
    | none => .ok .default)
  let c ← ofExcept ((Sqlite.openPath options).mapError Error.raw)
  setStage fun s => { s with backends := { s.backends with sqlite := c } }
  runScript .background schema

/-- A handle on a driver that is connected already. -/
def handleOn (sc : SessionPlan ρ) (d : Driver Backends) : Db ρ :=
  let db := Database.ofDriver (d.within Stage.backendsPlace) sc.config
    (HookPlan.buildAll Mark.observed sc.hooks)
  match sc.mapper with
  | some m => { db with mapper := m }
  | none => db

/-- Opens the database of a scenario. -/
def SessionPlan.openDatabase (sc : SessionPlan ρ) : Play ρ (Db ρ) := do
  let hooks := HookPlan.buildAll Mark.observed sc.hooks
  match sc.opening with
  | .scripted script =>
    setStage fun s => { s with backends := { s.backends with script := some script } }
    return handleOn sc (scriptedDriver script)
  | .sqlite dsn schema =>
    connectSqlite dsn schema
    return handleOn sc ((Sqlite.driver Sqlite.Memory.engine).within Backends.sqlitePlace)
  | .registry fs => Database.openWith (Registry.onStage (registryOf fs)) sc.config hooks
  | .options fs driver o =>
    Database.openWithOptions (Registry.onStage (registryOf fs)) driver o sc.config hooks
  | .library => Database.openWith (Registry.onStage libraryRegistry) sc.config hooks
  | .environment driver value =>
    Database.openFromEnv (Registry.onStage libraryRegistry) driver value

/-- The reported part of a trace. -/
def reported (trace : List (Event (Mark ρ))) : Play ρ (List (Event Observation)) := do
  let b := (← stage).backends
  return (unmarked trace).filter (isReported b)

/-- Plays a scenario. -/
def SessionPlan.play (sc : SessionPlan ρ) : Play ρ (Story ρ) := do
  let (o, trace) ← capture sc.openDatabase
  let openTrace ← reported trace
  match o with
  | .value db =>
    let steps ← playAll db sc.steps
    let names := (← stage).transactions.map (·.1)
    let (_, last) ← capture (dropAll db names)
    return ⟨.ok db.config.dsn, openTrace, steps, ← reported last⟩
  | .failed e => return ⟨.error e, openTrace, [], []⟩
  | .panicked text => panicWith text
  | .stuck => finish .stuck

/-- What comes of a scenario, if it comes to an end. -/
def SessionPlan.story? (sc : SessionPlan ρ) : Option (Story ρ) :=
  match (sc.play startWorld).outcome with
  | .value s => some s
  | _ => none

end DbAccess.Scenario
