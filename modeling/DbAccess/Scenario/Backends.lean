import DbAccess.Scripted
import DbAccess.Sqlite.Factory
/-!
# The backends of a scenario

A scenario reaches a scripted driver or a database in memory. The script that is being played is remembered,
because only calls on scripted drivers are reported.
-/

namespace DbAccess.Scenario

/-- The states of the backends. -/
structure Backends where
  /-- The script that is played, once a scripted driver was asked for. -/
  script : Option Scripted.Script
  scripted : Scripted.State
  sqlite : Sqlite.Connection Sqlite.Memory

namespace Backends

/-- Nothing is connected. -/
def initial : Backends := ⟨none, [], .closed⟩

/-- The state of the scripted driver. -/
def scriptedPlace : Place Backends Scripted.State :=
  ⟨(·.scripted), fun s b => { b with scripted := s }⟩

/-- The connection to the database in memory. -/
def sqlitePlace : Place Backends (Sqlite.Connection Sqlite.Memory) :=
  ⟨(·.sqlite), fun s b => { b with sqlite := s }⟩

/-- Calls on the driver are reported. A scripted driver with nothing to close does not report that it is
closed. -/
def reports (b : Backends) (c : DriverCall) : Bool :=
  match b.script, c with
  | none, _ => false
  | some s, .close => !s.bare
  | some _, _ => true

end Backends

/-- The form of the connection strings of a scripted factory. -/
inductive DsnForm where
  | postgres
  | mysql
  | sqlite
  /-- Whatever the options are. -/
  | fixed (dsn : String)
deriving DecidableEq, Repr

/-- The connection string of options. -/
def DsnForm.dsn (o : ConnectionOptions) : DsnForm → Except Error String
  | postgres => o.postgres
  | mysql => o.mysql
  | sqlite => o.sqlite
  | fixed dsn => .ok dsn

/-- A factory of a scenario. -/
inductive FactoryPlan where
  | sqlite
  /-- Yields a scripted driver, or refuses to connect. -/
  | scripted (name : String) (form : DsnForm) (script : Scripted.Script) (mapper : Mapper)
      (refusal : Option Error)

/-- The driver of a script. -/
def scriptedDriver (s : Scripted.Script) : Driver Backends :=
  (Scripted.driver s).within Backends.scriptedPlace

/-- Makes a factory. -/
def FactoryPlan.build : FactoryPlan → Factory Backends
  | sqlite => Sqlite.factory Backends.sqlitePlace
  | scripted name form script mapper refusal =>
    { name := name
      dsn := fun o => form.dsn o
      mapper := mapper
      connect := fun _ env b =>
        let b := { b with script := some script, scripted := [] }
        match refusal with
        | some e => ⟨.error e, env, b⟩
        | none => ⟨.ok (scriptedDriver script), env, b⟩ }

/-- The registry with the drivers of the library. -/
def libraryRegistry : Registry Backends := .default Backends.sqlitePlace

/-- A registry with these factories, of which a later one takes the place of an earlier one of its name. -/
def registryOf (fs : List FactoryPlan) : Registry Backends :=
  fs.foldl (fun r f => (r.replace f.build).2) .empty

end DbAccess.Scenario
