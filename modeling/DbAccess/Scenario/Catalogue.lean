import DbAccess.Scenario.Backends
/-!
# Steps on a registry

What a program does with a registry of drivers, as data. Factories are answered as their tags: the name, and
the connection string that the factory makes of some options.
-/

namespace DbAccess.Scenario

/-- A step on a registry. -/
inductive RegistryStep where
  /-- Adds a factory; a registry that refuses it stays as it is. -/
  | register (f : FactoryPlan)
  /-- The names of the library's registry with a factory added. -/
  | extend (f : FactoryPlan)
  | replace (f : FactoryPlan)
  | lookup (name : String)
  | contains (name : String)
  | names
  | shown
  /-- Maps an error by the mapper of a factory. -/
  | map (name : String) (e : Error)
  /-- Connects by a factory. -/
  | connect (name : String) (config : Config)

/-- The name of a factory, and the connection string it makes. -/
abbrev Tag := String × Except Error String

/-- What a step on a registry is answered with. -/
inductive RegistryAnswer where
  | added (r : Except Error Unit)
  | extended (r : Except Error (List String))
  | replaced (old : Option Tag)
  | found (r : Except Error Tag)
  | flag (b : Bool)
  | names (ns : List String)
  | text (s : String)
  | mapped (r : Except Error Error)
  /-- With the connection string that a scripted factory was given. -/
  | connected (r : Except Error Dialect) (asked : Option (String × String))

/-- The tag of a factory. -/
def tag (o : ConnectionOptions) (f : Factory Backends) : Tag := (f.name, f.dsn o)

/-- Carries out a step. -/
def RegistryStep.perform (o : ConnectionOptions) (r : Registry Backends) :
    RegistryStep → RegistryAnswer × Registry Backends
  | register f =>
    match r.register f.build with
    | .ok r => (.added (.ok ()), r)
    | .error e => (.added (.error e), r)
  | extend f => (.extended ((libraryRegistry.register f.build).map (·.names)), r)
  | replace f =>
    let (old, r) := r.replace f.build
    (.replaced (old.map (tag o)), r)
  | lookup name => (.found ((r.lookup name).map (tag o)), r)
  | contains name => (.flag (r.contains name), r)
  | names => (.names r.names, r)
  | shown => (.text r.diagnostic, r)
  | map name e => (.mapped ((r.lookup name).map fun f => f.mapper.map e), r)
  | connect name config =>
    match r.lookup name with
    | .error e => (.connected (.error e) none, r)
    | .ok f =>
      let run := f.connect config ⟨0, []⟩ .initial
      let asked := run.state.script.map fun _ => (f.name, config.dsn)
      (.connected (run.answer.map (·.dialect)) asked, r)

/-- Carries out steps one after another. -/
def RegistryStep.run (o : ConnectionOptions) : Registry Backends → List RegistryStep → List RegistryAnswer
  | _, [] => []
  | r, s :: rest =>
    let (a, r) := s.perform o r
    a :: run o r rest

end DbAccess.Scenario
