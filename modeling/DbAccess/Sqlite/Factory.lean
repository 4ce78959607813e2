import DbAccess.Registry
import DbAccess.Sqlite.Connection
import DbAccess.Sqlite.Location
import DbAccess.Sqlite.Memory
/-!
# Opening SQLite databases

Databases live in memory: a path to anywhere else cannot be opened. `Sqlite.factory` reads the connection string,
opens the database, and reports errors as SQLite's own classifier understands them.
-/

namespace DbAccess

namespace Sqlite

/-- The refusal to open, with its result code. -/
def openRefusal (code : Int) (message : String) : RawError :=
  .backend ⟨message, some .sqlite, none, some code, [(Failure.code code message).source]⟩

/-- The refusal of a path with a null character, which names nothing; it stands at a byte offset. -/
def nulInPath (path : String) (offset : Nat) : RawError :=
  let message := "nul byte found in provided data at position: " ++ toString offset
  let bytes := Text.listText ((Text.utf8 path).map fun b => toString b.toNat)
  .backend ⟨message, some .sqlite, none, none,
    [⟨message, Text.callText "NulError" [Text.callText "NulError" [toString offset, bytes]]⟩]⟩

/-- The byte offset of the first null character. -/
def nulOffset? (path : String) : Option Nat :=
  (Text.splitFirst? '\x00' path.toList).map fun p => (String.ofList p.1).utf8ByteSize

/-- Opens a database. One in memory is read-only only if it was asked for by an address. -/
def openPath (o : Options) : Except RawError (Connection Memory) :=
  match nulOffset? o.path with
  | some offset => .error (nulInPath o.path offset)
  | none =>
    match Location.ofPath o.path with
    | .memory => .ok (.ofEngine (.fresh (o.readOnly && o.path != memoryPath) o.foreignKeys))
    | .file => .error (openRefusal 14 ("unable to open database file: " ++ o.path))
    | .elsewhere authority => .error (openRefusal 1 ("invalid uri authority: " ++ authority))

/-- The name under which the factory is registered. -/
def driverName : String := "sqlite"

/-- Understands SQLite's errors only. -/
def errorMapper : Mapper := .ofClassifiers [.sqlite]

/-- Opens the database of a connection string. -/
def connect (dsn : String) : Except Error (Connection Memory) := do
  let o ← (Options.parse dsn).1.mapError Error.config
  (openPath o).mapError fun e => errorMapper.map (.raw e)

/-- The factory of drivers for databases in memory. -/
def factory {δ : Type} (place : Place δ (Connection Memory)) : Factory δ where
  name := driverName
  dsn o := o.sqlite
  mapper := errorMapper
  connect config env state :=
    match connect config.dsn with
    | .ok c => ⟨.ok ((driver Memory.engine).within place), env, place.set c state⟩
    | .error e => ⟨.error e, env, state⟩

end Sqlite

/-- The registry with the drivers of this library. -/
def Registry.default {δ : Type} (place : Place δ (Sqlite.Connection Sqlite.Memory)) : Registry δ :=
  (Registry.empty.replace (Sqlite.factory place)).2

end DbAccess
