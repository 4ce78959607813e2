import DbAccess.Log
import DbAccess.Span
import DbAccess.Text.Digits
import DbAccess.Text.Search
/-!
# SQLite connection strings

A connection string is a path, and behind a question mark parameters joined by `&`. Parameters are read
from the left, so the last one of a name counts; one that cannot be read ends the reading.
-/

namespace DbAccess.Sqlite

/-- How to open a database. -/
structure Options where
  path : String
  readOnly : Bool
  busyTimeout : Span
  foreignKeys : Bool
deriving DecidableEq, Repr

/-- The path of a database that lives in memory. -/
def memoryPath : String := ":memory:"

/-- A database in memory, with foreign keys. -/
def Options.default : Options := ⟨memoryPath, false, .ofSeconds 5, true⟩

/-- The parts between the separators; there is one more of them than separators. -/
def splitAll (sep : Char) : List Char → List (List Char)
  | [] => [[]]
  | c :: rest =>
    if c = sep then [] :: splitAll sep rest
    else match splitAll sep rest with
      | part :: parts => (c :: part) :: parts
      | [] => [[c]]

/-- The parts around the first separator; without one, all of it and nothing. -/
def splitPair (sep : Char) (s : List Char) : String × String :=
  match Text.splitFirst? sep s with
  | some (a, b) => (String.ofList a, String.ofList b)
  | none => (String.ofList s, "")

/-- Takes one parameter into account. Unknown ones are reported. -/
def Options.apply (o : Options) (key value : String) : Except ConfigFault Options × List LogEvent :=
  match key with
  | "mode" => (.ok { o with readOnly := value = "ro" }, [])
  | "busy_timeout" | "_busy_timeout" =>
    match Text.readUnsigned? value with
    | some ms => (.ok { o with busyTimeout := .ofMillis ms }, [])
    | none => (.error (.badBusyTimeout value), [])
  | "foreign_keys" | "_foreign_keys" =>
    (.ok { o with foreignKeys := !(value = "0" || value = "off" || value = "false") }, [])
  | _ => (.ok o, [.unknownParameter key])

/-- Takes parameters into account one after another, up to the first that cannot be read. -/
def Options.applyAll (o : Options) :
    List (String × String) → Except ConfigFault Options × List LogEvent
  | [] => (.ok o, [])
  | (key, value) :: rest =>
    match o.apply key value with
    | (.ok o, events) =>
      let (result, later) := o.applyAll rest
      (result, events ++ later)
    | (.error fault, events) => (.error fault, events)

/-- The parameters of the text behind the question mark; empty ones do not count. -/
def parameters (query : String) : List (String × String) :=
  ((splitAll '&' query.toList).filter fun s => !s.isEmpty).map (splitPair '=')

/-- Reads a connection string, and reports parameters that it does not know. -/
def Options.parse (dsn : String) : Except ConfigFault Options × List LogEvent :=
  let (path, query) := splitPair '?' dsn.toList
  if path.isEmpty then (.error .emptyPath, [])
  else ({ Options.default with path := path } : Options).applyAll (parameters query)

end DbAccess.Sqlite
