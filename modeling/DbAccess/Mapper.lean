import DbAccess.Classify.ErrorNumber
import DbAccess.Classify.ResultCode
import DbAccess.Classify.SqlState
import DbAccess.Log
/-!
# Mapping errors

A `Mapper` turns raw errors into classified ones and reports what it recognised. The mappers built here
touch raw errors only, so what they have classified passes through them unchanged.
-/

namespace DbAccess

/-- Recognises the errors of one kind of backend. -/
structure Classifier where
  name : String
  classify : BackendError → Option ErrorKind

namespace Classifier

/-- PostgreSQL: errors of its own dialect or of none, by SQLSTATE. -/
def postgres : Classifier where
  name := "postgres"
  classify e :=
    match e.dialect with
    | some .postgres | none => SqlState.classify e
    | some _ => none

/-- MySQL: its own errors by number; errors of no dialect only by their message, since their number
could be anybody's. -/
def mysql : Classifier where
  name := "mysql"
  classify e :=
    match e.dialect with
    | some .mysql => ErrorNumber.classify e
    | none => ErrorNumber.ofMessage? e.message
    | some _ => none

/-- SQLite: its own errors by result code or message; errors of no dialect only by their message. -/
def sqlite : Classifier where
  name := "sqlite"
  classify e :=
    match e.dialect with
    | some .sqlite => ResultCode.classify e
    | none => ResultCode.ofMessage? e.message
    | some _ => none

/-- Recognises every error whose message contains the phrase. -/
def ofPhrase (name phrase : String) (kind : ErrorKind) : Classifier where
  name := name
  classify e := if Text.contains e.message phrase then some kind else none

/-- The built-in classifiers, in the order in which they are asked. -/
def builtin : List Classifier := [postgres, mysql, sqlite]

end Classifier

/-- Maps an error, and reports what it did. -/
structure Mapper where
  run : Error → Error × List LogEvent

namespace Mapper

/-- The mapped error. -/
def map (m : Mapper) (e : Error) : Error := (m.run e).1

/-- What the mapper reports about an error. -/
def events (m : Mapper) (e : Error) : List LogEvent := (m.run e).2

/-- A mapper that reports nothing. -/
def ofFunction (f : Error → Error) : Mapper := ⟨fun e => (f e, [])⟩

/-- The mapped error of a result; a success stays as it is. -/
def mapResult {α : Type} (m : Mapper) : Except Error α → Except Error α
  | .ok a => .ok a
  | .error e => .error (m.map e)

/-- The first classifier that recognises the error, and the kind it gives. -/
def recognise (cs : List Classifier) (e : BackendError) : Option (Classifier × ErrorKind) :=
  cs.findSome? fun c => (c.classify e).map fun k => (c, k)

/-- A missing row is `notFound`, an ended context a `timeout`; backend errors are put to the classifiers
in turn. What nobody recognises stays raw. -/
def ofClassifiers (cs : List Classifier) : Mapper where
  run
    | .raw .noRows => (.ofKind .notFound .noRows, [])
    | .raw (.context c) => (.ofKind .timeout (.context c), [])
    | .raw (.backend b) =>
      match recognise cs b with
      | some (c, k) => (.ofKind k (.backend b), [.classified c.name k])
      | none => (.raw (.backend b), [])
    | e => (e, [])

/-- The mapper with the built-in classifiers. -/
def default : Mapper := ofClassifiers Classifier.builtin

/-- Runs one mapper after another until the error is raw no longer; `last` gets what is still raw. -/
def runChain (last : Mapper) : List Mapper → Error → Error × List LogEvent
  | [], e => if e.isRaw then last.run e else (e, [])
  | m :: ms, e =>
    if e.isRaw then
      let (e, here) := m.run e
      let (e, later) := runChain last ms e
      (e, here ++ later)
    else (e, [])

/-- Asks the mappers in turn, and the fallback when none of them classifies the error. -/
def chain (ms : List Mapper) (fallback : Mapper) : Mapper := ⟨runChain fallback ms⟩

/-- The mapper of an opened database: the driver's own mapper, and the default one behind it. -/
def forDriver (own : Mapper) : Mapper := chain [own] default

/-- A mapper made of classifiers in diagnostic text. -/
def classifiersDiagnostic (cs : List Classifier) : String :=
  Text.recordText "DefaultErrorMapper"
    [("classifiers", Text.listText (cs.map fun c => Text.quote c.name))]

/-- A chain of mappers in diagnostic text. -/
def chainDiagnostic (count : Nat) : String :=
  Text.openRecordText "ChainedMapper" [("mappers", toString count)]

end Mapper

end DbAccess
