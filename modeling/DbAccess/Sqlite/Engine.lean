import DbAccess.Context.Basic
import DbAccess.Sqlite.Stored
/-!
# Engines

What a connection needs of the engine behind it: to compile and to run statements, to say how many rows the
last one changed, to say whether a transaction is open, and to let itself be closed. While it compiles or runs
a statement the engine asks an interrupt handler, when one is installed, whether to go on.
-/

namespace DbAccess.Sqlite

/-- Why the engine refuses or gives up. -/
inductive Failure where
  /-- A failure with a result code. -/
  | code (code : Int) (message : String)
  /-- The text is no statement here, as seen at a byte of it. -/
  | input (message sql : String) (offset : Nat)
  /-- There are too few or too many arguments; of those beyond the last parameter only one is counted. -/
  | wrongCount (given needed : Nat)
  /-- The interrupt handler stopped the statement. -/
  | interrupted
  /-- A row was needed and there was none. -/
  | noRow
deriving DecidableEq, Repr

/-- The wording of a failure. -/
def Failure.message : Failure → String
  | code _ message => message
  | input message sql offset => message ++ " in " ++ sql ++ " at offset " ++ toString offset
  | wrongCount given needed =>
    "Wrong number of parameters passed to query. Got " ++ toString given ++ ", needed " ++
      toString needed
  | interrupted => "interrupted"
  | noRow => "Query returned no rows"

/-- The name of the class that a result code belongs to, which is its lowest byte. -/
def codeClass (code : Int) : String :=
  match code % 256 with
  | 8 => "ReadOnly"
  | 9 => "OperationInterrupted"
  | 14 => "CannotOpen"
  | 19 => "ConstraintViolation"
  | 20 => "TypeMismatch"
  | 21 => "ApiMisuse"
  | _ => "Unknown"

/-- A result code in diagnostic text. -/
def codeDiagnostic (code : Int) : String :=
  Text.recordText "Error" [("code", codeClass code), ("extended_code", toString code)]

/-- A failure in diagnostic text. -/
def Failure.diagnostic : Failure → String
  | code n message =>
    Text.callText "SqliteFailure" [codeDiagnostic n, Text.optionText (some (Text.quote message))]
  | input message sql offset =>
    Text.recordText "SqlInputError"
      [("error", codeDiagnostic 1), ("msg", Text.quote message), ("sql", Text.quote sql),
        ("offset", toString offset)]
  | wrongCount given needed =>
    Text.callText "InvalidParameterCount" [toString given, toString needed]
  | interrupted =>
    Text.callText "SqliteFailure" [codeDiagnostic 9, Text.optionText (some (Text.quote "interrupted"))]
  | noRow => "QueryReturnedNoRows"

/-- The failure as an error behind another one. -/
def Failure.source (f : Failure) : SourceError := ⟨f.message, f.diagnostic⟩

/-- How work of the engine ends. -/
inductive Ended (α : Type) where
  | done (a : α)
  | failed (f : Failure)
  | never
deriving Repr

/-- A result as the end of work. -/
def Ended.ofExcept {α : Type} : Except Failure α → Ended α
  | .ok a => done a
  | .error f => failed f

/-- What came of work: how it ended, the world then, and the engine. -/
structure Work (ε α : Type) where
  ended : Ended α
  env : Env
  state : ε

/-- What is known of a statement before it runs: the columns of its rows, none for a statement without rows,
and the number of its parameters. -/
structure Compiled where
  columns : List String
  params : Nat
deriving DecidableEq, Repr

/-- How many rows a statement is asked for. -/
inductive Extent where
  | all
  | first
deriving DecidableEq, Repr

/-- An engine whose state is an `ε`. -/
structure Engine (ε : Type) where
  /-- Compiles the first statement of a text, under the installed handler. -/
  compile : String → Option Watcher → Env → ε → Ended Compiled × Env
  /-- Runs the first statement of a text with arguments, under the installed handler. -/
  run : Extent → String → List Stored → Option Watcher → Env → ε → Work ε (List (List Stored))
  /-- The rows changed by the last statement that changes rows. -/
  changes : ε → Nat
  /-- The rows changed by all statements so far. -/
  totalChanges : ε → Nat
  /-- A transaction is open. -/
  inTransaction : ε → Bool
  /-- The result code and the message with which the engine refuses to be closed. -/
  close : ε → Option (Int × String)

/-- Work on an engine that can be interrupted by a handler. -/
abbrev EngineTask (ε α : Type) := Option Watcher → Env → ε → Work ε α

namespace EngineTask

variable {ε α β : Type}

/-- Ends with a value. -/
def done (a : α) : EngineTask ε α := fun _ env e => ⟨.done a, env, e⟩

/-- Fails. -/
def fail (f : Failure) : EngineTask ε α := fun _ env e => ⟨.failed f, env, e⟩

/-- Goes on with the value of a task. -/
def andThen (x : EngineTask ε α) (f : α → EngineTask ε β) : EngineTask ε β := fun handler env e =>
  let w := x handler env e
  match w.ended with
  | .done a => f a handler w.env w.state
  | .failed r => ⟨.failed r, w.env, w.state⟩
  | .never => ⟨.never, w.env, w.state⟩

/-- Asks the engine. -/
def ask (f : ε → α) : EngineTask ε α := fun _ env e => ⟨.done (f e), env, e⟩

end EngineTask

/-- Compiles a statement, which leaves the engine as it is. -/
def Engine.compiling {ε : Type} (E : Engine ε) (sql : String) : EngineTask ε Compiled := fun handler env e =>
  let (ended, env) := E.compile sql handler env e
  ⟨ended, env, e⟩

end DbAccess.Sqlite
