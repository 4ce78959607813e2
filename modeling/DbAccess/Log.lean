import DbAccess.Decimal.Binary
import DbAccess.Error.Message
/-!
# The log

What the library reports beside its answers. An event has a level, a message, and named fields.
-/

namespace DbAccess

/-- How much an event matters. -/
inductive LogLevel where
  | trace
  | debug
  | warn
  | error
deriving DecidableEq, Repr

/-- The value of a field. -/
inductive LogField where
  | text (s : String)
  | count (n : Nat)
  | double (x : Decimal.Binary64)
deriving DecidableEq, Repr

/-- The two moments at which a hook is called. -/
inductive HookMoment where
  | before
  | after
deriving DecidableEq, Repr

/-- How a statement ended, in the log of statements. -/
inductive StatementOutcome where
  | done
  | slow
  | failed (e : Error)
deriving DecidableEq, Repr

/-- An event of the log. -/
inductive LogEvent where
  /-- A classifier recognised a backend error. -/
  | classified (classifier : String) (kind : ErrorKind)
  /-- The entry of a hook chain at the index panicked and was skipped. -/
  | hookPanicked (moment : HookMoment) (index : Nat) (panic : String)
  /-- A statement ended; the arguments are shown when the log is told to. -/
  | statement (outcome : StatementOutcome) (sql : String) (elapsedMs : Decimal.Binary64)
      (args : Option String)
  | retriesExhausted (attempts : Nat) (last : Error)
  | unknownParameter (key : String)
  /-- The body of a transaction had committed or rolled back itself. -/
  | alreadyFinished
  | rollbackFailed (e : Error)
  /-- A transaction was given up without commit or rollback. -/
  | abandoned (unwinding : Bool)
  | abandonedRollbackFailed (e : Error)
  | firstPingFailed (e : Error)
  /-- A thread asked for the connection that its own transaction holds. -/
  | heldByThisThread
  /-- A connection could not be made writable again. -/
  | resetFailed (text : String)
  /-- A transaction that was not finished could not be rolled back. -/
  | cleanupFailed (text : String)
deriving DecidableEq, Repr

namespace LogEvent

/-- The level of an event. -/
def level : LogEvent → LogLevel
  | classified .. => .trace
  | hookPanicked .. => .error
  | statement .done .. => .debug
  | statement .slow .. => .warn
  | statement (.failed _) .. => .error
  | retriesExhausted .. => .warn
  | unknownParameter _ => .debug
  | alreadyFinished => .warn
  | rollbackFailed _ => .error
  | abandoned _ => .warn
  | abandonedRollbackFailed _ => .error
  | firstPingFailed _ => .warn
  | heldByThisThread => .warn
  | resetFailed _ => .warn
  | cleanupFailed _ => .error

/-- The wording of an event. -/
def message : LogEvent → String
  | classified .. => "Classified backend error"
  | hookPanicked .before .. => "Hook panicked in before_query; skipping"
  | hookPanicked .after .. => "Hook panicked in after_query; skipping"
  | statement .done .. => "Query executed"
  | statement .slow .. => "Slow query"
  | statement (.failed _) .. => "Query failed"
  | retriesExhausted .. => "Retries exhausted"
  | unknownParameter _ => "Ignoring unknown sqlite DSN parameter"
  | alreadyFinished => "Body already finished the transaction; skipping commit"
  | rollbackFailed _ => "Rollback failed"
  | abandoned false => "Transaction dropped without commit or rollback; rolling back"
  | abandoned true => "Transaction dropped while unwinding; rolling back"
  | abandonedRollbackFailed _ => "Rollback on drop failed"
  | firstPingFailed _ => "Initial ping failed; closing driver"
  | heldByThisThread => "Connection requested while this thread's transaction holds it"
  | resetFailed _ => "Failed to reset query_only"
  | cleanupFailed _ => "SQLite rollback after failed finish"

/-- The fields that say how a statement ended. -/
def outcomeFields : StatementOutcome → List (String × LogField)
  | .failed e => [("kind", .text e.kind.text), ("error", .text e.message)]
  | _ => []

/-- The fields of an event. -/
def fields : LogEvent → List (String × LogField)
  | classified classifier kind => [("classifier", .text classifier), ("kind", .text kind.text)]
  | hookPanicked _ index panic => [("hook", .count index), ("panic", .text panic)]
  | statement outcome sql elapsedMs args =>
    [("sql", .text sql), ("elapsed_ms", .double elapsedMs)] ++
      (args.map fun a => ("args", LogField.text a)).toList ++ outcomeFields outcome
  | retriesExhausted attempts last => [("attempts", .count attempts), ("error", .text last.message)]
  | unknownParameter key => [("param", .text key)]
  | rollbackFailed e => [("error", .text e.message)]
  | abandonedRollbackFailed e => [("error", .text e.message)]
  | firstPingFailed e => [("error", .text e.message)]
  | alreadyFinished => []
  | abandoned _ => []
  | heldByThisThread => []
  | resetFailed text => [("error", .text text)]
  | cleanupFailed text => [("error", .text text)]

end LogEvent

end DbAccess
