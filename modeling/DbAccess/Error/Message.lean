import DbAccess.Error.Source
import DbAccess.Text.Diagnostic
/-!
# The text of errors

`message` words an error; `sources` lists the texts of the errors behind it, from the nearest to the
first cause. `diagnostic` shows an error with its parts.
-/

namespace DbAccess

/-- The wording of an ended context. -/
def ContextError.message : ContextError → String
  | cancelled => "context cancelled"
  | deadlineExceeded => "context deadline exceeded"

/-- The message with the SQLSTATE behind it, or else with the vendor's number. -/
def BackendError.text (e : BackendError) : String :=
  match e.sqlState, e.vendorCode with
  | some state, _ => e.message ++ " (SQLSTATE " ++ state ++ ")"
  | none, some code => e.message ++ " (code " ++ toString code ++ ")"
  | none, none => e.message

namespace RawError

/-- The wording of a raw error. -/
def message : RawError → String
  | noRows => "no rows in result set"
  | context e => e.message
  | backend e => e.text

end RawError

/-- The kind, the message if there is one, and the cause. -/
def ClassifiedError.text (e : ClassifiedError) : String :=
  match e.message with
  | some msg => e.kind.text ++ ": " ++ msg ++ " (cause: " ++ e.cause.message ++ ")"
  | none => e.kind.text ++ ": " ++ e.cause.message

namespace Error

/-- The wording of an error. -/
def message : Error → String
  | classified e => e.text
  | raw e => e.message
  | rollback failure undo => failure.message ++ " (rollback also failed: " ++ undo.message ++ ")"
  | retry attempts last => "all " ++ toString attempts ++ " attempts failed: " ++ last.message
  | transactionClosed => "transaction already committed or rolled back"
  | config fault => "configuration error: " ++ fault.message
  | invalidInput fault => "invalid input: " ++ fault.message
  | decode fault => "decode error: " ++ fault.message
  | custom text => text

end Error

/-- The wording of whatever is behind an error. -/
def Cause.message : Cause → String
  | error e => e.message
  | raw e => e.message
  | context e => e.message
  | foreign e _ => e.message

/-- The texts of the errors behind a raw error. -/
def RawError.sources (e : RawError) : List String := (Cause.raw e).behind.map (·.message)

/-- The texts of the errors behind an error. -/
def Error.sources (e : Error) : List String := (Cause.error e).behind.map (·.message)

open Text

/-- An ended context in diagnostic text. -/
def ContextError.diagnostic : ContextError → String
  | cancelled => "Cancelled"
  | deadlineExceeded => "DeadlineExceeded"

/-- A backend error with its fields. -/
def BackendError.diagnostic (e : BackendError) : String :=
  recordText "BackendError"
    [("message", quote e.message), ("dialect", optionText (e.dialect.map (·.diagnostic))),
      ("sqlstate", optionText (e.sqlState.map quote)),
      ("vendor_code", optionText (e.vendorCode.map toString)),
      ("source", optionText (e.sources.head?.map (·.shown)))]

/-- A raw error with its parts. -/
def RawError.diagnostic : RawError → String
  | noRows => "NoRows"
  | context e => callText "Context" [e.diagnostic]
  | backend e => callText "Backend" [e.diagnostic]

/-- A classified error with its fields. -/
def ClassifiedError.diagnostic (e : ClassifiedError) : String :=
  recordText "DbError"
    [("kind", e.kind.diagnostic), ("cause", e.cause.diagnostic),
      ("message", optionText (e.message.map quote))]

/-- An error with its parts. -/
def Error.diagnostic : Error → String
  | classified e => callText "Classified" [e.diagnostic]
  | raw e => callText "Raw" [e.diagnostic]
  | rollback failure undo =>
    callText "Rollback"
      [recordText "RollbackError" [("original", failure.diagnostic), ("rollback", undo.diagnostic)]]
  | retry attempts last =>
    callText "Retry"
      [recordText "RetryError" [("attempts", toString attempts), ("last", last.diagnostic)]]
  | transactionClosed => "TransactionClosed"
  | config fault => callText "Config" [quote fault.message]
  | invalidInput fault => callText "InvalidInput" [quote fault.message]
  | decode fault => callText "Decode" [quote fault.message]
  | custom text => callText "Custom" [quote text]

end DbAccess
