import DbAccess.Dialect
import DbAccess.Error.Fault
import DbAccess.Error.Kind
/-!
# Errors

A driver fails with a `RawError`. Classification gives it an `ErrorKind` and makes a `ClassifiedError`
of it; the two are different constructors of `Error`, so what is classified is not classified again.
Composite errors keep the errors they are made of and report the kind of the one that came first.
-/

namespace DbAccess

/-- Why a context ended. -/
inductive ContextError where
  | cancelled
  | deadlineExceeded
deriving DecidableEq, Repr

/-- An error behind a backend's error: its text, and its diagnostic text. -/
structure SourceError where
  message : String
  shown : String
deriving DecidableEq, Repr

/-- An error of which only the text is known. -/
def SourceError.ofText (message : String) : SourceError := ⟨message, Text.quote message⟩

/-- What a backend said. -/
structure BackendError where
  message : String
  /-- The backend that said it, when known. -/
  dialect : Option Dialect
  /-- The five characters of a SQLSTATE. -/
  sqlState : Option String
  /-- The number that the backend gives this error. -/
  vendorCode : Option Int
  /-- The errors behind this one, outermost first. -/
  sources : List SourceError
deriving DecidableEq, Repr

/-- A backend error with only a message. -/
def BackendError.ofText (message : String) : BackendError := ⟨message, none, none, none, []⟩

/-- What a driver fails with. -/
inductive RawError where
  /-- There was no row where one was required. -/
  | noRows
  | context (e : ContextError)
  | backend (e : BackendError)
deriving DecidableEq, Repr

/-- A raw error that was recognised. -/
structure ClassifiedError where
  kind : ErrorKind
  cause : RawError
  message : Option String
deriving DecidableEq, Repr

/-- Any error of the library. -/
inductive Error where
  | classified (e : ClassifiedError)
  | raw (e : RawError)
  /-- The body of a transaction failed, and so did the rollback after it. -/
  | rollback (failure undo : Error)
  /-- Every attempt failed. -/
  | retry (attempts : Nat) (last : Error)
  /-- The transaction was committed or rolled back before. -/
  | transactionClosed
  | config (fault : ConfigFault)
  | invalidInput (fault : InputFault)
  | decode (fault : DecodeFault)
  /-- An error of the application. -/
  | custom (text : String)
deriving DecidableEq, Repr

namespace Error

/-- A recognised error without a message of its own. -/
def ofKind (kind : ErrorKind) (cause : RawError) : Error := .classified ⟨kind, cause, none⟩

/-- The kind of an error; composite errors have that of the error that triggered them. -/
def kind : Error → ErrorKind
  | classified e => e.kind
  | rollback failure _ => failure.kind
  | retry _ last => last.kind
  | _ => .unclassified

/-- The error is of a kind. -/
def hasKind (e : Error) (k : ErrorKind) : Bool := e.kind = k

/-- The error is classified itself. -/
def isClassified : Error → Bool
  | classified _ => true
  | _ => false

/-- The error is a raw one. -/
def isRaw : Error → Bool
  | raw _ => true
  | _ => false

/-- The classified error, when it is one. -/
def classified? : Error → Option ClassifiedError
  | classified e => some e
  | _ => none

/-- The raw error inside, classified or not. -/
def raw? : Error → Option RawError
  | classified e => some e.cause
  | raw e => some e
  | _ => none

/-- Trying again may help. -/
def isTransient (e : Error) : Bool := e.kind = .deadlock || e.kind = .timeout

end Error

end DbAccess
