/-!
# Kinds of errors

What an error means, whichever backend reported it.
-/

namespace DbAccess

/-- The meaning of an error. -/
inductive ErrorKind where
  /-- No row matched. -/
  | notFound
  /-- A unique or primary key was violated. -/
  | duplicateKey
  | foreignKeyViolation
  | checkViolation
  /-- A deadlock, or a lock that others hold. -/
  | deadlock
  /-- A deadline passed, the call was cancelled, or the server gave up on the statement. -/
  | timeout
  /-- The connection was not established or was lost. -/
  | connectionFailed
  /-- Nobody recognised the error. -/
  | unclassified
deriving DecidableEq, Repr

namespace ErrorKind

/-- All kinds. -/
def all : List ErrorKind :=
  [notFound, duplicateKey, foreignKeyViolation, checkViolation, deadlock, timeout, connectionFailed,
    unclassified]

/-- The kind in words. -/
def text : ErrorKind → String
  | notFound => "not found"
  | duplicateKey => "duplicate key"
  | foreignKeyViolation => "foreign key violation"
  | checkViolation => "check violation"
  | deadlock => "deadlock"
  | timeout => "timeout"
  | connectionFailed => "connection failed"
  | unclassified => "unclassified"

/-- The name of a kind: its words joined by underscores. -/
def name (k : ErrorKind) : String :=
  String.ofList (k.text.toList.map fun c => if c = ' ' then '_' else c)

/-- The kind of a name. -/
def ofName? (s : String) : Option ErrorKind := all.find? fun k => k.name = s

/-- The kind in diagnostic text. -/
def diagnostic : ErrorKind → String
  | notFound => "NotFound"
  | duplicateKey => "DuplicateKey"
  | foreignKeyViolation => "ForeignKeyViolation"
  | checkViolation => "CheckViolation"
  | deadlock => "Deadlock"
  | timeout => "Timeout"
  | connectionFailed => "ConnectionFailed"
  | unclassified => "Unclassified"

end ErrorKind

end DbAccess
