import DbAccess.Error.Basic
import DbAccess.Text.Search
/-!
# SQLite result codes

SQLite names an error by a result code, and always words the same error by the same phrase.
-/

namespace DbAccess.ResultCode

/-- Extended and primary codes with a meaning of their own: violated unique and primary keys, foreign
keys and checks, and busy or locked databases. -/
def table : List (Int × ErrorKind) :=
  [(2067, .duplicateKey), (1555, .duplicateKey), (787, .foreignKeyViolation), (275, .checkViolation),
    (5, .deadlock), (6, .deadlock), (517, .deadlock), (262, .deadlock)]

/-- Phrases with a meaning of their own; the first one that a message contains counts. -/
def phrases : List (String × ErrorKind) :=
  [("UNIQUE constraint failed", .duplicateKey), ("PRIMARY KEY constraint failed", .duplicateKey),
    ("FOREIGN KEY constraint failed", .foreignKeyViolation),
    ("CHECK constraint failed", .checkViolation), ("database is locked", .deadlock),
    ("database table is locked", .deadlock), ("unable to open database file", .connectionFailed)]

/-- The meaning of a code. -/
def kind? (code : Int) : Option ErrorKind := table.lookup code

/-- The meaning of a message by the phrase it contains. -/
def ofMessage? (message : String) : Option ErrorKind :=
  (phrases.find? fun p => Text.contains message p.1).map (·.2)

/-- The meaning of a backend error by its code, or else by its message. -/
def classify (e : BackendError) : Option ErrorKind :=
  match e.vendorCode.bind kind? with
  | some k => some k
  | none => ofMessage? e.message

end DbAccess.ResultCode
