import DbAccess.Text.Quoted
/-!
# Faults found before a backend is reached

A configuration, an argument or a conversion can be wrong in the ways listed here. Each list ends with
`other`, for texts that a caller supplies.
-/

namespace DbAccess

/-- What can be wrong with a configuration, a registry or the options that make a connection. -/
inductive ConfigFault where
  | missingDriver
  | tooManyIdle (idle limit : Nat)
  | zeroTimeout
  /-- The text is no configuration. -/
  | malformed
  | emptyDsn
  /-- The driver could not build a connection string; the reason is the text of its error. -/
  | unbuildableDsn (reason : String)
  | alreadyRegistered (driver : String)
  | unknownDriver (driver : String) (registered : List String)
  | missingHostOrDatabase (driver : String)
  | missingPath
  | unsetVariable (key : String)
  | noAttempts
  | emptyPath
  | badBusyTimeout (value : String)
  | other (text : String)
deriving DecidableEq, Repr

/-- What can be wrong with the name of a savepoint, and arguments that callers refuse. -/
inductive InputFault where
  | emptySavepoint
  | longSavepoint (bytes : Nat)
  | badSavepointStart (savepoint : String)
  | badSavepointChar (c : Char)
  | other (text : String)
deriving DecidableEq, Repr

/-- Why a value could not be converted. -/
inductive DecodeFault where
  | mismatch (expected found : String)
  | outOfRange (n : Int)
  | badJson
  | noColumn (index count : Nat)
  | noColumnNamed (column : String)
  | other (text : String)
deriving DecidableEq, Repr

/-- The wording of a fault in a configuration. -/
def ConfigFault.message : ConfigFault → String
  | missingDriver => "driver name is required"
  | tooManyIdle idle limit =>
    "max_idle_connections (" ++ toString idle ++ ") exceeds max_open_connections (" ++
      toString limit ++ ")"
  | zeroTimeout => "default_timeout must be positive when set"
  | malformed => "invalid database config: not a configuration"
  | emptyDsn => "dsn must not be empty"
  | unbuildableDsn reason => "DSN construction failed: " ++ reason
  | alreadyRegistered driver => "driver " ++ Text.quote driver ++ " already registered"
  | unknownDriver driver registered =>
    "unknown driver " ++ Text.quote driver ++ " (registered: " ++
      String.intercalate ", " registered ++ ")"
  | missingHostOrDatabase driver => driver ++ " driver: host and database are required"
  | missingPath => "sqlite driver: database (file path) is required"
  | unsetVariable key => key ++ " environment variable not set"
  | noAttempts => "retry policy needs at least one attempt"
  | emptyPath => "sqlite DSN has an empty path"
  | badBusyTimeout value => "invalid busy_timeout " ++ Text.quote value
  | other text => text

/-- The wording of a refused argument. -/
def InputFault.message : InputFault → String
  | emptySavepoint => "savepoint name cannot be empty"
  | longSavepoint bytes => "savepoint name exceeds 63 characters: " ++ toString bytes
  | badSavepointStart name =>
    "savepoint name must start with a letter or underscore: " ++ Text.quote name
  | badSavepointChar c => "savepoint name contains invalid character " ++ Text.quoteChar c
  | other text => text

/-- The wording of a failed conversion. -/
def DecodeFault.message : DecodeFault → String
  | mismatch expected found => "expected " ++ expected ++ ", found " ++ found
  | outOfRange n => toString n ++ " does not fit in i32"
  | badJson => "invalid JSON: not a JSON text"
  | noColumn index count =>
    "column index " ++ toString index ++ " out of range (" ++ toString count ++ " columns)"
  | noColumnNamed column => "no column named " ++ Text.quote column
  | other text => text

end DbAccess
