import DbAccess.Error.Basic
import DbAccess.Json.Printer
import DbAccess.Json.Reader
import DbAccess.Span
import DbAccess.Text.Blank
import DbAccess.Width
/-!
# Configuration

The settings of a database handle. As JSON, spans of time are whole milliseconds, missing fields take
their defaults, and `Config.parse` also validates what it has read.
-/

namespace DbAccess

/-- The settings of a database handle. The limits on connections are for the driver. -/
structure Config where
  /-- The name under which the driver is registered. -/
  driver : String
  dsn : String
  /-- Holds for statements whose context has no deadline. -/
  defaultTimeout : Option Span
  /-- Zero stands for no limit. -/
  maxOpenConnections : Nat
  maxIdleConnections : Nat
  connectionLifetime : Option Span
  connectionIdleTimeout : Option Span
deriving DecidableEq, Repr

namespace Config

/-- The settings that name a driver and a connection string, and nothing else. -/
def new (driver dsn : String) : Config := ⟨driver, dsn, none, 0, 0, none, none⟩

/-- The settings where nothing is set. -/
def default : Config := new "" ""

/-- What is wrong with the settings: no driver is named, more idle connections are wanted than may be
open, or the default timeout is no time at all. -/
def fault? (c : Config) : Option ConfigFault :=
  if Text.allBlank c.driver then some .missingDriver
  else if 0 < c.maxOpenConnections ∧ c.maxOpenConnections < c.maxIdleConnections then
    some (.tooManyIdle c.maxIdleConnections c.maxOpenConnections)
  else if c.defaultTimeout.any (·.isZero) then some .zeroTimeout
  else none

/-- Refuses settings with a fault. -/
def validate (c : Config) : Except Error Unit :=
  match c.fault? with
  | some fault => .error (.config fault)
  | none => .ok ()

open Json

/-- Reads an optional span in milliseconds. -/
def readSpan : Reader (Option Span) := readOption fun t => (readNat limit64 t).map Span.ofMillis

/-- The fields in the order of a configuration written as an array. -/
def fieldNames : List String :=
  ["driver", "dsn", "default_timeout", "max_open_connections", "max_idle_connections",
    "connection_lifetime", "connection_idle_timeout"]

/-- Reads settings. -/
def read : Reader Config := fun t => do
  let f ← readFields fieldNames t
  let driver ← f.getD 0 readText ""
  let dsn ← f.getD 1 readText ""
  let defaultTimeout ← f.getD 2 readSpan none
  let maxOpen ← f.getD 3 (readNat limit64) 0
  let maxIdle ← f.getD 4 (readNat limit64) 0
  let lifetime ← f.getD 5 readSpan none
  let idleTimeout ← f.getD 6 readSpan none
  some ⟨driver, dsn, defaultTimeout, maxOpen, maxIdle, lifetime, idleTimeout⟩

/-- Reads settings from JSON and validates them. -/
def parse (text : String) : Except Error Config :=
  match readAll read text with
  | none => .error (.config .malformed)
  | some c => do
    c.validate
    return c

/-- A span as whole milliseconds, as many as 64 bits hold. -/
def spanText : Option Span → String
  | none => "null"
  | some d => toString (Min.min d.millis (limit64 - 1))

/-- The settings as JSON. -/
def json (c : Config) : String :=
  objectText
    [("driver", Json.quote c.driver), ("dsn", Json.quote c.dsn),
      ("default_timeout", spanText c.defaultTimeout),
      ("max_open_connections", toString c.maxOpenConnections),
      ("max_idle_connections", toString c.maxIdleConnections),
      ("connection_lifetime", spanText c.connectionLifetime),
      ("connection_idle_timeout", spanText c.connectionIdleTimeout)]

/-- The settings in diagnostic text, with the number of hooks beside them. The connection string may
hold a password and is not shown. -/
def diagnostic (c : Config) (hooks : Nat) : String :=
  let span (d : Option Span) := Text.optionText (d.map Span.diagnostic)
  Text.recordText "DatabaseConfig"
    [("driver", Text.quote c.driver), ("dsn", Text.quote "<redacted>"),
      ("default_timeout", span c.defaultTimeout),
      ("max_open_connections", toString c.maxOpenConnections),
      ("max_idle_connections", toString c.maxIdleConnections),
      ("connection_lifetime", span c.connectionLifetime),
      ("connection_idle_timeout", span c.connectionIdleTimeout), ("hooks", toString hooks)]

end Config

end DbAccess
