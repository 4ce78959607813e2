import DbAccess.Classify.ErrorNumber
import DbAccess.Classify.ResultCode
import DbAccess.Classify.SqlState
import DbAccess.Config
import DbAccess.Context.Basic
import DbAccess.Context.Scope
import DbAccess.Context.Sleep
import DbAccess.Decimal.Binary
import DbAccess.Decimal.Extended
import DbAccess.Decimal.Notation
import DbAccess.Decimal.Reader
import DbAccess.Decimal.Shortest
import DbAccess.Dialect
import DbAccess.Driver.Basic
import DbAccess.Driver.Call
import DbAccess.Dsn
import DbAccess.Error.Basic
import DbAccess.Error.Fault
import DbAccess.Error.Kind
import DbAccess.Error.Message
import DbAccess.Error.Source
import DbAccess.Hook.Basic
import DbAccess.Hook.Builtin
import DbAccess.Json.Number
import DbAccess.Json.Printer
import DbAccess.Json.Reader
import DbAccess.Json.Syntax
import DbAccess.Json.Value
import DbAccess.Log
import DbAccess.Mapper
import DbAccess.Place
import DbAccess.Proofs.Classify.Mention
import DbAccess.Proofs.Context.Cancellation
import DbAccess.Proofs.Context.Effect
import DbAccess.Proofs.Context.Signals
import DbAccess.Proofs.Context.Sleep
import DbAccess.Proofs.Hook.View
import DbAccess.Proofs.Mapper.Chain
import DbAccess.Proofs.Mapper.Evidence
import DbAccess.Proofs.Retry.Commit
import DbAccess.Proofs.Retry.Outcome
import DbAccess.Proofs.Retry.Retrial
import DbAccess.Proofs.Session.Batch
import DbAccess.Proofs.Session.Body
import DbAccess.Proofs.Session.Bracket
import DbAccess.Proofs.Session.Coupling
import DbAccess.Proofs.Session.Entries
import DbAccess.Proofs.Session.Finish
import DbAccess.Proofs.Session.Inert
import DbAccess.Proofs.Session.Ledger
import DbAccess.Proofs.Session.Pipeline
import DbAccess.Proofs.Session.Plain
import DbAccess.Proofs.Session.Program
import DbAccess.Proofs.Session.Standing
import DbAccess.Proofs.Session.Statement
import DbAccess.Proofs.Session.Trace
import DbAccess.Proofs.Session.View
import DbAccess.Proofs.Sqlite.Atomicity
import DbAccess.Proofs.Sqlite.Connection
import DbAccess.Proofs.Sqlite.Lawful
import DbAccess.Proofs.Sqlite.Memory
import DbAccess.Proofs.Sqlite.Request
import DbAccess.Proofs.Sqlite.Savepoint
import DbAccess.Proofs.Text.Digits
import DbAccess.Registry
import DbAccess.Retry.Policy
import DbAccess.Retry.Run
import DbAccess.Row
import DbAccess.Scenario.Backends
import DbAccess.Scenario.Catalogue
import DbAccess.Scenario.Observation
import DbAccess.Scenario.Opening
import DbAccess.Scenario.Play
import DbAccess.Scenario.Step
import DbAccess.Scenario.Trial
import DbAccess.Scripted
import DbAccess.Session.Database
import DbAccess.Session.Retry
import DbAccess.Session.Transaction
import DbAccess.Session.World
import DbAccess.SortedMap
import DbAccess.Span
import DbAccess.Sqlite.Affinity
import DbAccess.Sqlite.Connection
import DbAccess.Sqlite.Engine
import DbAccess.Sqlite.Factory
import DbAccess.Sqlite.Location
import DbAccess.Sqlite.Memory
import DbAccess.Sqlite.Numeral
import DbAccess.Sqlite.Options
import DbAccess.Sqlite.Sql.Reader
import DbAccess.Sqlite.Sql.Syntax
import DbAccess.Sqlite.Sql.Token
import DbAccess.Sqlite.Statement
import DbAccess.Sqlite.Stored
import DbAccess.Sqlite.Table
import DbAccess.Text.Blank
import DbAccess.Text.CharRange
import DbAccess.Text.Diagnostic
import DbAccess.Text.Digits
import DbAccess.Text.Printable
import DbAccess.Text.Quoted
import DbAccess.Text.Search
import DbAccess.Text.Utf8
import DbAccess.Text.Word
import DbAccess.Value.Basic
import DbAccess.Value.Decode
import DbAccess.Value.Document
import DbAccess.Value.Show
import DbAccess.Value.Typed
import DbAccess.Width
import DbAccess.Proofs.Json.Literal
import DbAccess.Proofs.Json.Record
import DbAccess.Proofs.Config.RoundTrip
import DbAccess.Proofs.SortedMap
import DbAccess.Proofs.Sqlite.ConnectionString
import DbAccess.Proofs.Session.Likeness
import DbAccess.Proofs.Session.Routine
import DbAccess.Proofs.Session.Errand
import DbAccess.Proofs.Session.Precedence
import DbAccess.Proofs.Registry
import DbAccess.Proofs.Mapper.Settled
import DbAccess.Proofs.Session.Settled
import DbAccess.Proofs.Sqlite.Threads
import DbAccess.Proofs.Sqlite.Holder
import DbAccess.Proofs.Sqlite.Exclusion
import DbAccess.Proofs.Sqlite.Alone
import DbAccess.Proofs.Sqlite.Erratic
import DbAccess.Proofs.Sqlite.Clean
import DbAccess.Proofs.Decimal.Rounding
import DbAccess.Proofs.Sqlite.Stored
import DbAccess.Proofs.Session.Opening
import DbAccess.Proofs.Session.OpeningFailure
import DbAccess.Proofs.Hook.Interleaving
import DbAccess.Proofs.Hook.Spans
import DbAccess.Proofs.Sqlite.Steady
import DbAccess.Proofs.Sqlite.Tally
import DbAccess.Proofs.Sqlite.Interrupt
import DbAccess.Proofs.Sqlite.Attention
import DbAccess.Proofs.Classify.LastState
import DbAccess.Proofs.Text.CharRange
import DbAccess.Proofs.Classify.FirstNumber
import DbAccess.Proofs.Sqlite.Segment
import DbAccess.Proofs.Session.SavepointName
import DbAccess.Proofs.Hook.Delivery
import DbAccess.Proofs.Context.Deadline
import DbAccess.Proofs.Context.Lineage
import DbAccess.Proofs.Error.Wrapping
import DbAccess.Proofs.Context.Night
import DbAccess.Proofs.Dsn
