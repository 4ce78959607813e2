import DbAccess.Hook.Basic
import DbAccess.Place
/-!
# The hooks that come with the library

`Hook.logging` logs every statement, `Hook.metrics` hands over a measurement of every statement, and
`Hook.tracing` opens a span before a statement and closes it afterwards. Open spans are kept per thread,
the last one opened on top.
-/

namespace DbAccess

open Decimal

/-- How many characters of a statement are logged. -/
def maxLoggedSql : Nat := 500

/-- The beginning of a statement. -/
def trimSql (sql : String) : String := String.ofList (sql.toList.take maxLoggedSql)

/-- A span in milliseconds: whole seconds and nanoseconds are converted on their own, added, and scaled. -/
def elapsedMs (d : Span) : Binary64 :=
  let seconds := (Binary64.ofInt d.seconds).add
    ((Binary64.ofInt (d.ns % nanosPerSecond)).div (.ofInt nanosPerSecond))
  seconds.mul (.ofInt 1000)

/-- What the log of statements is to show. -/
structure LogSettings where
  /-- Statements that took longer are slow. -/
  slowThreshold : Option Span
  logArgs : Bool
deriving DecidableEq, Repr

/-- How a statement ended for the log. -/
def LogSettings.outcome (l : LogSettings) (elapsed : Span) : Option Error → StatementOutcome
  | some e => .failed e
  | none => if l.slowThreshold.any fun t => t.ns < elapsed.ns then .slow else .done

namespace Hook

variable {σ ν ς : Type}

/-- Logs every statement that was answered. -/
def logging (l : LogSettings) : Hook σ ν :=
  leaf fun site n s =>
    match n with
    | .before .. => ⟨site.env, s, [], none⟩
    | .after _ sql args elapsed err =>
      let shown := if l.logArgs then some (Value.listDiagnostic args) else none
      ⟨site.env, s, [.log (.statement (l.outcome elapsed err) (trimSql sql) (elapsedMs elapsed) shown)],
        none⟩

/-- Measures every statement: its text, how long it took, and whether it succeeded. -/
def metrics (record : String → Span → Bool → List ν) : Hook σ ν :=
  observer fun _ n =>
    match n with
    | .before .. => []
    | .after _ sql _ elapsed err => record sql elapsed err.isNone

end Hook

/-- The open spans of a tracing hook: the threads that have any, with their stacks. -/
abbrev OpenSpans (ς : Type) := List (Nat × List ς)

namespace OpenSpans

variable {ς : Type}

/-- The open spans of a thread, the last one opened first. -/
def stack (t : OpenSpans ς) (thread : Nat) : List ς := (t.lookup thread).getD []

/-- Sets the open spans of a thread; a thread without any is left out. -/
def setStack (t : OpenSpans ς) (thread : Nat) (spans : List ς) : OpenSpans ς :=
  let others := t.filter fun e => e.1 != thread
  if spans.isEmpty then others else (thread, spans) :: others

end OpenSpans

/-- What came of opening a span: the span itself, or a panic. -/
structure SpanStart (σ ς ν : Type) where
  env : Env
  state : σ
  events : List (HookEvent ν)
  span : Except PanicPayload ς

/-- Opens and closes spans. -/
structure Tracer (σ ς ν : Type) where
  start : HookSite → Context → String → σ → SpanStart σ ς ν
  finish : HookSite → ς → Option Error → σ → HookRun σ ν

/-- Opens a span before each statement. Afterwards the span that the thread opened last is closed, if it has
one open. -/
def Hook.tracing {σ ν ς : Type} (tracer : Tracer σ ς ν) (place : Place σ (OpenSpans ς)) : Hook σ ν :=
  .leaf fun site n s =>
    match n with
    | .before ctx sql _ =>
      let opened := tracer.start site ctx sql s
      match opened.span with
      | .error p => ⟨opened.env, opened.state, opened.events, some p⟩
      | .ok span =>
        let table := place.get opened.state
        ⟨opened.env,
          place.set (table.setStack site.thread (span :: table.stack site.thread)) opened.state,
          opened.events, none⟩
    | .after _ _ _ _ err =>
      let table := place.get s
      match table.stack site.thread with
      | [] => ⟨site.env, s, [], none⟩
      | span :: rest => tracer.finish site span err (place.set (table.setStack site.thread rest) s)

end DbAccess
