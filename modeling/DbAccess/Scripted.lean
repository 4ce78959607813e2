import DbAccess.Driver.Call
/-!
# Scripted drivers

A driver that answers from a script, for trying out what is built on drivers. A call under an ended context
fails with the context's reason; otherwise the script may let it fail, always or the first few times.
-/

namespace DbAccess.Scripted

/-- A failure of a call: always, or the first so many times. -/
structure Failure where
  error : RawError
  times : Option Nat
deriving DecidableEq, Repr

/-- The calls that can be made to fail. -/
inductive Site where
  | statement (sql : String)
  | preparation (sql : String)
  | begin
  | commit
  | rollback
  | ping
  | close
deriving DecidableEq, Repr

/-- A script. Statements without rows or counts of their own have no rows and change one. -/
structure Script where
  dialect : Dialect
  failures : List (Site × Failure)
  rows : List (String × List Row)
  counts : List (String × UInt64)
  /-- Reports no numbers about connections, and has nothing to close. -/
  bare : Bool

/-- How often each site with a failure has been called. -/
abbrev State := List (Site × Nat)

/-- The failure of a call at a site, and the state after it. -/
def Script.failure? (s : Script) (state : State) (site : Site) : Option RawError × State :=
  match s.failures.lookup site with
  | none => (none, state)
  | some f =>
    let calls := (state.lookup site).getD 0
    let state := (site, calls + 1) :: state.filter fun e => e.1 != site
    match f.times with
    | none => (some f.error, state)
    | some n => (if calls < n then some f.error else none, state)

/-- The rows of a statement. -/
def Script.rowsOf (s : Script) (sql : String) : List Row := (s.rows.lookup sql).getD []

/-- A prepared statement: its number is the length of its text, and it has as many parameters as question
marks. -/
def prepared (sql : String) : PreparedStatement :=
  ⟨sql.utf8ByteSize, sql, sql.toList.count '?'⟩

/-- The site of a call. -/
def siteOf : DriverCall → Site
  | .execute _ sql _ | .query _ sql _ | .queryOne _ sql _ => .statement sql
  | .executePrepared _ p _ | .queryPrepared _ p _ | .queryOnePrepared _ p _ => .statement p.sql
  | .prepare _ sql => .preparation sql
  | .begin .. => .begin
  | .commit _ => .commit
  | .rollback _ => .rollback
  | .ping => .ping
  | .close => .close

/-- The answer of a call that does not fail. -/
def Script.answer (s : Script) : (c : DriverCall) → c.Answer
  | .execute _ sql _ => (s.counts.lookup sql).getD 1
  | .query _ sql _ => s.rowsOf sql
  | .queryOne _ sql _ => (s.rowsOf sql).head?
  | .prepare _ sql => prepared sql
  | .executePrepared _ p _ => (s.counts.lookup p.sql).getD 1
  | .queryPrepared _ p _ => s.rowsOf p.sql
  | .queryOnePrepared _ p _ => (s.rowsOf p.sql).head?
  | .begin .. => ()
  | .commit _ => ()
  | .rollback _ => ()
  | .ping => ()
  | .close => ()

/-- One connection, idle. -/
def Script.stats (s : Script) : PoolStats := if s.bare then .none else ⟨1, 0, 1, 4⟩

/-- The driver of a script. -/
def driver (s : Script) : Driver State where
  dialect := s.dialect
  run c caller env state :=
    if s.bare && siteOf c = .close then ⟨.ok (s.answer c), env, state, []⟩
    else match caller.ctx.err env with
    | some e => ⟨.error (.context e), env, state, []⟩
    | none =>
      match s.failure? state (siteOf c) with
      | (some e, state) => ⟨.error e, env, state, []⟩
      | (none, state) => ⟨.ok (s.answer c), env, state, []⟩
  stats _ := s.stats

end DbAccess.Scripted
