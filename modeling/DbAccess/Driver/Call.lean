import DbAccess.Context.Basic
import DbAccess.Driver.Basic
import DbAccess.Log
import DbAccess.Place
import DbAccess.Row
/-!
# Drivers

A driver answers calls. Statements are addressed to the shared handle or to a session, which exists from
the call that begins a transaction to the call that finishes it. A call is data, and the type of its answer
depends on it, so a driver is one function.
-/

namespace DbAccess

/-- The number of a transaction. -/
abbrev TxId := Nat

/-- Where a statement goes. -/
inductive Target where
  | handle
  | session (tx : TxId)
deriving DecidableEq, Repr

/-- A call on a driver. -/
inductive DriverCall where
  | execute (target : Target) (sql : String) (args : List Value)
  | query (target : Target) (sql : String) (args : List Value)
  | queryOne (target : Target) (sql : String) (args : List Value)
  | prepare (target : Target) (sql : String)
  | executePrepared (target : Target) (stmt : PreparedStatement) (args : List Value)
  | queryPrepared (target : Target) (stmt : PreparedStatement) (args : List Value)
  | queryOnePrepared (target : Target) (stmt : PreparedStatement) (args : List Value)
  | begin (tx : TxId) (opts : TxOptions)
  | commit (tx : TxId)
  | rollback (tx : TxId)
  | ping
  | close
deriving Repr

namespace DriverCall

/-- What a call is answered with when it succeeds. Rows of a query for one are none or the first. -/
abbrev Answer : DriverCall → Type
  | execute .. | executePrepared .. => UInt64
  | query .. | queryPrepared .. => List Row
  | queryOne .. | queryOnePrepared .. => Option Row
  | prepare .. => PreparedStatement
  | begin .. | commit _ | rollback _ | ping | close => Unit

/-- The call that does the same as a prepared one without the prepared statement. -/
def unprepared : DriverCall → DriverCall
  | executePrepared t stmt args => execute t stmt.sql args
  | queryPrepared t stmt args => query t stmt.sql args
  | queryOnePrepared t stmt args => queryOne t stmt.sql args
  | c => c

/-- Doing without the prepared statement does not change the type of the answer. -/
theorem answer_unprepared (c : DriverCall) : c.unprepared.Answer = c.Answer := by
  cases c <;> rfl

end DriverCall

/-- How a call ends. -/
inductive Reply (α : Type) where
  | ok (a : α)
  | error (e : RawError)
  /-- The call never returns. -/
  | never
deriving Repr

/-- What came of a call: the reply, the world when it returned, and what was logged. -/
structure DriverRun (δ α : Type) where
  reply : Reply α
  env : Env
  state : δ
  log : List LogEvent

/-- Who calls, and under which context. -/
structure Caller where
  ctx : Context
  thread : Nat

/-- A driver whose state is a `δ`. -/
structure Driver (δ : Type) where
  dialect : Dialect
  run : (c : DriverCall) → Caller → Env → δ → DriverRun δ c.Answer
  stats : δ → PoolStats

/-- The driver whose state is a part of another one. -/
def Driver.within {ε δ : Type} (d : Driver δ) (place : Place ε δ) : Driver ε where
  dialect := d.dialect
  run c caller env s :=
    let r := d.run c caller env (place.get s)
    ⟨r.reply, r.env, place.set r.state s, r.log⟩
  stats s := d.stats (place.get s)

end DbAccess
