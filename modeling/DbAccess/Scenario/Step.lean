import DbAccess.Context.Scope
import DbAccess.Scenario.Observation
import DbAccess.Session.Transaction
import DbAccess.Session.Retry
import DbAccess.Value.Typed
/-!
# The steps of a scenario

A scenario uses a database step by step. Transactions, prepared statements and contexts go by names. Every
step is answered with a `Report`: how it ended, and what occurred meanwhile. Reports of steps inside a
transaction or inside a retried step are part of the report of the outer step.
-/

namespace DbAccess.Scenario

/-- How the answer to a query for one row is looked at. -/
inductive Reading where
  | row
  | optional
  | isErr
  | isNotFound
  | get (index : Nat) (t : ValueType)
  | shown
deriving DecidableEq, Repr

/-- What is done with a statement. -/
inductive Use where
  | execute
  | query
  | queryOne (reading : Reading)
deriving DecidableEq, Repr

/-- How the body of a transaction ends after its last step; values are of the scenario's own type. -/
inductive Ending (ρ : Type) where
  | value (r : ρ)
  | failure (e : Error)
  | panic (text : String)

/-- Where a statement of a scenario goes: to the handle, or to the transaction of a name. -/
inductive Place where
  | handle
  | transaction (name : String)
deriving DecidableEq, Repr

/-- A step. Contexts are given by their names. -/
inductive Step (ρ : Type) where
  | context (op : ContextOp)
  | statement (on : Place) (ctx sql : String) (args : List Value) (use : Use)
  | prepare (name : String) (on : Place) (ctx sql : String)
  | prepared (stmt ctx : String) (args : List Value) (use : Use)
  | describe (stmt : String)
  | begin (name ctx : String) (opts : TxOptions)
  | commit (tx ctx : String)
  | rollback (tx ctx : String)
  | savepoint (tx ctx : String) (op : Database.SavepointOp) (point : String)
  | transactionInfo (tx : String)
  | drop (tx : String)
  /-- Runs steps in a transaction of that name, up to the first that fails if it is to stop there. -/
  | run (name ctx : String) (opts : TxOptions) (body : List (Step ρ)) (stop : Bool) (ending : Ending ρ)
  | batch (ctx sql : String) (items : List (List Value))
  | retry (policy : RetryPolicy) (ctx : String) (step : Step ρ)
  | ping (ctx : String)
  | stats
  | close
  | databaseInfo
  | map (e : Error)
  /-- Executes a statement on the handle from another thread. -/
  | elsewhere (ctx sql : String) (args : List Value)
  /-- Runs a script on the connection of a database in memory. -/
  | script (ctx sql : String)
  | connectionInfo

/-- What a step that succeeds is answered with. -/
inductive Answer (ρ : Type) where
  | unit
  | context (a : ContextAnswer)
  | flag (b : Bool)
  | count (n : UInt64)
  | row (r : Row)
  | optionalRow (r : Option Row)
  | rows (rs : List Row)
  | typed (t : Typed)
  | text (s : String)
  | statement (s : Statement)
  | transaction (active : Bool)
  | stats (s : PoolStats)
  | database (shown dsn : String) (dialect : Dialect)
  | error (e : Error)
  | given (r : ρ)

/-- How a step ends. -/
inductive Result (ρ : Type) where
  | ok (a : Answer ρ)
  | failed (e : Error)
  /-- There is no transaction or statement of that name. -/
  | missing (name : String)
  | panicked (text : String)
  | stuck

/-- How a step ended, and what occurred. -/
inductive Report (ρ : Type) where
  | plain (result : Result ρ) (trace : List (Event Observation))
  /-- With what occurred before the body of the transaction and with its reports, if the body was run. -/
  | run (result : Result ρ) (trace : List (Event Observation))
      (body : Option (List (Event Observation) × List (Report ρ)))
  /-- With the reports of all attempts. -/
  | retry (result : Result ρ) (trace : List (Event Observation)) (attempts : List (Report ρ))

/-- How the step of a report ended. -/
def Report.result {ρ : Type} : Report ρ → Result ρ
  | plain r _ | run r _ _ | retry r _ _ => r

/-- What is left in a trace: an observation, the beginning of a body, or the report of an inner step. -/
inductive Mark (ρ : Type) where
  | observed (o : Observation)
  | bodyBegan
  | reported (r : Report ρ)

end DbAccess.Scenario
