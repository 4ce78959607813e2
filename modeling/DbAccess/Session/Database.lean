import DbAccess.Config
import DbAccess.Mapper
import DbAccess.Session.World
/-!
# Databases

A `Database` sends every statement the same way: the default timeout is applied, the hooks are told, the
call is dispatched unless the context has ended, an error is mapped once, and the hooks are told how the
statement ended. Statements go to the handle or to the session of a transaction; a session that is finished
takes no more of them.
-/

namespace DbAccess

/-- A database: its driver, who is told about statements, who maps errors, and its settings. -/
structure Database (δ σ ν : Type) where
  driver : Driver δ
  hooks : HookChain σ ν
  mapper : Mapper
  config : Config

namespace Database

variable {δ σ ν α : Type}

open SessionM

/-- A database over a driver that is connected already, with the default mapper. -/
def ofDriver (driver : Driver δ) (config : Config) (hooks : List (Hook σ ν)) : Database δ σ ν :=
  ⟨driver, ⟨hooks⟩, .default, config⟩

/-- The context of a call, with the default timeout when the caller gave no deadline. The call begins a moment
later. -/
def effective (db : Database δ σ ν) (ctx : Context) : SessionM δ σ ν Context := do
  let ctx := ctx.orTimeout (← env) db.config.defaultTimeout
  tick
  return ctx

/-- The mapped error of a raw one. -/
def classify (db : Database δ σ ν) (e : RawError) : Error := db.mapper.map (.raw e)

/-- Hands a call to the driver, which it reaches a moment later. -/
def dispatch (db : Database δ σ ν) (ctx : Context) (c : DriverCall) :
    SessionM δ σ ν (Except RawError c.Answer) := fun w =>
  let arrival := w.env.tick
  let r := db.driver.run c ⟨ctx, w.thread⟩ arrival w.driver
  let w' := { w with env := r.env, driver := r.state }
  let trace := .call c ctx (ctx.state arrival) :: r.log.map .log
  match r.reply with
  | .ok a => ⟨.value (.ok a), w', trace⟩
  | .error e => ⟨.value (.error e), w', trace⟩
  | .never => ⟨.stuck, w', trace⟩

/-- Hands a call to the driver unless the context has ended. -/
def dispatchLive (db : Database δ σ ν) (ctx : Context) (c : DriverCall) :
    SessionM δ σ ν (Except RawError c.Answer) := do
  match ctx.err (← env) with
  | some e => return .error (.context e)
  | none => db.dispatch ctx c

/-- Tells the hooks, which may take time and cancel contexts. -/
def tell (db : Database δ σ ν) (n : Notice) : SessionM δ σ ν Unit := fun w =>
  let r := db.hooks.tell ⟨w.env, w.thread⟩ n w.hooks
  ⟨.value (), { w with env := r.env, hooks := r.state }, r.events.map .hook⟩

/-- The error of a mapped result. -/
def error? : Except Error α → Option Error
  | .ok _ => none
  | .error e => some e

/-- The way of every statement. -/
def statement (db : Database δ σ ν) (ctx : Context) (sql : String) (args : List Value)
    (c : DriverCall) : SessionM δ σ ν (Except Error c.Answer) := do
  let ctx ← db.effective ctx
  db.tell (.before ctx sql args)
  let start ← env
  let raw ← db.dispatchLive ctx c
  let stop ← env
  let result := raw.mapError db.classify
  db.tell (.after ctx sql args (.ofNanos (stop.now - start.now)) (error? result))
  return result

/-- The transaction is neither committed nor rolled back. -/
def isActive (tx : TxId) : SessionM δ σ ν Bool := do
  return (← world).active.contains tx

/-- Statements may go to the handle at any time, and to a session until it is finished. -/
def accepts : Target → SessionM δ σ ν Bool
  | .handle => return true
  | .session tx => isActive tx

/-- The way of a statement to where it is addressed. -/
def statementAt (db : Database δ σ ν) (t : Target) (ctx : Context) (sql : String)
    (args : List Value) (c : DriverCall) : SessionM δ σ ν (Except Error c.Answer) := do
  if ← accepts t then db.statement ctx sql args c
  else return .error .transactionClosed

/-- Runs a statement and counts the rows it changed. -/
def execute (db : Database δ σ ν) (t : Target) (ctx : Context) (sql : String) (args : List Value) :
    SessionM δ σ ν UInt64 := do
  ofExcept (← db.statementAt t ctx sql args (.execute t sql args))

/-- Runs a query. -/
def query (db : Database δ σ ν) (t : Target) (ctx : Context) (sql : String) (args : List Value) :
    SessionM δ σ ν (List Row) := do
  ofExcept (← db.statementAt t ctx sql args (.query t sql args))

end Database

/-- The answer to a query for one row. That there is none is an error only for those who need one. -/
structure OneRow where
  result : Except Error (Option Row)
  mapper : Mapper

namespace OneRow

/-- The row; a missing one is the mapped error of a missing row. -/
def row (o : OneRow) : Except Error Row :=
  match o.result with
  | .ok (some r) => .ok r
  | .ok none => .error (o.mapper.map (.raw .noRows))
  | .error e => .error e

/-- The row if there was one. -/
def optional (o : OneRow) : Except Error (Option Row) := o.result

/-- Reads one column of the row. -/
def get {α : Type} (o : OneRow) (index : Nat) (d : Decoder α) : Except Error α := do
  (← o.row).getAs index d

/-- The query failed; a missing row is no failure. -/
def isErr (o : OneRow) : Bool :=
  match o.result with
  | .ok _ => false
  | .error _ => true

/-- The answer in diagnostic text. -/
def diagnostic (o : OneRow) : String :=
  let result := match o.result with
    | .ok r => Text.callText "Ok" [Text.optionText (r.map Row.diagnostic)]
    | .error e => Text.callText "Err" [e.diagnostic]
  Text.openRecordText "OneRow" [("result", result)]

end OneRow

/-- The result is an error of kind `notFound`. -/
def isNotFound {α : Type} : Except Error α → Bool
  | .ok _ => false
  | .error e => e.kind = .notFound

/-- A prepared statement with the place where it was prepared. -/
structure Statement where
  target : Target
  prepared : PreparedStatement
deriving DecidableEq, Repr

/-- A statement in diagnostic text. -/
def Statement.diagnostic (s : Statement) : String :=
  Text.openRecordText "Statement" [("prepared", s.prepared.diagnostic)]

namespace Database

variable {δ σ ν : Type}

open SessionM

/-- Runs a query for at most one row. A failure is part of the answer. -/
def queryOne (db : Database δ σ ν) (t : Target) (ctx : Context) (sql : String)
    (args : List Value) : SessionM δ σ ν OneRow := do
  return ⟨← db.statementAt t ctx sql args (.queryOne t sql args), db.mapper⟩

/-- Prepares a statement. -/
def prepare (db : Database δ σ ν) (t : Target) (ctx : Context) (sql : String) :
    SessionM δ σ ν Statement := do
  let p ← ofExcept (← db.statementAt t ctx sql [] (.prepare t sql))
  return ⟨t, p⟩

/-- Runs a prepared statement and counts the rows it changed. -/
def executePrepared (db : Database δ σ ν) (s : Statement) (ctx : Context) (args : List Value) :
    SessionM δ σ ν UInt64 := do
  ofExcept (← db.statementAt s.target ctx s.prepared.sql args
    (.executePrepared s.target s.prepared args))

/-- Runs a prepared query. -/
def queryPrepared (db : Database δ σ ν) (s : Statement) (ctx : Context) (args : List Value) :
    SessionM δ σ ν (List Row) := do
  ofExcept (← db.statementAt s.target ctx s.prepared.sql args
    (.queryPrepared s.target s.prepared args))

/-- Runs a prepared query for at most one row. -/
def queryOnePrepared (db : Database δ σ ν) (s : Statement) (ctx : Context) (args : List Value) :
    SessionM δ σ ν OneRow := do
  return ⟨← db.statementAt s.target ctx s.prepared.sql args
    (.queryOnePrepared s.target s.prepared args), db.mapper⟩

/-- Asks whether the backend answers. -/
def ping (db : Database δ σ ν) (ctx : Context) : SessionM δ σ ν Unit := do
  let ctx ← db.effective ctx
  ofExcept ((← db.dispatchLive ctx .ping).mapError db.classify)

/-- Closes the driver. -/
def close (db : Database δ σ ν) : SessionM δ σ ν Unit := do
  ofExcept ((← db.dispatch .background .close).mapError db.classify)

/-- The numbers about the driver's connections. -/
def stats (db : Database δ σ ν) : SessionM δ σ ν PoolStats := do
  return db.driver.stats (← world).driver

/-- The database in diagnostic text. -/
def diagnostic (db : Database δ σ ν) : String :=
  Text.openRecordText "Database"
    [("dialect", db.driver.dialect.diagnostic), ("hooks", toString db.hooks.size),
      ("config", db.config.diagnostic db.hooks.size)]

end Database

end DbAccess
