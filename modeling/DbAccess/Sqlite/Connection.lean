import DbAccess.Context.Sleep
import DbAccess.Driver.Call
import DbAccess.Sqlite.Sql.Token
import DbAccess.Sqlite.Statement
/-!
# SQLite connections

One connection serves a whole database. A transaction holds it from begin to finish: its own thread is refused
when it asks for the connection by way of the handle, and any other thread waits until its context ends.
Whatever the engine is asked to do is watched by an interrupt handler, which is installed for the time of the
request when the context can end. A transaction that could not be finished is rolled back when it is let go.
-/

namespace DbAccess.Sqlite

/-- Who holds a connection. -/
structure Holder where
  tx : TxId
  thread : Nat
  readOnly : Bool
deriving DecidableEq, Repr

/-- A connection to an engine whose state is an `ε`. -/
structure Connection (ε : Type) where
  /-- The engine with its kept statements, until the connection is closed. -/
  engine : Option (Workbench ε)
  /-- The installed interrupt handler. -/
  handler : Option Watcher
  holder : Option Holder
  /-- The number of the next prepared statement. -/
  nextId : Nat
deriving Repr

/-- The text of the refusal of a thread that holds the connection itself. -/
def heldText : String := "sqlite connection is held by an open transaction on this thread"

/-- The refusal of a thread that holds the connection itself. -/
def heldError : RawError := .backend { BackendError.ofText heldText with dialect := some .sqlite }

/-- The refusal of a closed connection. -/
def closedError : RawError := .backend (.ofText "sqlite connection is closed")

/-- A failure of the engine as an error. An interrupt comes from the context that was watched. -/
def Failure.error (f : Failure) (ctx : Context) (env : Env) : RawError :=
  match f with
  | noRow => .noRows
  | interrupted => .context ((ctx.err env).getD .deadlineExceeded)
  | code n message => .backend ⟨message, some .sqlite, none, some n, [f.source]⟩
  | input .. | wrongCount .. => .backend ⟨f.message, some .sqlite, none, none, [f.source]⟩

namespace Connection

variable {ε α β : Type}

/-- A connection that serves an engine. -/
def ofEngine (e : ε) : Connection ε := ⟨some ⟨e, []⟩, none, none, 1⟩

/-- A connection that was closed, or never opened. -/
def closed : Connection ε := ⟨none, none, none, 1⟩

/-- What came of a request to a connection. -/
abbrev Run (ε α : Type) := DriverRun (Connection ε) α

/-- Runs a task of the engine under a handler, which stays as it is. -/
def runTask (task : EngineTask (Workbench ε) α) (env : Env) (c : Connection ε) (e : Workbench ε) :
    Ended α × Env × Connection ε :=
  let w := task c.handler env e
  (w.ended, w.env, { c with engine := some w.state })

/-- Installs the handler that watches a context. -/
def install (c : Connection ε) (ctx : Context) : Connection ε :=
  { c with handler := some ctx.watcher }

/-- Removes the handler. -/
def uninstall (c : Connection ε) : Connection ε := { c with handler := none }

/-- How a task ended as a reply. -/
def reply (ctx : Context) (env : Env) : Ended α → Reply α
  | .done a => .ok a
  | .failed f => .error (f.error ctx env)
  | .never => .never

/-- Runs a task of the engine unless the context has ended, and watches the context meanwhile. -/
def guarded (c : Connection ε) (ctx : Context) (env : Env) (task : EngineTask (Workbench ε) α) :
    Run ε α :=
  match c.engine with
  | none => ⟨.error closedError, env, c, []⟩
  | some e =>
    match ctx.err env with
    | some done => ⟨.error (.context done), env, c, []⟩
    | none =>
      if ctx.canEnd then
        let (ended, env, c) := runTask task env (c.install ctx) e
        ⟨reply ctx env ended, env, c.uninstall, []⟩
      else
        let (ended, env, c) := runTask task env c e
        ⟨reply ctx env ended, env, c, []⟩

/-- Gets hold of the connection for a request on the handle: at once when nobody holds it. Its own thread is
refused, and another one waits until its context ends. -/
def acquire (c : Connection ε) (caller : Caller) (env : Env) (go : Unit → Run ε α) : Run ε α :=
  match c.holder with
  | none => go ()
  | some h =>
    if h.thread = caller.thread then ⟨.error heldError, env, c, [.heldByThisThread]⟩
    else match caller.ctx.awaitEnd env with
      | some (e, env) => ⟨.error (.context e), env, c, []⟩
      | none => ⟨.never, env, c, []⟩

/-- A request on the handle or on the transaction that holds the connection. -/
def request (c : Connection ε) (t : Target) (caller : Caller) (env : Env)
    (task : EngineTask (Workbench ε) α) : Run ε α :=
  match t with
  | .handle => c.acquire caller env fun _ => c.guarded caller.ctx env task
  | .session _ => c.guarded caller.ctx env task

/-- The statements that begin a transaction. -/
def beginTexts (readOnly : Bool) : List String :=
  if readOnly then ["BEGIN DEFERRED", "PRAGMA query_only = ON"] else ["BEGIN DEFERRED"]

/-- Begins a transaction, which holds the connection from then on. SQLite knows one isolation only. -/
def begin (E : Engine ε) (c : Connection ε) (tx : TxId) (opts : TxOptions) (caller : Caller)
    (env : Env) : Run ε Unit :=
  c.acquire caller env fun _ =>
    let r := c.guarded caller.ctx env (E.runTexts (beginTexts opts.readOnly))
    match r.reply with
    | .ok () => { r with state := { r.state with holder := some ⟨tx, caller.thread, opts.readOnly⟩ } }
    | _ => r

/-- The report of a statement that failed where nobody waits for its result. -/
def report (event : String → LogEvent) : Ended Unit → List LogEvent
  | .failed f => [event f.message]
  | _ => []

/-- Runs one statement for its effect, unguarded, and reports when it fails. -/
def tidy (E : Engine ε) (sql : String) (event : String → LogEvent) (env : Env) (c : Connection ε) :
    Env × Connection ε × List LogEvent :=
  match c.engine with
  | none => (env, c, [])
  | some e =>
    let (ended, env, c) := runTask (E.runText sql) env c e
    (env, c, report event ended)

/-- Makes the connection writable again. -/
def writableText : String := "PRAGMA query_only = OFF"

/-- Makes the connection writable again after a transaction that could only read. -/
def restore (E : Engine ε) (readOnly : Bool) (event : String → LogEvent) (env : Env)
    (c : Connection ε) : Env × Connection ε × List LogEvent :=
  if readOnly then tidy E writableText event env c else (env, c, [])

/-- The engine has a transaction open. -/
def isOpen (E : Engine ε) (c : Connection ε) : Bool := c.engine.any fun b => E.inTransaction b.engine

/-- Lets go of the connection after a transaction that is not finished: what is still open is rolled back.
Whether the connection is writable again is not reported. -/
def letGo (E : Engine ε) (readOnly : Bool) (env : Env) (c : Connection ε) :
    Env × Connection ε × List LogEvent :=
  let c := { c with holder := none }
  let (env, c, log) :=
    if c.isOpen E then tidy E "ROLLBACK" .cleanupFailed env c else (env, c, [])
  let (env, c, _) := restore E readOnly .resetFailed env c
  (env, c, log)

/-- Finishes a transaction by a statement and lets go of the connection, whether that succeeds or not. -/
def finish (E : Engine ε) (c : Connection ε) (caller : Caller) (env : Env) (sql : String) :
    Run ε Unit :=
  let readOnly := c.holder.any (·.readOnly)
  let r := c.guarded caller.ctx env (E.runText sql)
  let (env, c, log) := match r.reply with
    | .ok () =>
      let (env, c, log) := restore E readOnly .resetFailed r.env r.state
      (env, { c with holder := none }, log)
    | _ => letGo E readOnly r.env r.state
  ⟨r.reply, env, c, r.log ++ log⟩

/-- Closes the engine. When it refuses, the connection stays open, without the statements that it kept. -/
def shut (E : Engine ε) (c : Connection ε) (env : Env) : Run ε Unit :=
  match c.engine with
  | none => ⟨.ok (), env, c, []⟩
  | some b =>
    match E.close b.engine with
    | none => ⟨.ok (), env, { c with engine := none }, []⟩
    | some (code, message) =>
      ⟨.error ((Failure.code code message).error .background env), env,
        { c with engine := some { b with kept := [] } }, []⟩

/-- Closes the connection. Closing it again does nothing. -/
def close (E : Engine ε) (c : Connection ε) (caller : Caller) (env : Env) : Run ε Unit :=
  c.acquire { caller with ctx := .background } env fun _ => c.shut E env

/-- Runs a script on the handle. Hooks do not see it. -/
def executeScript (E : Engine ε) (c : Connection ε) (caller : Caller) (env : Env) (sql : String) :
    Run ε Unit := c.request .handle caller env (E.runTexts (scriptTexts sql))

/-- The numbers about a connection: there is one, and a transaction uses it. -/
def stats (c : Connection ε) : PoolStats :=
  match c.holder with
  | some _ => ⟨1, 1, 0, 1⟩
  | none => if c.engine.isSome then ⟨1, 0, 1, 1⟩ else ⟨0, 0, 0, 1⟩

/-- A connection in diagnostic text. -/
def diagnostic (c : Connection ε) : String :=
  Text.openRecordText "SqliteConnection" [("stats", c.stats.diagnostic)]

/-- A row as it is read. -/
def readRow (r : List String × List Stored) : Row := ⟨r.1, r.2.map Stored.toValue⟩

/-- Changes the value of a reply. -/
def mapReply (f : α → β) (r : Run ε α) : Run ε β :=
  ⟨match r.reply with
    | .ok a => .ok (f a)
    | .error e => .error e
    | .never => .never, r.env, r.state, r.log⟩

/-- Compiles a statement and numbers it. The number is used up even when that fails. -/
def prepare (E : Engine ε) (c : Connection ε) (t : Target) (sql : String) (caller : Caller)
    (env : Env) : Run ε PreparedStatement :=
  let id := c.nextId
  mapReply (fun p => ⟨id, sql, p.params⟩)
    (request { c with nextId := id + 1 } t caller env (E.prepare sql))

/-- Runs a statement and counts the rows it changed. -/
def execute (E : Engine ε) (c : Connection ε) (t : Target) (sql : String) (args : List Value)
    (caller : Caller) (env : Env) : Run ε UInt64 := c.request t caller env (E.execute sql args)

/-- Runs a query. -/
def query (E : Engine ε) (c : Connection ε) (t : Target) (sql : String) (args : List Value)
    (caller : Caller) (env : Env) : Run ε (List Row) :=
  mapReply (·.map readRow) (c.request t caller env (E.query .all sql args))

/-- Runs a query for its first row. -/
def queryOne (E : Engine ε) (c : Connection ε) (t : Target) (sql : String) (args : List Value)
    (caller : Caller) (env : Env) : Run ε (Option Row) :=
  mapReply (fun rows => rows.head?.map readRow) (c.request t caller env (E.query .first sql args))

/-- Answers a call. -/
def run (E : Engine ε) (call : DriverCall) (caller : Caller) (env : Env) (c : Connection ε) :
    Run ε call.Answer :=
  match call with
  | .execute t sql args => c.execute E t sql args caller env
  | .query t sql args => c.query E t sql args caller env
  | .queryOne t sql args => c.queryOne E t sql args caller env
  | .prepare t sql => c.prepare E t sql caller env
  | .executePrepared t p args => c.execute E t p.sql args caller env
  | .queryPrepared t p args => c.query E t p.sql args caller env
  | .queryOnePrepared t p args => c.queryOne E t p.sql args caller env
  | .begin tx opts => c.begin E tx opts caller env
  | .commit _ => c.finish E caller env "COMMIT"
  | .rollback _ => c.finish E caller env "ROLLBACK"
  | .ping => c.request .handle caller env E.ping
  | .close => c.close E caller env

end Connection

/-- The driver of connections to an engine. -/
def driver {ε : Type} (E : Engine ε) : Driver (Connection ε) where
  dialect := .sqlite
  run call caller env c := c.run E call caller env
  stats c := c.stats

end DbAccess.Sqlite
