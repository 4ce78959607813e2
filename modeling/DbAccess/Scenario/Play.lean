import DbAccess.Scenario.Backends
import DbAccess.Scenario.Step
import DbAccess.SortedMap
/-!
# Playing a scenario

`perform` carries out a step on a database and `playAll` a list of steps. `reportOf` takes the trace of a step
apart into what occurred and the reports of inner steps.
-/

namespace DbAccess.Scenario

/-- A prepared statement, and where it was prepared by name. -/
structure NamedStatement where
  on : Place
  statement : Statement
deriving DecidableEq, Repr

/-- Everything that a scenario keeps: the backends, contexts by name, transactions ascending by name, prepared
statements by name, and the number of the next thread. -/
structure Stage where
  backends : Backends
  scope : Scope
  transactions : List (String × TxId)
  statements : List (String × NamedStatement)
  nextThread : Nat

/-- The backends of a stage. -/
def Stage.backendsPlace : DbAccess.Place Stage Backends :=
  ⟨(·.backends), fun b s => { s with backends := b }⟩

/-- A database of a scenario. -/
abbrev Db (ρ : Type) := Database Stage Spans (Mark ρ)

/-- A computation of a scenario. -/
abbrev Play (ρ α : Type) := SessionM Stage Spans (Mark ρ) α

/-- The world in which a scenario begins. -/
def startWorld : World Stage Spans :=
  ⟨Scope.initial.env, ⟨.initial, .initial, [], [], 1⟩, [], 0, [], 0⟩

variable {ρ α : Type}

open SessionM

/-- The stage. -/
def stage : Play ρ Stage := fun w => ⟨.value w.driver, w, []⟩

/-- Changes the stage. -/
def setStage (f : Stage → Stage) : Play ρ Unit := modify fun w => { w with driver := f w.driver }

/-- Runs a computation and takes its outcome and its trace as a result. -/
def capture (x : Play ρ α) : Play ρ (Outcome α × List (Event (Mark ρ))) := fun w =>
  let r := x w
  ⟨.value (r.outcome, r.trace), r.world, []⟩

/-- Leaves a mark. -/
def mark (m : Mark ρ) : Play ρ Unit := emit [.hook (.note m)]

/-- The context of a name; an unknown one never ends. -/
def contextNamed (name : String) : Play ρ Context := do
  return ((← stage).scope.context? name).getD .background

/-- Carries out an operation on contexts. -/
def stepContext (op : ContextOp) : Play ρ ContextAnswer := fun w =>
  let (a, scope) := { w.driver.scope with env := w.env }.step op
  ⟨.value a, { w with env := scope.env, driver := { w.driver with scope := scope } }, []⟩

/-- The transaction of a name. -/
def transactionNamed? (name : String) : Play ρ (Option TxId) := do
  return (← stage).transactions.lookup name

/-- Where a statement goes, when there is such a place. -/
def targetAt? : Place → Play ρ (Option Target)
  | .handle => return some .handle
  | .transaction name => do return (← transactionNamed? name).map .session

/-- The name of a place. -/
def Place.name : Place → String
  | handle => "db"
  | transaction name => name

/-- Forgets a transaction with its statements. -/
def forgetTransaction (name : String) : Play ρ Unit :=
  setStage fun s => { s with
    transactions := s.transactions.filter fun e => e.1 != name
    statements := s.statements.filter fun e => e.2.on != .transaction name }

/-- Drops a transaction; `false` when there is none of that name. -/
def dropTransaction (db : Db ρ) (name : String) : Play ρ Bool := do
  match ← transactionNamed? name with
  | some tx =>
    forgetTransaction name
    db.abandon tx false
    return true
  | none => return false

/-- Names a transaction. One that had the name is left alone from then on. -/
def nameTransaction (name : String) (tx : TxId) : Play ρ Unit :=
  setStage fun s => { s with transactions := SortedMap.insert name tx s.transactions }

/-- Looks at the answer to a query for one row. -/
def readOne (one : OneRow) : Reading → Play ρ (Answer ρ)
  | .row => return .row (← ofExcept one.row)
  | .optional => return .optionalRow (← ofExcept one.optional)
  | .isErr => return .flag one.isErr
  | .isNotFound => return .flag (isNotFound one.row)
  | .get index t => return .typed (← ofExcept (one.get index t.decode))
  | .shown => return .text one.diagnostic

/-- Uses a statement. -/
def useStatement (db : Db ρ) (t : Target) (ctx : Context) (sql : String) (args : List Value) :
    Use → Play ρ (Answer ρ)
  | .execute => return .count (← db.execute t ctx sql args)
  | .query => return .rows (← db.query t ctx sql args)
  | .queryOne reading => do readOne (← db.queryOne t ctx sql args) reading

/-- Uses a prepared statement. -/
def usePrepared (db : Db ρ) (s : Statement) (ctx : Context) (args : List Value) :
    Use → Play ρ (Answer ρ)
  | .execute => return .count (← db.executePrepared s ctx args)
  | .query => return .rows (← db.queryPrepared s ctx args)
  | .queryOne reading => do readOne (← db.queryOnePrepared s ctx args) reading

/-- Runs a computation on a thread of its own. -/
def onNewThread (x : Play ρ α) : Play ρ α := do
  let thread := (← stage).nextThread
  setStage fun s => { s with nextThread := thread + 1 }
  let main := (← world).thread
  modify fun w => { w with thread := thread }
  let o ← catching x
  modify fun w => { w with thread := main }
  finish o

/-- Runs a computation that uses a context from its beginning to its end. -/
def inUse (ctx : Context) (x : Play ρ α) : Play ρ α := do
  setStage fun s => { s with scope := s.scope.hold ctx }
  let o ← catching x
  setStage fun s => { s with scope := s.scope.release }
  finish o

/-- Runs a script on the connection of the database in memory. Its errors are raw. -/
def runScript (ctx : Context) (sql : String) : Play ρ Unit := fun w =>
  let r := w.driver.backends.sqlite.executeScript Sqlite.Memory.engine ⟨ctx, w.thread⟩ w.env sql
  let w' := { w with
    env := r.env
    driver := { w.driver with backends := { w.driver.backends with sqlite := r.state } } }
  let trace := r.log.map Event.log
  match r.reply with
  | .ok () => ⟨.value (), w', trace⟩
  | .error e => ⟨.failed (.raw e), w', trace⟩
  | .never => ⟨.stuck, w', trace⟩

/-- Events without marks. -/
def unmarked : List (Event (Mark ρ)) → List (Event Observation) :=
  List.filterMap fun
    | .call c ctx state => some (.call c ctx state)
    | .opened factory dsn => some (.opened factory dsn)
    | .log e => some (.log e)
    | .hook (.log e) => some (.hook (.log e))
    | .hook (.note (.observed o)) => some (.hook (.note o))
    | .hook (.note _) => none

/-- The reports of inner steps. -/
def innerReports : List (Event (Mark ρ)) → List (Report ρ) :=
  List.filterMap fun
    | .hook (.note (.reported r)) => some r
    | _ => none

/-- The events before and after the beginning of a body, if there is one. -/
def splitAtBody : List (Event (Mark ρ)) → List (Event (Mark ρ)) × Option (List (Event (Mark ρ)))
  | [] => ([], none)
  | .hook (.note .bodyBegan) :: rest => ([], some rest)
  | e :: rest =>
    let (before, after) := splitAtBody rest
    (e :: before, after)

/-- What of an event is reported: warnings and errors of the log, and calls on scripted drivers. -/
def isReported (b : Backends) : Event Observation → Bool
  | .call c _ _ => b.reports c
  | .opened .. => b.script.isSome
  | .hook (.log e) => e.level = .warn || e.level = .error
  | .hook (.note _) => true
  | .log e => e.level = .warn || e.level = .error

/-- How a step ended. -/
def Result.ofOutcome : Outcome (Result ρ) → Result ρ
  | .value r => r
  | .failed e => .failed e
  | .panicked text => .panicked text
  | .stuck => .stuck

/-- The report of a step that was carried out. -/
def Step.reportOf (s : Step ρ) (b : Backends) (o : Outcome (Result ρ)) (trace : List (Event (Mark ρ))) :
    Report ρ :=
  let shown (es : List (Event (Mark ρ))) : List (Event Observation) :=
    (unmarked es).filter (isReported b)
  let result := Result.ofOutcome o
  match s with
  | run .. =>
    match splitAtBody trace with
    | (before, some after) =>
      .run result (shown after) (some (shown before, innerReports after))
    | (before, none) => .run result (shown before) none
  | retry .. => .retry result (shown trace) (innerReports trace)
  | _ => .plain result (shown trace)

/-- Carries out a step by a computation, and reports it. -/
def report (s : Step ρ) (x : Play ρ (Result ρ)) : Play ρ (Report ρ) := do
  let (o, trace) ← capture x
  return s.reportOf (← stage).backends o trace

/-- Goes on with the transaction of a name. -/
def withTransaction (name : String) (x : TxId → Play ρ (Answer ρ)) : Play ρ (Result ρ) := do
  match ← transactionNamed? name with
  | some tx => return .ok (← x tx)
  | none => return .missing name

/-- Goes on with the target of a place. -/
def withTarget (on : Place) (x : Target → Play ρ (Answer ρ)) : Play ρ (Result ρ) := do
  match ← targetAt? on with
  | some t => return .ok (← x t)
  | none => return .missing on.name

/-- Goes on with the prepared statement of a name. -/
def withStatement (name : String) (x : Statement → Play ρ (Answer ρ)) : Play ρ (Result ρ) := do
  match (← stage).statements.lookup name with
  | some s => return .ok (← x s.statement)
  | none => return .missing name

/-- The end of a body. -/
def Ending.play : Ending ρ → Play ρ (Answer ρ)
  | value r => return .given r
  | failure e => fail e
  | panic text => panicWith text

/-- The value of a step that was tried: its answer, nothing when it panicked, or its failure. -/
def Result.tried : Result ρ → Play ρ (Answer ρ)
  | ok a => return a
  | failed e => fail e
  | stuck => finish .stuck
  | _ => return .unit

mutual

/-- Carries out a step. -/
def perform (db : Db ρ) : Step ρ → Play ρ (Result ρ)
  | .context op => return .ok (.context (← stepContext op))
  | .statement on ctx sql args use =>
    withTarget on fun t => do useStatement db t (← contextNamed ctx) sql args use
  | .prepare name on ctx sql =>
    withTarget on fun t => do
      let s ← db.prepare t (← contextNamed ctx) sql
      setStage fun st => { st with statements := Scope.put st.statements name ⟨on, s⟩ }
      return .unit
  | .prepared stmt ctx args use =>
    withStatement stmt fun s => do usePrepared db s (← contextNamed ctx) args use
  | .describe stmt => withStatement stmt fun s => return .statement s
  | .begin name ctx opts => do
    let tx ← db.begin (← contextNamed ctx) opts
    nameTransaction name tx
    return .ok .unit
  | .commit tx ctx =>
    withTransaction tx fun id => do
      db.commit id (← contextNamed ctx)
      return .unit
  | .rollback tx ctx =>
    withTransaction tx fun id => do
      db.rollback id (← contextNamed ctx)
      return .unit
  | .savepoint tx ctx op point =>
    withTransaction tx fun id => do
      db.savepoint id (← contextNamed ctx) op point
      return .unit
  | .transactionInfo tx =>
    withTransaction tx fun id => do return .transaction (← Database.isActive id)
  | .drop tx => do return .ok (.flag (← dropTransaction db tx))
  | .run name ctx opts body stop ending => do
    let c ← contextNamed ctx
    let a ← inUse c (db.runInTransaction c opts fun tx => do
      mark .bodyBegan
      nameTransaction name tx
      let failure ← playBody db stop body
      forgetTransaction name
      match failure with
      | some e => fail e
      | none => ending.play)
    return .ok a
  | .batch ctx sql items => do
    return .ok (.count (← db.batchExec (← contextNamed ctx) sql items fun vs => return vs))
  | .retry policy ctx s => do
    let c ← contextNamed ctx
    let a ← inUse c (SessionM.retry policy c (do
      let r ← report s (perform db s)
      mark (.reported r)
      r.result.tried))
    return .ok a
  | .ping ctx => do
    db.ping (← contextNamed ctx)
    return .ok .unit
  | .stats => do return .ok (.stats (← db.stats))
  | .close => do
    db.close
    return .ok .unit
  | .databaseInfo => return .ok (.database db.diagnostic db.config.dsn db.driver.dialect)
  | .map e => return .ok (.error (db.mapper.map e))
  | .elsewhere ctx sql args => do
    let c ← contextNamed ctx
    return .ok (.count (← onNewThread (db.execute .handle c sql args)))
  | .script ctx sql => do
    runScript (← contextNamed ctx) sql
    return .ok .unit
  | .connectionInfo => do return .ok (.text (← stage).backends.sqlite.diagnostic)

/-- Carries out the steps of a body and leaves their reports. The answer is the failure at which the body
stopped. -/
def playBody (db : Db ρ) (stop : Bool) : List (Step ρ) → Play ρ (Option Error)
  | [] => return none
  | s :: rest => do
    let r ← report s (perform db s)
    mark (.reported r)
    match stop, r.result with
    | true, .failed e => return some e
    | _, _ => playBody db stop rest

end

/-- Carries out steps whatever comes of them, and reports them. -/
def playAll (db : Db ρ) : List (Step ρ) → Play ρ (List (Report ρ))
  | [] => return []
  | s :: rest => do
    let r ← report s (perform db s)
    return r :: (← playAll db rest)

/-- Drops the transactions of these names. -/
def dropAll (db : Db ρ) : List String → Play ρ Unit
  | [] => return ()
  | name :: rest => do
    let _ ← dropTransaction db name
    dropAll db rest

end DbAccess.Scenario
