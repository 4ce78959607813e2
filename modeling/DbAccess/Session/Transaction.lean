import DbAccess.Session.Database
import DbAccess.Width
/-!
# Transactions

A transaction is active from its begin to its first commit or rollback, whatever the driver answers to
that. `runInTransaction` brackets a body: it commits when the body ends with a value, rolls back when the
body fails, and gives the transaction up when the body panics.
-/

namespace DbAccess.Database

variable {δ σ ν α : Type}

open SessionM

/-- Begins a transaction. -/
def begin (db : Database δ σ ν) (ctx : Context) (opts : TxOptions) : SessionM δ σ ν TxId := do
  let ctx ← db.effective ctx
  let tx := (← world).nextTx
  ofExcept ((← db.dispatchLive ctx (.begin tx opts)).mapError db.classify)
  modify fun w => { w with active := tx :: w.active, nextTx := tx + 1 }
  return tx

/-- Takes a transaction out of the active ones; `false` when it was not among them. -/
def take (tx : TxId) : SessionM δ σ ν Bool := do
  if ← isActive tx then
    modify fun w => { w with active := w.active.filter (· != tx) }
    return true
  else return false

/-- Finishes a transaction by a call. The context does not keep the call from the driver. -/
def finishBy (db : Database δ σ ν) (tx : TxId) (ctx : Context) (c : DriverCall)
    (unit : c.Answer → Unit) : SessionM δ σ ν Unit := do
  if ← take tx then
    let ctx ← db.effective ctx
    let result ← db.dispatch ctx c
    ofExcept ((result.map unit).mapError db.classify)
  else fail .transactionClosed

/-- Commits a transaction. -/
def commit (db : Database δ σ ν) (tx : TxId) (ctx : Context) : SessionM δ σ ν Unit :=
  db.finishBy tx ctx (.commit tx) id

/-- Rolls a transaction back. -/
def rollback (db : Database δ σ ν) (tx : TxId) (ctx : Context) : SessionM δ σ ν Unit :=
  db.finishBy tx ctx (.rollback tx) id

/-- Gives a transaction up: one that is active is rolled back under a context that never ends, and a failure
is only logged. -/
def abandon (db : Database δ σ ν) (tx : TxId) (unwinding : Bool) : SessionM δ σ ν Unit := do
  if ← take tx then
    log (.abandoned unwinding)
    match ← db.dispatch .background (.rollback tx) with
    | .ok () => return ()
    | .error e => log (.abandonedRollbackFailed (db.classify e))

/-- The most bytes that the name of a savepoint may have. -/
def maxSavepointBytes : Nat := 63

/-- What the name of a savepoint begins with. -/
def isSavepointStart (c : Char) : Bool := c.isAlpha || c = '_'

/-- What the name of a savepoint goes on with. -/
def isSavepointChar (c : Char) : Bool := c.isAlphanum || c = '_'

/-- What is wrong with the name of a savepoint, which becomes part of a statement. -/
def savepointFault? (name : String) : Option InputFault :=
  match name.toList with
  | [] => some .emptySavepoint
  | c :: rest =>
    if maxSavepointBytes < name.utf8ByteSize then some (.longSavepoint name.utf8ByteSize)
    else if !isSavepointStart c then some (.badSavepointStart name)
    else (rest.find? fun c => !isSavepointChar c).map .badSavepointChar

/-- The operations on savepoints. -/
inductive SavepointOp where
  | create
  | rollbackTo
  | release
deriving DecidableEq, Repr

/-- The statement of an operation on a savepoint. -/
def SavepointOp.sql (op : SavepointOp) (name : String) : String :=
  (match op with
    | create => "SAVEPOINT "
    | rollbackTo => "ROLLBACK TO SAVEPOINT "
    | release => "RELEASE SAVEPOINT ") ++ name

/-- Performs an operation on a savepoint, unless there is something wrong with its name. -/
def savepoint (db : Database δ σ ν) (tx : TxId) (ctx : Context) (op : SavepointOp) (name : String) :
    SessionM δ σ ν Unit := do
  match savepointFault? name with
  | some fault => fail (.invalidInput fault)
  | none => discard (db.execute (.session tx) ctx (op.sql name) [])

/-- Runs a body inside a transaction. The rollback after a failed body does not depend on the caller's
context, which may be the reason of the failure. -/
def runInTransaction (db : Database δ σ ν) (ctx : Context) (opts : TxOptions)
    (body : TxId → SessionM δ σ ν α) : SessionM δ σ ν α := do
  let tx ← db.begin ctx opts
  match ← catching (body tx) with
  | .value a =>
    if ← isActive tx then
      db.commit tx ctx
      return a
    else
      log .alreadyFinished
      return a
  | .failed e =>
    match ← attempt (db.rollback tx .background) with
    | .ok () => fail e
    | .error .transactionClosed => fail e
    | .error undo =>
      log (.rollbackFailed undo)
      fail (.rollback e undo)
  | .panicked text =>
    db.abandon tx true
    panicWith text
  | .stuck => finish .stuck

/-- The panic of a sum that 64 bits do not hold. -/
def overflowText : String := "attempt to add with overflow"

/-- Adds two counts. -/
def addCounts (a b : UInt64) : SessionM δ σ ν UInt64 :=
  if a.toNat + b.toNat < limit64 then return a + b else panicWith overflowText

/-- Runs a prepared statement for one item after another, and adds up the counts. -/
def executeItems {ι : Type} (db : Database δ σ ν) (s : Statement) (ctx : Context)
    (args : ι → SessionM δ σ ν (List Value)) : List ι → UInt64 → SessionM δ σ ν UInt64
  | [], total => return total
  | item :: items, total => do
    let count ← db.executePrepared s ctx (← args item)
    let total ← addCounts total count
    executeItems db s ctx args items total

/-- Runs a statement for every item in one transaction, and counts the rows changed in all. -/
def batchExec {ι : Type} (db : Database δ σ ν) (ctx : Context) (sql : String) (items : List ι)
    (args : ι → SessionM δ σ ν (List Value)) : SessionM δ σ ν UInt64 :=
  db.runInTransaction ctx .default fun tx => do
    let s ← db.prepare (.session tx) ctx sql
    db.executeItems s ctx args items 0

/-- A transaction in diagnostic text. -/
def txDiagnostic (active : Bool) : String :=
  Text.openRecordText "Transaction" [("active", Text.boolText active)]

end DbAccess.Database
