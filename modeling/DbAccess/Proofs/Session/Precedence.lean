import DbAccess.Proofs.Session.Errand
/-!
# Whose context a driver gets

`Program.errands` are the errands of a program, in order: each call that it makes, on behalf of the context it
gives, and the calls that finish a transaction behind a body. `Program.contexts_by_rule` says that they are what
the program hands to the driver, so that every call comes with the context that the rule says; and that no call
is made on behalf of nobody but rollbacks, which no context of a caller keeps from the driver.
-/

namespace DbAccess

variable {δ σ ν α : Type}

open SessionM

namespace Database

variable (db : Database δ σ ν)

/-! ### Behind a body -/

/-- The errand that finishes a transaction behind a body. -/
def settleErrands (ctx : Context) (tx : TxId) : Outcome α → World δ σ → List Errand
  | .value _ => finishErrands tx fun env => .caller env env.tick ctx (.commit tx)
  | .failed _ => finishErrands tx (.recovery · tx)
  | .panicked _ => finishErrands tx fun _ => .drop tx
  | .stuck => fun _ => []

@[simp] theorem handed_failureLog (d : Reply Unit) :
    (db.failureLog d : List (Event ν)).filterMap Event.handed? = [] := by
  unfold failureLog
  split
  · split <;> rfl
  · rfl

theorem sends_settle (ctx : Context) (tx : TxId) (o : Outcome α) :
    Sends db.config (db.settle ctx tx o) (settleErrands ctx tx o) := by
  cases o with
  | value a =>
      intro w
      rw [settleErrands, finishErrands]
      cases h : w.active.contains tx with
      | true =>
          rw [db.run_settle_value_of_active ctx tx w h, if_pos rfl, List.flatMap_singleton,
            db.handed_finishing rfl]
          exact db.handed_driverTrace (w.without tx).tick (db.effectiveContext w ctx) (.commit tx)
      | false =>
          rw [db.run_settle_value_of_finished ctx tx w h]
          rfl
  | failed e =>
      intro w
      rw [settleErrands, finishErrands]
      cases h : w.active.contains tx with
      | true =>
          rw [db.run_settle_failed_of_active ctx tx w h, if_pos rfl, List.flatMap_singleton,
            SessionRun.handed_mk, List.filterMap_append, handed_failureLog, List.append_nil,
            db.effectiveContext_background w tx]
          exact db.handed_driverTrace (w.without tx).tick _ (.rollback tx)
      | false =>
          rw [db.run_settle_failed_of_finished ctx tx w h]
          rfl
  | panicked text => exact (db.sends_abandon tx true).bind_silent fun _ _ => rfl
  | stuck => exact fun _ => rfl

/-- The errands of a body inside a transaction. -/
def transactionErrands (ctx : Context) (opts : TxOptions) (body : TxId → SessionM δ σ ν α)
    (errands : TxId → World δ σ → List Errand) : World δ σ → List Errand :=
  errandsThen (db.begin ctx opts) (fun w => [.caller w.env w.env.tick ctx (.begin w.nextTx opts)]) fun tx =>
    errandsThen (catching (body tx)) (errands tx) fun o => settleErrands ctx tx o

theorem sends_runInTransaction (ctx : Context) (opts : TxOptions) {body : TxId → SessionM δ σ ν α}
    {errands : TxId → World δ σ → List Errand} (hbody : ∀ tx, Sends db.config (body tx) (errands tx)) :
    Sends db.config (db.runInTransaction ctx opts body) (db.transactionErrands ctx opts body errands) := by
  rw [runInTransaction_eq]
  exact .bind (db.sends_begin ctx opts) fun tx =>
    .bind (.catching (hbody tx)) fun o => db.sends_settle ctx tx o

section items

variable {ι : Type} (s : Statement) (ctx : Context) (args : ι → SessionM δ σ ν (List Value))
  (errands : ι → World δ σ → List Errand)

/-- The errands of a prepared statement that is run for one item after another. -/
def itemErrands : List ι → UInt64 → World δ σ → List Errand
  | [], _ => fun _ => []
  | item :: items, total =>
    errandsThen (args item) (errands item) fun values =>
      errandsThen (db.executePrepared s ctx values)
        (db.statementErrands s.target ctx s.prepared.sql values
          (.executePrepared s.target s.prepared values)) fun count =>
          errandsThen (addCounts total count : SessionM δ σ ν UInt64) (fun _ => []) fun total =>
            itemErrands items total

theorem sends_executeItems (hargs : ∀ i, Sends db.config (args i) (errands i)) (items : List ι)
    (total : UInt64) :
    Sends db.config (db.executeItems s ctx args items total)
      (db.itemErrands s ctx args errands items total) := by
  induction items generalizing total with
  | nil => exact fun _ => rfl
  | cons item items ih =>
      refine .bind (hargs item) fun values => .bind ?_ fun count => .bind ?_ fun sum => ih sum
      · exact (db.sends_statementAt s.target ctx _ values (.executePrepared s.target s.prepared values)
          rfl rfl).bind_silent fun r _ => by cases r <;> rfl
      · intro w
        rw [addCounts]
        split <;> rfl

/-- The errands of a statement that is run for every item in one transaction. -/
def batchErrands (sql : String) (items : List ι) : World δ σ → List Errand :=
  db.transactionErrands ctx .default
    (fun tx => do
      let s ← db.prepare (.session tx) ctx sql
      db.executeItems s ctx args items 0)
    fun tx => errandsThen (db.prepare (.session tx) ctx sql)
      (db.statementErrands (.session tx) ctx sql [] (.prepare (.session tx) sql)) fun s =>
        db.itemErrands s ctx args errands items 0

theorem sends_batchExec (sql : String) (items : List ι) (hargs : ∀ i, Sends db.config (args i) (errands i)) :
    Sends db.config (db.batchExec ctx sql items args) (db.batchErrands ctx args errands sql items) := by
  refine db.sends_runInTransaction ctx .default fun tx => .bind ?_ fun s =>
    db.sends_executeItems s ctx args errands hargs items 0
  exact (db.sends_statementAt (.session tx) ctx sql [] (.prepare (.session tx) sql)
    rfl rfl).bind_silent fun r _ => by cases r <;> rfl

end items

end Database

/-! ### Programs -/

/-- The errands of a call. -/
def DbCall.errands (db : Database δ σ ν) (c : DbCall) (w : World δ σ) : List Errand :=
  match c with
  | statement q => db.statementErrands .handle q.ctx q.sql q.args (q.call .handle) w
  | begin ctx opts => [.caller w.env w.env.tick ctx (.begin w.nextTx opts)]
  | transaction tx (.statement q) =>
    db.statementErrands (.session tx) q.ctx q.sql q.args (q.call (.session tx)) w
  | transaction tx (.savepoint ctx op name) => db.savepointErrands tx ctx op name w
  | transaction tx (.commit ctx) =>
    Database.finishErrands tx (fun env => .caller env env.tick ctx (.commit tx)) w
  | transaction tx (.rollback ctx) =>
    Database.finishErrands tx (fun env => .caller env env.tick ctx (.rollback tx)) w
  | abandon tx _ => Database.finishErrands tx (fun _ => .drop tx) w
  | ping ctx => [.caller w.env w.env.tick ctx .ping]
  | close => []

theorem DbCall.sends (db : Database δ σ ν) (c : DbCall) : Sends db.config (c.run db) (c.errands db) := by
  cases c with
  | statement q => exact db.sends_request .handle q
  | begin ctx opts => exact (db.sends_begin ctx opts).attempt
  | transaction tx c =>
      cases c with
      | statement q => exact db.sends_request (.session tx) q
      | savepoint ctx op name => exact db.sends_savepoint tx ctx op name
      | commit ctx => exact (db.sends_finishBy tx ctx (.commit tx) id rfl).attempt
      | rollback ctx => exact (db.sends_finishBy tx ctx (.rollback tx) id rfl).attempt
  | abandon tx unwinding => exact (db.sends_abandon tx unwinding).attempt
  | ping ctx => exact (db.sends_ping ctx).attempt
  | close => exact db.sends_close.attempt

/-- The errands of a program that begins in a world, in order. -/
def Program.errands (db : Database δ σ ν) : {α : Type} → Program α → World δ σ → List Errand
  | _, done _ => fun _ => []
  | _, call c next => errandsThen (c.run db) (c.errands db) fun r => errands db (next r)
  | _, inTransaction ctx opts body next =>
    errandsThen (attempt (db.runInTransaction ctx opts fun tx => (body tx).run db))
      (db.transactionErrands ctx opts (fun tx => (body tx).run db) fun tx => errands db (body tx))
      fun r => errands db (next r)
  | _, batch ctx sql items args next =>
    errandsThen (attempt (db.batchExec ctx sql items fun i => (args i).run db))
      (db.batchErrands ctx (fun i => (args i).run db) (fun i => errands db (args i)) sql items)
      fun r => errands db (next r)
  | _, meanwhile change next => fun w =>
    errands db (next (change w.env) w.active.contains) { w with env := change w.env }

theorem Program.sends (db : Database δ σ ν) (p : Program α) : Sends db.config (p.run db) (p.errands db) := by
  induction p with
  | done o => exact fun _ => rfl
  | call c next ih => exact .bind (c.sends db) ih
  | inTransaction ctx opts body next ihbody ih =>
      exact .bind (db.sends_runInTransaction ctx opts ihbody).attempt ih
  | batch ctx sql items args next ihargs ih =>
      exact .bind (db.sends_batchExec ctx _ _ sql items ihargs).attempt ih
  | meanwhile change next ih => exact fun w => ih (change w.env) w.active.contains _

/-- **Every call comes with the context that the rule says.** What a program hands to the driver is what its
errands do, in order. A call for a caller carries the signal of the caller, and the deadline of the caller; or,
if there is none, the one of the default timeout, when that is some time and the clock can name its end. The
only other calls are rollbacks. One after a failed body has no signal and the default deadline, and one of a
transaction that went out of scope never ends; both reach the driver, whatever became of the contexts of
callers. -/
theorem Program.contexts_by_rule (db : Database δ σ ν) (p : Program α) (w : World δ σ) :
    let handed := ((p.run db).run w).handed
    let errands := p.errands db w
    let given := Errand.context db.config
    handed = errands.flatMap (Errand.handed db.config) ∧
    (∀ env asked ctx c, .caller env asked ctx c ∈ errands →
      (given (.caller env asked ctx c)).signal = ctx.signal ∧
      (given (.caller env asked ctx c)).deadline =
        match ctx.deadline, db.config.defaultTimeout with
        | some t, _ => some t
        | none, some d => if d.ns ≠ 0 ∧ env.now + d.ns ≤ lastInstant then some (env.now + d.ns) else none
        | none, none => none) ∧
    (∀ env tx, .recovery env tx ∈ errands →
      (.rollback tx, given (.recovery env tx)) ∈ handed ∧
      given (.recovery env tx) = Context.background.orTimeout env db.config.defaultTimeout ∧
      ∀ later, (given (.recovery env tx)).err later ≠ some .cancelled) ∧
    ∀ tx, .drop tx ∈ errands →
      (.rollback tx, given (.drop tx)) ∈ handed ∧
      (given (.drop tx)).canEnd = false ∧ ∀ later, (given (.drop tx)).err later = none := by
  have hsends := p.sends db w
  refine ⟨hsends, ?_, ?_, ?_⟩
  · intro env asked ctx c _
    refine ⟨rfl, ?_⟩
    obtain ⟨deadline, signal⟩ := ctx
    cases deadline with
    | some t => rfl
    | none =>
        show (none : Option Instant).or (db.config.defaultDeadline? env) = _
        rw [Option.none_or, Config.defaultDeadline?_eq]
        cases db.config.defaultTimeout <;> rfl
  · intro env tx h
    refine ⟨?_, (Context.background.orTimeout_eq env db.config).symm, ?_⟩
    · rw [hsends]
      exact List.mem_flatMap.mpr ⟨_, h, List.mem_singleton.mpr rfl⟩
    · exact Context.err_ne_cancelled rfl
  · intro tx h
    refine ⟨?_, rfl, fun _ => rfl⟩
    rw [hsends]
    exact List.mem_flatMap.mpr ⟨_, h, List.mem_singleton.mpr rfl⟩

section givingUp

open Database

/-- A database with a default timeout of five seconds. -/
def hasty : Database Scripted.State Unit Unit :=
  { broken (.ofFunction id) with config := { Config.default with defaultTimeout := some (.ofSeconds 5) } }

/-- A program that gives up inside a transaction because the signal of its context is cancelled. -/
def givingUp : Program Unit :=
  .inTransaction ⟨none, some 0⟩ .default
    (fun _ => .meanwhile (fun env => { env with signals := env.signals.spend 0 }) fun _ _ =>
      .done (.failed (.custom "gave up")))
    fun r => .done (resultOutcome r)

/-- The clock and the signals of an errand that undoes a failed body. -/
def Errand.recovered? : Errand → Option (Env × TxId)
  | recovery env tx => some (env, tx)
  | _ => none

/-- The transaction is begun under the signal and rolled back without it, each within five seconds. -/
theorem contexts_by_rule_of_givingUp :
    let w : World Scripted.State Unit := { quiet with env := ⟨0, [.new]⟩ }
    let handed := ((givingUp.run hasty).run w).handed
    let last := (Errand.recovery ⟨2000, [.spent]⟩ 0).context hasty.config
    handed.map (·.2) = [⟨some 5000000000, some 0⟩, ⟨some 5000002000, none⟩] ∧
      (.rollback 0, last) ∈ handed ∧ ∀ later, last.err later ≠ some .cancelled := by
  intro w handed last
  have hmem : Errand.recovery ⟨2000, [.spent]⟩ 0 ∈ givingUp.errands hasty w := by
    have hrecovered : (givingUp.errands hasty w).filterMap Errand.recovered? = [(⟨2000, [.spent]⟩, 0)] := by
      decide +kernel
    have hone : (⟨2000, [.spent]⟩, 0) ∈ (givingUp.errands hasty w).filterMap Errand.recovered? := by
      rw [hrecovered]
      exact List.mem_singleton.mpr rfl
    rw [List.mem_filterMap] at hone
    obtain ⟨e, he, hrec⟩ := hone
    cases e with
    | recovery env tx =>
        cases hrec
        exact he
    | caller => cases hrec
    | drop => cases hrec
  obtain ⟨-, -, hrecovery, -⟩ := Program.contexts_by_rule hasty givingUp w
  obtain ⟨hhanded, -, hlater⟩ := hrecovery _ _ hmem
  exact ⟨by decide +kernel, hhanded, hlater⟩

end givingUp

end DbAccess
