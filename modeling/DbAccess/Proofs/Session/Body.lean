import DbAccess.Proofs.Session.Finish
/-!
# Bodies of transactions

A `Request` is what code does with whoever executes statements, a `TxCall` what it does with a
transaction, and a `Body` is a finite tree of such calls: after each call the body goes on as the
result tells it. Between calls the clock and the signals may change in any way, and the body may look
at them.

`Request.run_request` says that every request is one statement with a reading of its result.
`SessionCalls` is the order in which a session gets its calls; `Body.sessionCalls` says that every
body keeps it, and what is left of the transaction afterwards.
-/

namespace DbAccess

/-! ### What code asks for -/

/-- What is asked of a database or of a transaction. -/
inductive Request where
  | execute (ctx : Context) (sql : String) (args : List Value)
  | query (ctx : Context) (sql : String) (args : List Value)
  | queryOne (ctx : Context) (sql : String) (args : List Value)
  | prepare (ctx : Context) (sql : String)
  | executePrepared (ctx : Context) (stmt : PreparedStatement) (args : List Value)
  | queryPrepared (ctx : Context) (stmt : PreparedStatement) (args : List Value)
  | queryOnePrepared (ctx : Context) (stmt : PreparedStatement) (args : List Value)

namespace Request

/-- What a request is answered with when it succeeds. -/
abbrev Answer : Request → Type
  | execute .. | executePrepared .. => UInt64
  | query .. | queryPrepared .. => List Row
  | queryOne .. | queryOnePrepared .. => OneRow
  | prepare .. => Statement

/-- The context of a request. -/
def ctx : Request → Context
  | execute ctx .. | query ctx .. | queryOne ctx .. | prepare ctx _ | executePrepared ctx ..
  | queryPrepared ctx .. | queryOnePrepared ctx .. => ctx

/-- The statement that the hooks are told of. -/
def sql : Request → String
  | execute _ sql _ | query _ sql _ | queryOne _ sql _ | prepare _ sql => sql
  | executePrepared _ stmt _ | queryPrepared _ stmt _ | queryOnePrepared _ stmt _ => stmt.sql

/-- The arguments that the hooks are told of. -/
def args : Request → List Value
  | prepare .. => []
  | execute _ _ args | query _ _ args | queryOne _ _ args | executePrepared _ _ args
  | queryPrepared _ _ args | queryOnePrepared _ _ args => args

/-- The driver call of a request. -/
def call (t : Target) : Request → DriverCall
  | execute _ sql args => .execute t sql args
  | query _ sql args => .query t sql args
  | queryOne _ sql args => .queryOne t sql args
  | prepare _ sql => .prepare t sql
  | executePrepared _ stmt args => .executePrepared t stmt args
  | queryPrepared _ stmt args => .queryPrepared t stmt args
  | queryOnePrepared _ stmt args => .queryOnePrepared t stmt args

variable {δ σ ν : Type}

/-- Makes a request. -/
def run (db : Database δ σ ν) (t : Target) : (q : Request) → SessionM δ σ ν (Except Error q.Answer)
  | execute ctx sql args => SessionM.attempt (db.execute t ctx sql args)
  | query ctx sql args => SessionM.attempt (db.query t ctx sql args)
  | queryOne ctx sql args => SessionM.attempt (db.queryOne t ctx sql args)
  | prepare ctx sql => SessionM.attempt (db.prepare t ctx sql)
  | executePrepared ctx stmt args => SessionM.attempt (db.executePrepared ⟨t, stmt⟩ ctx args)
  | queryPrepared ctx stmt args => SessionM.attempt (db.queryPrepared ⟨t, stmt⟩ ctx args)
  | queryOnePrepared ctx stmt args => SessionM.attempt (db.queryOnePrepared ⟨t, stmt⟩ ctx args)

/-- What a request makes of the result of its statement. A query for one row keeps a failure for
later. -/
def result (db : Database δ σ ν) (t : Target) :
    (q : Request) → Except Error (q.call t).Answer → Except Error q.Answer
  | execute .., r => r
  | query .., r => r
  | queryOne .., r => .ok ⟨r, db.mapper⟩
  | prepare .., r => r.map (⟨t, ·⟩)
  | executePrepared .., r => r
  | queryPrepared .., r => r
  | queryOnePrepared .., r => .ok ⟨r, db.mapper⟩

/-- A request is one statement with a reading of its result. -/
theorem run_request (db : Database δ σ ν) (t : Target) (q : Request) (w : World δ σ) :
    (q.run db t).run w =
      ((db.statementAt t q.ctx q.sql q.args (q.call t)).run w).map (q.result db t) := by
  have hx := db.outcome_statementAt_ne_failed w q.ctx q.sql q.args (q.call t) t
  cases q with
  | execute => exact SessionM.run_attempt_bind w _ (fun r _ => by cases r <;> rfl) hx
  | query => exact SessionM.run_attempt_bind w _ (fun r _ => by cases r <;> rfl) hx
  | queryOne => exact SessionM.run_attempt_bind w _ (fun r _ => by cases r <;> rfl) hx
  | prepare => exact SessionM.run_attempt_bind w _ (fun r _ => by cases r <;> rfl) hx
  | executePrepared => exact SessionM.run_attempt_bind w _ (fun r _ => by cases r <;> rfl) hx
  | queryPrepared => exact SessionM.run_attempt_bind w _ (fun r _ => by cases r <;> rfl) hx
  | queryOnePrepared => exact SessionM.run_attempt_bind w _ (fun r _ => by cases r <;> rfl) hx

end Request

/-- What is asked of a transaction. -/
inductive TxCall where
  | statement (q : Request)
  | savepoint (ctx : Context) (op : Database.SavepointOp) (name : String)
  | commit (ctx : Context)
  | rollback (ctx : Context)

namespace TxCall

/-- What a call is answered with when it succeeds. -/
abbrev Answer : TxCall → Type
  | statement q => q.Answer
  | savepoint .. | commit _ | rollback _ => Unit

/-- Makes a call on a transaction. -/
def run {δ σ ν : Type} (db : Database δ σ ν) (tx : TxId) :
    (c : TxCall) → SessionM δ σ ν (Except Error c.Answer)
  | statement q => q.run db (.session tx)
  | savepoint ctx op name => SessionM.attempt (db.savepoint tx ctx op name)
  | commit ctx => SessionM.attempt (db.commit tx ctx)
  | rollback ctx => SessionM.attempt (db.rollback tx ctx)

end TxCall

/-- A body of a transaction. -/
inductive Body (α : Type) where
  /-- It ends. -/
  | done (o : Outcome α)
  /-- It makes a call and goes on with the result. -/
  | call (c : TxCall) (next : Except Error c.Answer → Body α)
  /-- Something happens to the clock and the signals, and the body looks at them and at whether the
  transaction is active. -/
  | meanwhile (change : Env → Env) (next : Env → Bool → Body α)

/-- Runs a body on a transaction. -/
def Body.run {δ σ ν α : Type} (db : Database δ σ ν) (tx : TxId) : Body α → SessionM δ σ ν α
  | done o => SessionM.finish o
  | call c next => do run db tx (next (← c.run db tx))
  | meanwhile change next => do
    SessionM.modify fun w => { w with env := change w.env }
    let w ← SessionM.world
    run db tx (next w.env (w.active.contains tx))

variable {δ σ ν α : Type} (db : Database δ σ ν) (tx : TxId) (w : World δ σ)

/-- An operation on a savepoint is the execution of its statement, when its name is one. -/
theorem TxCall.run_savepoint (ctx : Context) (op : Database.SavepointOp) (name : String) :
    ((TxCall.savepoint ctx op name).run db tx).run w =
      match Database.savepointFault? name with
      | some fault => ⟨.value (.error (.invalidInput fault)), w, []⟩
      | none =>
        (((Request.execute ctx (op.sql name) []).run db (.session tx)).run w).map
          (·.map fun _ => ()) := by
  simp only [TxCall.run, Database.savepoint]
  cases Database.savepointFault? name with
  | some fault => rfl
  | none => exact SessionM.run_attempt_discard w _

/-! ### The order of calls on a session -/

/-- Where a statement is addressed; other calls are no statements. -/
def DriverCall.target? : DriverCall → Option Target
  | execute t .. | query t .. | queryOne t .. | prepare t _ | executePrepared t ..
  | queryPrepared t .. | queryOnePrepared t .. => some t
  | begin .. | commit _ | rollback _ | ping | close => none

/-- The call begins a session. -/
def DriverCall.isBegin : DriverCall → Bool
  | begin .. => true
  | _ => false

theorem Request.target?_call (q : Request) (t : Target) : (q.call t).target? = some t := by
  cases q <;> rfl

/-- The call finishes a session. -/
def DriverCall.Finishes (tx : TxId) (c : DriverCall) : Prop := c = .commit tx ∨ c = .rollback tx

/-- The calls on a session from some moment on, and whether it is active after them: statements, and
at most one finishing call, which is the last. -/
inductive SessionCalls (tx : TxId) : Bool → List DriverCall → Prop
  | nil : SessionCalls tx true []
  | statement {active : Bool} {c : DriverCall} {cs : List DriverCall} :
      c.target? = some (.session tx) → SessionCalls tx active cs → SessionCalls tx active (c :: cs)
  | finish {c : DriverCall} : c.Finishes tx → SessionCalls tx false [c]

namespace SessionCalls

variable {tx : TxId} {active : Bool} {cs ds : List DriverCall}

theorem append (h : SessionCalls tx true cs) (h' : SessionCalls tx active ds) :
    SessionCalls tx active (cs ++ ds) := by
  generalize hb : true = b at h
  induction h with
  | nil => exact h'
  | statement hc _ ih => exact statement hc (ih hb)
  | finish _ => cases hb

/-- The calls on a session that is finished in the end: statements, and one finishing call. -/
theorem exists_of_finished (h : SessionCalls tx false cs) :
    ∃ ss f, cs = ss ++ [f] ∧ (∀ c ∈ ss, c.target? = some (.session tx)) ∧ f.Finishes tx := by
  generalize hb : false = b at h
  induction h with
  | nil => cases hb
  | statement hc _ ih =>
      obtain ⟨ss, f, rfl, hss, hf⟩ := ih hb
      exact ⟨_ :: ss, f, rfl, by simpa using ⟨hc, hss⟩, hf⟩
  | @finish c hc => exact ⟨[], c, rfl, by simp, hc⟩

end SessionCalls

/-! ### What a body does to its session -/

/-- A request to an active session is at most its one statement, and the session stays active. -/
theorem Request.sessionCalls (q : Request) (h : w.active.contains tx = true) :
    SessionCalls tx (((q.run db (.session tx)).run w).world.active.contains tx)
      ((q.run db (.session tx)).run w).calls := by
  have ht : Database.takes w (.session tx) = true := h
  rw [Request.run_request, SessionRun.world_map, SessionRun.calls_map, Database.run_statementAt,
    if_pos ht, Database.active_statement, Database.calls_statement, h]
  split
  · exact .nil
  · exact .statement (q.target?_call _) .nil

/-- A finishing call on an active session is its one call, and the session is finished, whatever the
driver answers. -/
theorem Database.sessionCalls_finishBy {ctx : Context} {c : DriverCall} {unit : c.Answer → Unit}
    (hc : c.Finishes tx) (h : w.active.contains tx = true) :
    SessionCalls tx (((db.finishBy tx ctx c unit).run w).world.active.contains tx)
      ((db.finishBy tx ctx c unit).run w).calls := by
  rw [Database.run_finishBy_of_active db w tx h]
  show SessionCalls tx ((w.without tx).active.contains tx) _
  rw [w.contains_without tx, SessionRun.calls_mk, Database.calls_driverTrace]
  exact .finish hc

/-- What a call on an active transaction does to its session. -/
theorem TxCall.sessionCalls (c : TxCall) (h : w.active.contains tx = true) :
    SessionCalls tx (((c.run db tx).run w).world.active.contains tx) ((c.run db tx).run w).calls := by
  cases c with
  | statement q => exact q.sessionCalls db tx w h
  | savepoint ctx op name =>
      rw [TxCall.run_savepoint]
      cases Database.savepointFault? name with
      | some fault => rw [h]; exact .nil
      | none => exact (Request.execute ctx (op.sql name) []).sessionCalls db tx w h
  | commit ctx =>
      have hf : (DriverCall.commit tx).Finishes tx := .inl rfl
      simp only [TxCall.run, Database.commit, SessionM.run_attempt]
      exact db.sessionCalls_finishBy tx w hf h
  | rollback ctx =>
      have hf : (DriverCall.rollback tx).Finishes tx := .inr rfl
      simp only [TxCall.run, Database.rollback, SessionM.run_attempt]
      exact db.sessionCalls_finishBy tx w hf h

theorem Request.run_of_finished (q : Request) (h : w.active.contains tx = false) :
    (q.run db (.session tx)).run w =
      ⟨.value (q.result db (.session tx) (.error .transactionClosed)), w, []⟩ := by
  have ht : Database.takes w (.session tx) = false := h
  rw [Request.run_request, Database.run_statementAt, ht]
  rfl

theorem TxCall.run_of_finished (c : TxCall) (h : w.active.contains tx = false) :
    ∃ r, (c.run db tx).run w = ⟨.value r, w, []⟩ := by
  cases c with
  | statement q => exact ⟨_, q.run_of_finished db tx w h⟩
  | savepoint ctx op name =>
      rw [TxCall.run_savepoint]
      cases Database.savepointFault? name with
      | some fault => exact ⟨_, rfl⟩
      | none =>
          rw [(Request.execute ctx (op.sql name) []).run_of_finished db tx w h]
          exact ⟨_, rfl⟩
  | commit ctx =>
      refine ⟨.error .transactionClosed, ?_⟩
      rw [TxCall.run, SessionM.run_attempt, db.run_commit_of_finished w tx ctx h]
      rfl
  | rollback ctx =>
      refine ⟨.error .transactionClosed, ?_⟩
      rw [TxCall.run, SessionM.run_attempt, db.run_rollback_of_finished w tx ctx h]
      rfl

/-- A body on a finished transaction makes no driver calls, and the transaction stays finished. -/
theorem Body.calls_of_finished (body : Body α) (h : w.active.contains tx = false) :
    ((body.run db tx).run w).calls = [] ∧
      ((body.run db tx).run w).world.active.contains tx = false := by
  induction body generalizing w with
  | done o => exact ⟨rfl, h⟩
  | call c next ih =>
      obtain ⟨r, hr⟩ := c.run_of_finished db tx w h
      simpa [Body.run, hr] using ih r w h
  | meanwhile change next ih =>
      simpa [Body.run] using ih _ _ { w with env := change w.env } h

/-- **Every body keeps the order of calls on its session.** -/
theorem Body.sessionCalls (body : Body α) (h : w.active.contains tx = true) :
    SessionCalls tx (((body.run db tx).run w).world.active.contains tx)
      ((body.run db tx).run w).calls := by
  induction body generalizing w with
  | done o =>
      simp only [Body.run, SessionM.run_finish, h]
      exact .nil
  | call c next ih =>
      have hc := c.sessionCalls db tx w h
      simp only [Body.run, SessionM.run_bind]
      generalize (c.run db tx).run w = r at hc
      obtain ⟨o, w', t⟩ := r
      cases o with
      | value a =>
          simp only [SessionRun.andThen_value, SessionRun.world_after, SessionRun.calls_after]
          cases ha : w'.active.contains tx with
          | true =>
              rw [SessionRun.calls_mk, ha] at hc
              exact hc.append (ih a w' ha)
          | false =>
              obtain ⟨hn, hf⟩ := Body.calls_of_finished db tx w' (next a) ha
              rw [SessionRun.calls_mk, ha] at hc
              rw [hf, hn, List.append_nil]
              exact hc
      | failed e => exact hc
      | panicked text => exact hc
      | stuck => exact hc
  | meanwhile change next ih =>
      simpa [Body.run] using ih _ _ { w with env := change w.env } h

end DbAccess
