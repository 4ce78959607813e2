import DbAccess.Proofs.Session.Statement
/-!
# Beginning and finishing a transaction

What `begin`, `commit`, `rollback` and `abandon` do to the world and to the trace. Whoever finishes a
transaction takes it out of the active ones first, so it is the first one only who reaches the driver,
whatever the driver answers then.
-/

namespace DbAccess

/-- The world without a transaction among the active ones. -/
def World.without {δ σ : Type} (w : World δ σ) (tx : TxId) : World δ σ :=
  { w with active := w.active.filter (· != tx) }

theorem World.contains_without {δ σ : Type} (w : World δ σ) (tx : TxId) :
    (w.without tx).active.contains tx = false := by
  simp [World.without]

namespace Database

variable {δ σ ν α : Type} (db : Database δ σ ν) (w : World δ σ) (tx : TxId)

open SessionM

/-! ### Finishing -/

@[simp] theorem effectiveContext_without (ctx : Context) :
    db.effectiveContext (w.without tx) ctx = db.effectiveContext w ctx := rfl

theorem run_take :
    (take tx : SessionM δ σ ν Bool).run w =
      if w.active.contains tx then ⟨.value true, w.without tx, []⟩ else ⟨.value false, w, []⟩ := by
  simp only [take, run_bind, run_isActive, SessionRun.andThen_value, SessionRun.after_nil]
  cases w.active.contains tx <;> rfl

/-- The reply to a finishing call as the outcome of a computation. -/
def finishOutcome (unit : α → Unit) : Reply α → Outcome Unit
  | .ok a => .value (unit a)
  | .error e => .failed (db.classify e)
  | .never => .stuck

theorem run_finishBy (ctx : Context) (c : DriverCall) (unit : c.Answer → Unit) :
    (db.finishBy tx ctx c unit).run w =
      if w.active.contains tx then
        let w' := (w.without tx).tick
        let ctx' := db.effectiveContext w ctx
        ⟨db.finishOutcome unit (db.driverRun w' ctx' c).reply, db.driverWorld w' ctx' c,
          db.driverTrace w' ctx' c⟩
      else ⟨.failed .transactionClosed, w, []⟩ := by
  simp only [finishBy, run_bind, run_take]
  cases w.active.contains tx with
  | false => rfl
  | true =>
      simp only [if_true, run_bind, run_effective, run_dispatch, SessionRun.andThen_value,
        SessionRun.after_nil]
      rw [effectiveContext_without]
      cases (db.driverRun (w.without tx).tick (db.effectiveContext w ctx) c).reply with
      | ok a =>
          simp [replyOutcome, finishOutcome, SessionRun.after, resultOutcome, Except.map]
      | error e =>
          simp [replyOutcome, finishOutcome, SessionRun.after, resultOutcome, Except.map]
      | never => rfl

theorem run_finishBy_of_active {ctx : Context} {c : DriverCall} {unit : c.Answer → Unit}
    (h : w.active.contains tx = true) :
    (db.finishBy tx ctx c unit).run w =
      let w' := (w.without tx).tick
      let ctx' := db.effectiveContext w ctx
      ⟨db.finishOutcome unit (db.driverRun w' ctx' c).reply, db.driverWorld w' ctx' c,
        db.driverTrace w' ctx' c⟩ := by
  rw [run_finishBy, if_pos h]

theorem run_finishBy_of_finished {ctx : Context} {c : DriverCall} {unit : c.Answer → Unit}
    (h : w.active.contains tx = false) :
    (db.finishBy tx ctx c unit).run w = ⟨.failed .transactionClosed, w, []⟩ := by
  rw [run_finishBy, h]
  rfl

theorem run_commit_of_finished (ctx : Context) (h : w.active.contains tx = false) :
    (db.commit tx ctx).run w = ⟨.failed .transactionClosed, w, []⟩ :=
  db.run_finishBy_of_finished w tx h

theorem run_rollback_of_finished (ctx : Context) (h : w.active.contains tx = false) :
    (db.rollback tx ctx).run w = ⟨.failed .transactionClosed, w, []⟩ :=
  db.run_finishBy_of_finished w tx h

/-- What is logged when a rollback comes to nothing after a transaction was given up. -/
def abandonLog : Reply Unit → List (Event ν)
  | .error e => [.log (.abandonedRollbackFailed (db.classify e))]
  | _ => []

theorem run_abandon_of_active {unwinding : Bool} (h : w.active.contains tx = true) :
    (db.abandon tx unwinding).run w =
      let d := db.driverRun (w.without tx) .background (.rollback tx)
      ⟨match d.reply with
        | .never => .stuck
        | _ => .value (),
        db.driverWorld (w.without tx) .background (.rollback tx),
        .log (.abandoned unwinding) :: db.driverTrace (w.without tx) .background (.rollback tx) ++
          db.abandonLog d.reply⟩ := by
  have hd : (db.dispatch .background (.rollback tx) : SessionM δ σ ν (Except RawError Unit)).run
      (w.without tx) = _ := db.run_dispatch (w.without tx) .background (.rollback tx)
  simp only [abandon, run_bind, run_take, if_pos h, SessionRun.andThen_value, SessionRun.after_nil,
    if_true, run_log]
  rw [hd]
  cases (db.driverRun (w.without tx) .background (.rollback tx)).reply with
  | ok a => simp [replyOutcome, SessionRun.after, abandonLog]
  | error e => simp [replyOutcome, SessionRun.after, abandonLog]
  | never => simp [replyOutcome, SessionRun.after, abandonLog]

theorem run_abandon_of_finished {unwinding : Bool} (h : w.active.contains tx = false) :
    (db.abandon tx unwinding).run w = ⟨.value (), w, []⟩ := by
  simp only [abandon, run_bind, run_take, h, Bool.false_eq_true, if_false, SessionRun.andThen_value,
    SessionRun.after_nil]
  rfl

/-! ### Beginning -/

/-- The world with a new transaction among the active ones. -/
def begun (w : World δ σ) : World δ σ :=
  { w with active := w.nextTx :: w.active, nextTx := w.nextTx + 1 }

theorem contains_begun : (begun w).active.contains w.nextTx = true := by simp [begun]

theorem run_begin_of_refused {ctx : Context} {opts : TxOptions} {e : ContextError}
    (h : db.refusal? w ctx = some e) :
    (db.begin ctx opts).run w = ⟨.failed (db.classify (.context e)), w.tick, []⟩ := by
  have hlive := db.run_dispatchLive w.tick (db.effectiveContext w ctx) (.begin w.nextTx opts)
  rw [show (db.effectiveContext w ctx).err w.tick.env = some e from h] at hlive
  simp only [begin, run_bind, run_effective, run_world, SessionRun.andThen_value, SessionRun.after_nil]
  rw [show w.tick.nextTx = w.nextTx from rfl, hlive]
  rfl

/-- What a dispatched begin ends with. -/
def beginOutcome : Reply Unit → Outcome TxId
  | .ok _ => .value w.nextTx
  | .error e => .failed (db.classify e)
  | .never => .stuck

/-- The world after a dispatched begin. -/
def beginWorld (ctx : Context) (opts : TxOptions) : World δ σ :=
  let ctx' := db.effectiveContext w ctx
  let w' := db.driverWorld w.tick ctx' (.begin w.nextTx opts)
  match (db.driverRun w.tick ctx' (.begin w.nextTx opts)).reply with
  | .ok _ => begun w'
  | _ => w'

theorem run_begin_of_live {ctx : Context} {opts : TxOptions} (h : db.refusal? w ctx = none) :
    (db.begin ctx opts).run w =
      let ctx' := db.effectiveContext w ctx
      ⟨db.beginOutcome w (db.driverRun w.tick ctx' (.begin w.nextTx opts)).reply,
        db.beginWorld w ctx opts, db.driverTrace w.tick ctx' (.begin w.nextTx opts)⟩ := by
  have hlive := db.run_dispatchLive w.tick (db.effectiveContext w ctx) (.begin w.nextTx opts)
  rw [show (db.effectiveContext w ctx).err w.tick.env = none from h] at hlive
  simp only [begin, run_bind, run_effective, run_world, SessionRun.andThen_value, SessionRun.after_nil]
  rw [show w.tick.nextTx = w.nextTx from rfl, hlive, run_dispatch]
  simp only [beginWorld]
  cases (db.driverRun w.tick (db.effectiveContext w ctx) (.begin w.nextTx opts)).reply with
  | ok a => simp [replyOutcome, SessionRun.after, beginOutcome, resultOutcome, begun,
      driverWorld, World.tick]
  | error e => simp [replyOutcome, SessionRun.after, beginOutcome, resultOutcome]
  | never => rfl

end Database

end DbAccess
