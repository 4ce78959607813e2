import DbAccess.Proofs.Session.Body
import DbAccess.Scripted
/-!
# The bracket around a body

`Database.settle` is what follows a body: the call that finishes the transaction, if it is still
active, and the outcome of the whole. `runInTransaction_bracket` puts the driver calls together, over
every driver and every body: nothing but a begin when that is refused, and otherwise statements on the
new session with exactly one finishing call behind them. `outcome_of_failed_body` says what a failed
body ends with. The error of a rollback that failed is mapped before it is looked at, so a mapper can
make it look like that of a transaction that was closed before, and then it is lost
(`rollback_error_lost`).
-/

namespace DbAccess.Database

variable {δ σ ν α : Type} (db : Database δ σ ν) (ctx : Context) (tx : TxId) (w : World δ σ)

open SessionM

/-! ### After the body -/

/-- What follows a body, by its outcome. -/
def settle : Outcome α → SessionM δ σ ν α
  | .value a => do
    if ← isActive tx then
      db.commit tx ctx
      return a
    else
      log .alreadyFinished
      return a
  | .failed e => do
    match ← attempt (db.rollback tx .background) with
    | .ok () => fail e
    | .error .transactionClosed => fail e
    | .error undo =>
      log (.rollbackFailed undo)
      fail (.rollback e undo)
  | .panicked text => do
    db.abandon tx true
    panicWith text
  | .stuck => finish .stuck

theorem runInTransaction_eq (opts : TxOptions) (body : TxId → SessionM δ σ ν α) :
    db.runInTransaction ctx opts body =
      db.begin ctx opts >>= fun tx => catching (body tx) >>= db.settle ctx tx := rfl

theorem run_of_begun (opts : TxOptions) (body : TxId → SessionM δ σ ν α)
    (h : ((db.begin ctx opts).run w).outcome = .value tx) :
    (db.runInTransaction ctx opts body).run w =
      let b := (db.begin ctx opts).run w
      let i := (body tx).run b.world
      ((db.settle ctx tx i.outcome).run i.world).after (b.trace ++ i.trace) := by
  rw [runInTransaction_eq, run_bind, SessionRun.andThen_of_value h]
  simp

theorem run_of_not_begun (opts : TxOptions) (body body' : TxId → SessionM δ σ ν α)
    (h : ∀ tx, ((db.begin ctx opts).run w).outcome ≠ .value tx) :
    (db.runInTransaction ctx opts body).run w = (db.runInTransaction ctx opts body').run w ∧
      ((db.runInTransaction ctx opts body).run w).trace = ((db.begin ctx opts).run w).trace := by
  simp only [runInTransaction_eq, run_bind]
  generalize (db.begin ctx opts).run w = b at h
  obtain ⟨o, w', t⟩ := b
  cases o with
  | value tx => exact absurd rfl (h tx)
  | failed e => exact ⟨rfl, rfl⟩
  | panicked text => exact ⟨rfl, rfl⟩
  | stuck => exact ⟨rfl, rfl⟩

/-- The finishing call that follows a body, by whether the transaction is still active and by the
outcome. -/
def closing (active : Bool) : Outcome α → List DriverCall
  | .value _ => if active then [.commit tx] else []
  | .failed _ | .panicked _ => if active then [.rollback tx] else []
  | .stuck => []

/-- The reply to a commit that follows a body in this world. -/
def commitReply : Reply Unit :=
  (db.driverRun (w.without tx).tick (db.effectiveContext w ctx) (.commit tx)).reply

/-- The reply to a rollback that follows a body in this world. -/
def rollbackReply : Reply Unit :=
  (db.driverRun (w.without tx).tick (db.effectiveContext w .background) (.rollback tx)).reply

theorem run_commit_of_active {ctx : Context} (h : w.active.contains tx = true) :
    (db.commit tx ctx).run w =
      let w' := (w.without tx).tick
      let ctx' := db.effectiveContext w ctx
      ⟨db.finishOutcome id (db.commitReply ctx tx w), db.driverWorld w' ctx' (.commit tx),
        db.driverTrace w' ctx' (.commit tx)⟩ :=
  db.run_finishBy_of_active w tx h

theorem run_rollback_of_active (h : w.active.contains tx = true) :
    (db.rollback tx .background).run w =
      let w' := (w.without tx).tick
      let ctx' := db.effectiveContext w .background
      ⟨db.finishOutcome id (db.rollbackReply tx w), db.driverWorld w' ctx' (.rollback tx),
        db.driverTrace w' ctx' (.rollback tx)⟩ :=
  db.run_finishBy_of_active w tx h

/-- What a body that ended with a value ends with after the commit. -/
def commitOutcome (a : α) : Reply Unit → Outcome α
  | .ok _ => .value a
  | .error r => .failed (db.classify r)
  | .never => .stuck

/-- What a failed body ends with after the rollback. -/
def failureOutcome (e : Error) : Reply Unit → Outcome α
  | .ok _ => .failed e
  | .error r =>
    if db.classify r = .transactionClosed then .failed e else .failed (.rollback e (db.classify r))
  | .never => .stuck

/-- What is logged about the rollback after a failed body. -/
def failureLog : Reply Unit → List (Event ν)
  | .error r =>
    if db.classify r = .transactionClosed then [] else [.log (.rollbackFailed (db.classify r))]
  | _ => []

/-- What a body that panicked ends with after the rollback. -/
def panicOutcome (text : String) : Reply Unit → Outcome α
  | .never => .stuck
  | _ => .panicked text

theorem run_settle_value_of_active {a : α} (h : w.active.contains tx = true) :
    (db.settle ctx tx (.value a)).run w =
      let w' := (w.without tx).tick
      let ctx' := db.effectiveContext w ctx
      ⟨db.commitOutcome a (db.commitReply ctx tx w), db.driverWorld w' ctx' (.commit tx),
        db.driverTrace w' ctx' (.commit tx)⟩ := by
  simp only [settle, run_bind, run_isActive, SessionRun.andThen_value, SessionRun.after_nil, if_pos h,
    db.run_commit_of_active tx w h]
  cases db.commitReply ctx tx w <;> simp [finishOutcome, commitOutcome, SessionRun.after]

theorem run_settle_value_of_finished {a : α} (h : w.active.contains tx = false) :
    (db.settle ctx tx (.value a)).run w = ⟨.value a, w, [.log .alreadyFinished]⟩ := by
  simp only [settle, run_bind, run_isActive, SessionRun.andThen_value, SessionRun.after_nil, h]
  rfl

theorem run_settle_failed_of_active {e : Error} (h : w.active.contains tx = true) :
    (db.settle ctx tx (.failed e : Outcome α)).run w =
      let w' := (w.without tx).tick
      let ctx' := db.effectiveContext w .background
      ⟨db.failureOutcome e (db.rollbackReply tx w), db.driverWorld w' ctx' (.rollback tx),
        db.driverTrace w' ctx' (.rollback tx) ++ db.failureLog (db.rollbackReply tx w)⟩ := by
  simp only [settle, run_bind, run_attempt, db.run_rollback_of_active tx w h]
  cases db.rollbackReply tx w with
  | ok u => simp [finishOutcome, attempted, failureOutcome, failureLog, SessionRun.after]
  | never => simp [finishOutcome, attempted, failureOutcome, failureLog]
  | error r =>
      simp only [finishOutcome, attempted, SessionRun.andThen_value, failureOutcome, failureLog]
      by_cases hc : db.classify r = .transactionClosed
      · simp [hc, SessionRun.after]
      · rw [if_neg hc, if_neg hc]
        split
        · rename_i hok
          cases hok
        · rename_i herr
          injection herr with herr
          exact absurd herr hc
        · rename_i undo _ herr
          injection herr with herr
          simp [herr, SessionRun.after]

theorem run_settle_failed_of_finished {e : Error} (h : w.active.contains tx = false) :
    (db.settle ctx tx (.failed e : Outcome α)).run w = ⟨.failed e, w, []⟩ := by
  simp only [settle, run_bind, run_attempt, db.run_rollback_of_finished w tx .background h]
  rfl

theorem run_settle_panicked_of_active {text : String} (h : w.active.contains tx = true) :
    ((db.settle ctx tx (.panicked text : Outcome α)).run w) =
      let d := (db.driverRun (w.without tx) .background (.rollback tx)).reply
      ⟨panicOutcome text d, db.driverWorld (w.without tx) .background (.rollback tx),
        .log (.abandoned true) :: db.driverTrace (w.without tx) .background (.rollback tx) ++
          db.abandonLog d⟩ := by
  simp only [settle, run_bind, db.run_abandon_of_active w tx h]
  cases (db.driverRun (w.without tx) .background (.rollback tx)).reply <;>
    simp [panicOutcome, SessionRun.after]

theorem run_settle_panicked_of_finished {text : String} (h : w.active.contains tx = false) :
    (db.settle ctx tx (.panicked text : Outcome α)).run w = ⟨.panicked text, w, []⟩ := by
  simp only [settle, run_bind, db.run_abandon_of_finished w tx h]
  rfl

@[simp] theorem calls_failureLog (d : Reply Unit) :
    (db.failureLog d : List (Event ν)).filterMap Event.call? = [] := by
  unfold failureLog
  split
  · split <;> rfl
  · rfl

@[simp] theorem calls_abandonLog (d : Reply Unit) :
    (db.abandonLog d : List (Event ν)).filterMap Event.call? = [] := by
  cases d <;> rfl

theorem calls_settle (o : Outcome α) :
    ((db.settle ctx tx o).run w).calls = closing tx (w.active.contains tx) o := by
  cases h : w.active.contains tx with
  | true =>
      cases o with
      | value a => simp [db.run_settle_value_of_active ctx tx w h, closing]
      | failed e => simp [db.run_settle_failed_of_active ctx tx w h, closing]
      | panicked text =>
          rw [db.run_settle_panicked_of_active ctx tx w h, SessionRun.calls_mk, List.filterMap_append,
            calls_abandonLog, List.append_nil]
          exact db.calls_driverTrace (w.without tx) .background (.rollback tx)
      | stuck => rfl
  | false =>
      cases o with
      | value a => simp [db.run_settle_value_of_finished ctx tx w h, closing, Event.call?]
      | failed e => simp [db.run_settle_failed_of_finished ctx tx w h, closing]
      | panicked text => simp [db.run_settle_panicked_of_finished ctx tx w h, closing]
      | stuck => rfl

/-! ### The calls of a run -/

theorem calls_begin (opts : TxOptions) :
    ((db.begin ctx opts).run w).calls =
      if (db.refusal? w ctx).isSome then [] else [.begin w.nextTx opts] := by
  cases h : db.refusal? w ctx with
  | some e => simp [db.run_begin_of_refused w h]
  | none =>
      rw [db.run_begin_of_live w h, SessionRun.calls_mk]
      exact db.calls_driverTrace w.tick (db.effectiveContext w ctx) (.begin w.nextTx opts)

theorem active_of_begun {opts : TxOptions} (h : ((db.begin ctx opts).run w).outcome = .value tx) :
    ((db.begin ctx opts).run w).world.active.contains tx = true := by
  cases hr : db.refusal? w ctx with
  | some e =>
      rw [db.run_begin_of_refused w hr] at h
      cases h
  | none =>
      rw [db.run_begin_of_live w hr] at h ⊢
      simp only [beginOutcome, beginWorld] at h ⊢
      generalize db.driverRun w.tick (db.effectiveContext w ctx) (.begin w.nextTx opts) = d at h ⊢
      cases hd : d.reply with
      | ok u =>
          rw [hd] at h
          injection h with h
          rw [← h]
          exact contains_begun (db.driverWorld w.tick (db.effectiveContext w ctx) (.begin w.nextTx opts))
      | error e =>
          rw [hd] at h
          cases h
      | never =>
          rw [hd] at h
          cases h

/-- The calls of a body that ends, with what follows it, are those of a session that is finished. -/
theorem sessionCalls_closing {active : Bool} {cs : List DriverCall} (o : Outcome α)
    (h : SessionCalls tx active cs) :
    SessionCalls tx (o.isStuck && active) (cs ++ closing tx active o) := by
  have hc : SessionCalls tx false [.commit tx] := .finish (.inl rfl)
  have hr : SessionCalls tx false [.rollback tx] := .finish (.inr rfl)
  cases active with
  | false => cases o <;> simpa [closing] using h
  | true =>
      cases o with
      | value a => exact h.append hc
      | failed e => exact h.append hr
      | panicked text => exact h.append hr
      | stuck => exact h.append .nil

theorem calls_of_begun (opts : TxOptions) (body : TxId → SessionM δ σ ν α)
    (h : ((db.begin ctx opts).run w).outcome = .value tx) :
    ((db.runInTransaction ctx opts body).run w).calls =
      let b := (db.begin ctx opts).run w
      let i := (body tx).run b.world
      b.calls ++ (i.calls ++ closing tx (i.world.active.contains tx) i.outcome) := by
  rw [db.run_of_begun ctx tx w opts body h]
  simp only [SessionRun.calls_after, calls_settle, List.filterMap_append, List.append_assoc]
  rfl

theorem countP_isBegin_of_sessionCalls {active : Bool} {cs : List DriverCall}
    (h : SessionCalls tx active cs) :
    cs.countP DriverCall.isBegin = 0 := by
  induction h with
  | nil => rfl
  | @statement active c cs hc _ ih =>
      rw [List.countP_cons, ih]
      cases c <;> simp_all [DriverCall.target?, DriverCall.isBegin]
  | finish hc => rcases hc with rfl | rfl <;> rfl

theorem countP_isBegin_begin (opts : TxOptions) :
    ((db.begin ctx opts).run w).calls.countP DriverCall.isBegin ≤ 1 := by
  rw [calls_begin]
  split
  · exact Nat.zero_le 1
  · exact Nat.le_refl 1

/-- **The bracket.** At most one begin is dispatched. When it is not, or when it fails, the body makes
no difference and there are no other calls. When it succeeds, what follows it are the calls of the
body with the one that settles the transaction: statements on the new session with one finishing call
behind them, unless the body never ends. -/
theorem runInTransaction_bracket (opts : TxOptions) (body : Body α) :
    let b := (db.begin ctx opts).run w
    let r := (db.runInTransaction ctx opts (body.run db)).run w
    b.calls = (if (db.refusal? w ctx).isSome then [] else [.begin w.nextTx opts]) ∧
    r.calls.countP DriverCall.isBegin ≤ 1 ∧
    match b.outcome with
    | .value tx =>
      let i := (body.run db tx).run b.world
      let active := i.world.active.contains tx
      let session := i.calls ++ closing tx active i.outcome
      r.calls = b.calls ++ session ∧
      (i.outcome.isStuck = true ∨
        ∃ ss f, session = ss ++ [f] ∧ (∀ c ∈ ss, c.target? = some (.session tx)) ∧ f.Finishes tx)
    | _ =>
      r.calls = b.calls ∧
      ∀ other : TxId → SessionM δ σ ν α, (db.runInTransaction ctx opts other).run w = r := by
  refine ⟨db.calls_begin ctx w opts, ?_⟩
  have hbegin := db.countP_isBegin_begin ctx w opts
  cases h : ((db.begin ctx opts).run w).outcome with
  | value tx =>
      have hs := sessionCalls_closing tx ((body.run db tx).run ((db.begin ctx opts).run w).world).outcome
        (body.sessionCalls db tx _ (db.active_of_begun ctx tx w h))
      have hcalls := db.calls_of_begun ctx tx w opts (body.run db) h
      refine ⟨?_, hcalls, ?_⟩
      · rw [hcalls, List.countP_append, countP_isBegin_of_sessionCalls tx hs]
        exact hbegin
      · cases hk : ((body.run db tx).run ((db.begin ctx opts).run w).world).outcome.isStuck with
        | true => exact .inl rfl
        | false =>
            rw [hk] at hs
            exact .inr hs.exists_of_finished
  | _ =>
      have hn : ∀ tx, ((db.begin ctx opts).run w).outcome ≠ .value tx := by
        intro tx htx
        rw [h] at htx
        cases htx
      have hcalls : ((db.runInTransaction ctx opts (body.run db)).run w).calls =
          ((db.begin ctx opts).run w).calls :=
        congrArg (List.filterMap Event.call?)
          (db.run_of_not_begun ctx w opts (body.run db) (body.run db) hn).2
      refine ⟨?_, hcalls, ?_⟩
      · rw [hcalls]
        exact hbegin
      · intro other
        exact (db.run_of_not_begun ctx w opts other (body.run db) hn).1

/-! ### Failed bodies -/

/-- **What a failed body ends with.** Its own error, when it had finished the transaction itself.
Otherwise a rollback is dispatched behind the body's calls, and the error of the body is kept by
whatever the driver answers; the error of the rollback is kept with it unless it is mapped to that of
a transaction that was closed before. -/
theorem outcome_of_failed_body (opts : TxOptions) (body : TxId → SessionM δ σ ν α) {e : Error}
    (hbegin : ((db.begin ctx opts).run w).outcome = .value tx)
    (hbody : ((body tx).run ((db.begin ctx opts).run w).world).outcome = .failed e) :
    let b := (db.begin ctx opts).run w
    let i := (body tx).run b.world
    let r := (db.runInTransaction ctx opts body).run w
    if i.world.active.contains tx then
      r.calls = b.calls ++ (i.calls ++ [.rollback tx]) ∧
      r.outcome = match db.rollbackReply tx i.world with
        | .ok () => .failed e
        | .error raw =>
          .failed (if db.classify raw = .transactionClosed then e else .rollback e (db.classify raw))
        | .never => .stuck
    else
      r.calls = b.calls ++ i.calls ∧ r.outcome = .failed e := by
  have hcalls := db.calls_of_begun ctx tx w opts body hbegin
  have hrun := db.run_of_begun ctx tx w opts body hbegin
  simp only [hbody] at hcalls hrun ⊢
  generalize (body tx).run ((db.begin ctx opts).run w).world = i at hcalls hrun ⊢
  cases ha : i.world.active.contains tx with
  | true =>
      rw [if_pos rfl]
      rw [ha] at hcalls
      refine ⟨hcalls, ?_⟩
      rw [hrun, SessionRun.outcome_after, db.run_settle_failed_of_active ctx tx _ ha]
      show db.failureOutcome e (db.rollbackReply tx i.world) = _
      cases db.rollbackReply tx i.world with
      | ok u => rfl
      | error raw => exact (apply_ite Outcome.failed _ _ _).symm
      | never => rfl
  | false =>
      rw [if_neg Bool.false_ne_true]
      rw [ha] at hcalls
      refine ⟨by simpa [closing] using hcalls, ?_⟩
      rw [hrun, SessionRun.outcome_after, db.run_settle_failed_of_finished ctx tx _ ha]

section broken

/-- What the driver of this section answers to a rollback. -/
def diskError : RawError := .backend (.ofText "disk I/O error")

/-- A database whose driver cannot roll back, with the mapper. -/
def broken (m : Mapper) : Database Scripted.State Unit Unit :=
  ⟨Scripted.driver ⟨.sqlite, [(.rollback, ⟨diskError, none⟩)], [], [], false⟩, ⟨[]⟩, m, .default⟩

/-- A world where nothing has happened. -/
def quiet : World Scripted.State Unit := ⟨⟨0, []⟩, [], (), 0, [], 0⟩

/-- A body that fails at once. -/
def failing : TxId → SessionM Scripted.State Unit Unit Unit := fun _ => fail (.custom "validation failed")

/-- Both errors come back when the rollback fails. -/
theorem outcome_of_failed_body_of_broken :
    (((broken (.ofFunction id)).runInTransaction .background .default failing).run quiet).outcome =
      .failed (.rollback (.custom "validation failed") (.raw diskError)) :=
  (outcome_of_failed_body (broken (.ofFunction id)) .background 0 quiet .default failing rfl rfl).2

/-- With a mapper that takes every error for that of a closed transaction, the driver is asked for the
rollback and fails, and only the error of the body comes back. -/
theorem rollback_error_lost :
    let db := broken (.ofFunction fun _ => .transactionClosed)
    let b := (db.begin .background .default).run quiet
    let r := (db.runInTransaction .background .default failing).run quiet
    r.calls = [.begin 0 .default, .rollback 0] ∧
    db.rollbackReply 0 ((failing 0).run b.world).world = .error diskError ∧
    r.outcome = .failed (.custom "validation failed") ∧
    r.outcome ≠ .failed (.rollback (.custom "validation failed") (db.mapper.map (.raw diskError))) :=
  ⟨rfl, rfl, rfl, nofun⟩

end broken

end DbAccess.Database
