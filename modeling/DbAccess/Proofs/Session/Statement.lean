import DbAccess.Proofs.Session.Trace
/-!
# The way of a statement

What each part of a statement's way does to the world and to the trace. Only the dispatch leaves
driver calls, and no part changes which transactions are active (`active_statement`). The hooks that are told
that a statement begins may take time and cancel contexts, so whether the driver is asked is decided in the
world that they leave (`briefed`): the calls of a statement are the one call it stands for, or none when its
context has ended by then (`calls_statement`). A statement for a session that is finished is refused before
anything happens (`run_statementAt`).
-/

namespace DbAccess

/-- The world a moment later. -/
def World.tick {δ σ : Type} (w : World δ σ) : World δ σ := { w with env := w.env.tick }

namespace Database

variable {δ σ ν α : Type} (db : Database δ σ ν) (w : World δ σ)

open SessionM

/-! ### The parts -/

/-- The context of a call that begins in this world. -/
def effectiveContext (ctx : Context) : Context := ctx.orTimeout w.env db.config.defaultTimeout

@[simp] theorem run_effective (ctx : Context) :
    (db.effective ctx).run w = ⟨.value (db.effectiveContext w ctx), w.tick, []⟩ := rfl

/-- The world after the hooks are told. -/
def told (n : Notice) : World δ σ :=
  let r := db.hooks.tell ⟨w.env, w.thread⟩ n w.hooks
  { w with env := r.env, hooks := r.state }

/-- What the hooks leave when they are told. -/
def heard (n : Notice) : List (Event ν) :=
  (db.hooks.tell ⟨w.env, w.thread⟩ n w.hooks).events.map .hook

@[simp] theorem run_tell (n : Notice) :
    (db.tell n).run w = ⟨.value (), db.told w n, db.heard w n⟩ := rfl

@[simp] theorem calls_heard (n : Notice) : (db.heard w n).filterMap Event.call? = [] := by
  simp [heard, List.filterMap_map, Function.comp_def, Event.call?]

/-- What the driver makes of a call that is handed to it in this world. -/
def driverRun (ctx : Context) (c : DriverCall) : DriverRun δ c.Answer :=
  db.driver.run c ⟨ctx, w.thread⟩ w.env.tick w.driver

/-- The world when the driver returns. -/
def driverWorld (ctx : Context) (c : DriverCall) : World δ σ :=
  { w with env := (db.driverRun w ctx c).env, driver := (db.driverRun w ctx c).state }

/-- What occurs while the driver has a call. -/
def driverTrace (ctx : Context) (c : DriverCall) : List (Event ν) :=
  .call c ctx (ctx.state w.env.tick) :: (db.driverRun w ctx c).log.map .log

@[simp] theorem mapError_ok {ε ε' : Type} (f : ε → ε') (a : α) :
    (.ok a : Except ε α).mapError f = .ok a := rfl

@[simp] theorem mapError_error {ε ε' : Type} (f : ε → ε') (e : ε) :
    (.error e : Except ε α).mapError f = .error (f e) := rfl

/-- A reply as the outcome of a computation. -/
def replyOutcome : Reply α → Outcome (Except RawError α)
  | .ok a => .value (.ok a)
  | .error e => .value (.error e)
  | .never => .stuck

@[simp] theorem run_dispatch (ctx : Context) (c : DriverCall) :
    (db.dispatch ctx c).run w =
      ⟨replyOutcome (db.driverRun w ctx c).reply, db.driverWorld w ctx c, db.driverTrace w ctx c⟩ := by
  simp only [SessionM.run, dispatch, driverWorld, driverTrace, driverRun]
  cases (db.driver.run c ⟨ctx, w.thread⟩ w.env.tick w.driver).reply <;> rfl

@[simp] theorem calls_driverTrace (ctx : Context) (c : DriverCall) :
    (db.driverTrace w ctx c : List (Event ν)).filterMap Event.call? = [c] := by
  simp [driverTrace, List.filterMap_map, Function.comp_def, Event.call?]

theorem run_dispatchLive (ctx : Context) (c : DriverCall) :
    (db.dispatchLive ctx c).run w =
      match ctx.err w.env with
      | some e => ⟨.value (.error (.context e)), w, []⟩
      | none => (db.dispatch ctx c).run w := by
  simp only [dispatchLive, run_bind, run_env, SessionRun.andThen_value, SessionRun.after_nil]
  cases ctx.err w.env <;> rfl

/-! ### The whole way -/

/-- The end of a statement's way: the hooks are told how it went. -/
def conclude (ctx : Context) (sql : String) (args : List Value) (start : Instant)
    (raw : Except RawError α) : SessionM δ σ ν (Except Error α) := do
  let stop ← env
  let result := raw.mapError db.classify
  db.tell (.after ctx sql args (.ofNanos (stop.now - start)) (error? result))
  return result

section statement

variable (ctx : Context) (sql : String) (args : List Value) (c : DriverCall)

/-- Why a call that begins in this world and that no hook is told of is not dispatched, if so. -/
def refusal? : Option ContextError := (db.effectiveContext w ctx).err w.env.tick

/-- What the hooks are told of a statement that begins in this world. -/
def briefing : Notice := .before (db.effectiveContext w ctx) sql args

/-- The world that the hooks leave when they have been told of a statement that begins in this world. -/
def briefed : World δ σ := db.told w.tick (db.briefing w ctx sql args)

/-- Why a statement that begins in this world is not dispatched, if so. -/
def statementRefusal? : Option ContextError :=
  (db.effectiveContext w ctx).err (db.briefed w ctx sql args).env

theorem run_statement :
    (db.statement ctx sql args c).run w =
      let ctx' := db.effectiveContext w ctx
      let w' := db.briefed w ctx sql args
      (((db.dispatchLive ctx' c).run w').andThen (db.conclude ctx' sql args w'.env.now)).after
        (db.heard w.tick (db.briefing w ctx sql args)) := by
  simp only [statement, run_bind, run_effective, run_tell, run_env, SessionRun.andThen_value,
    SessionRun.after_nil]
  rfl

theorem run_dispatchLive_briefed :
    (db.dispatchLive (db.effectiveContext w ctx) c).run (db.briefed w ctx sql args) =
      match db.statementRefusal? w ctx sql args with
      | some e => ⟨.value (.error (.context e)), db.briefed w ctx sql args, []⟩
      | none => (db.dispatch (db.effectiveContext w ctx) c).run (db.briefed w ctx sql args) :=
  db.run_dispatchLive _ _ c

@[simp] theorem calls_conclude (start : Instant) (raw : Except RawError α) :
    ((db.conclude ctx sql args start raw).run w).calls = [] := by
  simp [conclude]

/-- What a statement ends with: the mapped answer of the driver, or the mapped reason why it was not
asked. -/
theorem outcome_statement :
    ((db.statement ctx sql args c).run w).outcome =
      match db.statementRefusal? w ctx sql args with
      | some e => .value (.error (db.classify (.context e)))
      | none =>
        (replyOutcome (db.driverRun (db.briefed w ctx sql args) (db.effectiveContext w ctx) c).reply).map
          (·.mapError db.classify) := by
  rw [run_statement]
  simp only [run_dispatchLive_briefed]
  cases db.statementRefusal? w ctx sql args with
  | some e => rfl
  | none =>
      simp only [run_dispatch, SessionRun.outcome_after]
      cases (db.driverRun (db.briefed w ctx sql args) (db.effectiveContext w ctx) c).reply <;> rfl

/-- A statement is its one call, or nothing when its context has ended. -/
theorem calls_statement :
    ((db.statement ctx sql args c).run w).calls =
      if (db.statementRefusal? w ctx sql args).isSome then [] else [c] := by
  rw [run_statement]
  simp only [run_dispatchLive_briefed, SessionRun.calls_after, calls_heard, List.nil_append]
  cases db.statementRefusal? w ctx sql args with
  | some e => simp
  | none =>
      simp only [run_dispatch]
      cases replyOutcome (db.driverRun (db.briefed w ctx sql args) _ c).reply <;> simp

theorem driver_statement :
    ((db.statement ctx sql args c).run w).world.driver =
      if (db.statementRefusal? w ctx sql args).isSome then w.driver
      else (db.driverRun (db.briefed w ctx sql args) (db.effectiveContext w ctx) c).state := by
  rw [run_statement]
  simp only [run_dispatchLive_briefed, SessionRun.world_after]
  cases db.statementRefusal? w ctx sql args with
  | some e => rfl
  | none =>
      simp only [run_dispatch]
      cases replyOutcome (db.driverRun (db.briefed w ctx sql args) _ c).reply <;> rfl

/-- A statement changes nothing about transactions. -/
theorem active_statement : ((db.statement ctx sql args c).run w).world.active = w.active := by
  rw [run_statement]
  simp only [run_dispatchLive_briefed, SessionRun.world_after]
  cases db.statementRefusal? w ctx sql args with
  | some e => rfl
  | none =>
      simp only [run_dispatch]
      cases replyOutcome (db.driverRun (db.briefed w ctx sql args) _ c).reply <;> rfl

theorem outcome_statement_ne_failed (e : Error) :
    ((db.statement ctx sql args c).run w).outcome ≠ .failed e := by
  rw [outcome_statement]
  cases db.statementRefusal? w ctx sql args with
  | some d => nofun
  | none =>
      cases (db.driverRun (db.briefed w ctx sql args) (db.effectiveContext w ctx) c).reply <;> nofun

/-! ### The way to a target -/

/-- Statements to the target are taken. -/
def takes (t : Target) : Bool :=
  match t with
  | .handle => true
  | .session tx => w.active.contains tx

theorem run_isActive (tx : TxId) :
    (isActive tx : SessionM δ σ ν Bool).run w = ⟨.value (w.active.contains tx), w, []⟩ := rfl

theorem run_accepts (t : Target) :
    (accepts t : SessionM δ σ ν Bool).run w = ⟨.value (takes w t), w, []⟩ := by
  cases t <;> rfl

theorem run_statementAt (t : Target) :
    (db.statementAt t ctx sql args c).run w =
      if takes w t then (db.statement ctx sql args c).run w
      else ⟨.value (.error .transactionClosed), w, []⟩ := by
  simp only [statementAt, run_bind, run_accepts, SessionRun.andThen_value, SessionRun.after_nil]
  cases takes w t <;> rfl

theorem outcome_statementAt_ne_failed (t : Target) (e : Error) :
    ((db.statementAt t ctx sql args c).run w).outcome ≠ .failed e := by
  rw [run_statementAt]
  split
  · exact db.outcome_statement_ne_failed w ctx sql args c e
  · nofun

end statement

end Database

end DbAccess
