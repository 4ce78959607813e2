import DbAccess.Proofs.Context.Effect
import DbAccess.Proofs.Session.Program
/-!
# On whose behalf a driver is called

An `Errand` is a call that is to be made: on behalf of a caller with a context, or of nobody, to undo what a
transaction has done. `Errand.context` is the rule for the context that the driver gets with it: a deadline of
the caller counts, or else the default one, and the signal is that of the caller. Calls that finish a
transaction are handed to the driver whether or not their context has ended (`Errand.handed`).

`SessionM.Sends` says that a computation hands to the driver what its errands do. `Database.sends_statementAt`
and its likes say so of each operation.
-/

namespace DbAccess

variable {δ σ ν α β : Type}

/-! ### Errands and their contexts -/

/-- The deadline of calls by callers that have none of their own: a while from now, when the settings name
one that is some time and the clock can name its end. -/
def Config.defaultDeadline? (c : Config) (env : Env) : Option Instant :=
  (c.defaultTimeout.filter fun d => !d.isZero).bind (laterBy? env.now)

theorem Config.defaultDeadline?_eq (c : Config) (env : Env) :
    c.defaultDeadline? env =
      match c.defaultTimeout with
      | some d => if d.ns ≠ 0 ∧ env.now + d.ns ≤ lastInstant then some (env.now + d.ns) else none
      | none => none := by
  rw [defaultDeadline?]
  cases c.defaultTimeout with
  | none => rfl
  | some d =>
      by_cases hzero : d.ns = 0
      · simp [Option.filter_some, Span.isZero, hzero]
      · simp [Option.filter_some, Span.isZero, hzero, laterBy?]

theorem Context.err_ne_cancelled {ctx : Context} (h : ctx.signal = none) (env : Env) :
    ctx.err env ≠ some .cancelled := by
  have hcancelled : ctx.isCancelled env = false := by rw [isCancelled, h, Option.any_none]
  rw [err, hcancelled, if_neg Bool.false_ne_true]
  split <;> simp

/-- The call finishes a transaction. -/
def DriverCall.finishes : DriverCall → Bool
  | commit _ | rollback _ => true
  | _ => false

/-- A call that is to be made, with the clock and the signals when it begins where they matter. -/
inductive Errand where
  /-- A call for somebody who gave a context, with the clock and the signals also when the driver is to be asked. -/
  | caller (env asked : Env) (ctx : Context) (c : DriverCall)
  /-- The rollback after the body of a transaction has failed. -/
  | recovery (env : Env) (tx : TxId)
  /-- The rollback of a transaction that has gone out of scope. -/
  | drop (tx : TxId)

namespace Errand

/-- The context that the driver gets with an errand. -/
def context (c : Config) : Errand → Context
  | caller env _ ctx _ => ⟨ctx.deadline.or (c.defaultDeadline? env), ctx.signal⟩
  | recovery env _ => ⟨c.defaultDeadline? env, none⟩
  | drop _ => ⟨none, none⟩

/-- What is handed to the driver: a call whose context has ended is not, unless it finishes a transaction. -/
def handed (c : Config) (e : Errand) : List (DriverCall × Context) :=
  match e with
  | caller _ asked _ call =>
    if call.finishes || ((e.context c).err asked).isNone then [(call, e.context c)] else []
  | recovery _ tx | drop tx => [(.rollback tx, e.context c)]

end Errand

/-- A default timeout gives its deadline to contexts without one, and changes nothing else. -/
theorem Context.orTimeout_eq (ctx : Context) (env : Env) (c : Config) :
    ctx.orTimeout env c.defaultTimeout = ⟨ctx.deadline.or (c.defaultDeadline? env), ctx.signal⟩ := by
  obtain ⟨deadline, signal⟩ := ctx
  cases deadline with
  | some t => rfl
  | none =>
      rw [Config.defaultDeadline?]
      cases c.defaultTimeout with
      | none => rfl
      | some d =>
          cases hzero : d.isZero with
          | true => simp [orTimeout, hzero, Option.filter_some]
          | false =>
              cases hlater : laterBy? env.now d <;>
                simp [orTimeout, hzero, withTimeout, withDeadline, hlater, Option.filter_some]

/-! ### What a run hands to the driver -/

/-- The call comes with a context, as all do but the one that closes the driver. -/
def DriverCall.takesContext : DriverCall → Bool
  | close => false
  | _ => true

theorem DriverCall.takesContext_of_finishes {c : DriverCall} (h : c.finishes = true) :
    c.takesContext = true := by
  cases c <;> first | rfl | cases h

/-- The call of an event with its context. -/
def Event.handed? : Event ν → Option (DriverCall × Context)
  | .call c ctx _ => if c.takesContext then some (c, ctx) else none
  | _ => none

/-- What a run hands to the driver, in order. -/
def SessionRun.handed (r : SessionRun δ σ ν α) : List (DriverCall × Context) :=
  r.trace.filterMap Event.handed?

@[simp] theorem SessionRun.handed_after (r : SessionRun δ σ ν α) (t : List (Event ν)) :
    (r.after t).handed = t.filterMap Event.handed? ++ r.handed := by
  simp [handed, after]

@[simp] theorem SessionRun.handed_mk (o : Outcome α) (w : World δ σ) (t : List (Event ν)) :
    handed ⟨o, w, t⟩ = t.filterMap Event.handed? := rfl

@[simp] theorem SessionRun.handed_map (f : α → β) (r : SessionRun δ σ ν α) :
    (r.map f).handed = r.handed := rfl

namespace Database

variable (db : Database δ σ ν) (w : World δ σ)

@[simp] theorem handed_heard (n : Notice) : (db.heard w n).filterMap Event.handed? = [] := by
  simp [heard, List.filterMap_map, Function.comp_def, Event.handed?]

theorem handed_driverTrace (ctx : Context) (c : DriverCall) :
    (db.driverTrace w ctx c : List (Event ν)).filterMap Event.handed? =
      if c.takesContext then [(c, ctx)] else [] := by
  have hlog : ((db.driverRun w ctx c).log.map Event.log : List (Event ν)).filterMap Event.handed? = [] := by
    simp [List.filterMap_map, Function.comp_def, Event.handed?]
  rw [driverTrace, List.filterMap_cons, hlog, Event.handed?]
  cases c.takesContext <;> rfl

theorem handed_dispatchLive (ctx : Context) (c : DriverCall) :
    ((db.dispatchLive ctx c).run w).handed =
      if (ctx.err w.env).isSome then [] else if c.takesContext then [(c, ctx)] else [] := by
  rw [run_dispatchLive]
  cases ctx.err w.env with
  | some e => rfl
  | none =>
      dsimp only
      rw [run_dispatch]
      exact db.handed_driverTrace w ctx c

theorem effectiveContext_eq (asked : Env) (ctx : Context) (c : DriverCall) :
    db.effectiveContext w ctx = (Errand.caller w.env asked ctx c).context db.config :=
  ctx.orTimeout_eq w.env db.config

theorem effectiveContext_background (tx : TxId) :
    db.effectiveContext w .background = (Errand.recovery w.env tx).context db.config := by
  rw [db.effectiveContext_eq w w.env .background (.rollback tx)]
  rfl

/-! ### Statements -/

section statement

variable (ctx : Context) (sql : String) (args : List Value) {c : DriverCall}

@[simp] theorem handed_conclude (start : Instant) (raw : Except RawError α) :
    ((db.conclude ctx sql args start raw).run w).handed = [] := by
  simp [conclude]

/-- Whether a call that does not finish anything is handed over is a matter of its context. -/
theorem handed_errand (asked : Env) (hfinish : c.finishes = false) :
    (Errand.caller w.env asked ctx c).handed db.config =
      if ((db.effectiveContext w ctx).err asked).isSome then [] else [(c, db.effectiveContext w ctx)] := by
  rw [Errand.handed, db.effectiveContext_eq w asked ctx c, hfinish, Bool.false_or]
  cases ((Errand.caller w.env asked ctx c).context db.config).err asked <;> rfl

/-- The errand of a statement that begins in this world. -/
def statementErrand (c : DriverCall) : Errand := .caller w.env (db.briefed w ctx sql args).env ctx c

theorem handed_statement (hfinish : c.finishes = false) (hctx : c.takesContext = true) :
    ((db.statement ctx sql args c).run w).handed =
      (db.statementErrand w ctx sql args c).handed db.config := by
  rw [run_statement, statementErrand, db.handed_errand w ctx _ hfinish, ← statementRefusal?]
  simp only [run_dispatchLive_briefed, SessionRun.handed_after, handed_heard, List.nil_append]
  cases db.statementRefusal? w ctx sql args with
  | some e => simp
  | none =>
      simp only [run_dispatch]
      cases replyOutcome (db.driverRun (db.briefed w ctx sql args) _ c).reply <;>
        simp [handed_driverTrace, hctx]

end statement

end Database

/-! ### Computations and their errands -/

namespace SessionM

/-- What the computation hands to the driver is what its errands do. The errands may depend on the world. -/
def Sends (c : Config) (x : SessionM δ σ ν α) (errands : World δ σ → List Errand) : Prop :=
  ∀ w, (x.run w).handed = (errands w).flatMap (Errand.handed c)

/-- The errands of a sequence. -/
def errandsThen (x : SessionM δ σ ν α) (errands : World δ σ → List Errand)
    (next : α → World δ σ → List Errand) (w : World δ σ) : List Errand :=
  errands w ++ match (x.run w).outcome with
    | .value a => next a (x.run w).world
    | _ => []

theorem handed_bind_silent {x : SessionM δ σ ν α} {f : α → SessionM δ σ ν β}
    (hf : ∀ a w, ((f a).run w).handed = []) (w : World δ σ) :
    ((x >>= f).run w).handed = (x.run w).handed := by
  rw [run_bind]
  generalize x.run w = r
  obtain ⟨o, w', t⟩ := r
  cases o with
  | value a =>
      rw [SessionRun.andThen_value, SessionRun.handed_after, hf a w', List.append_nil]
      rfl
  | failed e => rfl
  | panicked text => rfl
  | stuck => rfl

namespace Sends

variable {c : Config} {x : SessionM δ σ ν α} {errands : World δ σ → List Errand}

theorem bind {f : α → SessionM δ σ ν β} {next : α → World δ σ → List Errand} (hx : Sends c x errands)
    (hf : ∀ a, Sends c (f a) (next a)) : Sends c (x >>= f) (errandsThen x errands next) := by
  intro w
  have hw := hx w
  rw [run_bind, errandsThen, List.flatMap_append, ← hw]
  generalize x.run w = r
  obtain ⟨o, w', t⟩ := r
  cases o with
  | value a =>
      rw [SessionRun.andThen_value, SessionRun.handed_after, hf a w']
      rfl
  | failed e => exact (List.append_nil _).symm
  | panicked text => exact (List.append_nil _).symm
  | stuck => exact (List.append_nil _).symm

theorem bind_silent {f : α → SessionM δ σ ν β} (hx : Sends c x errands)
    (hf : ∀ a w, ((f a).run w).handed = []) : Sends c (x >>= f) errands :=
  fun w => (handed_bind_silent hf w).trans (hx w)

theorem attempt (h : Sends c x errands) : Sends c (SessionM.attempt x) errands := by
  intro w
  rw [run_attempt]
  exact h w

theorem catching (h : Sends c x errands) : Sends c (SessionM.catching x) errands := h

end Sends

end SessionM

namespace Database

open SessionM

variable (db : Database δ σ ν)

/-- The errands of a statement for a target. -/
def statementErrands (t : Target) (ctx : Context) (sql : String) (args : List Value) (c : DriverCall)
    (w : World δ σ) : List Errand :=
  if takes w t then [db.statementErrand w ctx sql args c] else []

theorem sends_statementAt (t : Target) (ctx : Context) (sql : String) (args : List Value) (c : DriverCall)
    (hfinish : c.finishes = false) (hctx : c.takesContext = true) :
    Sends db.config (db.statementAt t ctx sql args c) (db.statementErrands t ctx sql args c) := by
  intro w
  rw [run_statementAt, statementErrands]
  split
  · rw [db.handed_statement w ctx sql args hfinish hctx, List.flatMap_singleton]
  · rfl

theorem sends_request (t : Target) (q : Request) :
    Sends db.config (q.run db t) (db.statementErrands t q.ctx q.sql q.args (q.call t)) := by
  have hfinish : (q.call t).finishes = false := by cases q <;> rfl
  have hctx : (q.call t).takesContext = true := by cases q <;> rfl
  intro w
  rw [Request.run_request, SessionRun.handed_map]
  exact db.sends_statementAt t q.ctx q.sql q.args (q.call t) hfinish hctx w

/-- The errands of an operation on a savepoint. -/
def savepointErrands (tx : TxId) (ctx : Context) (op : SavepointOp) (name : String) (w : World δ σ) :
    List Errand :=
  match savepointFault? name with
  | some _ => []
  | none => db.statementErrands (.session tx) ctx (op.sql name) [] (.execute (.session tx) (op.sql name) []) w

theorem sends_savepoint (tx : TxId) (ctx : Context) (op : SavepointOp) (name : String) :
    Sends db.config ((TxCall.savepoint ctx op name).run db tx) (db.savepointErrands tx ctx op name) := by
  intro w
  rw [TxCall.run_savepoint, savepointErrands]
  cases savepointFault? name with
  | some fault => rfl
  | none => exact db.sends_request (.session tx) (.execute ctx (op.sql name) []) w

/-! ### Transactions and the handle -/

theorem sends_begin (ctx : Context) (opts : TxOptions) :
    Sends db.config (db.begin ctx opts) fun w => [.caller w.env w.env.tick ctx (.begin w.nextTx opts)] := by
  intro w
  rw [List.flatMap_singleton, db.handed_errand w ctx w.env.tick rfl, ← refusal?]
  cases h : db.refusal? w ctx with
  | some e => simp [db.run_begin_of_refused w h]
  | none =>
      rw [db.run_begin_of_live w h, SessionRun.handed_mk]
      exact db.handed_driverTrace w.tick (db.effectiveContext w ctx) (.begin w.nextTx opts)

/-- The errand that finishes a transaction, if there is something to finish. -/
def finishErrands (tx : TxId) (errand : Env → Errand) (w : World δ σ) : List Errand :=
  if w.active.contains tx then [errand w.env] else []

theorem handed_finishing {c : DriverCall} (h : c.finishes = true) (asked : Env) (ctx : Context) (w : World δ σ) :
    (Errand.caller w.env asked ctx c).handed db.config = [(c, db.effectiveContext w ctx)] := by
  rw [Errand.handed, h, Bool.true_or, if_pos rfl, db.effectiveContext_eq w asked ctx c]

theorem sends_finishBy (tx : TxId) (ctx : Context) (c : DriverCall) (unit : c.Answer → Unit)
    (hfinish : c.finishes = true) :
    Sends db.config (db.finishBy tx ctx c unit) (finishErrands tx fun env => .caller env env.tick ctx c) := by
  intro w
  rw [run_finishBy, finishErrands]
  split
  · rw [List.flatMap_singleton, db.handed_finishing hfinish, SessionRun.handed_mk, handed_driverTrace,
      DriverCall.takesContext_of_finishes hfinish, if_pos rfl]
  · rfl

@[simp] theorem handed_abandonLog (d : Reply Unit) :
    (db.abandonLog d : List (Event ν)).filterMap Event.handed? = [] := by
  cases d <;> rfl

theorem sends_abandon (tx : TxId) (unwinding : Bool) :
    Sends db.config (db.abandon tx unwinding) (finishErrands tx fun _ => .drop tx) := by
  intro w
  rw [finishErrands]
  cases h : w.active.contains tx with
  | false =>
      rw [db.run_abandon_of_finished w tx h]
      rfl
  | true =>
      rw [db.run_abandon_of_active w tx h, if_pos rfl, List.flatMap_singleton, SessionRun.handed_mk,
        List.cons_append, List.filterMap_cons, List.filterMap_append, handed_abandonLog, List.append_nil]
      exact db.handed_driverTrace (w.without tx) .background (.rollback tx)

theorem sends_ping (ctx : Context) :
    Sends db.config (db.ping ctx) fun w => [.caller w.env w.env.tick ctx .ping] := by
  intro w
  have hping : ((db.ping ctx).run w).handed =
      ((db.dispatchLive (db.effectiveContext w ctx) .ping).run w.tick).handed :=
    handed_bind_silent (fun r _ => by cases r <;> rfl) w.tick
  rw [List.flatMap_singleton, db.handed_errand w ctx w.env.tick rfl, hping, handed_dispatchLive]
  rfl

theorem sends_close : Sends db.config db.close fun _ => [] := by
  intro w
  rw [close, run_bind, run_dispatch]
  cases (db.driverRun w .background .close).reply <;>
    simp [replyOutcome, handed_driverTrace, DriverCall.takesContext]

end Database

end DbAccess
