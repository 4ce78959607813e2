import DbAccess.Proofs.Context.Done
import DbAccess.Proofs.Sqlite.Steady
/-!
# Interrupts

An engine is `Engine.Watched` when it gives up a statement as interrupted only if the installed handler said so, as
databases in memory do (`Memory.watched_engine`). A connection installs the watcher of the context of a request, and
takes it away again. So whoever is told by the connection that a context has ended is told about its own context
(`Job.run_heeds`), and a request whose context has ended before is refused, whatever the engine would do
(`Job.run_of_err`).
-/

namespace DbAccess

/-! ### Contexts that end -/

namespace Context

variable {c : Context} {env env' : Env} {e : ContextError}

/-- Between two moments the context was seen to have ended, for a reason. -/
def EndedWithin (c : Context) (env env' : Env) (e : ContextError) : Prop :=
  ∃ moment, env.Precedes moment ∧ moment.Precedes env' ∧ c.err moment = some e

theorem endedWithin_of_err (h : c.err env' = some e) (hlater : env.Precedes env') : c.EndedWithin env env' e :=
  ⟨env', hlater, env'.precedes_refl, h⟩

theorem EndedWithin.widen {env₀ env₁ : Env} (h : c.EndedWithin env env' e) (hbefore : env₀.Precedes env)
    (hafter : env'.Precedes env₁) : c.EndedWithin env₀ env₁ e := by
  obtain ⟨moment, hfrom, hto, herr⟩ := h
  exact ⟨moment, hbefore.trans hfrom, hto.trans hafter, herr⟩

end Context

namespace Sqlite

variable {ε α β δ : Type} {E : Engine ε}

/-! ### Tasks that can be interrupted -/

/-- The handler said, at a moment between two, that its context had ended. -/
def Stopped (handler : Option Watcher) (env env' : Env) : Prop :=
  ∃ w moment, handler = some w ∧ env.Precedes moment ∧ moment.Precedes env' ∧ w.isDone moment = true

/-- The work took its time, and was interrupted only if the handler said so. -/
structure Work.Watched (handler : Option Watcher) (env : Env) (w : Work ε α) : Prop where
  later : env.Precedes w.env
  stopped : w.ended = .failed .interrupted → Stopped handler env w.env

/-- The task takes its time, and is interrupted only if the handler says so. -/
def EngineTask.Watched (task : EngineTask ε α) : Prop := ∀ handler env e, (task handler env e).Watched handler env

/-- The engine interrupts a statement only if the installed handler says so, be it that it compiles the statement or
runs it. -/
structure Engine.Watched (E : Engine ε) : Prop where
  compile : ∀ sql, EngineTask.Watched (E.compiling sql)
  run : ∀ extent sql args, EngineTask.Watched (E.run extent sql args)

namespace EngineTask

theorem Watched.andThen {x : EngineTask ε α} {f : α → EngineTask ε β} (hx : Watched x) (hf : ∀ a, Watched (f a)) :
    Watched (x.andThen f) := by
  intro handler env e
  obtain ⟨hlater, hstopped⟩ := hx handler env e
  unfold EngineTask.andThen
  cases hw : (x handler env e).ended with
  | done a =>
      simp only [hw]
      obtain ⟨hlater', hstopped'⟩ := hf a handler (x handler env e).env (x handler env e).state
      refine ⟨hlater.trans hlater', fun h => ?_⟩
      obtain ⟨w, moment, hhandler, hafter, hbefore, hdone⟩ := hstopped' h
      exact ⟨w, moment, hhandler, hlater.trans hafter, hbefore, hdone⟩
  | failed f =>
      simp only [hw]
      exact ⟨hlater, fun h => hstopped (hw.trans (congrArg Ended.failed (Ended.failed.inj h)))⟩
  | never =>
      simp only [hw]
      exact ⟨hlater, nofun⟩

theorem Watched.onWorkbench {x : EngineTask ε α} (h : Watched x) : Watched x.onWorkbench := by
  intro handler env b
  obtain ⟨hlater, hstopped⟩ := h handler env b.engine
  exact ⟨hlater, hstopped⟩

end EngineTask

/-- Whatever a connection asks of its engine is interrupted only if the handler says so. -/
theorem Engine.Watched.watched (hE : E.Watched) {task : EngineTask (Workbench ε) α} (h : E.Performs task) :
    EngineTask.Watched task := by
  induction h with
  | done | ask | lookup | keep => exact fun _ env _ => ⟨env.precedes_refl, nofun⟩
  | fail own => exact fun _ env _ => ⟨env.precedes_refl, fun h => absurd (Ended.failed.inj h) own⟩
  | compile sql => exact (hE.compile sql).onWorkbench
  | run extent sql args => exact (hE.run extent sql args).onWorkbench
  | andThen _ _ first next => exact first.andThen next

/-! ### Requests that heed their own context -/

/-- What came of a request: time has passed, and whoever is told that a context has ended is told what its own context
said meanwhile. -/
structure Heeds (ctx : Context) (env : Env) (r : DriverRun δ α) : Prop where
  later : env.Precedes r.env
  ended : ∀ e, r.reply = .error (.context e) → ctx.EndedWithin env r.env e

namespace Heeds

variable {ctx : Context} {env : Env}

theorem mapReply {r : Connection.Run ε α} (h : Heeds ctx env r) (f : α → β) :
    Heeds ctx env (Connection.mapReply f r) := by
  obtain ⟨reply, env', state, log⟩ := r
  refine ⟨h.later, fun e he => ?_⟩
  cases reply with
  | error e' => exact h.ended e (congrArg Reply.error (Reply.error.inj he))
  | _ => cases he

theorem thenLater {r r' : DriverRun δ α} (h : Heeds ctx env r) (hlater : r.env.Precedes r'.env)
    (hreply : r'.reply = r.reply) : Heeds ctx env r' :=
  ⟨h.later.trans hlater, fun e he => (h.ended e (hreply ▸ he)).widen env.precedes_refl hlater⟩

end Heeds

namespace Connection

open Engine

variable {c : Connection ε} {ctx : Context} {caller : Caller} {env : Env}

theorem interrupted_of_error {f : Failure} {e : ContextError} (h : f.error ctx env = .context e) :
    f = .interrupted := by
  cases f with
  | interrupted => rfl
  | _ => cases h

/-- Work that only the context's own watcher can interrupt is told as ended by what the context says then. -/
theorem err_of_reply {w : Work (Workbench ε) α} {handler : Option Watcher} {e : ContextError}
    (hw : w.Watched handler env) (hown : ∀ v, handler = some v → v = ctx.watcher)
    (h : reply ctx w.env w.ended = .error (.context e)) : ctx.err w.env = some e := by
  cases hended : w.ended with
  | done a =>
      rw [hended] at h
      cases h
  | never =>
      rw [hended] at h
      cases h
  | failed f =>
      rw [hended] at h
      have hf : f.error ctx w.env = .context e := Reply.error.inj h
      obtain rfl := interrupted_of_error hf
      -- The handler saw the context ended while the work went on, so it has ended when the failure is told.
      obtain ⟨v, moment, hhandler, -, hbefore, hdone⟩ := hw.stopped hended
      rw [hown v hhandler, Context.isDone_watcher] at hdone
      obtain ⟨e', he'⟩ := Option.isSome_iff_exists.mp (Context.isDone_of_later hdone hbefore)
      rw [Failure.error, he', Option.getD_some] at hf
      rw [he', RawError.context.inj hf]

/-- Where nobody else has installed a handler, a guarded task heeds its context. -/
theorem guarded_heeds {task : EngineTask (Workbench ε) α} (htask : EngineTask.Watched task)
    (hhandler : c.handler = none) (ctx : Context) (env : Env) : Heeds ctx env (c.guarded ctx env task) := by
  unfold guarded
  cases c.engine with
  | none => exact ⟨env.precedes_refl, nofun⟩
  | some b =>
      cases herr : ctx.err env with
      | some done =>
          refine ⟨env.precedes_refl, fun e h => Context.endedWithin_of_err ?_ env.precedes_refl⟩
          rw [herr, RawError.context.inj (Reply.error.inj h)]
      | none =>
          dsimp only
          split
          · have hw := htask (some ctx.watcher) env b
            refine ⟨hw.later, fun e h => Context.endedWithin_of_err ?_ hw.later⟩
            exact err_of_reply hw (fun v hv => (Option.some.inj hv).symm) h
          · have hw := htask c.handler env b
            refine ⟨hw.later, fun e h => Context.endedWithin_of_err (err_of_reply hw (fun v hv => ?_) h) hw.later⟩
            rw [hhandler] at hv
            cases hv

section watched

variable (hE : E.Watched)
include hE

theorem later_tidy (c : Connection ε) (sql : String) (event : String → LogEvent) (env : Env) :
    env.Precedes (tidy E sql event env c).1 := by
  unfold tidy
  cases c.engine with
  | none => exact env.precedes_refl
  | some b => exact (hE.watched (performs_runText sql) c.handler env b).later

theorem later_restore (c : Connection ε) (readOnly : Bool) (event : String → LogEvent) (env : Env) :
    env.Precedes (restore E readOnly event env c).1 := by
  unfold restore
  split
  · exact later_tidy hE c writableText event env
  · exact env.precedes_refl

theorem later_letGo (c : Connection ε) (readOnly : Bool) (env : Env) : env.Precedes (letGo E readOnly env c).1 := by
  unfold letGo
  refine Env.Precedes.trans ?_ (later_restore hE _ readOnly .resetFailed _)
  split
  · exact later_tidy hE _ "ROLLBACK" _ env
  · exact env.precedes_refl

variable (hhandler : c.handler = none)
include hhandler

theorem conclude_heeds (readOnly : Bool) (sql : String) :
    Heeds caller.ctx env (c.conclude E readOnly sql caller env) := by
  have hg := guarded_heeds (hE.watched (performs_runText sql)) hhandler caller.ctx env
  unfold conclude
  dsimp only
  split
  · exact hg.thenLater (later_restore hE _ readOnly .resetFailed _) rfl
  · exact hg

theorem finish_heeds (sql : String) : Heeds caller.ctx env (c.finish E caller env sql) := by
  have hg := guarded_heeds (hE.watched (performs_runText sql)) hhandler caller.ctx env
  unfold finish
  dsimp only
  split
  · exact hg.thenLater (later_restore hE _ _ .resetFailed _) rfl
  · exact hg.thenLater (later_letGo hE _ _ _) rfl

end watched

end Connection

section jobs

variable (hE : E.Watched) {c : Connection ε} (hhandler : c.handler = none)
include hE hhandler

/-- On a connection that nobody holds, every job heeds its context. -/
theorem Job.run_heeds (j : Job) (hholder : c.holder = none) (caller : Caller) (env : Env) :
    Heeds (j.patience caller.ctx) env (j.run E caller env c) := by
  cases j.done (E := E) hholder with
  | @guarded _ _ task performs patient f eq =>
      have hhandler' : ({ c with nextId := c.nextId + j.tickets } : Connection ε).handler = none := hhandler
      rw [eq, patient]
      exact (Connection.guarded_heeds (hE.watched performs) hhandler' caller.ctx env).mapReply f
  | begin tx opts =>
      have hg := Connection.guarded_heeds (hE.watched (Engine.performs_runTexts (Connection.beginTexts opts.readOnly)))
        hhandler caller.ctx env
      rw [Job.run, Connection.run, Connection.begin, Connection.acquire_of_unheld hholder]
      dsimp only
      split
      · exact hg.thenLater (Env.precedes_refl _) rfl
      · exact hg
  | commit tx => exact Connection.finish_heeds hE hhandler "COMMIT"
  | rollback tx => exact Connection.finish_heeds hE hhandler "ROLLBACK"
  | close =>
      rw [Job.run, Connection.run, Connection.close, Connection.acquire_of_unheld hholder]
      obtain hshut | ⟨b, code, message, -, hshut⟩ := c.shut_cases E env <;> rw [hshut]
      · exact ⟨env.precedes_refl, fun e h => by cases h⟩
      · exact ⟨env.precedes_refl, fun e h => by cases h⟩

theorem Job.ending_heeds {j : Job} {readOnly : Bool} {caller : Caller} {env : Env} {r : Connection.Run ε j.Answer}
    (hr : j.ending? E readOnly caller env c = some r) : Heeds (j.patience caller.ctx) env r := by
  cases j with
  | script sql => cases hr
  | call d =>
      cases d with
      | commit tx =>
          obtain rfl := Option.some.inj hr
          exact Connection.conclude_heeds hE hhandler readOnly "COMMIT"
      | rollback tx =>
          obtain rfl := Option.some.inj hr
          exact Connection.conclude_heeds hE hhandler readOnly "ROLLBACK"
      | _ => cases hr

end jobs

/-! ### Requests whose context has ended -/

/-- The refusal of a request whose context has ended, if the connection is open. -/
def Connection.refusal (c : Connection ε) (e : ContextError) : RawError :=
  if c.engine.isSome then .context e else closedError

section ended

variable {c : Connection ε} {env : Env} {e : ContextError}

theorem Connection.guarded_of_err {ctx : Context} (herr : ctx.err env = some e)
    (task : EngineTask (Workbench ε) α) : c.guarded ctx env task = ⟨.error (c.refusal e), env, c, []⟩ := by
  unfold Connection.guarded Connection.refusal
  rw [herr]
  cases hengine : c.engine <;> simp only [Option.isSome, if_true, Bool.false_eq_true, if_false]

theorem Job.isEnding_of_handle {j : Job} (h : j.tx? = none) : j.isEnding = false := by
  cases j with
  | script sql => rfl
  | call d =>
      cases d with
      | commit | rollback => cases h
      | _ => rfl

/-- A job whose context has ended is refused, whatever the engine would do. -/
theorem Job.run_of_err {j : Job} (caller : Caller) (hholder : c.holder = none) (hending : j.isEnding = false)
    (herr : (j.patience caller.ctx).err env = some e) :
    j.run E caller env c = ⟨.error (c.refusal e), env, { c with nextId := c.nextId + j.tickets }, []⟩ := by
  cases j.done (E := E) hholder with
  | guarded performs patient f eq =>
      rw [patient] at herr
      rw [eq, Connection.guarded_of_err herr]
      rfl
  | begin tx opts =>
      have hctx : caller.ctx.err env = some e := herr
      rw [Job.run, Connection.run, Connection.begin, Connection.acquire_of_unheld hholder,
        Connection.guarded_of_err hctx]
      rfl
  | commit tx => cases hending
  | rollback tx => cases hending
  | close => cases herr

theorem Job.ending_of_err {j : Job} (caller : Caller) {readOnly : Bool} {r : Connection.Run ε j.Answer}
    (herr : (j.patience caller.ctx).err env = some e) (hr : j.ending? E readOnly caller env c = some r) :
    r = ⟨.error (c.refusal e), env, c, []⟩ ∧ ∀ E' : Engine ε, j.ending? E' readOnly caller env c = some r := by
  have hconclude : ∀ (E : Engine ε) (sql : String), caller.ctx.err env = some e →
      c.conclude E readOnly sql caller env = ⟨.error (c.refusal e), env, c, []⟩ := by
    intro E sql herr
    unfold Connection.conclude
    rw [Connection.guarded_of_err herr]
  cases j with
  | script sql => cases hr
  | call d =>
      cases d with
      | commit tx =>
          obtain rfl := Option.some.inj hr
          refine ⟨hconclude E "COMMIT" herr, fun E' => congrArg some ?_⟩
          rw [hconclude E' "COMMIT" herr, hconclude E "COMMIT" herr]
      | rollback tx =>
          obtain rfl := Option.some.inj hr
          refine ⟨hconclude E "ROLLBACK" herr, fun E' => congrArg some ?_⟩
          rw [hconclude E' "ROLLBACK" herr, hconclude E "ROLLBACK" herr]
      | _ => cases hr

end ended

/-! ### The failures of a database in memory -/

/-- What came out, if it is a failure, is no interrupt. -/
def Uninterrupted (r : Except Failure α) : Prop := r ≠ .error .interrupted

theorem Uninterrupted.ne {x : Except Failure α} {f : Failure} (hx : Uninterrupted x) (h : x = .error f) :
    f ≠ .interrupted :=
  fun hf => hx (h.trans (congrArg Except.error hf))

theorem Uninterrupted.bind {x : Except Failure α} {f : α → Except Failure β} (hx : Uninterrupted x)
    (hf : ∀ a, Uninterrupted (f a)) : Uninterrupted (x >>= f) := by
  cases x with
  | ok a => exact hf a
  | error e => exact fun h => hx.ne rfl (Except.error.inj h)

theorem findSome?_ne_interrupted {l : List α} {f : α → Option Failure} (h : ∀ a, f a ≠ some .interrupted) :
    l.findSome? f ≠ some .interrupted := by
  intro hsome
  obtain ⟨a, -, ha⟩ := List.exists_of_findSome?_eq_some hsome
  exact h a ha

namespace Table

variable {t : Table}

theorem failure?_ne_interrupted (others : List (Int × List Stored)) (n : Int) (row : List Stored) :
    t.failure? others n row ≠ some .interrupted := by
  have hor : ∀ {x y : Option Failure}, x ≠ some .interrupted → y ≠ some .interrupted → x.or y ≠ some .interrupted := by
    intro x y hx hy
    cases x with
    | none => exact hy
    | some f => exact hx
  refine hor (findSome?_ne_interrupted fun p => ?_) (hor (findSome?_ne_interrupted fun c => ?_) (hor ?_ ?_))
  · split <;> simp [columnFailure]
  · cases c.check with
    | none => nofun
    | some e =>
        simp only [Option.bind_some]
        split <;> simp
  · unfold numberFailure?
    split
    · cases t.columns.find? isRowNumber <;> simp [columnFailure]
    · nofun
  · refine findSome?_ne_interrupted fun p => ?_
    dsimp only
    repeat' split
    all_goals simp [columnFailure]

theorem insert_uninterrupted (row : List Stored) : Uninterrupted (t.insert row) := by
  refine Uninterrupted.bind ?_ fun p => ?_
  · unfold numbered
    repeat' split
    all_goals nofun
  · dsimp only
    split
    · rename_i f hf
      exact fun h => failure?_ne_interrupted _ _ _ (hf.trans (congrArg some (Except.error.inj h)))
    · nofun

theorem setColumn_uninterrupted (index : Nat) (value : Expr) (args : List Stored) (r : Int × List Stored) :
    Uninterrupted (t.setColumn index value args r) := by
  refine Uninterrupted.bind ?_ fun p => ?_
  · repeat' split
    all_goals nofun
  · dsimp only
    split
    · rename_i f hf
      exact fun h => failure?_ne_interrupted _ _ _ (hf.trans (congrArg some (Except.error.inj h)))
    · nofun

theorem setColumns_uninterrupted (index : Nat) (value : Expr) (args : List Stored)
    (rows : List (Int × List Stored)) : Uninterrupted (t.setColumns index value args rows) := by
  induction rows generalizing t with
  | nil => nofun
  | cons r rest ih => exact (setColumn_uninterrupted index value args r).bind fun t => ih

end Table

namespace Tables

variable {ts : Tables}

theorem need_uninterrupted (name : String) : Uninterrupted (ts.need name) := by
  unfold need
  split <;> nofun

theorem create_uninterrupted (name : String) (columns : List ColumnDef) :
    Uninterrupted (ts.create name columns) := by
  unfold create
  split <;> nofun

theorem select_uninterrupted (outputs : Outputs) (source : Option Source) (args : List Stored) :
    Uninterrupted (ts.select outputs source args) := by
  cases source with
  | none => cases outputs <;> nofun
  | some s =>
      refine (need_uninterrupted s.table).bind fun t => ?_
      cases outputs with
      | star => nofun
      | list es =>
          dsimp only
          split <;> nofun

theorem apply_uninterrupted (args : List Stored) (c : Command) : Uninterrupted (ts.apply args c) := by
  cases c with
  | createTable name columns => exact (create_uninterrupted name columns).bind fun _ => nofun
  | dropTable name => exact (need_uninterrupted name).bind fun _ => nofun
  | insert table columns values returning =>
      refine (need_uninterrupted table).bind fun t => ?_
      exact (Table.insert_uninterrupted _).bind fun _ => nofun
  | select outputs source => exact (select_uninterrupted outputs source args).bind fun _ => nofun
  | update table column value condition =>
      refine (need_uninterrupted table).bind fun t => ?_
      exact (Table.setColumns_uninterrupted _ _ _ _).bind fun _ => nofun
  | delete table condition => exact (need_uninterrupted table).bind fun _ => nofun
  | _ => nofun

theorem applyChecked_uninterrupted (foreignKeys : Bool) (args : List Stored) (c : Command) :
    Uninterrupted (ts.applyChecked foreignKeys args c) := by
  refine (apply_uninterrupted args c).bind fun e => ?_
  split <;> nofun

end Tables

namespace Memory

variable {m : Memory}

theorem applyTables_uninterrupted (args : List Stored) (c : Command) : Uninterrupted (m.applyTables args c).1 := by
  have hresult : Uninterrupted (if (m.readOnly || m.queryOnly) && isWrite c then
      .error (.code 8 "attempt to write a readonly database") else m.tables.applyChecked m.foreignKeys args c) := by
    split
    · nofun
    · exact Tables.applyChecked_uninterrupted _ args c
  unfold applyTables
  dsimp only
  split
  · nofun
  · rename_i f hf
    exact fun h => hresult.ne hf (Except.error.inj h)

theorem control_uninterrupted {r : Except Failure Memory} (h : Uninterrupted r) : Uninterrupted (m.control r).1 := by
  cases r with
  | ok m' => nofun
  | error f => exact fun he => h.ne rfl (Except.error.inj he)

theorem seek_uninterrupted (name : String) : Uninterrupted (m.seek name) := by
  unfold seek
  split <;> nofun

theorem perform_uninterrupted (args : List Stored) (c : Command) : Uninterrupted (m.perform args c).1 := by
  cases c with
  | nothing | savepoint | pragma => nofun
  | begin =>
      refine control_uninterrupted ?_
      unfold begin
      split <;> nofun
  | commit =>
      refine control_uninterrupted ?_
      unfold commit
      split <;> nofun
  | rollback =>
      refine control_uninterrupted ?_
      unfold rollback
      split <;> nofun
  | rollbackTo name => exact control_uninterrupted ((seek_uninterrupted name).bind fun _ => nofun)
  | release name =>
      refine control_uninterrupted ((seek_uninterrupted name).bind fun p => ?_)
      dsimp only
      split <;> nofun
  | _ => exact applyTables_uninterrupted args _

theorem columnFault?_ne_interrupted (sql table : String) (columns : List ColumnDef) (c : Command) :
    columnFault? sql table columns c ≠ some .interrupted := by
  have hmissing : columnFault?.missing sql columns c ≠ some .interrupted := by
    unfold columnFault?.missing
    cases missingColumn? columns c <;> simp
  unfold columnFault?
  dsimp only
  repeat' split
  all_goals first | exact hmissing | simp

theorem resolve_uninterrupted (sql : String) : Uninterrupted (m.resolve sql) := by
  refine Uninterrupted.bind ?_ fun c => ?_
  · cases Command.read sql with
    | ok c => nofun
    | error t => cases t <;> nofun
  · split
    · exact (Tables.create_uninterrupted _ _).bind fun _ => nofun
    · refine Uninterrupted.bind ?_ fun table => ?_
      · cases tableOf c with
        | none => nofun
        | some name => exact (Tables.need_uninterrupted name).bind fun _ => nofun
      · dsimp only
        split
        · rename_i f hf
          exact fun h => columnFault?_ne_interrupted _ _ _ _ (hf.trans (congrArg some (Except.error.inj h)))
        · nofun

/-- A statement without end is stopped only by a handler whose context has ended. -/
theorem stopped_of_stopAt {handler : Option Watcher} {env env' : Env} (h : stopAt handler env = some env') :
    env.Precedes env' ∧ Stopped handler env env' := by
  cases handler with
  | none => cases h
  | some w =>
      rw [stopAt, Option.bind_some] at h
      by_cases hdone : w.isDone env = true
      · rw [if_pos hdone] at h
        obtain rfl := Option.some.inj h
        exact ⟨env.precedes_refl, w, env, rfl, env.precedes_refl, env.precedes_refl, hdone⟩
      · rw [if_neg hdone] at h
        obtain ⟨t, hdeadline, rfl⟩ := Option.map_eq_some_iff.mp h
        have hover : w.isDone (env.advanceTo t) = true := by
          rw [Watcher.isDone, hdeadline, Bool.or_eq_true]
          exact .inr (decide_eq_true (Nat.le_max_right _ _))
        exact ⟨env.precedes_advanceTo t, w, _, rfl, env.precedes_advanceTo t, Env.precedes_refl _, hover⟩

theorem watched_failed {f : Failure} (h : f ≠ .interrupted) (handler : Option Watcher) (env : Env) (m : Memory) :
    (Work.mk (.failed f : Ended α) env m).Watched handler env :=
  ⟨env.precedes_refl, fun hf => absurd (Ended.failed.inj hf) h⟩

theorem watched_workOf {r : Except Failure (List (List Stored)) × Memory} (h : Uninterrupted r.1) (extent : Extent)
    (handler : Option Watcher) (env : Env) : (workOf extent env r).Watched handler env := by
  obtain ⟨result, m⟩ := r
  cases result with
  | ok rows => exact ⟨env.precedes_refl, nofun⟩
  | error f => exact watched_failed (h.ne rfl) handler env m

/-- A database in memory interrupts statements only when the handler says so. -/
theorem watched_engine : engine.Watched where
  compile sql handler env m := by
    show (Work.mk (.ofExcept ((m.resolve sql).map (·.2))) env m).Watched handler env
    cases hr : m.resolve sql with
    | ok r => exact ⟨env.precedes_refl, nofun⟩
    | error f => exact watched_failed ((resolve_uninterrupted sql).ne hr) handler env m
  run extent sql args handler env m := by
    show (run extent sql args handler env m).Watched handler env
    cases hr : m.resolve sql with
    | error f =>
        unfold run
        simp only [hr]
        exact watched_failed ((resolve_uninterrupted sql).ne hr) handler env m
    | ok r =>
        obtain ⟨c, p⟩ := r
        cases c with
        | unbounded start next =>
            unfold run
            simp only [hr]
            cases hstop : stopAt handler env with
            | some env' =>
                obtain ⟨hlater, hstopped⟩ := stopped_of_stopAt hstop
                exact ⟨hlater, fun _ => hstopped⟩
            | none => exact ⟨env.precedes_refl, nofun⟩
        | _ =>
            rw [run_of_resolve hr (fun _ _ => nofun)]
            exact watched_workOf (perform_uninterrupted args _) extent handler env

end Memory

end Sqlite

end DbAccess
