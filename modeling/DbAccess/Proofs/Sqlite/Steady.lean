import DbAccess.Proofs.Sqlite.Erratic
/-!
# What every statement keeps

Whatever a connection asks of its engine is made of a few things that engines can do (`Engine.Performs`), and on a
connection that nobody holds a job is one such task, or begins, finishes or closes (`Job.Done`).

A property of an engine is `Engine.Steady` when every statement keeps it, whether it comes to an end, fails or never
ends. The tasks of a connection keep it then, and so does the connection, whatever it is asked. A connection also takes
away the interrupt handlers that it installed. `Shared.AtRest.step` and `Shared.AtRest.run` carry both along the steps
of threads that share a connection.
-/

namespace DbAccess.Sqlite

variable {ε α β : Type} {E : Engine ε} {P : ε → Prop} {own : Option Watcher}

/-! ### What a connection can ask of its engine -/

namespace EngineTask

theorem onWorkbench_andThen (x : EngineTask ε α) (f : α → EngineTask ε β) :
    (x.andThen f).onWorkbench = x.onWorkbench.andThen fun a => (f a).onWorkbench := by
  funext handler env b
  simp only [onWorkbench, EngineTask.andThen]
  cases (x handler env b.engine).ended <;> simp only

end EngineTask

namespace Engine

open EngineTask

/-- The task is made of what can be done at a workbench: statements are compiled and run, kept and looked for among
those that are kept, and the engine is asked about itself, one after the other. What fails on the way of itself was not
interrupted. -/
inductive Performs (E : Engine ε) : {α : Type} → EngineTask (Workbench ε) α → Prop
  | done {α : Type} (a : α) : E.Performs (done a)
  | fail {α : Type} {f : Failure} (own : f ≠ .interrupted) : E.Performs (fail f : EngineTask (Workbench ε) α)
  | ask {α : Type} (f : ε → α) : E.Performs (onWorkbench (ask f))
  | lookup (text : String) : E.Performs (EngineTask.ask fun b : Workbench ε => b.kept.lookup text)
  | keep (text : String) (p : Compiled) : E.Performs (keep text p)
  | compile (sql : String) : E.Performs (onWorkbench (E.compiling sql))
  | run (extent : Extent) (sql : String) (args : List Stored) : E.Performs (onWorkbench (E.run extent sql args))
  | andThen {α β : Type} {x : EngineTask (Workbench ε) α} {f : α → EngineTask (Workbench ε) β} (first : E.Performs x)
      (next : ∀ a, E.Performs (f a)) : E.Performs (x.andThen f)

theorem performs_prepare (sql : String) : E.Performs (E.prepare sql) := by
  unfold Engine.prepare
  refine (Performs.lookup _).andThen fun kept? => ?_
  cases kept? with
  | some p => exact .keep _ p
  | none => exact (Performs.compile _).andThen fun p => .keep _ p

theorem performs_prepareFor (sql : String) (args : List Value) : E.Performs (E.prepareFor sql args) := by
  refine (performs_prepare sql).andThen fun p => ?_
  split
  · exact .done p
  · exact .fail nofun

theorem performs_execute (sql : String) (args : List Value) : E.Performs (E.execute sql args) := by
  refine (performs_prepareFor sql args).andThen fun p => ?_
  split
  · exact (Performs.run _ _ _).andThen fun _ => (Performs.ask _).andThen fun n => .done _
  · exact (Performs.ask _).andThen fun before => (Performs.run _ _ _).andThen fun _ =>
      (Performs.ask _).andThen fun after => .done _

theorem performs_query (extent : Extent) (sql : String) (args : List Value) :
    E.Performs (E.query extent sql args) :=
  (performs_prepareFor sql args).andThen fun _ => (Performs.run _ _ _).andThen fun _ => .done _

/-- Statements of scripts are compiled, run for their first row, and looked at. -/
theorem performs_first (sql : String) {f : List (List Stored) → EngineTask ε α}
    (hf : ∀ rows, E.Performs (onWorkbench (f rows))) :
    E.Performs (onWorkbench (andThen (E.compiling sql) fun _ => andThen (E.run .first sql []) f)) := by
  rw [onWorkbench_andThen]
  refine (Performs.compile sql).andThen fun _ => ?_
  rw [onWorkbench_andThen]
  exact (Performs.run _ _ _).andThen hf

theorem performs_runText (sql : String) : E.Performs (E.runText sql) := performs_first sql fun _ => .done ()

theorem performs_runTexts (texts : List String) : E.Performs (E.runTexts texts) := by
  induction texts with
  | nil => exact .done ()
  | cons sql rest ih => exact (performs_runText sql).andThen fun _ => ih

theorem performs_ping : E.Performs E.ping := by
  refine performs_first pingText fun rows => ?_
  split
  · exact .fail nofun
  · exact .done ()

end Engine

/-! ### How jobs are done -/

theorem Connection.mapReply_id (r : Connection.Run ε α) : Connection.mapReply id r = r := by
  obtain ⟨reply, env, state, log⟩ := r
  cases reply <;> rfl

/-- How a job is done on a connection that nobody holds: as one guarded task, if it is not about transactions or closing
the connection. -/
inductive Job.Done (E : Engine ε) (c : Connection ε) : Job → Prop
  | guarded {j : Job} {α : Type} {task : EngineTask (Workbench ε) α} (performs : E.Performs task)
      (patient : ∀ ctx, j.patience ctx = ctx) (f : α → j.Answer)
      (eq : ∀ caller env, j.run E caller env c = Connection.mapReply f
        (({ c with nextId := c.nextId + j.tickets } : Connection ε).guarded caller.ctx env task)) : j.Done E c
  | begin (tx : TxId) (opts : TxOptions) : (Job.call (.begin tx opts)).Done E c
  | commit (tx : TxId) : (Job.call (.commit tx)).Done E c
  | rollback (tx : TxId) : (Job.call (.rollback tx)).Done E c
  | close : (Job.call .close).Done E c

open Engine Connection in
theorem Job.done {c : Connection ε} (hholder : c.holder = none) (j : Job) : j.Done E c := by
  have hplain : ∀ {γ : Type} (t : Target) (task : EngineTask (Workbench ε) γ) (caller : Caller) (env : Env),
      c.request t caller env task = mapReply id (c.guarded caller.ctx env task) := by
    intro γ t task caller env
    rw [request_of_unheld hholder, mapReply_id]
  cases j with
  | script sql => exact .guarded (performs_runTexts _) (fun _ => rfl) id (hplain .handle _)
  | call d =>
      cases d with
      | execute t sql args => exact .guarded (performs_execute sql args) (fun _ => rfl) id (hplain t _)
      | executePrepared t p args => exact .guarded (performs_execute p.sql args) (fun _ => rfl) id (hplain t _)
      | query t sql args =>
          exact .guarded (performs_query .all sql args) (fun _ => rfl) _
            fun caller env => congrArg (mapReply _) (request_of_unheld hholder t caller env _)
      | queryPrepared t p args =>
          exact .guarded (performs_query .all p.sql args) (fun _ => rfl) _
            fun caller env => congrArg (mapReply _) (request_of_unheld hholder t caller env _)
      | queryOne t sql args =>
          exact .guarded (performs_query .first sql args) (fun _ => rfl) _
            fun caller env => congrArg (mapReply _) (request_of_unheld hholder t caller env _)
      | queryOnePrepared t p args =>
          exact .guarded (performs_query .first p.sql args) (fun _ => rfl) _
            fun caller env => congrArg (mapReply _) (request_of_unheld hholder t caller env _)
      | prepare t sql =>
          have hnext : ({ c with nextId := c.nextId + 1 } : Connection ε).holder = none := hholder
          exact .guarded (performs_prepare sql) (fun _ => rfl) _
            fun caller env => congrArg (mapReply _) (request_of_unheld hnext t caller env _)
      | ping => exact .guarded performs_ping (fun _ => rfl) id (hplain .handle _)
      | begin tx opts => exact .begin tx opts
      | commit tx => exact .commit tx
      | rollback tx => exact .rollback tx
      | close => exact .close

/-! ### What is kept -/

/-- The task keeps the property, however it ends. -/
def EngineTask.Keeps (P : ε → Prop) (task : EngineTask ε α) : Prop :=
  ∀ handler env e, P e → P (task handler env e).state

/-- Every statement keeps the property, however it ends. -/
def Engine.Steady (E : Engine ε) (P : ε → Prop) : Prop := ∀ extent sql args, EngineTask.Keeps P (E.run extent sql args)

namespace EngineTask

theorem Keeps.andThen {x : EngineTask ε α} {f : α → EngineTask ε β} (hx : Keeps P x) (hf : ∀ a, Keeps P (f a)) :
    Keeps P (x.andThen f) := by
  intro handler env e he
  have h := hx handler env e he
  unfold EngineTask.andThen
  cases hw : (x handler env e).ended with
  | done a =>
      simp only [hw]
      exact hf a handler _ _ h
  | failed r =>
      simp only [hw]
      exact h
  | never =>
      simp only [hw]
      exact h

theorem Keeps.onWorkbench {x : EngineTask ε α} (h : Keeps P x) : Keeps (P ·.engine) x.onWorkbench :=
  fun handler env b hb => h handler env b.engine hb

end EngineTask

open EngineTask in
/-- What every statement keeps is kept by whatever a connection asks of its engine. -/
theorem Engine.Steady.keeps (hE : E.Steady P) {task : EngineTask (Workbench ε) α} (h : E.Performs task) :
    Keeps (P ·.engine) task := by
  induction h with
  | done | fail | ask | lookup | keep | compile => exact fun _ _ _ hb => hb
  | run extent sql args => exact (hE extent sql args).onWorkbench
  | andThen _ _ first next => exact first.andThen next

/-! ### Connections -/

namespace Connection

open Engine

/-- No interrupt handler is installed but the one that was there at first, and the engine has the property, unless
the connection is closed. -/
structure AtRest (own : Option Watcher) (P : ε → Prop) (c : Connection ε) : Prop where
  handler : c.handler = none ∨ c.handler = own
  upholds : c.Upholds P

variable {c : Connection ε} {caller : Caller} {env : Env}

theorem AtRest.guarded {task : EngineTask (Workbench ε) α} (hc : c.AtRest own P) (h : task.Keeps (P ·.engine))
    (ctx : Context) (env : Env) : (c.guarded ctx env task).state.AtRest own P := by
  unfold Connection.guarded
  cases hengine : c.engine with
  | none => exact hc
  | some b =>
      have hb := hc.upholds b hengine
      cases ctx.err env with
      | some done => exact hc
      | none =>
          dsimp only
          split
          · refine ⟨.inl rfl, fun b' hb' => ?_⟩
            obtain rfl := Option.some.inj hb'
            exact h _ env b hb
          · refine ⟨hc.handler, fun b' hb' => ?_⟩
            obtain rfl := Option.some.inj hb'
            exact h _ env b hb

section steady

variable (hE : E.Steady P)
include hE

theorem AtRest.tidy (hc : c.AtRest own P) (sql : String) (event : String → LogEvent) (env : Env) :
    (tidy E sql event env c).2.1.AtRest own P := by
  unfold Connection.tidy
  cases hengine : c.engine with
  | none => exact hc
  | some b =>
      refine ⟨hc.handler, fun b' hb' => ?_⟩
      obtain rfl := Option.some.inj hb'
      exact hE.keeps (performs_runText sql) _ env b (hc.upholds b hengine)

theorem AtRest.restore (hc : c.AtRest own P) (readOnly : Bool) (event : String → LogEvent) (env : Env) :
    (restore E readOnly event env c).2.1.AtRest own P := by
  unfold Connection.restore
  split
  · exact hc.tidy hE _ event env
  · exact hc

theorem AtRest.letGo (hc : c.AtRest own P) (readOnly : Bool) (env : Env) :
    (letGo E readOnly env c).2.1.AtRest own P := by
  have hc' : AtRest own P { c with holder := none } := ⟨hc.handler, hc.upholds⟩
  unfold Connection.letGo
  refine AtRest.restore hE ?_ readOnly .resetFailed _
  split
  · exact hc'.tidy hE _ _ env
  · exact hc'

theorem AtRest.conclude (hc : c.AtRest own P) (readOnly : Bool) (sql : String) :
    (c.conclude E readOnly sql caller env).state.AtRest own P := by
  have hg := hc.guarded (hE.keeps (performs_runText sql)) caller.ctx env
  unfold Connection.conclude
  dsimp only
  split
  · exact hg.restore hE readOnly .resetFailed _
  · exact hg

theorem AtRest.finish (hc : c.AtRest own P) (sql : String) : (c.finish E caller env sql).state.AtRest own P := by
  have hg := hc.guarded (hE.keeps (performs_runText sql)) caller.ctx env
  unfold Connection.finish
  dsimp only
  split
  · obtain ⟨hhandler, hupholds⟩ := hg.restore hE (c.holder.any (·.readOnly)) .resetFailed _
    exact ⟨hhandler, hupholds⟩
  · exact hg.letGo hE _ _

end steady

end Connection

/-! ### Threads -/

namespace Shared

/-- No interrupt handler is installed but the one that was there at first, and the engine has the property, unless
the connection is closed. -/
structure AtRest (own : Option Watcher) (P : ε → Prop) (m : Shared ε) : Prop where
  handler : m.handler = none ∨ m.handler = own
  upholds : ∀ b, m.engine = some b → P b.engine

theorem AtRest.bare {m : Shared ε} (hm : m.AtRest own P) (ticket : Nat) : (m.bare ticket).AtRest own P :=
  ⟨hm.handler, hm.upholds⟩

end Shared

section threads

variable (hE : E.Steady P) {c : Connection ε}
include hE

theorem Job.run_atRest (j : Job) (hc : c.AtRest own P) (hholder : c.holder = none) (caller : Caller) (env : Env) :
    (j.run E caller env c).state.AtRest own P := by
  cases j.done (E := E) hholder with
  | @guarded _ _ task performs _ f eq =>
      have hc' : Connection.AtRest own P { c with nextId := c.nextId + j.tickets } := ⟨hc.handler, hc.upholds⟩
      rw [eq]
      exact hc'.guarded (hE.keeps performs) caller.ctx env
  | begin tx opts =>
      have hg := hc.guarded (hE.keeps (Engine.performs_runTexts (Connection.beginTexts opts.readOnly))) caller.ctx env
      rw [Job.run, Connection.run, Connection.begin, Connection.acquire_of_unheld hholder]
      dsimp only
      split
      · exact ⟨hg.handler, hg.upholds⟩
      · exact hg
  | commit tx => exact hc.finish hE "COMMIT"
  | rollback tx => exact hc.finish hE "ROLLBACK"
  | close =>
      rw [Job.run, Connection.run, Connection.close, Connection.acquire_of_unheld hholder]
      obtain hshut | ⟨b, code, message, hengine, hshut⟩ := c.shut_cases E env <;> rw [hshut]
      · exact ⟨hc.handler, fun b hb => by cases hb⟩
      · refine ⟨hc.handler, fun b' hb' => ?_⟩
        obtain rfl := Option.some.inj hb'
        exact hc.upholds b hengine

theorem Job.ending_atRest {j : Job} (hc : c.AtRest own P) {readOnly : Bool} {caller : Caller} {env : Env}
    {r : Connection.Run ε j.Answer} (hr : j.ending? E readOnly caller env c = some r) : r.state.AtRest own P := by
  cases j with
  | script sql => cases hr
  | call d =>
      cases d with
      | commit tx =>
          obtain rfl := Option.some.inj hr
          exact hc.conclude hE readOnly "COMMIT"
      | rollback tx =>
          obtain rfl := Option.some.inj hr
          exact hc.conclude hE readOnly "ROLLBACK"
      | _ => cases hr

namespace Shared

variable {m m' : Shared ε}

/-- Every step leaves the connection at rest. -/
theorem AtRest.step {act : Act} (hm : m.AtRest own P) (hstep : Step E m act m') : m'.AtRest own P := by
  have hwork : ∀ t a, (m.work E t a).state.AtRest own P := fun t a => a.job.run_atRest hE (hm.bare a.ticket) rfl _ _
  cases hstep with
  | @runs t a | @begins t a | @tells t h a => exact ⟨(hwork t a).handler, (hwork t a).upholds⟩
  | finishes asking ending returned =>
      have hr := Job.ending_atRest hE (hm.bare m.nextId) ending
      exact ⟨hr.handler, hr.upholds⟩
  | @tidies t h finished r disowned =>
      cases finished with
      | true => exact ⟨hm.handler, hm.upholds⟩
      | false =>
          have hfree := (hm.bare m.nextId).letGo hE h.readOnly m.env
          exact ⟨hfree.handler, hfree.upholds⟩
  | _ => exact ⟨hm.handler, hm.upholds⟩

/-- **However threads take turns**, the connection is at rest. -/
theorem AtRest.run {acts : List Act} (hm : m.AtRest own P) (hrun : Run E m acts m') : m'.AtRest own P := by
  induction hrun with
  | nil => exact hm
  | cons hstep _ ih => exact ih (hm.step hE hstep)

end Shared

end threads

end DbAccess.Sqlite
