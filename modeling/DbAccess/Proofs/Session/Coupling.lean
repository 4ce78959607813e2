import DbAccess.Proofs.Session.Bracket
/-!
# Computations that go alongside

Two databases can differ in what their drivers and hooks keep to themselves and still take every computation
the same way. A `Coupling` relates what two computations have come to, a trace and a world each; two
computations are `SessionM.Coupled` when they lead from related beginnings to related ends with the same
outcome. Coupled computations make up coupled ones, so two databases that couple in the two places where
drivers and hooks are reached, `Database.dispatch` and `Database.tell`, couple in every operation.
-/

namespace DbAccess

variable {δ σ ν δ' σ' ν' α β : Type}

attribute [ext] SessionRun

/-- The world with clock, signals and transactions changed. -/
def World.put (w : World δ σ) (env : Env) (active : List TxId) (nextTx : TxId) : World δ σ :=
  { w with env := env, active := active, nextTx := nextTx }

/-- A relation between traces and worlds of two databases that agree on clock, signals and transactions. -/
structure Coupling (δ σ ν δ' σ' ν' : Type) where
  Holds : List (Event ν) → World δ σ → List (Event ν') → World δ' σ' → Prop
  env_eq {t w t' w'} : Holds t w t' w' → w'.env = w.env
  active_eq {t w t' w'} : Holds t w t' w' → w'.active = w.active
  nextTx_eq {t w t' w'} : Holds t w t' w' → w'.nextTx = w.nextTx
  put {t w t' w'} (env : Env) (active : List TxId) (nextTx : TxId) : Holds t w t' w' →
    Holds t (w.put env active nextTx) t' (w'.put env active nextTx)
  log {t w t' w'} (e : LogEvent) : Holds t w t' w' → Holds (t ++ [.log e]) w (t' ++ [.log e]) w'

variable {C : Coupling δ σ ν δ' σ' ν'}

namespace Coupling

variable {t : List (Event ν)} {w : World δ σ} {t' : List (Event ν')} {w' : World δ' σ'}

theorem change_env (h : C.Holds t w t' w') (f : Env → Env) :
    C.Holds t { w with env := f w.env } t' { w' with env := f w'.env } := by
  have hput := C.put (f w.env) w.active w.nextTx h
  simpa only [World.put, C.env_eq h, ← C.active_eq h, ← C.nextTx_eq h] using hput

theorem change_active (h : C.Holds t w t' w') (f : List TxId → List TxId) :
    C.Holds t { w with active := f w.active } t' { w' with active := f w'.active } := by
  have hput := C.put w.env (f w.active) w.nextTx h
  simpa only [World.put, ← C.env_eq h, C.active_eq h, ← C.nextTx_eq h] using hput

end Coupling

namespace SessionM

/-- From related beginnings the two computations lead to related ends, with the same outcome. -/
def Coupled (C : Coupling δ σ ν δ' σ' ν') (x : SessionM δ σ ν α) (y : SessionM δ' σ' ν' α) : Prop :=
  ∀ t w t' w', C.Holds t w t' w' → (y.run w').outcome = (x.run w).outcome ∧
    C.Holds (t ++ (x.run w).trace) (x.run w).world (t' ++ (y.run w').trace) (y.run w').world

namespace Coupled

/-! ### The primitives -/

theorem finish (o : Outcome α) :
    Coupled C (SessionM.finish o : SessionM δ σ ν α) (SessionM.finish o) := by
  intro t w t' w' h
  exact ⟨rfl, by simpa using h⟩

theorem pure (a : α) : Coupled C (Pure.pure a : SessionM δ σ ν α) (Pure.pure a) := finish (.value a)

theorem fail (e : Error) : Coupled C (SessionM.fail e : SessionM δ σ ν α) (SessionM.fail e) :=
  finish (.failed e)

theorem panicWith (text : String) :
    Coupled C (SessionM.panicWith text : SessionM δ σ ν α) (SessionM.panicWith text) :=
  finish (.panicked text)

theorem ofExcept (r : Except Error α) :
    Coupled C (SessionM.ofExcept r : SessionM δ σ ν α) (SessionM.ofExcept r) := by
  cases r with
  | ok a => exact pure a
  | error e => exact fail e

theorem log (e : LogEvent) : Coupled C (SessionM.log e : SessionM δ σ ν Unit) (SessionM.log e) :=
  fun _ _ _ _ h => ⟨rfl, C.log e h⟩

theorem modify {f : World δ σ → World δ σ} {g : World δ' σ' → World δ' σ'}
    (hfg : ∀ t w t' w', C.Holds t w t' w' → C.Holds t (f w) t' (g w')) :
    Coupled C (SessionM.modify f : SessionM δ σ ν Unit) (SessionM.modify g) := by
  intro t w t' w' h
  exact ⟨rfl, by simpa using hfg t w t' w' h⟩

theorem bind {x : SessionM δ σ ν α} {y : SessionM δ' σ' ν' α} {f : α → SessionM δ σ ν β}
    {g : α → SessionM δ' σ' ν' β} (hx : Coupled C x y) (hf : ∀ a, Coupled C (f a) (g a)) :
    Coupled C (x >>= f) (y >>= g) := by
  intro t w t' w' h
  obtain ⟨ho, hr⟩ := hx t w t' w' h
  rw [run_bind, run_bind]
  generalize x.run w = r at ho hr ⊢
  generalize y.run w' = s at ho hr ⊢
  obtain ⟨o, v, u⟩ := r
  obtain ⟨o', v', u'⟩ := s
  obtain rfl : o' = o := ho
  cases o' with
  | value a =>
      obtain ⟨ho', hr'⟩ := hf a _ _ _ _ hr
      exact ⟨ho', by simpa only [SessionRun.andThen_value, SessionRun.trace_after,
        SessionRun.world_after, List.append_assoc] using hr'⟩
  | failed e => exact ⟨rfl, hr⟩
  | panicked text => exact ⟨rfl, hr⟩
  | stuck => exact ⟨rfl, hr⟩

/-- A look at the world, when what follows goes by clock, signals and transactions only. -/
theorem world_bind {f : World δ σ → SessionM δ σ ν α} {g : World δ' σ' → SessionM δ' σ' ν' α}
    (hfg : ∀ w w', w'.env = w.env → w'.active = w.active → w'.nextTx = w.nextTx →
      Coupled C (f w) (g w')) : Coupled C (world >>= f) (world >>= g) :=
  fun t w t' w' h => hfg w w' (C.env_eq h) (C.active_eq h) (C.nextTx_eq h) t w t' w' h

theorem env : Coupled C (SessionM.env : SessionM δ σ ν Env) SessionM.env := by
  intro t w t' w' h
  exact ⟨congrArg Outcome.value (C.env_eq h), by simpa using h⟩

theorem catching {x : SessionM δ σ ν α} {y : SessionM δ' σ' ν' α} (hx : Coupled C x y) :
    Coupled C (SessionM.catching x) (SessionM.catching y) := by
  intro t w t' w' h
  obtain ⟨ho, hr⟩ := hx t w t' w' h
  exact ⟨congrArg Outcome.value ho, hr⟩

theorem attempt {x : SessionM δ σ ν α} {y : SessionM δ' σ' ν' α} (hx : Coupled C x y) :
    Coupled C (SessionM.attempt x) (SessionM.attempt y) := by
  intro t w t' w' h
  obtain ⟨ho, hr⟩ := hx t w t' w' h
  rw [run_attempt, run_attempt]
  exact ⟨congrArg attempted ho, hr⟩

end Coupled

end SessionM

/-! ### The operations of a database -/

open SessionM Database

/-- Two databases with the same settings that couple where they reach their drivers and their hooks. -/
structure Coupling.Joins (C : Coupling δ σ ν δ' σ' ν') (db : Database δ σ ν)
    (db' : Database δ' σ' ν') : Prop where
  mapper : db'.mapper = db.mapper
  config : db'.config = db.config
  dispatch (ctx : Context) (c : DriverCall) : Coupled C (db.dispatch ctx c) (db'.dispatch ctx c)
  tell (n : Notice) : Coupled C (db.tell n) (db'.tell n)

namespace Coupling.Joins

variable {db : Database δ σ ν} {db' : Database δ' σ' ν'} (h : C.Joins db db')

include h

theorem classify : db'.classify = db.classify := by
  unfold Database.classify
  rw [h.mapper]

theorem effective (ctx : Context) : Coupled C (db.effective ctx) (db'.effective ctx) := by
  have hconfig := h.config
  intro t w t' w' hw
  have htick : C.Holds t w.tick t' w'.tick := C.change_env hw Env.tick
  refine ⟨?_, by simpa using htick⟩
  simp only [run_effective, effectiveContext, C.env_eq hw, hconfig]

theorem dispatchLive (ctx : Context) (c : DriverCall) :
    Coupled C (db.dispatchLive ctx c) (db'.dispatchLive ctx c) := by
  refine .bind .env fun env => ?_
  cases ctx.err env with
  | some e => exact .pure _
  | none => exact h.dispatch ctx c

omit h in
theorem isActive (tx : TxId) :
    Coupled C (Database.isActive tx : SessionM δ σ ν Bool) (Database.isActive tx) := by
  refine .world_bind fun w w' _ hactive _ => ?_
  rw [hactive]
  exact .pure _

omit h in
theorem take (tx : TxId) : Coupled C (Database.take tx : SessionM δ σ ν Bool) (Database.take tx) := by
  refine .bind (isActive tx) fun active => ?_
  cases active with
  | true =>
      have hfilter := fun t w t' w' (hw : C.Holds t w t' w') =>
        C.change_active hw fun active => active.filter (· != tx)
      exact .bind (.modify hfilter) fun _ => .pure true
  | false => exact .pure false

theorem begin (ctx : Context) (opts : TxOptions) : Coupled C (db.begin ctx opts) (db'.begin ctx opts) := by
  refine .bind (h.effective ctx) fun ctx => .world_bind fun w w' _ _ hnext => ?_
  rw [hnext, h.classify]
  refine .bind (h.dispatchLive ctx (.begin w.nextTx opts)) fun r => .bind (.ofExcept _) fun _ => ?_
  refine .bind (.modify fun t v t' v' hv => ?_) fun _ => .pure _
  have hput := C.put v.env (w.nextTx :: v.active) (w.nextTx + 1) hv
  simpa only [World.put, ← C.env_eq hv, ← C.active_eq hv] using hput

theorem finishBy (tx : TxId) (ctx : Context) (c : DriverCall) (unit : c.Answer → Unit) :
    Coupled C (db.finishBy tx ctx c unit) (db'.finishBy tx ctx c unit) := by
  refine .bind (take tx) fun active => ?_
  cases active with
  | true =>
      rw [h.classify]
      exact .bind (h.effective ctx) fun ctx => .bind (h.dispatch ctx c) fun r => .ofExcept _
  | false => exact .fail _

theorem abandon (tx : TxId) (unwinding : Bool) :
    Coupled C (db.abandon tx unwinding) (db'.abandon tx unwinding) := by
  refine .bind (take tx) fun active => ?_
  cases active with
  | true =>
      rw [h.classify]
      refine .bind (.log _) fun _ => .bind (h.dispatch _ _) fun r => ?_
      cases r with
      | ok u => exact .pure _
      | error e => exact .log _
  | false => exact .pure _

theorem ping (ctx : Context) : Coupled C (db.ping ctx) (db'.ping ctx) := by
  unfold Database.ping
  rw [h.classify]
  exact .bind (h.effective ctx) fun ctx => .bind (h.dispatchLive ctx .ping) fun r => .ofExcept _

theorem close : Coupled C db.close db'.close := by
  unfold Database.close
  rw [h.classify]
  exact .bind (h.dispatch _ _) fun _ => .ofExcept _

theorem statement (ctx : Context) (sql : String) (args : List Value) (c : DriverCall) :
    Coupled C (db.statement ctx sql args c) (db'.statement ctx sql args c) := by
  unfold Database.statement
  rw [h.classify]
  refine .bind (h.effective ctx) fun ctx => .bind (h.tell _) fun _ => .bind .env fun start => ?_
  refine .bind (h.dispatchLive ctx c) fun raw => .bind .env fun stop => ?_
  exact .bind (h.tell _) fun _ => .pure _

theorem statementAt (t : Target) (ctx : Context) (sql : String) (args : List Value) (c : DriverCall) :
    Coupled C (db.statementAt t ctx sql args c) (db'.statementAt t ctx sql args c) := by
  have haccepts : Coupled C (accepts t : SessionM δ σ ν Bool) (accepts t) := by
    cases t with
    | handle => exact .pure true
    | session tx => exact isActive tx
  refine .bind haccepts fun taken => ?_
  cases taken with
  | true => exact h.statement ctx sql args c
  | false => exact .pure _

theorem execute (t : Target) (ctx : Context) (sql : String) (args : List Value) :
    Coupled C (db.execute t ctx sql args) (db'.execute t ctx sql args) :=
  .bind (h.statementAt t ctx sql args _) fun _ => .ofExcept _

theorem prepare (t : Target) (ctx : Context) (sql : String) :
    Coupled C (db.prepare t ctx sql) (db'.prepare t ctx sql) :=
  .bind (h.statementAt t ctx sql [] _) fun _ => .bind (.ofExcept _) fun _ => .pure _

theorem executePrepared (s : Statement) (ctx : Context) (args : List Value) :
    Coupled C (db.executePrepared s ctx args) (db'.executePrepared s ctx args) :=
  .bind (h.statementAt s.target ctx s.prepared.sql args _) fun _ => .ofExcept _

theorem request (t : Target) (q : Request) : Coupled C (q.run db t) (q.run db' t) := by
  have hs := h.statementAt t q.ctx q.sql q.args (q.call t)
  have hmapper := h.mapper
  cases q with
  | execute ctx sql args => exact .attempt (h.execute t ctx sql args)
  | query => exact .attempt (.bind hs fun r => .ofExcept r)
  | queryOne =>
      refine .attempt (.bind hs fun _ => ?_)
      rw [hmapper]
      exact .pure _
  | prepare ctx sql => exact .attempt (h.prepare t ctx sql)
  | executePrepared ctx stmt args => exact .attempt (h.executePrepared ⟨t, stmt⟩ ctx args)
  | queryPrepared => exact .attempt (.bind hs fun r => .ofExcept r)
  | queryOnePrepared =>
      refine .attempt (.bind hs fun _ => ?_)
      rw [hmapper]
      exact .pure _

theorem savepoint (tx : TxId) (ctx : Context) (op : SavepointOp) (name : String) :
    Coupled C (db.savepoint tx ctx op name) (db'.savepoint tx ctx op name) := by
  unfold Database.savepoint
  cases savepointFault? name with
  | some fault => exact .fail _
  | none => exact .bind (h.execute (.session tx) ctx _ []) fun _ => .pure ()

theorem txCall (tx : TxId) (c : TxCall) : Coupled C (c.run db tx) (c.run db' tx) := by
  cases c with
  | statement q => exact h.request (.session tx) q
  | savepoint ctx op name => exact .attempt (h.savepoint tx ctx op name)
  | commit ctx => exact .attempt (h.finishBy tx ctx (.commit tx) id)
  | rollback ctx => exact .attempt (h.finishBy tx ctx (.rollback tx) id)

theorem settle (ctx : Context) (tx : TxId) (o : Outcome α) :
    Coupled C (db.settle ctx tx o) (db'.settle ctx tx o) := by
  cases o with
  | value a =>
      refine .bind (isActive tx) fun active => ?_
      cases active with
      | true => exact .bind (h.finishBy tx ctx (.commit tx) id) fun _ => .pure a
      | false => exact .bind (.log _) fun _ => .pure a
  | failed e =>
      refine .bind (.attempt (h.finishBy tx .background (.rollback tx) id)) fun r => ?_
      split
      · exact .fail e
      · exact .fail e
      · exact .bind (.log _) fun _ => .fail _
  | panicked text => exact .bind (h.abandon tx true) fun _ => .panicWith text
  | stuck => exact .finish .stuck

theorem runInTransaction (ctx : Context) (opts : TxOptions) {body : TxId → SessionM δ σ ν α}
    {body' : TxId → SessionM δ' σ' ν' α} (hbody : ∀ tx, Coupled C (body tx) (body' tx)) :
    Coupled C (db.runInTransaction ctx opts body) (db'.runInTransaction ctx opts body') := by
  rw [runInTransaction_eq, runInTransaction_eq]
  refine .bind (h.begin ctx opts) fun tx => ?_
  exact .bind (.catching (hbody tx)) fun o => h.settle ctx tx o

theorem executeItems {ι : Type} (s : Statement) (ctx : Context)
    {args : ι → SessionM δ σ ν (List Value)} {args' : ι → SessionM δ' σ' ν' (List Value)}
    (hargs : ∀ i, Coupled C (args i) (args' i)) (items : List ι) (total : UInt64) :
    Coupled C (db.executeItems s ctx args items total) (db'.executeItems s ctx args' items total) := by
  induction items generalizing total with
  | nil => exact .pure total
  | cons item items ih =>
      refine .bind (hargs item) fun vs => .bind (h.executePrepared s ctx vs) fun count => ?_
      refine .bind ?_ fun total => ih total
      unfold addCounts
      split
      · exact .pure _
      · exact .panicWith _

theorem batchExec {ι : Type} (ctx : Context) (sql : String) (items : List ι)
    {args : ι → SessionM δ σ ν (List Value)} {args' : ι → SessionM δ' σ' ν' (List Value)}
    (hargs : ∀ i, Coupled C (args i) (args' i)) :
    Coupled C (db.batchExec ctx sql items args) (db'.batchExec ctx sql items args') :=
  h.runInTransaction ctx .default fun tx =>
    .bind (h.prepare (.session tx) ctx sql) fun s => h.executeItems s ctx hargs items 0

end Coupling.Joins

end DbAccess
