import DbAccess.Proofs.Session.Bracket
import DbAccess.Proofs.Sqlite.Memory
import DbAccess.Proofs.Sqlite.Request
/-!
# All or nothing

`runInTransaction_atomic`: over a lawful engine a run leaves what its body's successful statements
have left, when it ends with a value, and otherwise what there was before it. The connection is free
after it and no transaction is open, however many of begin, body, commit and rollback have failed, and
whenever the contexts ended.

`begin_leaves`, `body_leaves` and `settle_leaves` follow the connection along the run: it is held,
with a transaction open, from a begin that succeeds until the transaction is settled.
-/

namespace DbAccess

/-! ### Bodies that leave the transaction alone -/

/-- The call is a statement with such a text, or an operation on a savepoint. -/
def TxCall.Issues (P : String → Prop) : TxCall → Prop
  | .statement r => ∀ sql, Sqlite.runs? r = some sql → P sql
  | .savepoint .. => True
  | .commit _ | .rollback _ => False

/-- The body issues statements with such texts and operations on savepoints, and does not finish the
transaction. -/
def Body.Issues {α : Type} (P : String → Prop) : Body α → Prop
  | .done _ => True
  | .call c next => c.Issues P ∧ ∀ r, Issues P (next r)
  | .meanwhile _ next => ∀ env active, Issues P (next env active)

theorem TxCall.Issues.and {P Q : String → Prop} {steady : Prop} {c : TxCall} (hP : c.Issues P)
    (hQ : steady → c.Issues Q) : c.Issues fun sql => P sql ∧ (steady → Q sql) := by
  cases c with
  | statement r => exact fun sql hsql => ⟨hP sql hsql, fun hs => hQ hs sql hsql⟩
  | savepoint ctx op name => trivial
  | commit ctx => exact hP
  | rollback ctx => exact hP

theorem Body.Issues.and {α : Type} {P Q : String → Prop} {steady : Prop} {body : Body α}
    (hP : body.Issues P) (hQ : steady → body.Issues Q) :
    body.Issues fun sql => P sql ∧ (steady → Q sql) := by
  induction body with
  | done o => trivial
  | call c next ih => exact ⟨hP.1.and fun hs => (hQ hs).1, fun r => ih r (hP.2 r) fun hs => (hQ hs).2 r⟩
  | meanwhile change next ih =>
      exact fun env active => ih env active (hP env active) fun hs => hQ hs env active

namespace Sqlite

variable {ε κ σ ν α : Type} {E : Engine ε} {R : Reading ε κ} {start now : κ} {q : Bool} {steady : Prop}

/-- The content behind a connection, or another one when it is closed. -/
def Connection.contentD (R : Reading ε κ) (c : Connection ε) (k : κ) : κ :=
  (c.engine.map fun b => R.content b.engine).getD k

/-- The content that the successful calls of a body have left, from a world and a content on. -/
def left (R : Reading ε κ) (db : Database (Connection ε) σ ν) (tx : TxId) :
    Body α → World (Connection ε) σ → κ → κ
  | .done _, _, k => k
  | .call c next, w, k =>
    let r := (c.run db tx).run w
    match r.outcome with
    | .value (.ok a) => left R db tx (next (.ok a)) r.world (r.world.driver.contentD R k)
    | .value (.error e) => left R db tx (next (.error e)) r.world k
    | _ => k
  | .meanwhile change next, w, k =>
    let w := { w with env := change w.env }
    left R db tx (next w.env (w.active.contains tx)) w k

section run

variable {db : Database (Connection ε) σ ν} {tx : TxId} {w : World (Connection ε) σ} {readOnly : Bool}

theorem driverRun_eq (hdb : db.driver = driver E) (ctx : Context) (c : DriverCall) :
    db.driverRun w ctx c = (driver E).run c ⟨ctx, w.thread⟩ w.env.tick w.driver := by
  rw [Database.driverRun, hdb]

theorem driverRun_leaves (hdb : db.driver = driver E) (ctx : Context) {c : DriverCall}
    {ok error : Connection ε → Prop}
    (h : Leaves ((driver E).run c ⟨ctx, w.thread⟩ w.env.tick w.driver) ok error) :
    Leaves (db.driverRun w ctx c) ok error := by
  rw [driverRun_eq hdb]
  exact h

/-! ### The body -/

/-- Where a call of a body leaves the world: the transaction is active, the content has moved at most
when the call succeeds, and has not when it fails. -/
def CallLeaves (R : Reading ε κ) (start now : κ) (q : Bool) (steady : Prop) (readOnly : Bool) (tx : TxId)
    {β : Type} (r : SessionRun (Connection ε) σ ν (Except Error β)) : Prop :=
  match r.outcome with
  | .value (.ok _) =>
    r.world.active.contains tx = true ∧ Connection.Held readOnly (Moved R start q steady) r.world.driver
  | .value (.error _) =>
    r.world.active.contains tx = true ∧ Connection.Held readOnly (OnWay R start q steady now) r.world.driver
  | .stuck => True
  | _ => False

theorem Held.moved {c : Connection ε} (h : Connection.Held readOnly (OnWay R start q steady now) c) :
    Connection.Held readOnly (Moved R start q steady) c :=
  ⟨h.holder, h.serves.imp fun _ he => ⟨now, he⟩⟩

theorem CallLeaves.result {r : Request}
    {s : SessionRun (Connection ε) σ ν (Except Error (r.call (.session tx)).Answer)}
    (h : CallLeaves R start now q steady readOnly tx s) :
    CallLeaves R start now q steady readOnly tx (s.map (r.result db (.session tx))) := by
  obtain ⟨o, w', t⟩ := s
  cases o with
  | value x =>
      cases x with
      | ok a => cases r <;> exact h
      | error e =>
          cases r with
          | queryOne ctx sql args => exact ⟨h.1, Held.moved h.2⟩
          | queryOnePrepared ctx stmt args => exact ⟨h.1, Held.moved h.2⟩
          | _ => exact h
  | failed e => exact h
  | panicked text => exact h
  | stuck => exact h

theorem request_callLeaves (hE : Lawful E R) (hdb : db.driver = driver E)
    (hw : Connection.Held readOnly (OnWay R start q steady now) w.driver) (h : w.active.contains tx = true)
    (r : Request) (hr : ∀ sql, runs? r = some sql → IsPlain R steady sql) :
    CallLeaves R start now q steady readOnly tx ((r.run db (.session tx)).run w) := by
  have ht : Database.takes w (.session tx) = true := h
  rw [Request.run_request, Database.run_statementAt, if_pos ht]
  refine CallLeaves.result ?_
  have hactive := db.active_statement w r.ctx r.sql r.args (r.call (.session tx))
  have hdriver := db.driver_statement w r.ctx r.sql r.args (r.call (.session tx))
  have houtcome := db.outcome_statement w r.ctx r.sql r.args (r.call (.session tx))
  have hw' : Connection.Held readOnly (OnWay R start q steady now) (db.briefed w r.ctx r.sql r.args).driver := hw
  have hleaves := request_leaves hE hw' r tx hr
    ⟨db.effectiveContext w r.ctx, (db.briefed w r.ctx r.sql r.args).thread⟩
    (db.briefed w r.ctx r.sql r.args).env.tick
  unfold CallLeaves
  rw [houtcome, hactive, hdriver]
  cases db.statementRefusal? w r.ctx r.sql r.args with
  | some e => exact ⟨h, hw⟩
  | none =>
      rw [driverRun_eq hdb]
      simp only [Option.isSome_none, Bool.false_eq_true, if_false]
      generalize (driver E).run (r.call (.session tx)) _ _ (db.briefed w r.ctx r.sql r.args).driver = d at hleaves ⊢
      obtain ⟨reply, env, c, log⟩ := d
      cases reply with
      | ok a => exact ⟨h, hleaves⟩
      | error e => exact ⟨h, hleaves⟩
      | never => trivial

theorem call_callLeaves (hE : Lawful E R) (hdb : db.driver = driver E)
    (hw : Connection.Held readOnly (OnWay R start q steady now) w.driver) (h : w.active.contains tx = true)
    (c : TxCall) (hc : c.Issues (IsPlain R steady)) :
    CallLeaves R start now q steady readOnly tx ((c.run db tx).run w) := by
  cases c with
  | statement r => exact request_callLeaves hE hdb hw h r hc
  | savepoint ctx op name =>
      rw [TxCall.run_savepoint]
      cases hname : Database.savepointFault? name with
      | some fault => exact ⟨h, hw⟩
      | none =>
          have hplain : IsPlain R steady (Text.trimBlank (op.sql name)) :=
            ⟨(hE.savepoint op name hname).1, fun _ => (hE.savepoint op name hname).2⟩
          have hr := request_callLeaves hE hdb hw h (.execute ctx (op.sql name) []) fun sql hsql => by
            rw [← Option.some.inj hsql]
            exact hplain
          generalize ((Request.execute ctx (op.sql name) []).run db (.session tx)).run w = s at hr
          obtain ⟨o, w', t⟩ := s
          cases o with
          | value x => cases x <;> exact hr
          | failed e => exact hr
          | panicked text => exact hr
          | stuck => trivial
  | commit ctx => exact hc.elim
  | rollback ctx => exact hc.elim

theorem contentD_of_serves {c : Connection ε} (h : c.Serves (OnWay R start q steady now)) (k : κ) :
    c.contentD R k = now := by
  obtain ⟨b, hb, q', ho, _⟩ := h
  simp [Connection.contentD, hb, ho.content]

/-- **A body leaves the transaction open**, with the content that its successful calls have left. -/
theorem body_leaves (hE : Lawful E R) (hdb : db.driver = driver E) (body : Body α)
    (hbody : body.Issues (IsPlain R steady))
    (hw : Connection.Held readOnly (OnWay R start q steady now) w.driver)
    (h : w.active.contains tx = true) :
    let i := (body.run db tx).run w
    i.outcome = .stuck ∨
      (i.world.active.contains tx = true ∧
        Connection.Held readOnly (OnWay R start q steady (left R db tx body w now)) i.world.driver) := by
  induction body generalizing w now with
  | done o => exact .inr ⟨h, hw⟩
  | call c next ih =>
      have hcall := call_callLeaves hE hdb hw h c hbody.1
      simp only [Body.run, SessionM.run_bind, left]
      generalize (c.run db tx).run w = r at hcall
      obtain ⟨o, w', t⟩ := r
      cases o with
      | value x =>
          cases x with
          | ok a =>
              obtain ⟨ha, hholder, b, hb, now', hnow⟩ := hcall
              have hserves : w'.driver.Serves (OnWay R start q steady now') := ⟨b, hb, hnow⟩
              simp only [SessionRun.andThen_value, SessionRun.outcome_after, SessionRun.world_after]
              rw [contentD_of_serves hserves]
              exact ih (.ok a) (hbody.2 _) ⟨hholder, hserves⟩ ha
          | error e => exact ih (.error e) (hbody.2 _) hcall.2 hcall.1
      | failed e => exact hcall.elim
      | panicked text => exact hcall.elim
      | stuck => exact .inl rfl
  | meanwhile change next ih => exact ih _ _ (hbody _ _) hw h

/-! ### Begin and end -/

/-- A transaction is over: the connection is free, no transaction is open, and the content is `now`.
Something may be written again after a transaction that could only read, and after one that was
steady. -/
def Over (E : Engine ε) (R : Reading ε κ) (readOnly : Bool) (steady : Prop) (now : κ)
    (c : Connection ε) : Prop :=
  ∃ q, Connection.Free (RestsAt E R now q) c ∧ (readOnly = true ∨ steady → q = false)

theorem finish_over (hE : Lawful E R) {c : Connection ε} {now' : κ} {sql : String}
    (hsql : ∀ q, (E.runText sql).Leaves (OpenAt R start now q ·.engine) (RestsAt E R now' q ·.engine)
      (Open R start q ·.engine))
    (hc : Connection.Held readOnly (OnWay R start readOnly steady now) c) (caller : Caller) (env : Env) :
    Leaves (c.finish E caller env sql) (Over E R readOnly steady now')
      (Over E R readOnly steady start) := by
  obtain ⟨hholder, b, hb, q, ho, hq⟩ := hc
  have hover : readOnly = true ∨ steady → Connection.restored readOnly q = false := by
    rintro (rfl | hs)
    · rfl
    · rw [hq hs]
      cases readOnly <;> rfl
  have hf := Connection.finish_leaves hE (hsql q) ⟨hholder, b, hb, ho⟩ caller env
  exact hf.imp (fun c' hc' => ⟨_, hc', hover⟩) fun c' hc' => ⟨_, hc', hover⟩

theorem commit_over (tx : TxId) (hE : Lawful E R) {c : Connection ε}
    (hc : Connection.Held readOnly (OnWay R start readOnly steady now) c) (caller : Caller) (env : Env) :
    Leaves ((driver E).run (.commit tx) caller env c) (Over E R readOnly steady now)
      (Over E R readOnly steady start) :=
  finish_over hE (hE.commit start now) hc caller env

theorem rollback_over (tx : TxId) (hE : Lawful E R) {c : Connection ε}
    (hc : Connection.Held readOnly (OnWay R start readOnly steady now) c) (caller : Caller) (env : Env) :
    Leaves ((driver E).run (.rollback tx) caller env c) (Over E R readOnly steady start)
      (Over E R readOnly steady start) :=
  finish_over hE (fun q => ((hE.rollback start q).leaves).of_imp fun _ hb => hb.toOpen) hc caller env

/-- A begin that succeeds holds the connection, and one that fails leaves it free. -/
theorem begin_leaves (tx : TxId) (steady : Prop) (hE : Lawful E R) {c : Connection ε}
    (hc : Connection.Free (RestsAt E R now false) c) (opts : TxOptions) (caller : Caller) (env : Env) :
    Leaves ((driver E).run (.begin tx opts) caller env c)
      (Connection.Held opts.readOnly (OnWay R now opts.readOnly steady now))
      (Connection.Free (RestsAt E R now false)) := by
  have hg := Connection.guarded_leaves (hE.begin opts.readOnly now) (fun e he => he) hc.serves
    caller.ctx env
  show Leaves (c.begin E tx opts caller env) _ _
  unfold Connection.begin Connection.acquire
  simp only [hc.holder]
  generalize c.guarded caller.ctx env (E.runTexts (Connection.beginTexts opts.readOnly)) = r at hg ⊢
  obtain ⟨reply, env', c', log⟩ := r
  cases reply with
  | ok u => exact ⟨rfl, hg.2.imp fun _ ho => ⟨_, ho, fun _ => rfl⟩⟩
  | error e => exact ⟨hg.1.trans hc.holder, hg.2⟩
  | never => trivial

theorem begin_world (steady : Prop) (hE : Lawful E R) (hdb : db.driver = driver E)
    (hw : Connection.Free (RestsAt E R now false) w.driver) (ctx : Context) (opts : TxOptions) :
    let b := (db.begin ctx opts).run w
    match b.outcome with
    | .value t =>
      t = w.nextTx ∧ Connection.Held opts.readOnly (OnWay R now opts.readOnly steady now) b.world.driver
    | .failed _ => Connection.Free (RestsAt E R now false) b.world.driver
    | .panicked _ => False
    | .stuck => True := by
  cases hr : db.refusal? w ctx with
  | some e =>
      rw [db.run_begin_of_refused w hr]
      exact hw
  | none =>
      have hleaves := driverRun_leaves (w := w.tick) hdb (db.effectiveContext w ctx)
        (begin_leaves w.nextTx steady hE hw opts _ _)
      rw [db.run_begin_of_live w hr]
      simp only [Database.beginOutcome, Database.beginWorld, Database.driverWorld]
      generalize db.driverRun w.tick (db.effectiveContext w ctx) (.begin w.nextTx opts) = d at hleaves ⊢
      obtain ⟨reply, env, c, log⟩ := d
      cases reply with
      | ok u => exact ⟨rfl, hleaves⟩
      | error e => exact hleaves
      | never => trivial

/-- Where a run leaves the connection: at the content `now` when it ends with a value, and otherwise
at `start`. -/
def RunLeaves (E : Engine ε) (R : Reading ε κ) (start : κ) (readOnly : Bool) (steady : Prop) (now : κ)
    (r : SessionRun (Connection ε) σ ν α) : Prop :=
  match r.outcome with
  | .value _ => Over E R readOnly steady now r.world.driver
  | .failed _ => Over E R readOnly steady start r.world.driver
  | .panicked _ => Over E R readOnly steady start r.world.driver
  | .stuck => True

/-- What follows a body leaves the transaction over. -/
theorem settle_leaves (hE : Lawful E R) (hdb : db.driver = driver E)
    (hw : Connection.Held readOnly (OnWay R start readOnly steady now) w.driver)
    (h : w.active.contains tx = true) (ctx : Context) (o : Outcome α) :
    RunLeaves E R start readOnly steady now ((db.settle ctx tx o).run w) := by
  cases o with
  | value a =>
      have hleaves := driverRun_leaves (w := (w.without tx).tick) hdb (db.effectiveContext w ctx)
        (commit_over tx hE hw _ _)
      rw [db.run_settle_value_of_active ctx tx w h]
      simp only [RunLeaves, Database.commitReply, Database.driverWorld]
      generalize db.driverRun (w.without tx).tick (db.effectiveContext w ctx) (.commit tx) = d at hleaves ⊢
      obtain ⟨reply, env, c, log⟩ := d
      cases reply <;> exact hleaves
  | failed e =>
      have hleaves := driverRun_leaves (w := (w.without tx).tick) hdb (db.effectiveContext w .background)
        (rollback_over tx hE hw _ _)
      rw [db.run_settle_failed_of_active ctx tx w h]
      simp only [RunLeaves, Database.rollbackReply, Database.driverWorld]
      generalize db.driverRun (w.without tx).tick (db.effectiveContext w .background) (.rollback tx) = d
        at hleaves ⊢
      obtain ⟨reply, env, c, log⟩ := d
      cases reply with
      | ok u => exact hleaves
      | error r =>
          simp only [Database.failureOutcome]
          by_cases hclosed : db.classify r = .transactionClosed
          · rw [if_pos hclosed]
            exact hleaves
          · rw [if_neg hclosed]
            exact hleaves
      | never => trivial
  | panicked text =>
      have hleaves := driverRun_leaves (w := w.without tx) hdb .background (rollback_over tx hE hw _ _)
      rw [db.run_settle_panicked_of_active ctx tx w h]
      simp only [RunLeaves, Database.driverWorld]
      generalize db.driverRun (w.without tx) .background (.rollback tx) = d at hleaves ⊢
      obtain ⟨reply, env, c, log⟩ := d
      cases reply <;> exact hleaves
  | stuck => trivial

/-- **All or nothing.** Over a lawful engine, from a connection that is free and at rest, with any
mapper, hooks, settings and contexts: a run of a body that neither finishes the transaction nor sends
a text that does leaves the content as the body's successful calls have left it, when it ends with a
value, and as it was before the run, when it ends with an error or a panic. In every case the
connection is free and open and has no transaction open. Something may be written again, unless it was
the body that forbade it in a transaction that could write. -/
theorem runInTransaction_atomic (hE : Lawful E R) (hdb : db.driver = driver E)
    (hfree : Connection.Free (RestsAt E R now false) w.driver) (ctx : Context) (opts : TxOptions)
    (body : Body α) (hbody : body.Issues fun sql => R.isControl sql = false) :
    let b := (db.begin ctx opts).run w
    let r := (db.runInTransaction ctx opts (body.run db)).run w
    r.outcome = .stuck ∨ ∃ content q,
      Connection.Free (RestsAt E R content q) r.world.driver ∧
      (opts.readOnly = true ∨ (body.Issues fun sql => R.isSwitch sql = false) → q = false) ∧
      match r.outcome with
      | .value _ => content = left R db w.nextTx body b.world now
      | _ => content = now := by
  have hplain : body.Issues (IsPlain R (body.Issues fun sql => R.isSwitch sql = false)) := hbody.and id
  have hb := begin_world (body.Issues fun sql => R.isSwitch sql = false) hE hdb hfree ctx opts
  cases h : ((db.begin ctx opts).run w).outcome with
  | value tx =>
      simp only [h] at hb
      obtain ⟨rfl, hheld⟩ := hb
      have hrun := db.run_of_begun ctx w.nextTx w opts (body.run db) h
      simp only [hrun, SessionRun.outcome_after, SessionRun.world_after]
      rcases body_leaves hE hdb body hplain hheld (db.active_of_begun ctx _ w h) with hstuck | ⟨ha, hheld⟩
      · rw [hstuck]
        exact .inl rfl
      · have hs := settle_leaves hE hdb hheld ha ctx
          ((body.run db w.nextTx).run ((db.begin ctx opts).run w).world).outcome
        unfold RunLeaves at hs
        generalize (db.settle ctx w.nextTx _).run _ = s at hs ⊢
        obtain ⟨o, w', t⟩ := s
        cases o with
        | value a =>
            obtain ⟨q, hfree, hq⟩ := hs
            exact .inr ⟨_, q, hfree, hq, rfl⟩
        | failed e =>
            obtain ⟨q, hfree, hq⟩ := hs
            exact .inr ⟨_, q, hfree, hq, rfl⟩
        | panicked text =>
            obtain ⟨q, hfree, hq⟩ := hs
            exact .inr ⟨_, q, hfree, hq, rfl⟩
        | stuck => exact .inl rfl
  | failed e =>
      simp only [h] at hb
      simp only [Database.runInTransaction_eq, SessionM.run_bind, SessionRun.andThen_of_failed h]
      exact .inr ⟨now, false, hb, fun _ => rfl, rfl⟩
  | panicked text =>
      simp only [h] at hb
  | stuck =>
      simp only [Database.runInTransaction_eq, SessionM.run_bind, SessionRun.andThen_of_stuck h]
      exact .inl trivial

end run

section memory

open Memory (reading)

/-- A database in memory. -/
def inMemory : Database (Connection Memory) Unit Unit := .ofDriver (driver Memory.engine) .default []

/-- A world where nothing has happened to an empty database. -/
def empty : World (Connection Memory) Unit := ⟨⟨0, []⟩, .ofEngine (.fresh false true), (), 0, [], 0⟩

/-- A body that creates a table and ends so. -/
def creating (o : Outcome Unit) : Body Unit :=
  .call (.statement (.execute .background "CREATE TABLE notes (body TEXT)" [])) fun _ => .done o

/-- A run of the body that creates a table. -/
def creatingRun (o : Outcome Unit) : SessionRun (Connection Memory) Unit Unit Unit :=
  (inMemory.runInTransaction .background .default ((creating o).run inMemory)).run empty

theorem creating_issues {P : String → Prop} (h : P (Text.trimBlank "CREATE TABLE notes (body TEXT)"))
    (o : Outcome Unit) : (creating o).Issues P := by
  refine ⟨fun sql hsql => ?_, fun _ => trivial⟩
  rw [← Option.some.inj hsql]
  exact h

/-- The table is there when the body ends with a value, and not when it panics. -/
theorem tables_of_creating :
    (∃ tables, tables.map (·.name) = ["notes"] ∧
      Connection.Free (RestsAt Memory.engine reading tables false)
        (creatingRun (.value ())).world.driver) ∧
    Connection.Free (RestsAt Memory.engine reading [] false)
      (creatingRun (.panicked "gone")).world.driver := by
  have hcontrol (o : Outcome Unit) : (creating o).Issues fun sql => reading.isControl sql = false :=
    creating_issues (by decide +kernel) o
  have hswitch (o : Outcome Unit) : (creating o).Issues fun sql => reading.isSwitch sql = false :=
    creating_issues (by decide +kernel) o
  have hempty : Connection.Free (RestsAt Memory.engine reading [] false) empty.driver :=
    ⟨rfl, _, rfl, rfl, rfl, rfl⟩
  have hdriver : inMemory.driver = driver Memory.engine := rfl
  have hatomic (o : Outcome Unit) := runInTransaction_atomic Memory.lawful_engine hdriver hempty
    .background .default (creating o) (hcontrol o)
  have hvalue : (creatingRun (.value ())).outcome = .value () :=
    Outcome.value?_eq_some.mp (by decide +kernel)
  have hpanic : (creatingRun (.panicked "gone")).outcome = .panicked "gone" :=
    Outcome.panic?_eq_some.mp (by decide +kernel)
  unfold creatingRun at hvalue hpanic ⊢
  constructor
  · obtain hstuck | ⟨tables, q, hfree, hq, htables⟩ := hatomic (.value ())
    · rw [hvalue] at hstuck
      cases hstuck
    · rw [hq (.inr (hswitch _))] at hfree
      rw [hvalue] at htables
      refine ⟨tables, ?_, hfree⟩
      rw [htables]
      decide +kernel
  · obtain hstuck | ⟨tables, q, hfree, hq, htables⟩ := hatomic (.panicked "gone")
    · rw [hpanic] at hstuck
      cases hstuck
    · rw [hq (.inr (hswitch _))] at hfree
      rw [hpanic] at htables
      rw [htables] at hfree
      exact hfree

end memory

end Sqlite

end DbAccess
