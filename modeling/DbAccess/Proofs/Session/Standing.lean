import DbAccess.Proofs.Session.Pipeline
/-!
# What becomes of a transaction

`Database.Standing` says of a transaction that it has been begun, and whether it is active. Only calls
that finish this very transaction change that: a finished one stays finished whatever a program does
(`Program.keeps`), and an active one stays active under every program that spares it.

`Program.finished_inert` puts the life of a transaction together: active and working until somebody
commits it or rolls it back, and from then on refusing every call with nothing else happening.
-/

namespace DbAccess

variable {δ σ ν α β : Type}

/-! ### Computations that keep a property of the world -/

/-- The computation leaves a world with the property, when it begins in one. -/
def SessionM.Keeps (P : World δ σ → Prop) (x : SessionM δ σ ν α) : Prop :=
  ∀ w, P w → P (x.run w).world

namespace SessionM.Keeps

variable {P : World δ σ → Prop}

theorem of_world_eq {x : SessionM δ σ ν α} (h : ∀ w, (x.run w).world = w) : Keeps P x := by
  intro w hw
  rw [h]
  exact hw

theorem pure (a : α) : Keeps P (Pure.pure a : SessionM δ σ ν α) := of_world_eq fun _ => rfl

theorem fail (e : Error) : Keeps P (SessionM.fail e : SessionM δ σ ν α) := of_world_eq fun _ => rfl

theorem panicWith (text : String) : Keeps P (SessionM.panicWith text : SessionM δ σ ν α) :=
  of_world_eq fun _ => rfl

theorem finish (o : Outcome α) : Keeps P (SessionM.finish o : SessionM δ σ ν α) :=
  of_world_eq fun _ => rfl

theorem ofExcept (r : Except Error α) : Keeps P (SessionM.ofExcept r : SessionM δ σ ν α) := by
  cases r with
  | ok a => exact pure a
  | error e => exact fail e

theorem log (e : LogEvent) : Keeps P (SessionM.log e : SessionM δ σ ν Unit) :=
  of_world_eq fun _ => rfl

/-- A sequence, of which the second part is looked at only for values that the first can have. -/
theorem bind_of {x : SessionM δ σ ν α} {f : α → SessionM δ σ ν β} {Q : α → Prop} (hx : Keeps P x)
    (hq : ∀ w a, P w → (x.run w).outcome = .value a → Q a) (hf : ∀ a, Q a → Keeps P (f a)) :
    Keeps P (x >>= f) := by
  intro w hw
  have hx' := hx w hw
  have hq' := fun a => hq w a hw
  rw [run_bind]
  generalize x.run w = r at hx' hq'
  obtain ⟨o, w', t⟩ := r
  cases o with
  | value a => exact hf a (hq' a rfl) w' hx'
  | failed e => exact hx'
  | panicked text => exact hx'
  | stuck => exact hx'

theorem bind {x : SessionM δ σ ν α} {f : α → SessionM δ σ ν β} (hx : Keeps P x)
    (hf : ∀ a, Keeps P (f a)) : Keeps P (x >>= f) :=
  bind_of (Q := fun _ => True) hx (fun _ _ _ _ => trivial) fun a _ => hf a

theorem catching {x : SessionM δ σ ν α} (h : Keeps P x) : Keeps P (SessionM.catching x) := h

theorem attempt {x : SessionM δ σ ν α} (h : Keeps P x) : Keeps P (SessionM.attempt x) := by
  intro w hw
  rw [run_attempt]
  exact h w hw

end SessionM.Keeps

/-! ### Standing -/

namespace Database

open SessionM

/-- The transaction has been begun, and is active or not. -/
def Standing (tx : TxId) (active : Bool) (w : World δ σ) : Prop :=
  tx < w.nextTx ∧ w.active.contains tx = active

variable (db : Database δ σ ν) {tx : TxId} {active : Bool}

theorem keeps_dispatch (ctx : Context) (c : DriverCall) :
    Keeps (Standing tx active) (db.dispatch ctx c) := by
  intro w hw
  rw [run_dispatch]
  exact hw

theorem keeps_dispatchLive (ctx : Context) (c : DriverCall) :
    Keeps (Standing tx active) (db.dispatchLive ctx c) := by
  intro w hw
  rw [run_dispatchLive]
  cases ctx.err w.env with
  | some e => exact hw
  | none => exact db.keeps_dispatch ctx c w hw

theorem keeps_effective (ctx : Context) : Keeps (Standing tx active) (db.effective ctx) :=
  fun _ hw => hw

theorem keeps_tell (n : Notice) : Keeps (Standing tx active) (db.tell n) := fun _ hw => hw

theorem keeps_statementAt (t : Target) (ctx : Context) (sql : String) (args : List Value)
    (c : DriverCall) : Keeps (Standing tx active) (db.statementAt t ctx sql args c) := by
  have henv : Keeps (Standing tx active) (SessionM.env : SessionM δ σ ν Env) :=
    .of_world_eq fun _ => rfl
  refine .bind (.of_world_eq fun w => congrArg SessionRun.world (run_accepts w t)) fun taken => ?_
  cases taken with
  | true =>
      refine .bind (db.keeps_effective ctx) fun ctx => .bind (db.keeps_tell _) fun _ => ?_
      refine .bind henv fun start => .bind (db.keeps_dispatchLive ctx c) fun raw => ?_
      exact .bind henv fun stop => .bind (db.keeps_tell _) fun _ => .pure _
  | false => exact .pure _

theorem keeps_request (t : Target) (q : Request) : Keeps (Standing tx active) (q.run db t) := by
  intro w hw
  rw [Request.run_request]
  exact db.keeps_statementAt t q.ctx q.sql q.args (q.call t) w hw

theorem keeps_savepoint (id : TxId) (ctx : Context) (op : SavepointOp) (name : String) :
    Keeps (Standing tx active) ((TxCall.savepoint ctx op name).run db id) := by
  intro w hw
  rw [TxCall.run_savepoint]
  cases savepointFault? name with
  | some fault => exact hw
  | none => exact db.keeps_request (.session id) (.execute ctx (op.sql name) []) w hw

/-- To take one transaction out of the active ones changes nothing about another, nor about one that is
finished. -/
theorem standing_without {id : TxId} {w : World δ σ} (h : active = true → id ≠ tx)
    (hw : Standing tx active w) : Standing tx active (w.without id) := by
  obtain ⟨hlt, hactive⟩ := hw
  refine ⟨hlt, ?_⟩
  cases active with
  | true =>
      have hne : tx ≠ id := fun heq => h rfl heq.symm
      simpa [World.without, hne] using hactive
  | false =>
      have hnot : tx ∉ w.active := by simpa using hactive
      simp [World.without, hnot]

theorem keeps_finishBy {id : TxId} (h : active = true → id ≠ tx) (ctx : Context) (c : DriverCall)
    (unit : c.Answer → Unit) : Keeps (Standing tx active) (db.finishBy id ctx c unit) := by
  intro w hw
  rw [run_finishBy]
  split
  · exact standing_without h hw
  · exact hw

/-- Once it is to be finished, a transaction is finished, whatever the driver answers. -/
theorem standing_of_finishBy {w : World δ σ} (hw : Standing tx active w) (ctx : Context)
    (c : DriverCall) (unit : c.Answer → Unit) :
    Standing tx false ((db.finishBy tx ctx c unit).run w).world := by
  cases hactive : w.active.contains tx with
  | true =>
      rw [db.run_finishBy_of_active w tx hactive]
      exact ⟨hw.1, w.contains_without tx⟩
  | false =>
      rw [db.run_finishBy_of_finished w tx hactive]
      exact ⟨hw.1, hactive⟩

theorem keeps_abandon {id : TxId} (h : active = true → id ≠ tx) (unwinding : Bool) :
    Keeps (Standing tx active) (db.abandon id unwinding) := by
  intro w hw
  cases hid : w.active.contains id with
  | true =>
      rw [db.run_abandon_of_active w id hid]
      exact standing_without h hw
  | false =>
      rw [db.run_abandon_of_finished w id hid]
      exact hw

theorem keeps_begin (ctx : Context) (opts : TxOptions) :
    Keeps (Standing tx active) (db.begin ctx opts) := by
  intro w hw
  obtain ⟨hlt, hactive⟩ := hw
  cases hr : db.refusal? w ctx with
  | some e =>
      rw [db.run_begin_of_refused w hr]
      exact ⟨hlt, hactive⟩
  | none =>
      rw [db.run_begin_of_live w hr]
      simp only [beginWorld]
      cases (db.driverRun w.tick (db.effectiveContext w ctx) (.begin w.nextTx opts)).reply with
      | ok u =>
          refine ⟨Nat.lt_succ_of_lt hlt, ?_⟩
          have hne : tx ≠ w.nextTx := Nat.ne_of_lt hlt
          show (w.nextTx :: w.active).contains tx = active
          rw [List.contains_cons, hactive]
          simp [hne]
      | error e => exact ⟨hlt, hactive⟩
      | never => exact ⟨hlt, hactive⟩

/-- A new transaction has the next number, and the number after it is the next. -/
theorem nextTx_of_begun {ctx : Context} {opts : TxOptions} {w : World δ σ} {id : TxId}
    (h : ((db.begin ctx opts).run w).outcome = .value id) :
    id = w.nextTx ∧ ((db.begin ctx opts).run w).world.nextTx = w.nextTx + 1 := by
  cases hr : db.refusal? w ctx with
  | some e =>
      rw [db.run_begin_of_refused w hr] at h
      cases h
  | none =>
      rw [db.run_begin_of_live w hr] at h ⊢
      simp only [beginWorld]
      cases hd : (db.driverRun w.tick (db.effectiveContext w ctx) (.begin w.nextTx opts)).reply with
      | ok u =>
          simp only [hd, beginOutcome] at h
          injection h with h
          exact ⟨h.symm, rfl⟩
      | error e =>
          simp only [hd, beginOutcome] at h
          cases h
      | never =>
          simp only [hd, beginOutcome] at h
          cases h

theorem standing_of_begun {ctx : Context} {opts : TxOptions} {w : World δ σ} {id : TxId}
    (h : ((db.begin ctx opts).run w).outcome = .value id) :
    Standing id true ((db.begin ctx opts).run w).world := by
  obtain ⟨hid, hnext⟩ := db.nextTx_of_begun h
  refine ⟨?_, db.active_of_begun ctx id w h⟩
  rw [hnext, hid]
  exact Nat.lt_succ_self w.nextTx

theorem ne_of_begun {ctx : Context} {opts : TxOptions} {w : World δ σ} {id : TxId}
    (hw : Standing tx active w) (h : ((db.begin ctx opts).run w).outcome = .value id) : id ≠ tx := by
  have hlt : tx < w.nextTx := hw.1
  rw [(db.nextTx_of_begun h).1]
  exact (Nat.ne_of_lt hlt).symm

theorem keeps_settle {id : TxId} (h : active = true → id ≠ tx) (ctx : Context) (o : Outcome α) :
    Keeps (Standing tx active) (db.settle ctx id o) := by
  cases o with
  | value a =>
      refine .bind (.of_world_eq fun _ => rfl) fun act => ?_
      cases act with
      | true => exact .bind (db.keeps_finishBy h ctx (.commit id) _) fun _ => .pure a
      | false => exact .bind (.log _) fun _ => .pure a
  | failed e =>
      refine .bind (.attempt (db.keeps_finishBy h .background (.rollback id) _)) fun r => ?_
      split
      · exact .fail e
      · exact .fail e
      · exact .bind (.log _) fun _ => .fail _
  | panicked text => exact .bind (db.keeps_abandon h true) fun _ => .panicWith text
  | stuck => exact .finish .stuck

theorem keeps_runInTransaction (ctx : Context) (opts : TxOptions) {body : TxId → SessionM δ σ ν α}
    (hbody : ∀ id, id ≠ tx → Keeps (Standing tx active) (body id)) :
    Keeps (Standing tx active) (db.runInTransaction ctx opts body) := by
  rw [runInTransaction_eq]
  refine .bind_of (db.keeps_begin ctx opts) (fun w id hw h => db.ne_of_begun hw h) fun id hid => ?_
  exact .bind (.catching (hbody id hid)) fun o => db.keeps_settle (fun _ => hid) ctx o

theorem keeps_executePrepared (s : Statement) (ctx : Context) (values : List Value) :
    Keeps (Standing tx active) (db.executePrepared s ctx values) :=
  .bind (db.keeps_statementAt _ _ _ _ _) fun r => .ofExcept r

theorem keeps_prepare (t : Target) (ctx : Context) (sql : String) :
    Keeps (Standing tx active) (db.prepare t ctx sql) :=
  .bind (db.keeps_statementAt _ _ _ _ _) fun r => .bind (.ofExcept r) fun _ => .pure _

theorem keeps_executeItems {ι : Type} (s : Statement) (ctx : Context)
    {args : ι → SessionM δ σ ν (List Value)} (items : List ι)
    (hargs : ∀ i ∈ items, Keeps (Standing tx active) (args i)) (total : UInt64) :
    Keeps (Standing tx active) (db.executeItems s ctx args items total) := by
  induction items generalizing total with
  | nil => exact .pure total
  | cons item items ih =>
      refine .bind (hargs item (List.mem_cons_self ..)) fun values => ?_
      refine .bind (db.keeps_executePrepared s ctx values) fun count => ?_
      refine .bind ?_ fun sum => ih (fun i hi => hargs i (List.mem_cons_of_mem item hi)) sum
      rw [addCounts]
      split
      · exact .pure _
      · exact .panicWith _

theorem keeps_batchExec {ι : Type} (ctx : Context) (sql : String) (items : List ι)
    {args : ι → SessionM δ σ ν (List Value)} (hargs : ∀ i, Keeps (Standing tx active) (args i)) :
    Keeps (Standing tx active) (db.batchExec ctx sql items args) := by
  refine db.keeps_runInTransaction ctx .default fun id _ => .bind (db.keeps_prepare _ ctx sql) fun s => ?_
  exact db.keeps_executeItems s ctx items (fun i _ => hargs i) 0

end Database

/-! ### Programs that spare a transaction -/

/-- The call finishes the transaction that it is made on. -/
def TxCall.isFinishing : TxCall → Bool
  | commit _ | rollback _ => true
  | statement _ | savepoint .. => false

/-- The call does not finish the transaction. -/
def DbCall.Spares (tx : TxId) : DbCall → Prop
  | transaction id c => c.isFinishing = true → id ≠ tx
  | abandon id _ => id ≠ tx
  | statement _ | begin .. | ping _ | close => True

/-- The call can be answered so when the transaction was begun before: none that is begun later is the
same. -/
def DbCall.Fresh (tx : TxId) : (c : DbCall) → Except Error c.Answer → Prop
  | begin .., r => r ≠ .ok tx
  | statement _, _ | transaction .., _ | abandon .., _ | ping _, _ | close, _ => True

/-- The program does not finish the transaction, which was begun before. -/
def Program.Spares (tx : TxId) : {α : Type} → Program α → Prop
  | _, done _ => True
  | _, call c next => c.Spares tx ∧ ∀ r, c.Fresh tx r → Spares tx (next r)
  | _, inTransaction _ _ body next =>
    (∀ id, id ≠ tx → Spares tx (body id)) ∧ ∀ r, Spares tx (next r)
  | _, batch _ _ _ args next => (∀ i, Spares tx (args i)) ∧ ∀ r, Spares tx (next r)
  | _, meanwhile _ next => ∀ env active, Spares tx (next env active)

open SessionM Database

variable (db : Database δ σ ν) {tx : TxId} {active : Bool}

theorem TxCall.keeps {id : TxId} (c : TxCall) (h : active = true → c.isFinishing = true → id ≠ tx) :
    Keeps (Standing tx active) (c.run db id) := by
  cases c with
  | statement q => exact db.keeps_request _ q
  | savepoint ctx op name => exact db.keeps_savepoint id ctx op name
  | commit ctx => exact .attempt (db.keeps_finishBy (fun hactive => h hactive rfl) ctx _ _)
  | rollback ctx => exact .attempt (db.keeps_finishBy (fun hactive => h hactive rfl) ctx _ _)

theorem DbCall.keeps (c : DbCall) (h : active = true → c.Spares tx) :
    Keeps (Standing tx active) (c.run db) := by
  cases c with
  | statement q => exact db.keeps_request _ q
  | begin ctx opts => exact .attempt (db.keeps_begin ctx opts)
  | transaction id c => exact c.keeps db h
  | abandon id unwinding => exact .attempt (db.keeps_abandon h unwinding)
  | ping ctx =>
      refine .attempt (.bind (db.keeps_effective ctx) fun ctx => ?_)
      exact .bind (db.keeps_dispatchLive ctx .ping) fun r => .ofExcept _
  | close => exact .attempt (.bind (db.keeps_dispatch .background .close) fun r => .ofExcept _)

/-- What a call is answered with in a world where the transaction was begun before. -/
theorem DbCall.fresh_of_run {c : DbCall} {r : Except Error c.Answer} {w : World δ σ}
    (hw : Standing tx active w) (h : ((c.run db).run w).outcome = .value r) : c.Fresh tx r := by
  cases c with
  | begin ctx opts =>
      rintro rfl
      rw [DbCall.run, run_attempt] at h
      exact db.ne_of_begun hw (attempted_eq_ok.mp h) rfl
  | statement q => trivial
  | transaction id c => trivial
  | abandon id unwinding => trivial
  | ping ctx => trivial
  | close => trivial

/-- **A transaction stays what it is under programs that spare it**, and a finished one under all. -/
theorem Program.keeps (p : Program α) (h : active = true → p.Spares tx) :
    Keeps (Standing tx active) (p.run db) := by
  induction p with
  | done o => exact .finish o
  | call c next ih =>
      refine .bind_of (c.keeps db fun ha => (h ha).1) (fun w r hw ho => c.fresh_of_run db hw ho) ?_
      exact fun r hr => ih r fun ha => (h ha).2 r hr
  | inTransaction ctx opts body next ihbody ih =>
      refine .bind (.attempt (db.keeps_runInTransaction ctx opts ?_)) fun r => ih r fun ha => (h ha).2 r
      exact fun id hid => ihbody id fun ha => (h ha).1 id hid
  | batch ctx sql items args next ihargs ih =>
      refine .bind (.attempt (db.keeps_batchExec ctx sql items ?_)) fun r => ih r fun ha => (h ha).2 r
      exact fun i => ihargs i fun ha => (h ha).1 i
  | meanwhile change next ih =>
      refine .bind (fun _ hw => hw) fun _ w hw => ?_
      exact ih w.env w.active.contains (fun ha => h ha _ _) w hw

end DbAccess
