import DbAccess.Proofs.Mapper.Settled
import DbAccess.Proofs.Session.Inert
/-!
# What is learned from the calls on a database

`SessionM.Settles` says of a computation which values it can have and which errors it can fail with.
`Database.Admits` collects what has to be asked of a property of errors so that every error that is learned from
a call on a database has it (`DbCall.admitted`): the mapper's answers have it, and so have the few errors that no
mapper sees. Programs that fail only with what they learned have it too (`Program.settles`).

`Database.bare_errors_classified` takes two properties: not to be bare, and to be a timeout when there is a
context inside. That an ended context is learned of at all is `DbCall.learned_of_fault?`.
-/

namespace DbAccess

variable {δ σ ν α β : Type}

/-! ### Computations that settle -/

/-- The value has the one property, and the failure the other. -/
def Outcome.Settled (E : Error → Prop) (Q : α → Prop) : Outcome α → Prop
  | .value a => Q a
  | .failed e => E e
  | .panicked _ | .stuck => True

/-- The value has the one property, and the error the other. -/
def ResultSettled (E : Error → Prop) (Q : α → Prop) : Except Error α → Prop
  | .ok a => Q a
  | .error e => E e

/-- Any value. -/
def Anything (_ : α) : Prop := True

variable {E : Error → Prop} {Q : α → Prop} {R : β → Prop}

theorem Outcome.Settled.map {o : Outcome α} {f : α → β} (h : o.Settled E Q) (hf : ∀ a, Q a → R (f a)) :
    (o.map f).Settled E R := by
  cases o with
  | value a => exact hf a h
  | failed e => exact h
  | panicked text => trivial
  | stuck => trivial

namespace SessionM

/-- Wherever the computation begins, its value has the one property, and its failure the other. -/
def Settles (E : Error → Prop) (Q : α → Prop) (x : SessionM δ σ ν α) : Prop :=
  ∀ w, (x.run w).outcome.Settled E Q

namespace Settles

theorem pure {a : α} (h : Q a) : Settles E Q (Pure.pure a : SessionM δ σ ν α) := fun _ => h

theorem fail {e : Error} (h : E e) : Settles E Q (SessionM.fail e : SessionM δ σ ν α) := fun _ => h

theorem panicWith (text : String) : Settles E Q (SessionM.panicWith text : SessionM δ σ ν α) :=
  fun _ => trivial

theorem finish {o : Outcome α} (h : o.Settled E Q) : Settles E Q (SessionM.finish o : SessionM δ σ ν α) :=
  fun _ => h

theorem log (e : LogEvent) : Settles E Anything (SessionM.log e : SessionM δ σ ν Unit) := fun _ => trivial

theorem modify (f : World δ σ → World δ σ) :
    Settles E Anything (SessionM.modify f : SessionM δ σ ν Unit) := fun _ => trivial

theorem world : Settles E Anything (SessionM.world : SessionM δ σ ν (World δ σ)) := fun _ => trivial

theorem ofExcept {r : Except Error α} (h : ResultSettled E Q r) :
    Settles E Q (SessionM.ofExcept r : SessionM δ σ ν α) := by
  cases r with
  | ok a => exact pure h
  | error e => exact fail h

theorem bind {x : SessionM δ σ ν α} {f : α → SessionM δ σ ν β} (hx : Settles E Q x)
    (hf : ∀ a, Q a → Settles E R (f a)) : Settles E R (x >>= f) := by
  intro w
  have hx' := hx w
  rw [run_bind]
  generalize x.run w = r at hx'
  obtain ⟨o, w', t⟩ := r
  cases o with
  | value a => exact hf a hx' w'
  | failed e => exact hx'
  | panicked text => trivial
  | stuck => trivial

theorem mono {x : SessionM δ σ ν α} {Q' : α → Prop} (hx : Settles E Q x) (h : ∀ a, Q a → Q' a) :
    Settles E Q' x := by
  intro w
  have hx' := hx w
  generalize (x.run w).outcome = o at hx'
  cases o with
  | value a => exact h a hx'
  | failed e => exact hx'
  | panicked text => trivial
  | stuck => trivial

theorem bind_any {x : SessionM δ σ ν α} {f : α → SessionM δ σ ν β} (hx : Settles E Anything x)
    (hf : ∀ a, Settles E R (f a)) : Settles E R (x >>= f) :=
  bind hx fun a _ => hf a

theorem catching {x : SessionM δ σ ν α} (h : Settles E Q x) :
    Settles E (Outcome.Settled E Q) (SessionM.catching x) := h

theorem attempt {x : SessionM δ σ ν α} (h : Settles E Q x) :
    Settles E (ResultSettled E Q) (SessionM.attempt x) := by
  intro w
  have hx := h w
  rw [run_attempt]
  generalize x.run w = r at hx
  obtain ⟨o, w', t⟩ := r
  cases o with
  | value a => exact hx
  | failed e => exact hx
  | panicked text => trivial
  | stuck => trivial

end Settles

end SessionM

/-! ### Admitted errors -/

open SessionM

namespace Database

/-- Whatever is learned from calls on the database may be learned: what the mapper answers to raw errors, what
no mapper sees, and what is made of two of them. -/
structure Admits (db : Database δ σ ν) (E : Error → Prop) : Prop where
  classify : ∀ e, E (db.classify e)
  decode : ∀ f, E (.decode f)
  invalidInput : ∀ f, E (.invalidInput f)
  transactionClosed : E .transactionClosed
  rollback : ∀ {failure undo}, E failure → E undo → E (.rollback failure undo)

namespace Admits

variable {db : Database δ σ ν}

theorem dispatch (ctx : Context) (c : DriverCall) : Settles E Anything (db.dispatch ctx c) := by
  intro w
  rw [run_dispatch]
  cases (db.driverRun w ctx c).reply <;> trivial

theorem dispatchLive (ctx : Context) (c : DriverCall) : Settles E Anything (db.dispatchLive ctx c) := by
  intro w
  rw [run_dispatchLive]
  cases ctx.err w.env with
  | some e => trivial
  | none => exact dispatch ctx c w

theorem abandon (tx : TxId) (unwinding : Bool) : Settles E Anything (db.abandon tx unwinding) := by
  intro w
  cases hactive : w.active.contains tx with
  | true =>
      rw [db.run_abandon_of_active w tx hactive]
      dsimp only
      cases (db.driverRun (w.without tx) .background (.rollback tx)).reply <;> trivial
  | false =>
      rw [db.run_abandon_of_finished w tx hactive]
      trivial

variable (h : db.Admits E)
include h

theorem mapError (r : Except RawError α) : ResultSettled E Anything (r.mapError db.classify) := by
  cases r with
  | ok a => trivial
  | error e => exact h.classify e

theorem statementAt (t : Target) (ctx : Context) (sql : String) (args : List Value) (c : DriverCall) :
    Settles E (ResultSettled E Anything) (db.statementAt t ctx sql args c) := by
  intro w
  rw [run_statementAt]
  split
  · rw [outcome_statement_of_raw]
    cases db.statementRaw? w ctx sql args c with
    | some raw => exact h.mapError raw
    | none => trivial
  · exact h.transactionClosed

/-- The row of an answer that keeps an admitted error, or is missing, however it is taken. -/
theorem oneRow {r : Except Error (Option Row)} (hr : ResultSettled E Anything r) {use : RowUse} {e : Error}
    (he : OneRow.error? ⟨r, db.mapper⟩ use = some e) : E e := by
  cases r with
  | error f =>
      have hf : e = f := by
        cases use <;> exact (Option.some.inj he).symm
      rw [hf]
      exact hr
  | ok row? =>
      cases row? with
      | none =>
          cases use with
          | optional => cases he
          | row =>
              rw [← Option.some.inj he]
              exact h.classify .noRows
          | column index d =>
              rw [← Option.some.inj he]
              exact h.classify .noRows
      | some row =>
          cases use with
          | row => cases he
          | optional => cases he
          | column index d =>
              have hget : Database.error? (row.getAs index d) = some e := he
              obtain ⟨f, rfl⟩ := Row.error?_getAs hget
              exact h.decode f

/-- What a request makes of the result of its statement lets nothing else be learned. -/
theorem result {t : Target} (q : Request) {r : Except Error (q.call t).Answer}
    (hr : ResultSettled E Anything r) {use : RowUse} {e : Error}
    (he : q.error? use (q.result db t r) = some e) : E e := by
  cases q with
  | queryOne ctx sql args => exact h.oneRow hr he
  | queryOnePrepared ctx stmt args => exact h.oneRow hr he
  | execute | query | prepare | executePrepared | queryPrepared =>
      cases r with
      | ok a => cases he
      | error f =>
          rw [← Option.some.inj he]
          exact hr

theorem request (t : Target) (q : Request) :
    Settles E (fun r => ∀ use e, q.error? use r = some e → E e) (q.run db t) := by
  intro w
  rw [Request.run_request]
  exact (h.statementAt t q.ctx q.sql q.args (q.call t) w).map fun r hr use e he => h.result q hr he

theorem begin (ctx : Context) (opts : TxOptions) : Settles E Anything (db.begin ctx opts) := by
  have heffective : Settles E Anything (db.effective ctx) := fun _ => trivial
  refine .bind_any heffective fun ctx => .bind_any .world fun w => ?_
  refine .bind_any (dispatchLive ctx (.begin w.nextTx opts)) fun r => ?_
  refine .bind_any (.ofExcept (h.mapError r)) fun _ => ?_
  exact .bind_any (.modify _) fun _ => .pure trivial

theorem finishBy (tx : TxId) (ctx : Context) (c : DriverCall) (unit : c.Answer → Unit) :
    Settles E Anything (db.finishBy tx ctx c unit) := by
  intro w
  rw [run_finishBy]
  split
  · dsimp only
    cases (db.driverRun (w.without tx).tick (db.effectiveContext w ctx) c).reply with
    | ok a => trivial
    | error e => exact h.classify e
    | never => trivial
  · exact h.transactionClosed

theorem ping (ctx : Context) : Settles E Anything (db.ping ctx) := by
  have heffective : Settles E Anything (db.effective ctx) := fun _ => trivial
  refine .bind_any heffective fun ctx => .bind_any (dispatchLive ctx .ping) fun r => ?_
  exact .ofExcept (h.mapError r)

theorem close : Settles E Anything db.close :=
  .bind_any (dispatch .background .close) fun r => .ofExcept (h.mapError r)

/-- A failed body is followed by a rollback, whose failure joins that of the body. -/
theorem settle (ctx : Context) (tx : TxId) {o : Outcome α} (ho : o.Settled E Q) :
    Settles E Q (db.settle ctx tx o) := by
  cases o with
  | value a =>
      have hactive : Settles E Anything (isActive tx : SessionM δ σ ν Bool) := fun _ => trivial
      refine .bind_any hactive fun act => ?_
      cases act with
      | true => exact .bind_any (h.finishBy tx ctx (.commit tx) _) fun _ => .pure ho
      | false => exact .bind_any (.log _) fun _ => .pure ho
  | failed e =>
      refine .bind (.attempt (h.finishBy tx .background (.rollback tx) _)) fun r hr => ?_
      split
      · exact .fail ho
      · exact .fail ho
      · exact .bind_any (.log _) fun _ => .fail (h.rollback ho hr)
  | panicked text => exact .bind_any (abandon tx true) fun _ => .panicWith text
  | stuck => exact .finish trivial

theorem runInTransaction (ctx : Context) (opts : TxOptions) {body : TxId → SessionM δ σ ν α}
    (hbody : ∀ tx, Settles E Q (body tx)) : Settles E Q (db.runInTransaction ctx opts body) := by
  rw [runInTransaction_eq]
  refine .bind_any (h.begin ctx opts) fun tx => ?_
  exact .bind (.catching (hbody tx)) fun o ho => h.settle ctx tx ho

theorem executeItems {ι : Type} (s : Statement) (ctx : Context) {args : ι → SessionM δ σ ν (List Value)}
    (hargs : ∀ i, Settles E Anything (args i)) (items : List ι) (total : UInt64) :
    Settles E Anything (db.executeItems s ctx args items total) := by
  induction items generalizing total with
  | nil => exact .pure trivial
  | cons item items ih =>
      refine .bind_any (hargs item) fun values => ?_
      refine .bind_any (.bind (h.statementAt _ _ _ _ _) fun r hr => .ofExcept hr) fun count => ?_
      refine .bind_any ?_ fun sum => ih sum
      rw [addCounts]
      split
      · exact .pure trivial
      · exact .panicWith _

theorem batchExec {ι : Type} (ctx : Context) (sql : String) (items : List ι)
    {args : ι → SessionM δ σ ν (List Value)} (hargs : ∀ i, Settles E Anything (args i)) :
    Settles E Anything (db.batchExec ctx sql items args) := by
  refine h.runInTransaction ctx .default fun tx => ?_
  have hprepare : Settles E Anything (db.prepare (.session tx) ctx sql) :=
    .bind (h.statementAt _ _ _ _ _) fun r hr => .bind_any (.ofExcept hr) fun p => .pure trivial
  exact .bind_any hprepare fun s => h.executeItems s ctx hargs items 0

end Admits

end Database

/-! ### Calls and programs -/

/-- The error that is learned from the result of a call. -/
def DbCall.error? (use : RowUse) : (c : DbCall) → Except Error c.Answer → Option Error
  | statement q, r => q.error? use r
  | transaction _ c, r => c.error? use r
  | begin .., r => Database.error? r
  | abandon .., r | ping _, r | close, r => Database.error? r

/-- What is learned from the result of a call has the property, however it is taken. -/
def DbCall.Teaches (E : Error → Prop) (c : DbCall) (r : Except Error c.Answer) : Prop :=
  ∀ use e, c.error? use r = some e → E e

variable {db : Database δ σ ν}

theorem ResultSettled.of_error? {r : Except Error α} (h : ResultSettled E Anything r) {e : Error}
    (he : Database.error? r = some e) : E e := by
  cases r with
  | ok a => cases he
  | error f =>
      rw [← Option.some.inj he]
      exact h

theorem TxCall.admitted (h : db.Admits E) (tx : TxId) (c : TxCall) :
    Settles E (fun r => ∀ use e, c.error? use r = some e → E e) (c.run db tx) := by
  cases c with
  | statement q => exact h.request (.session tx) q
  | commit ctx => exact .mono (.attempt (h.finishBy tx ctx _ _)) fun r hr use e he => hr.of_error? he
  | rollback ctx => exact .mono (.attempt (h.finishBy tx ctx _ _)) fun r hr use e he => hr.of_error? he
  | savepoint ctx op name =>
      intro w
      rw [TxCall.run_savepoint]
      cases Database.savepointFault? name with
      | some fault =>
          intro use e he
          rw [← Option.some.inj he]
          exact h.invalidInput fault
      | none =>
          refine (h.request (.session tx) (.execute ctx (op.sql name) []) w).map fun r hr use e he => ?_
          cases r with
          | ok n => cases he
          | error f => exact hr use e he

/-- **What is learned from a call on a database is admitted.** -/
theorem DbCall.admitted (h : db.Admits E) (c : DbCall) : Settles E (c.Teaches E) (c.run db) := by
  cases c with
  | statement q => exact h.request .handle q
  | transaction tx c => exact c.admitted h tx
  | begin ctx opts => exact .mono (.attempt (h.begin ctx opts)) fun r hr use e he => hr.of_error? he
  | abandon tx unwinding =>
      exact .mono (.attempt (Database.Admits.abandon tx unwinding)) fun r hr use e he => hr.of_error? he
  | ping ctx => exact .mono (.attempt (h.ping ctx)) fun r hr use e he => hr.of_error? he
  | close => exact .mono (.attempt h.close) fun r hr use e he => hr.of_error? he

/-- The program fails only with errors that have the property, as long as it learns no others. -/
def Program.PassesOn (E : Error → Prop) : {α : Type} → Program α → Prop
  | _, done o => o.Settled E Anything
  | _, call c next => ∀ r, c.Teaches E r → PassesOn E (next r)
  | _, inTransaction _ _ body next =>
    (∀ tx, PassesOn E (body tx)) ∧ ∀ r, ResultSettled E Anything r → PassesOn E (next r)
  | _, batch _ _ _ args next =>
    (∀ i, PassesOn E (args i)) ∧ ∀ r, ResultSettled E Anything r → PassesOn E (next r)
  | _, meanwhile _ next => ∀ env active, PassesOn E (next env active)

/-- **A program that passes on what it learned fails only with admitted errors.** -/
theorem Program.settles (h : db.Admits E) (p : Program α) (hp : p.PassesOn E) :
    Settles E Anything (p.run db) := by
  induction p with
  | done o => exact .finish hp
  | call c next ih => exact .bind (c.admitted h) fun r hr => ih r (hp r hr)
  | inTransaction ctx opts body next ihbody ih =>
      obtain ⟨hbody, hnext⟩ := hp
      refine .bind (.attempt (h.runInTransaction ctx opts ?_)) fun r hr => ih r (hnext r hr)
      exact fun tx => ihbody tx (hbody tx)
  | batch ctx sql items args next ihargs ih =>
      obtain ⟨hargs, hnext⟩ := hp
      refine .bind (.attempt (h.batchExec ctx sql items ?_)) fun r hr => ih r (hnext r hr)
      exact fun i => ihargs i (hargs i)
  | meanwhile change next ih =>
      refine .bind_any (.modify _) fun _ => .bind_any .world fun w => ?_
      exact ih w.env w.active.contains (hp _ _)

/-! ### Ended contexts -/

/-- The raw error in a result. -/
def rawFault? : Except RawError α → Option RawError
  | .ok _ => none
  | .error e => some e

/-- The call goes on to where it is sent: the transaction is active, and the name is a proper one. -/
def DbCall.Taken (w : World δ σ) : DbCall → Prop
  | transaction tx c => w.active.contains tx = true ∧ c.Named
  | statement _ | begin .. | abandon .. | ping _ | close => True

/-- The raw error that comes back to a call in a world, of those that are not kept from the caller. -/
def DbCall.fault? (db : Database δ σ ν) (w : World δ σ) : DbCall → Option RawError
  | statement q => db.requestFault? w .handle q
  | transaction tx c => db.txFault? w tx c
  | begin ctx opts => (db.raw? w ctx (.begin w.nextTx opts)).bind rawFault?
  | ping ctx => (db.raw? w ctx .ping).bind rawFault?
  | close => (Database.returned? (db.driverRun w .background .close).reply).bind rawFault?
  | abandon .. => none

namespace Database

variable (db : Database δ σ ν) (w : World δ σ)

theorem eq_error_of_rawFault? {r? : Option (Except RawError α)} {e : RawError}
    (h : r?.bind rawFault? = some e) : r? = some (.error e) := by
  obtain ⟨r, rfl, hr⟩ := Option.bind_eq_some_iff.mp h
  cases r with
  | ok a => cases hr
  | error f =>
      cases hr
      rfl

theorem error?_oneRow_of_error (e : Error) (m : Mapper) (use : RowUse) :
    OneRow.error? ⟨.error e, m⟩ use = some e := by
  cases use <;> rfl

/-- An ended context that comes back to a request is learned of however the answer is taken. -/
theorem learned_of_requestFault? {t : Target} {q : Request} {k : ContextError} (htakes : takes w t = true)
    (h : db.requestFault? w t q = some (.context k)) :
    ∃ r, ((q.run db t).run w).outcome = .value r ∧
      ∀ use, q.error? use r = some (db.classify (.context k)) := by
  obtain ⟨raw, hraw, hfault⟩ := Option.bind_eq_some_iff.mp h
  have hrun : ((q.run db t).run w).outcome = .value (q.result db t (raw.mapError db.classify)) := by
    rw [Request.run_request, run_statementAt, if_pos htakes, SessionRun.outcome_map, outcome_statement_of_raw,
      hraw]
    rfl
  refine ⟨_, hrun, fun use => ?_⟩
  cases q with
  | queryOne ctx sql args | queryOnePrepared ctx stmt args =>
      cases raw with
      | error e =>
          cases hfault
          exact error?_oneRow_of_error _ _ use
      | ok row? => cases row? <;> cases hfault
  | execute | query | prepare | executePrepared | queryPrepared =>
      cases raw with
      | ok a => cases hfault
      | error e =>
          cases hfault
          rfl

theorem learned_of_finishFault? {tx : TxId} {ctx : Context} {c : DriverCall} {unit : c.Answer → Unit}
    {k : ContextError} (hactive : w.active.contains tx = true)
    (h : db.finishFault? w tx ctx c = some (.context k)) :
    ((attempt (db.finishBy tx ctx c unit)).run w).outcome =
      .value (.error (db.classify (.context k))) := by
  rw [run_attempt, db.run_finishBy_of_active w tx hactive]
  rw [finishFault?] at h
  dsimp only
  cases hreply : (db.driverRun (w.without tx).tick (db.effectiveContext w ctx) c).reply with
  | ok a =>
      rw [hreply] at h
      cases h
  | error e =>
      rw [hreply] at h
      cases h
      rfl
  | never =>
      rw [hreply] at h
      cases h

theorem outcome_begin (ctx : Context) (opts : TxOptions) :
    ((db.begin ctx opts).run w).outcome =
      match db.raw? w ctx (.begin w.nextTx opts) with
      | some (.ok _) => .value w.nextTx
      | some (.error e) => .failed (db.classify e)
      | none => .stuck := by
  rw [raw?_eq]
  cases hr : db.refusal? w ctx with
  | some e => rw [db.run_begin_of_refused w hr]
  | none =>
      rw [db.run_begin_of_live w hr]
      dsimp only
      cases (db.driverRun w.tick (db.effectiveContext w ctx) (.begin w.nextTx opts)).reply <;> rfl

theorem outcome_ping (ctx : Context) :
    ((db.ping ctx).run w).outcome =
      match db.raw? w ctx .ping with
      | some raw => resultOutcome (raw.mapError db.classify)
      | none => .stuck := by
  have hrun : (db.ping ctx).run w =
      ((db.dispatchLive (db.effectiveContext w ctx) .ping).run w.tick).andThen fun r =>
        ofExcept (r.mapError db.classify) := rfl
  have htick : w.tick.env = w.env.tick := rfl
  rw [hrun, db.run_dispatchLive w.tick (db.effectiveContext w ctx) .ping, htick, raw?_eq, refusal?]
  cases (db.effectiveContext w ctx).err w.env.tick with
  | some e => rfl
  | none =>
      dsimp only
      rw [run_dispatch]
      cases (db.driverRun w.tick (db.effectiveContext w ctx) .ping).reply <;> rfl

theorem outcome_close :
    (db.close.run w).outcome =
      match returned? (db.driverRun w .background .close).reply with
      | some raw => resultOutcome (raw.mapError db.classify)
      | none => .stuck := by
  have hrun : db.close.run w =
      ((db.dispatch .background .close).run w).andThen fun r => ofExcept (r.mapError db.classify) := rfl
  rw [hrun, run_dispatch]
  cases (db.driverRun w .background .close).reply <;> rfl

/-- An ended context that comes back to a call on an active transaction is learned of. -/
theorem learned_of_txFault? {tx : TxId} {c : TxCall} {k : ContextError}
    (hactive : w.active.contains tx = true) (hnamed : c.Named)
    (h : db.txFault? w tx c = some (.context k)) :
    ∃ r, ((c.run db tx).run w).outcome = .value r ∧
      ∀ use, c.error? use r = some (db.classify (.context k)) := by
  cases c with
  | statement q => exact db.learned_of_requestFault? w hactive h
  | commit ctx => exact ⟨_, db.learned_of_finishFault? w hactive h, fun _ => rfl⟩
  | rollback ctx => exact ⟨_, db.learned_of_finishFault? w hactive h, fun _ => rfl⟩
  | savepoint ctx op name =>
      have hname : savepointFault? name = none := hnamed
      have htakes : takes w (.session tx) = true := hactive
      obtain ⟨r, hr, hlearned⟩ := db.learned_of_requestFault? w (q := .execute ctx (op.sql name) []) htakes h
      refine ⟨r.map fun _ => (), ?_, fun use => ?_⟩
      · rw [TxCall.run_savepoint, hname]
        dsimp only
        rw [SessionRun.outcome_map, hr]
        rfl
      · have hr' := hlearned use
        cases r with
        | ok n => cases hr'
        | error e => exact hr'

end Database

/-- **An ended context is learned of**, as what the mapper makes of it. -/
theorem DbCall.learned_of_fault? {c : DbCall} {w : World δ σ} {k : ContextError} (htaken : c.Taken w)
    (h : c.fault? db w = some (.context k)) :
    ∃ r, ((c.run db).run w).outcome = .value r ∧
      ∀ use, c.error? use r = some (db.classify (.context k)) := by
  cases c with
  | statement q => exact db.learned_of_requestFault? w rfl h
  | transaction tx c => exact db.learned_of_txFault? w htaken.1 htaken.2 h
  | begin ctx opts =>
      refine ⟨.error (db.classify (.context k)), ?_, fun _ => rfl⟩
      rw [DbCall.run, run_attempt, db.outcome_begin, Database.eq_error_of_rawFault? h]
      rfl
  | ping ctx =>
      refine ⟨.error (db.classify (.context k)), ?_, fun _ => rfl⟩
      rw [DbCall.run, run_attempt, db.outcome_ping, Database.eq_error_of_rawFault? h]
      rfl
  | close =>
      refine ⟨.error (db.classify (.context k)), ?_, fun _ => rfl⟩
      rw [DbCall.run, run_attempt, db.outcome_close, Database.eq_error_of_rawFault? h]
      rfl
  | abandon tx unwinding => cases h

/-! ### Nothing bare gets out -/

namespace Database

variable (db : Database δ σ ν)

theorem admits_settled (h : db.mapper.Settles) : db.Admits fun e => e.isBare = false where
  classify e := h (.raw e)
  decode _ := rfl
  invalidInput _ := rfl
  transactionClosed := rfl
  rollback _ _ := rfl

theorem admits_timeout {cs : List Classifier} (h : db.mapper = .ofClassifiers cs) :
    db.Admits fun e => ∀ k, e.raw? = some (.context k) → e = .ofKind .timeout (.context k) where
  classify e k hk := by
    rw [classify, h] at hk ⊢
    exact Mapper.timeout_of_raw?_context hk
  decode _ _ := nofun
  invalidInput _ _ := nofun
  transactionClosed _ := nofun
  rollback _ _ _ := nofun

/-- **No missing row and no ended context gets out unclassified.** Let the mapper of a database be made of
classifiers, or be a chain that ends in such a one, whatever its members do. It answers to no error with a bare
one; none is learned from any call on the database, wherever it is made and however its answer is taken; and a
program that passes on what it learned ends with none. When the mapper is made of classifiers, a call to which an
ended context comes back lets be learned just that, as a timeout, and no other error has an ended context in it. -/
theorem bare_errors_classified (hm : db.mapper.EndsInDefault) :
    (∀ e, (db.mapper.map e).isBare = false) ∧
    (∀ (c : DbCall) (w : World δ σ) (r : Except Error c.Answer) (use : RowUse) (e : Error),
      ((c.run db).run w).outcome = .value r → c.error? use r = some e → e.isBare = false) ∧
    (∀ {α : Type} (p : Program α) (w : World δ σ) (e : Error), p.PassesOn (fun e => e.isBare = false) →
      ((p.run db).run w).outcome = .failed e → e.isBare = false) ∧
    ∀ cs, db.mapper = .ofClassifiers cs →
      (∀ (c : DbCall) (w : World δ σ) (k : ContextError), c.Taken w → c.fault? db w = some (.context k) →
        ∃ r, ((c.run db).run w).outcome = .value r ∧
          ∀ use, c.error? use r = some (.ofKind .timeout (.context k))) ∧
      ∀ (c : DbCall) (w : World δ σ) (r : Except Error c.Answer) (use : RowUse) (e : Error) (k : ContextError),
        ((c.run db).run w).outcome = .value r → c.error? use r = some e → e.raw? = some (.context k) →
          e = .ofKind .timeout (.context k) := by
  have hbare := db.admits_settled hm.settles
  refine ⟨hm.settles, ?_, ?_, fun cs hcs => ⟨?_, ?_⟩⟩
  · intro c w r use e hrun he
    have hteaches := c.admitted hbare w
    rw [hrun] at hteaches
    exact hteaches use e he
  · intro α p w e hp hrun
    have hsettled := p.settles hbare hp w
    rw [hrun] at hsettled
    exact hsettled
  · intro c w k htaken hfault
    have hclassify : db.classify (.context k) = .ofKind .timeout (.context k) := by
      rw [classify, hcs]
      rfl
    rw [← hclassify]
    exact c.learned_of_fault? htaken hfault
  · intro c w r use e k hrun he
    have hteaches := c.admitted (db.admits_timeout hcs) w
    rw [hrun] at hteaches
    exact hteaches use e he k

section forgetful

/-- A mapper that takes every error for a missing row. -/
def forgetful : Mapper := .ofFunction fun _ => .raw .noRows

/-- A failed rollback is taken for a missing row, which comes back as one that was not found; without such a
mapper a ping that comes too late is a timeout. -/
theorem classified_of_forgetful :
    let db := broken (.chain [forgetful] .default)
    let rollback := DbCall.transaction 0 (.rollback .background)
    let ping := DbCall.ping (Context.background.withDeadline 0)
    let w := ((db.begin .background .default).run quiet).world
    db.mapper.EndsInDefault ∧ (∀ e, (db.mapper.map e).isBare = false) ∧
      ((rollback.run db).run w).outcome = .value (.error (.ofKind .notFound .noRows)) ∧
      (Error.ofKind .notFound .noRows).isBare = false ∧
      (broken .default).mapper.EndsInDefault ∧ ping.Taken quiet ∧
      ping.fault? (broken .default) quiet = some (.context .deadlineExceeded) ∧
      ∃ r, ((ping.run (broken .default)).run quiet).outcome = .value r ∧
        ping.error? .row r = some (.ofKind .timeout (.context .deadlineExceeded)) := by
  intro db rollback ping w
  have hends : db.mapper.EndsInDefault := ⟨Classifier.builtin, .inr ⟨[forgetful], rfl⟩⟩
  have hends' : (broken .default).mapper.EndsInDefault := ⟨Classifier.builtin, .inl rfl⟩
  have hrun : ((rollback.run db).run w).outcome = .value (.error (.ofKind .notFound .noRows)) := rfl
  obtain ⟨hmap, hlearned, -⟩ := bare_errors_classified db hends
  obtain ⟨-, -, -, htimeout⟩ := bare_errors_classified (broken .default) hends'
  have hfault : ping.fault? (broken .default) quiet = some (.context .deadlineExceeded) := rfl
  obtain ⟨r, hr, huse⟩ := (htimeout Classifier.builtin rfl).1 ping quiet .deadlineExceeded trivial hfault
  exact ⟨hends, hmap, hrun, hlearned rollback w _ .row _ hrun rfl, hends', trivial, hfault, r, hr, huse .row⟩

end forgetful

end Database

end DbAccess
