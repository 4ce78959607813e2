import DbAccess.Proofs.Session.Standing
/-!
# A finished transaction does nothing

Code learns of an error when it looks at an answer: at once, or, after a query for one row, when it takes
the row. `TxCall.error?` is what it learns. While a transaction is active that is a fault of the values
that code or backend provided, or what the mapper makes of the error that came back to this very call
(`TxCall.faulted_or_mapped`). Once it is finished it is `transactionClosed`, which no mapper has seen, and
nothing else happens (`TxCall.closed_of_finished`).

`Program.finished_inert` puts the life of a transaction together.
-/

namespace DbAccess

variable {δ σ ν α β : Type}

/-! ### What is learned from an answer -/

/-- How the answer to a query for one row is taken. -/
inductive RowUse where
  | row
  | optional
  | column {γ : Type} (index : Nat) (d : Decoder γ)

/-- The error that is learned when the row is taken. -/
def OneRow.error? (o : OneRow) : RowUse → Option Error
  | .row => Database.error? o.row
  | .optional => Database.error? o.optional
  | .column index d => Database.error? (o.get index d)

/-- The error that is learned from the result of a request. -/
def Request.error? (use : RowUse) : (q : Request) → Except Error q.Answer → Option Error
  | queryOne .., .ok o | queryOnePrepared .., .ok o => o.error? use
  | execute .., .ok _ | query .., .ok _ | prepare .., .ok _ | executePrepared .., .ok _
  | queryPrepared .., .ok _ => none
  | _, .error e => some e

/-- The error that is learned from the result of a call on a transaction. -/
def TxCall.error? (use : RowUse) : (c : TxCall) → Except Error c.Answer → Option Error
  | statement q, r => q.error? use r
  | savepoint .., r | commit _, r | rollback _, r => Database.error? r

/-! ### The errors of an active transaction -/

/-- The raw error in what comes back to a request; that there is no row is one, for a query for one. -/
def Request.fault? (t : Target) : (q : Request) → Except RawError (q.call t).Answer → Option RawError
  | queryOne .., .ok none | queryOnePrepared .., .ok none => some .noRows
  | queryOne .., .ok (some _) | queryOnePrepared .., .ok (some _) => none
  | execute .., .ok _ | query .., .ok _ | prepare .., .ok _ | executePrepared .., .ok _
  | queryPrepared .., .ok _ => none
  | _, .error e => some e

namespace Database

variable (db : Database δ σ ν)

/-- The raw error that comes back to a request in a world. -/
def requestFault? (w : World δ σ) (t : Target) (q : Request) : Option RawError :=
  (db.statementRaw? w q.ctx q.sql q.args (q.call t)).bind (q.fault? t)

/-- The raw error that comes back to a finishing call in a world. -/
def finishFault? (w : World δ σ) (tx : TxId) (ctx : Context) (c : DriverCall) : Option RawError :=
  match (db.driverRun (w.without tx).tick (db.effectiveContext w ctx) c).reply with
  | .error e => some e
  | _ => none

/-- The raw error that comes back to a call on an active transaction. -/
def txFault? (w : World δ σ) (tx : TxId) : TxCall → Option RawError
  | .statement q => db.requestFault? w (.session tx) q
  | .savepoint ctx op name => db.requestFault? w (.session tx) (.execute ctx (op.sql name) [])
  | .commit ctx => db.finishFault? w tx ctx (.commit tx)
  | .rollback ctx => db.finishFault? w tx ctx (.rollback tx)

/-- Where an error comes from: it tells of a value or a name that is not right, or it is what the mapper
makes of a raw error. -/
inductive FaultedOrMapped (fault? : Option RawError) : Error → Prop
  | decode (f : DecodeFault) : FaultedOrMapped fault? (.decode f)
  | invalidInput (f : InputFault) : FaultedOrMapped fault? (.invalidInput f)
  | mapped {e : RawError} (h : fault? = some e) : FaultedOrMapped fault? (db.classify e)

theorem FaultedOrMapped.of_closed {fault? : Option RawError}
    (h : db.FaultedOrMapped fault? .transactionClosed) :
    ∃ e, fault? = some e ∧ db.classify e = .transactionClosed := by
  generalize hc : Error.transactionClosed = c at h
  cases h with
  | decode f => cases hc
  | invalidInput f => cases hc
  | mapped he => exact ⟨_, he, rfl⟩

end Database

open SessionM Database

variable (db : Database δ σ ν)

theorem Row.error?_getAs {γ : Type} {r : Row} {index : Nat} {d : Decoder γ} {e : Error}
    (h : error? (r.getAs index d) = some e) : ∃ f, e = .decode f := by
  rw [Row.getAs] at h
  cases hget : r.get? index with
  | none =>
      rw [hget] at h
      exact ⟨_, (Option.some.inj h).symm⟩
  | some v =>
      simp only [hget, Row.decode] at h
      cases hd : d v with
      | ok a =>
          rw [hd] at h
          cases h
      | error f =>
          rw [hd] at h
          exact ⟨f, (Option.some.inj h).symm⟩

/-- What is learned when the row is taken. -/
theorem OneRow.faulted_or_mapped {raw : Except RawError (Option Row)} {fault? : Option RawError}
    (herror : ∀ e, raw = .error e → fault? = some e) (hnone : raw = .ok none → fault? = some .noRows)
    {use : RowUse} {e : Error} (h : (db.oneRow raw).error? use = some e) :
    db.FaultedOrMapped fault? e := by
  cases raw with
  | error r =>
      have he : e = db.classify r := by
        cases use <;> exact (Option.some.inj h).symm
      rw [he]
      exact .mapped (herror r rfl)
  | ok o =>
      cases o with
      | none =>
          cases use with
          | optional => cases h
          | row =>
              rw [← Option.some.inj h]
              exact .mapped (hnone rfl)
          | column index d =>
              rw [← Option.some.inj h]
              exact .mapped (hnone rfl)
      | some r =>
          cases use with
          | row => cases h
          | optional => cases h
          | column index d =>
              have hget : Database.error? (r.getAs index d) = some e := h
              obtain ⟨f, rfl⟩ := Row.error?_getAs hget
              exact .decode f

/-- What is learned from the result of a request. -/
theorem Request.faulted_or_mapped {t : Target} (q : Request)
    {raw : Except RawError (q.call t).Answer} {use : RowUse} {e : Error}
    (h : q.error? use (q.result db t (raw.mapError db.classify)) = some e) :
    db.FaultedOrMapped (q.fault? t raw) e := by
  cases q with
  | queryOne ctx sql args =>
      have hrow : (db.oneRow raw).error? use = some e := h
      refine OneRow.faulted_or_mapped db ?_ ?_ hrow
      · rintro r rfl
        rfl
      · rintro rfl
        rfl
  | queryOnePrepared ctx stmt args =>
      have hrow : (db.oneRow raw).error? use = some e := h
      refine OneRow.faulted_or_mapped db ?_ ?_ hrow
      · rintro r rfl
        rfl
      · rintro rfl
        rfl
  | execute | query | prepare | executePrepared | queryPrepared =>
      cases raw with
      | ok a => cases h
      | error r =>
          rw [← Option.some.inj h]
          exact .mapped rfl

theorem Request.faulted_or_mapped_of_run {w : World δ σ} {tx : TxId} (q : Request)
    (hactive : w.active.contains tx = true) {r : Except Error q.Answer} {use : RowUse} {e : Error}
    (hrun : ((q.run db (.session tx)).run w).outcome = .value r) (h : q.error? use r = some e) :
    db.FaultedOrMapped (db.requestFault? w (.session tx) q) e := by
  have htakes : takes w (.session tx) = true := hactive
  rw [Request.run_request, run_statementAt, if_pos htakes, SessionRun.outcome_map,
    outcome_statement_of_raw] at hrun
  rw [requestFault?]
  cases hraw : db.statementRaw? w q.ctx q.sql q.args (q.call (.session tx)) with
  | none =>
      rw [hraw] at hrun
      cases hrun
  | some raw =>
      rw [hraw] at hrun
      injection hrun with hr
      rw [← hr] at h
      exact q.faulted_or_mapped db h

theorem Database.faulted_or_mapped_of_finishBy {w : World δ σ} {tx : TxId} {ctx : Context}
    {c : DriverCall} {unit : c.Answer → Unit} (hactive : w.active.contains tx = true)
    {r : Except Error Unit} {e : Error}
    (hrun : ((attempt (db.finishBy tx ctx c unit)).run w).outcome = .value r)
    (h : error? r = some e) : db.FaultedOrMapped (db.finishFault? w tx ctx c) e := by
  rw [run_attempt, db.run_finishBy_of_active w tx hactive] at hrun
  rw [finishFault?]
  cases hreply : (db.driverRun (w.without tx).tick (db.effectiveContext w ctx) c).reply with
  | ok a =>
      simp only [hreply, finishOutcome, attempted] at hrun
      injection hrun with hr
      rw [← hr] at h
      cases h
  | error raw =>
      simp only [hreply, finishOutcome, attempted] at hrun
      injection hrun with hr
      rw [← hr] at h
      rw [← Option.some.inj h]
      exact .mapped rfl
  | never =>
      simp only [hreply, finishOutcome, attempted] at hrun
      cases hrun

/-- **What is learned from a call on an active transaction** is about values or names, or it was made by the
mapper. -/
theorem TxCall.faulted_or_mapped {w : World δ σ} {tx : TxId} (c : TxCall)
    (hactive : w.active.contains tx = true) {r : Except Error c.Answer} {use : RowUse} {e : Error}
    (hrun : ((c.run db tx).run w).outcome = .value r) (h : c.error? use r = some e) :
    db.FaultedOrMapped (db.txFault? w tx c) e := by
  cases c with
  | statement q => exact q.faulted_or_mapped_of_run db hactive hrun h
  | commit ctx => exact db.faulted_or_mapped_of_finishBy hactive hrun h
  | rollback ctx => exact db.faulted_or_mapped_of_finishBy hactive hrun h
  | savepoint ctx op name =>
      rw [TxCall.run_savepoint] at hrun
      cases hfault : savepointFault? name with
      | some fault =>
          simp only [hfault] at hrun
          injection hrun with hr
          rw [← hr] at h
          rw [← Option.some.inj h]
          exact .invalidInput fault
      | none =>
          simp only [hfault, SessionRun.outcome_map] at hrun
          obtain ⟨count, hcount, rfl⟩ := Outcome.map_eq_value.mp hrun
          cases count with
          | ok n => cases h
          | error f =>
              have hf : Request.error? use (.execute ctx (op.sql name) []) (.error f) = some e := h
              exact Request.faulted_or_mapped_of_run db _ hactive hcount hf

/-! ### A finished transaction -/

/-- The names in the call are proper ones. -/
def TxCall.Named : TxCall → Prop
  | savepoint _ _ name => savepointFault? name = none
  | statement _ | commit _ | rollback _ => True

theorem Request.error?_closed (t : Target) (use : RowUse) (q : Request) :
    q.error? use (q.result db t (.error .transactionClosed)) = some .transactionClosed := by
  cases q with
  | queryOne | queryOnePrepared => cases use <;> rfl
  | execute | query | prepare | executePrepared | queryPrepared => rfl

/-- **A call on a finished transaction** does nothing, and that is learned from it. -/
theorem TxCall.closed_of_finished {w : World δ σ} {tx : TxId} (c : TxCall)
    (h : w.active.contains tx = false) (hnamed : c.Named) :
    ∃ r, (c.run db tx).run w = ⟨.value r, w, []⟩ ∧
      ∀ use, c.error? use r = some .transactionClosed := by
  cases c with
  | statement q => exact ⟨_, q.run_of_finished db tx w h, fun use => q.error?_closed db _ use⟩
  | savepoint ctx op name =>
      refine ⟨.error .transactionClosed, ?_, fun _ => rfl⟩
      simp only [TxCall.Named] at hnamed
      rw [TxCall.run_savepoint]
      simp only [hnamed]
      rw [(Request.execute ctx (op.sql name) []).run_of_finished db tx w h]
      rfl
  | commit ctx =>
      refine ⟨.error .transactionClosed, ?_, fun _ => rfl⟩
      rw [TxCall.run, run_attempt, db.run_commit_of_finished w tx ctx h]
      rfl
  | rollback ctx =>
      refine ⟨.error .transactionClosed, ?_, fun _ => rfl⟩
      rw [TxCall.run, run_attempt, db.run_rollback_of_finished w tx ctx h]
      rfl

/-- Once it is committed or rolled back, a transaction is finished, whatever comes of that. -/
theorem TxCall.standing_of_finishing {w : World δ σ} {tx : TxId} {active : Bool} (c : TxCall)
    (hc : c.isFinishing = true) (hw : Standing tx active w) :
    Standing tx false ((c.run db tx).run w).world := by
  cases c with
  | statement q => cases hc
  | savepoint ctx op name => cases hc
  | commit ctx =>
      rw [TxCall.run, run_attempt]
      exact db.standing_of_finishBy hw ctx _ _
  | rollback ctx =>
      rw [TxCall.run, run_attempt]
      exact db.standing_of_finishBy hw ctx _ _

/-! ### The life of a transaction -/

/-- **A finished transaction is inert.** A transaction that was begun is active as long as it is spared, and
nobody learns that it is closed, unless the mapper says so of the error that came back to the call. It is
spared until it is committed or rolled back; from then on, whatever that call was answered with and whatever
a program did since, it is not active, every call on it does nothing but let this be learned, and its going
out of scope does nothing. -/
theorem Program.finished_inert (p : Program α) (w₀ : World δ σ) {ctx : Context} {opts : TxOptions}
    {tx : TxId} (hbegin : ((db.begin ctx opts).run w₀).outcome = .value tx) (hspares : p.Spares tx) :
    let w := ((p.run db).run ((db.begin ctx opts).run w₀).world).world
    (isActive tx : SessionM δ σ ν Bool).run w = ⟨.value true, w, []⟩ ∧
    (∀ (c : TxCall) (r : Except Error c.Answer) (use : RowUse),
      ((c.run db tx).run w).outcome = .value r → c.error? use r = some .transactionClosed →
        ∃ e, db.txFault? w tx c = some e ∧ db.classify e = .transactionClosed) ∧
    ∀ (f : TxCall) {β : Type} (later : Program β), f.isFinishing = true →
      let w' := ((later.run db).run ((f.run db tx).run w).world).world
      (isActive tx : SessionM δ σ ν Bool).run w' = ⟨.value false, w', []⟩ ∧
      (∀ c : TxCall, c.Named → ∃ r, (c.run db tx).run w' = ⟨.value r, w', []⟩ ∧
        ∀ use, c.error? use r = some .transactionClosed) ∧
      ∀ unwinding, (db.abandon tx unwinding).run w' = ⟨.value (), w', []⟩ := by
  intro w
  have hw : Standing tx true w := p.keeps db (fun _ => hspares) _ (db.standing_of_begun hbegin)
  refine ⟨?_, ?_, ?_⟩
  · rw [run_isActive, hw.2]
  · intro c r use hrun hclosed
    exact (c.faulted_or_mapped db hw.2 hrun hclosed).of_closed
  · intro f β later hf w'
    have hfinished : Standing tx false ((f.run db tx).run w).world := f.standing_of_finishing db hf hw
    have hspared : false = true → later.Spares tx := nofun
    have hw' : Standing tx false w' := later.keeps db hspared _ hfinished
    refine ⟨?_, ?_, ?_⟩
    · rw [run_isActive, hw'.2]
    · exact fun c hnamed => c.closed_of_finished db hw'.2 hnamed
    · exact fun unwinding => db.run_abandon_of_finished w' tx hw'.2

/-- A transaction is finished by a rollback that fails: the column of a row of it is closed, and the driver
is not asked. -/
theorem closed_after_failed_rollback :
    let db := broken (.ofFunction id)
    let b := (db.begin .background .default).run quiet
    let f := ((TxCall.rollback .background).run db 0).run b.world
    let c := TxCall.statement (.queryOne .background "SELECT 1" [])
    b.outcome = .value 0 ∧ f.outcome = .value (.error (.raw diskError)) ∧
      ∃ r, (c.run db 0).run f.world = ⟨.value r, f.world, []⟩ ∧
        c.error? (.column 0 Value.toInt64) r = some .transactionClosed := by
  intro db b f c
  have hbegin : ((db.begin .background .default).run quiet).outcome = .value 0 := rfl
  have hinert := Program.finished_inert db (.done (.value ())) quiet hbegin trivial
  obtain ⟨-, hclosed, -⟩ := hinert.2.2 (.rollback .background) (.done (.value ())) rfl
  obtain ⟨r, hrun, herror⟩ := hclosed c trivial
  exact ⟨rfl, rfl, r, hrun, herror _⟩

end DbAccess
