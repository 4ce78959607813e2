import DbAccess.Proofs.Session.Ledger
import DbAccess.Proofs.Session.Plain
/-!
# What a transaction enters in the ledger

A plain body leaves it to the bracket around it to finish the transaction. What is entered then follows from
how the whole ends (`entries_runInTransaction`): a value comes of a commit that the driver answered with success,
`Fruitful`; a failure or a panic comes of a begin that was refused, or of a transaction that was undone,
`Fruitless`. There is no third way but never to end.

A transaction fails with the kind of what its begin, its body or its commit failed with, `Database.cause?`,
whatever becomes of the rollback: `kind_of_failed`.
-/

namespace DbAccess

variable {δ σ ν α : Type}

/-! ### What a transaction fails with -/

/-- What a computation fails with, if it does. -/
def Outcome.failure? : Outcome α → Option Error
  | .failed e => some e
  | _ => none

namespace Database

open SessionM

variable (db : Database δ σ ν) (ctx : Context) (opts : TxOptions)

/-- What the body that ended so, or the commit after it, failed with. -/
def causeAfter? (tx : TxId) (w : World δ σ) : Outcome α → Option Error
  | .failed e => some e
  | .value _ => ((db.commit tx ctx).run w).outcome.failure?
  | _ => none

/-- What the begin, the body or the commit of a transaction fails with in this world. What becomes of a
rollback does not count. -/
def cause? (body : TxId → SessionM δ σ ν α) (w : World δ σ) : Option Error :=
  let b := (db.begin ctx opts).run w
  match b.outcome with
  | .value tx =>
    let i := (body tx).run b.world
    db.causeAfter? ctx tx i.world i.outcome
  | o => o.failure?

theorem kind_of_failureOutcome {e e' : Error} {r : Reply Unit}
    (h : (db.failureOutcome e r : Outcome α) = .failed e') : e'.kind = e.kind := by
  cases r with
  | ok u =>
      cases h
      rfl
  | error raw =>
      simp only [failureOutcome] at h
      split at h
      · cases h
        rfl
      · cases h
        rfl
  | never => cases h

theorem kind_of_settle_failed {tx : TxId} {w : World δ σ} {o : Outcome α} {e : Error}
    (h : ((db.settle ctx tx o).run w).outcome = .failed e) :
    ∃ cause, db.causeAfter? ctx tx w o = some cause ∧ e.kind = cause.kind := by
  cases hactive : w.active.contains tx with
  | true =>
      cases o with
      | value a =>
          rw [db.run_settle_value_of_active ctx tx w hactive] at h
          refine ⟨e, ?_, rfl⟩
          rw [causeAfter?, db.run_commit_of_active tx w hactive]
          cases hreply : db.commitReply ctx tx w with
          | ok u =>
              rw [hreply] at h
              cases h
          | error raw =>
              rw [hreply] at h
              cases h
              rfl
          | never =>
              rw [hreply] at h
              cases h
      | failed cause =>
          rw [db.run_settle_failed_of_active ctx tx w hactive] at h
          exact ⟨cause, rfl, db.kind_of_failureOutcome h⟩
      | panicked text =>
          rw [db.run_settle_panicked_of_active ctx tx w hactive] at h
          cases hreply : (db.driverRun (w.without tx) .background (.rollback tx)).reply <;>
            · rw [hreply] at h
              cases h
      | stuck => cases h
  | false =>
      cases o with
      | value a =>
          rw [db.run_settle_value_of_finished ctx tx w hactive] at h
          cases h
      | failed cause =>
          rw [db.run_settle_failed_of_finished ctx tx w hactive] at h
          cases h
          exact ⟨e, rfl, rfl⟩
      | panicked text =>
          rw [db.run_settle_panicked_of_finished ctx tx w hactive] at h
          cases h
      | stuck => cases h

/-- A transaction fails with the kind of its cause. -/
theorem kind_of_failed {body : TxId → SessionM δ σ ν α} {w : World δ σ} {e : Error}
    (h : ((db.runInTransaction ctx opts body).run w).outcome = .failed e) :
    ∃ cause, db.cause? ctx opts body w = some cause ∧ e.kind = cause.kind := by
  cases hbegin : ((db.begin ctx opts).run w).outcome with
  | value tx =>
      rw [db.run_of_begun ctx tx w opts body hbegin] at h
      simp only [cause?, hbegin]
      exact db.kind_of_settle_failed ctx h
  | failed e' =>
      rw [runInTransaction_eq, run_bind, SessionRun.andThen_of_failed hbegin] at h
      cases h
      exact ⟨e, by simp only [cause?, hbegin, Outcome.failure?], rfl⟩
  | panicked text =>
      rw [runInTransaction_eq, run_bind, SessionRun.andThen, hbegin] at h
      cases h
  | stuck =>
      rw [runInTransaction_eq, run_bind, SessionRun.andThen_of_stuck hbegin] at h
      cases h

end Database

/-! ### What is entered -/

/-- The entry finishes the transaction, and nothing has come of it: a rollback, whatever the reply, or a commit
that the driver refused. -/
inductive Entry.Undoes (tx : TxId) : Entry → Prop
  | rolledBack (r : Reply Unit) : Undoes tx ⟨.rollback tx, r⟩
  | refused (e : RawError) : Undoes tx ⟨.commit tx, .error e⟩

/-- Plain calls, whatever the replies. -/
def Entry.Plain (es : List Entry) : Prop := ∀ s ∈ es, s.call.isPlain = true

/-- The entries of a transaction that came to nothing: none, because its context had ended; a refused begin;
or a transaction that was begun and undone. -/
inductive Fruitless (opts : TxOptions) : List Entry → Prop
  | unasked : Fruitless opts []
  | refused (tx : TxId) (e : RawError) : Fruitless opts [⟨.begin tx opts, .error e⟩]
  | undone {tx : TxId} {ss : List Entry} {f : Entry} (hss : Entry.Plain ss) (hf : f.Undoes tx) :
      Fruitless opts (.begun tx opts :: ss ++ [f])

/-- The entries of a transaction that was committed. -/
inductive Fruitful (opts : TxOptions) : List Entry → Prop
  | committed {tx : TxId} {ss : List Entry} (hss : Entry.Plain ss) :
      Fruitful opts (.begun tx opts :: ss ++ [.committed tx])

/-- The commits among the entries that the driver answered with success. -/
def Entry.commits (es : List Entry) : Nat := es.countP Entry.isCommitted

/-- The begins among the entries. -/
def Entry.begins (es : List Entry) : Nat := es.countP fun s => s.call.isBegin

/-- What is entered for a begin, by how it ends. -/
def BeginEntered (opts : TxOptions) (es : List Entry) : Outcome TxId → Prop
  | .value tx => es = [.begun tx opts]
  | .failed _ => Fruitless opts es
  | .panicked _ => False
  | .stuck => Entry.commits es = 0 ∧ Entry.begins es ≤ 1

/-- What is entered after a body, by how the whole ends. -/
def SettleEntered (tx : TxId) (es : List Entry) : Outcome α → Prop
  | .value _ => es = [.committed tx]
  | .failed _ | .panicked _ => ∃ f, es = [f] ∧ f.Undoes tx
  | .stuck => Entry.commits es = 0 ∧ Entry.begins es = 0

/-- What is entered for a transaction, by how it ends. -/
def Entered (opts : TxOptions) (es : List Entry) : Outcome α → Prop
  | .value _ => Fruitful opts es
  | .failed _ | .panicked _ => Fruitless opts es
  | .stuck => Entry.commits es = 0 ∧ Entry.begins es ≤ 1

namespace Entry

theorem commits_append (es fs : List Entry) : commits (es ++ fs) = commits es + commits fs :=
  List.countP_append

theorem begins_append (es fs : List Entry) : begins (es ++ fs) = begins es + begins fs :=
  List.countP_append

theorem Plain.commits_eq {ss : List Entry} (h : Plain ss) : commits ss = 0 := by
  refine List.countP_eq_zero.mpr fun s hs hcommitted => ?_
  have hplain := h s hs
  obtain ⟨c, r⟩ := s
  cases c with
  | commit tx => cases hplain
  | _ => cases hcommitted

theorem Plain.begins_eq {ss : List Entry} (h : Plain ss) : begins ss = 0 := by
  refine List.countP_eq_zero.mpr fun s hs hbegin => ?_
  have hplain := h s hs
  obtain ⟨c, r⟩ := s
  cases c with
  | begin tx opts => cases hplain
  | _ => cases hbegin

theorem commits_begun {ss : List Entry} (h : Plain ss) (tx : TxId) (opts : TxOptions) (es : List Entry) :
    commits (.begun tx opts :: ss ++ es) = commits es := by
  have hbegun : commits [.begun tx opts] = 0 := rfl
  rw [← List.singleton_append, commits_append, commits_append, hbegun, h.commits_eq,
    Nat.zero_add]

theorem begins_begun {ss : List Entry} (h : Plain ss) (tx : TxId) (opts : TxOptions) (es : List Entry) :
    begins (.begun tx opts :: ss ++ es) = 1 + begins es := by
  have hbegun : begins [.begun tx opts] = 1 := rfl
  rw [← List.singleton_append, begins_append, begins_append, hbegun, h.begins_eq, Nat.add_zero]

theorem Undoes.commits_eq {tx : TxId} {f : Entry} (h : f.Undoes tx) : commits [f] = 0 := by
  cases h <;> rfl

theorem Undoes.begins_eq {tx : TxId} {f : Entry} (h : f.Undoes tx) : begins [f] = 0 := by
  cases h <;> rfl

end Entry

theorem Fruitless.commits_eq {opts : TxOptions} {es : List Entry} (h : Fruitless opts es) :
    Entry.commits es = 0 := by
  cases h with
  | unasked => rfl
  | refused tx e => rfl
  | undone hss hf => rw [Entry.commits_begun hss, hf.commits_eq]

theorem Fruitless.begins_le {opts : TxOptions} {es : List Entry} (h : Fruitless opts es) :
    Entry.begins es ≤ 1 := by
  cases h with
  | unasked => exact Nat.zero_le 1
  | refused tx e => exact Nat.le_refl 1
  | undone hss hf =>
      exact Nat.le_of_eq (by rw [Entry.begins_begun hss, hf.begins_eq])

theorem Fruitful.commits_eq {opts : TxOptions} {es : List Entry} (h : Fruitful opts es) :
    Entry.commits es = 1 := by
  cases h with
  | committed hss =>
      rw [Entry.commits_begun hss]
      rfl

theorem Fruitful.begins_eq {opts : TxOptions} {es : List Entry} (h : Fruitful opts es) :
    Entry.begins es = 1 := by
  cases h with
  | committed hss =>
      rw [Entry.begins_begun hss]
      rfl

/-- A transaction is entered with its begin, its body and what follows the body. -/
theorem SettleEntered.entered {opts : TxOptions} {tx : TxId} {ss es : List Entry} {o : Outcome α}
    (h : SettleEntered tx es o) (hss : Entry.Plain ss) : Entered opts (.begun tx opts :: ss ++ es) o := by
  cases o with
  | value a =>
      obtain rfl : es = [.committed tx] := h
      exact .committed hss
  | failed e =>
      obtain ⟨f, rfl, hf⟩ := h
      exact .undone hss hf
  | panicked text =>
      obtain ⟨f, rfl, hf⟩ := h
      exact .undone hss hf
  | stuck =>
      obtain ⟨hcommits, hbegins⟩ := h
      constructor
      · rw [Entry.commits_begun hss, hcommits]
      · exact Nat.le_of_eq (by rw [Entry.begins_begun hss, hbegins])

namespace Database

open SessionM

section replies

variable (db : Database δ σ ν)

theorem beginEntered (w : World δ σ) (opts : TxOptions) (r : Reply Unit) :
    BeginEntered opts [⟨.begin w.nextTx opts, r⟩] (db.beginOutcome w r) := by
  cases r with
  | ok u => rfl
  | error e => exact .refused w.nextTx e
  | never => exact ⟨rfl, Nat.le_refl 1⟩

theorem settleEntered_commit (tx : TxId) (a : α) (r : Reply Unit) :
    SettleEntered tx [⟨.commit tx, r⟩] (db.commitOutcome a r) := by
  cases r with
  | ok u => rfl
  | error e => exact ⟨_, rfl, .refused e⟩
  | never => exact ⟨rfl, rfl⟩

theorem settleEntered_rollback (tx : TxId) (e : Error) (r : Reply Unit) :
    SettleEntered tx [⟨.rollback tx, r⟩] (db.failureOutcome e r : Outcome α) := by
  cases r with
  | ok u => exact ⟨_, rfl, .rolledBack _⟩
  | error raw =>
      rw [failureOutcome]
      split
      · exact ⟨_, rfl, .rolledBack _⟩
      · exact ⟨_, rfl, .rolledBack _⟩
  | never => exact ⟨rfl, rfl⟩

theorem settleEntered_panic (tx : TxId) (text : String) (r : Reply Unit) :
    SettleEntered tx [⟨.rollback tx, r⟩] (panicOutcome text r : Outcome α) := by
  cases r with
  | ok u => exact ⟨_, rfl, .rolledBack _⟩
  | error raw => exact ⟨_, rfl, .rolledBack _⟩
  | never => exact ⟨rfl, rfl⟩

end replies

variable (db : Database δ σ ν) (ctx : Context) (opts : TxOptions) (w : World (δ × List Entry) σ)

theorem ledger_driverWorld (c : DriverCall) :
    (db.recorded.driverWorld w ctx c).ledger = w.ledger ++ [⟨c, (db.recorded.driverRun w ctx c).reply⟩] :=
  rfl

theorem ledger_begin :
    let b := (db.recorded.begin ctx opts).run w
    ∃ es, b.world.ledger = w.ledger ++ es ∧ BeginEntered opts es b.outcome := by
  cases hrefused : db.recorded.refusal? w ctx with
  | some e =>
      rw [db.recorded.run_begin_of_refused w hrefused]
      exact ⟨[], (List.append_nil _).symm, .unasked⟩
  | none =>
      rw [db.recorded.run_begin_of_live w hrefused]
      have hledger := db.ledger_driverWorld (db.recorded.effectiveContext w ctx) w.tick
        (.begin w.nextTx opts)
      refine ⟨_, .trans ?_ hledger, db.recorded.beginEntered w opts _⟩
      show (db.recorded.beginWorld w ctx opts).ledger = _
      rw [beginWorld]
      split <;> rfl

theorem ledger_of_plain {p : Program α} (h : p.Plain) :
    ∃ ss, ((p.run db.recorded).run w).world.ledger = w.ledger ++ ss ∧ Entry.Plain ss := by
  have hcoupled := fun base => p.coupled (db.joins_recorded base)
  obtain ⟨ss, hrun, hcalls⟩ := run_recorded hcoupled ({ w with driver := w.driver.1 } : World δ σ) w.ledger
  refine ⟨ss, congrArg (·.world.ledger) hrun, fun s hs => ?_⟩
  refine h.calls db { w with driver := w.driver.1 } s.call ?_
  rw [← hcalls]
  exact List.mem_map_of_mem hs

theorem ledger_settle {tx : TxId} (hactive : w.active.contains tx = true) (o : Outcome α) :
    let r := (db.recorded.settle ctx tx o).run w
    ∃ es, r.world.ledger = w.ledger ++ es ∧ SettleEntered tx es r.outcome := by
  cases o with
  | value a =>
      rw [db.recorded.run_settle_value_of_active ctx tx w hactive]
      exact ⟨_, db.ledger_driverWorld _ _ _, db.recorded.settleEntered_commit tx a _⟩
  | failed e =>
      rw [db.recorded.run_settle_failed_of_active ctx tx w hactive]
      exact ⟨_, db.ledger_driverWorld _ _ _, db.recorded.settleEntered_rollback tx e _⟩
  | panicked text =>
      rw [db.recorded.run_settle_panicked_of_active ctx tx w hactive]
      exact ⟨_, db.ledger_driverWorld _ _ _, settleEntered_panic tx text _⟩
  | stuck => exact ⟨[], (List.append_nil _).symm, rfl, rfl⟩

/-- **What a transaction with a plain body enters.** -/
theorem entries_runInTransaction {body : TxId → Program α} (hbody : ∀ tx, (body tx).Plain) :
    let r := (db.recorded.runInTransaction ctx opts fun tx => (body tx).run db.recorded).run w
    ∃ es, r.world.ledger = w.ledger ++ es ∧ Entered opts es r.outcome := by
  have hledger := db.ledger_begin ctx opts w
  cases hbegin : ((db.recorded.begin ctx opts).run w).outcome with
  | value tx =>
      obtain ⟨es, hb, hes⟩ := hledger
      rw [hbegin] at hes
      obtain rfl : es = [.begun tx opts] := hes
      have hstanding := db.recorded.standing_of_begun hbegin
      rw [db.recorded.run_of_begun ctx tx w opts (fun tx => (body tx).run db.recorded) hbegin]
      simp only [SessionRun.outcome_after, SessionRun.world_after]
      generalize (db.recorded.begin ctx opts).run w = b at hb hstanding ⊢
      have hkept := (body tx).keeps db.recorded (fun _ => (hbody tx).spares tx) b.world hstanding
      obtain ⟨ss, hi, hss⟩ := db.ledger_of_plain b.world (hbody tx)
      generalize ((body tx).run db.recorded).run b.world = i at hi hkept ⊢
      obtain ⟨es, hs, hes⟩ := db.ledger_settle ctx i.world hkept.2 i.outcome
      refine ⟨.begun tx opts :: ss ++ es, ?_, hes.entered hss⟩
      rw [hs, hi, hb]
      simp
  | failed e =>
      obtain ⟨es, hb, hes⟩ := hledger
      rw [runInTransaction_eq, run_bind, SessionRun.andThen_of_failed hbegin]
      rw [hbegin] at hes
      exact ⟨es, hb, hes⟩
  | panicked text =>
      obtain ⟨es, -, hes⟩ := hledger
      rw [hbegin] at hes
      exact hes.elim
  | stuck =>
      obtain ⟨es, hb, hes⟩ := hledger
      rw [runInTransaction_eq, run_bind, SessionRun.andThen_of_stuck hbegin]
      rw [hbegin] at hes
      exact ⟨es, hb, hes⟩

end Database

end DbAccess
