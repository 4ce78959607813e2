import DbAccess.Proofs.Session.Standing
/-!
# Plain programs

A plain program makes statements, operations on savepoints and pings, and leaves it to others to begin and to
finish transactions. So it spares every transaction (`Program.Plain.spares`), and the driver gets nothing from it
that has to do with the beginning or the end of one (`Program.Plain.calls`).
-/

namespace DbAccess

variable {δ σ ν α : Type}

/-- The call has nothing to do with the beginning and the end of transactions, or of the driver. -/
def DriverCall.isPlain : DriverCall → Bool
  | begin .. | commit _ | rollback _ | close => false
  | execute .. | query .. | queryOne .. | prepare .. | executePrepared .. | queryPrepared ..
  | queryOnePrepared .. | ping => true

theorem Request.isPlain_call (q : Request) (t : Target) : (q.call t).isPlain = true := by
  cases q <;> rfl

/-- A statement, an operation on a savepoint, or a ping. -/
def DbCall.isPlain : DbCall → Bool
  | statement _ | ping _ => true
  | transaction _ c => !c.isFinishing
  | begin .. | abandon .. | close => false

/-- The program makes plain calls only. -/
def Program.Plain : {α : Type} → Program α → Prop
  | _, done _ => True
  | _, call c next => c.isPlain = true ∧ ∀ r, Plain (next r)
  | _, inTransaction .. | _, batch .. => False
  | _, meanwhile _ next => ∀ env active, Plain (next env active)

theorem DbCall.spares_of_isPlain {c : DbCall} (h : c.isPlain = true) (tx : TxId) : c.Spares tx := by
  cases c with
  | transaction id c =>
      intro hfinish
      rw [DbCall.isPlain, hfinish] at h
      cases h
  | abandon => cases h
  | _ => trivial

/-- A plain program finishes no transaction. -/
theorem Program.Plain.spares {p : Program α} (h : p.Plain) (tx : TxId) : p.Spares tx := by
  induction p with
  | done o => trivial
  | call c next ih => exact ⟨c.spares_of_isPlain h.1 tx, fun r _ => ih r (h.2 r)⟩
  | inTransaction => cases h
  | batch => cases h
  | meanwhile change next ih => exact fun env active => ih env active (h env active)

section calls

variable (db : Database δ σ ν) (w : World δ σ)

theorem Request.calls_isPlain (q : Request) (t : Target) :
    ∀ c ∈ ((q.run db t).run w).calls, c.isPlain = true := by
  intro c hc
  rw [Request.run_request, SessionRun.calls_map, Database.run_statementAt] at hc
  split at hc
  · rw [Database.calls_statement] at hc
    split at hc
    · cases hc
    · rw [List.mem_singleton.mp hc]
      exact q.isPlain_call t
  · cases hc

theorem DbCall.calls_isPlain {c : DbCall} (h : c.isPlain = true) :
    ∀ d ∈ ((c.run db).run w).calls, d.isPlain = true := by
  cases c with
  | statement q => exact q.calls_isPlain db w .handle
  | transaction tx c =>
      cases c with
      | statement q => exact q.calls_isPlain db w (.session tx)
      | savepoint ctx op name =>
          intro d hd
          rw [DbCall.run, TxCall.run_savepoint] at hd
          split at hd
          · cases hd
          · exact (Request.execute ctx (op.sql name) []).calls_isPlain db w (.session tx) d hd
      | commit => cases h
      | rollback => cases h
  | ping ctx =>
      intro d hd
      have hlive := db.run_dispatchLive w.tick (db.effectiveContext w ctx) .ping
      simp only [DbCall.run, SessionM.run_attempt, Database.ping, SessionM.run_bind,
        Database.run_effective, SessionRun.andThen_value, SessionRun.after_nil, hlive] at hd
      split at hd
      · cases hd
      · rw [Database.run_dispatch] at hd
        cases hreply : (db.driverRun w.tick (db.effectiveContext w ctx) .ping).reply <;>
          · simp [hreply, Database.replyOutcome] at hd
            subst hd
            rfl
  | begin => cases h
  | abandon => cases h
  | close => cases h

/-- The driver gets plain calls only from a plain program. -/
theorem Program.Plain.calls {p : Program α} (h : p.Plain) :
    ∀ c ∈ ((p.run db).run w).calls, c.isPlain = true := by
  induction p generalizing w with
  | done o =>
      intro c hc
      cases hc
  | call c next ih =>
      have hcall := c.calls_isPlain db w h.1
      simp only [Program.run, SessionM.run_bind]
      generalize (c.run db).run w = r at hcall
      obtain ⟨o, v, t⟩ := r
      cases o with
      | value a =>
          intro d hd
          rw [SessionRun.andThen_value, SessionRun.calls_after] at hd
          obtain hd | hd := List.mem_append.mp hd
          · exact hcall d hd
          · exact ih a v (h.2 a) d hd
      | failed e => exact hcall
      | panicked text => exact hcall
      | stuck => exact hcall
  | inTransaction => cases h
  | batch => cases h
  | meanwhile change next ih =>
      exact ih _ _ { w with env := change w.env } (h _ _)

end calls

end DbAccess
