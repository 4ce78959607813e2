import DbAccess.Proofs.Session.Program
/-!
# The ledger of a driver

The trace of a run has the calls that reached the driver, but not what the driver made of them.
`Driver.recorded` is the same driver with a ledger, in which it enters each call with its reply. Nobody
notices: `Coupling.recording` couples every computation on a database with the one on the recorded database,
so that only the ledger has grown, by entries for the calls of the trace (`run_recorded`).
-/

namespace DbAccess

variable {δ σ ν α : Type}

/-- A call on a driver and how it ended. -/
structure Entry where
  call : DriverCall
  reply : Reply call.Answer

namespace Entry

/-- A transaction that the driver has begun. -/
def begun (tx : TxId) (opts : TxOptions) : Entry := ⟨.begin tx opts, .ok ()⟩

/-- A transaction that the driver has committed. -/
def committed (tx : TxId) : Entry := ⟨.commit tx, .ok ()⟩

/-- A commit that the driver answered with success. -/
def isCommitted : Entry → Bool
  | ⟨.commit _, .ok _⟩ => true
  | _ => false

end Entry

/-- The driver with a ledger of its calls and their replies. -/
def Driver.recorded (d : Driver δ) : Driver (δ × List Entry) where
  dialect := d.dialect
  run c caller env s :=
    let r := d.run c caller env s.1
    ⟨r.reply, r.env, (r.state, s.2 ++ [⟨c, r.reply⟩]), r.log⟩
  stats s := d.stats s.1

/-- The database whose driver has a ledger. -/
def Database.recorded (db : Database δ σ ν) : Database (δ × List Entry) σ ν :=
  ⟨db.driver.recorded, db.hooks, db.mapper, db.config⟩

/-- The world with a ledger in which these entries are. -/
def World.recording (w : World δ σ) (es : List Entry) : World (δ × List Entry) σ :=
  { w with driver := (w.driver, es) }

/-- The ledger in a world. -/
def World.ledger (w : World (δ × List Entry) σ) : List Entry := w.driver.2

/-- The run with these entries in the ledger at its end. -/
def SessionRun.recording (r : SessionRun δ σ ν α) (es : List Entry) :
    SessionRun (δ × List Entry) σ ν α :=
  ⟨r.outcome, r.world.recording es, r.trace⟩

/-- The same trace and the same world, with a ledger to which entries for the calls of the trace have been
added. -/
def Coupling.recording (base : List Entry) : Coupling δ σ ν (δ × List Entry) σ ν where
  Holds t w t' w' :=
    t' = t ∧ ∃ es, w' = w.recording (base ++ es) ∧ es.map Entry.call = t.filterMap Event.call?
  env_eq := by
    rintro t w t' _ ⟨-, es, rfl, -⟩
    rfl
  active_eq := by
    rintro t w t' _ ⟨-, es, rfl, -⟩
    rfl
  nextTx_eq := by
    rintro t w t' _ ⟨-, es, rfl, -⟩
    rfl
  put := by
    rintro t w t' _ env active nextTx ⟨ht, es, rfl, hcalls⟩
    exact ⟨ht, es, rfl, hcalls⟩
  log := by
    rintro t w _ w' e ⟨rfl, es, hw, hcalls⟩
    refine ⟨rfl, es, hw, ?_⟩
    rw [List.filterMap_append, hcalls]
    exact (List.append_nil _).symm

open SessionM

namespace Database

variable (db : Database δ σ ν)

theorem run_dispatch_recorded (ctx : Context) (c : DriverCall) (w : World δ σ) (es : List Entry) :
    (db.recorded.dispatch ctx c).run (w.recording es) =
      ((db.dispatch ctx c).run w).recording (es ++ [⟨c, (db.driverRun w ctx c).reply⟩]) := by
  rw [run_dispatch, run_dispatch]
  rfl

theorem joins_recorded (base : List Entry) : (Coupling.recording base).Joins db db.recorded where
  mapper := rfl
  config := rfl
  dispatch ctx c := by
    rintro t w _ _ ⟨rfl, es, rfl, hcalls⟩
    rw [run_dispatch_recorded, run_dispatch]
    refine ⟨rfl, rfl, es ++ [⟨c, (db.driverRun w ctx c).reply⟩], ?_, ?_⟩
    · rw [← List.append_assoc]
      rfl
    · rw [List.map_append, List.filterMap_append, hcalls, calls_driverTrace]
      rfl
  tell n := by
    rintro t w _ _ ⟨rfl, es, rfl, hcalls⟩
    rw [run_tell, run_tell]
    refine ⟨rfl, rfl, es, rfl, ?_⟩
    rw [List.filterMap_append, calls_heard, List.append_nil]
    exact hcalls

end Database

/-- A computation on the recorded database is the one on the database itself, and adds to the ledger an entry
for each of its calls. -/
theorem SessionM.run_recorded {x : SessionM δ σ ν α} {y : SessionM (δ × List Entry) σ ν α}
    (h : ∀ base, Coupled (Coupling.recording base) x y) (w : World δ σ) (base : List Entry) :
    ∃ es, y.run (w.recording base) = (x.run w).recording (base ++ es) ∧
      es.map Entry.call = (x.run w).calls := by
  have hstart : (Coupling.recording base).Holds [] w ([] : List (Event ν)) (w.recording base) :=
    ⟨rfl, [], by rw [List.append_nil], rfl⟩
  obtain ⟨ho, ht, es, hw, hcalls⟩ := h base [] w [] (w.recording base) hstart
  exact ⟨es, SessionRun.ext ho hw ht, hcalls⟩

end DbAccess
