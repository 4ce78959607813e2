import DbAccess.Session.Transaction
import DbAccess.Sqlite.Connection
/-!
# What is asked of an engine

`Reading` says what there is to see of an engine: its content, and the content at which the open
transaction was begun. `Lawful` are the laws that transactions rest on: a statement that fails changes
nothing, a commit that fails leaves the transaction open, a rollback succeeds and goes back to the
begin. `EngineTask.Leaves` and `EngineTask.Ensures` carry the laws along the tasks that a connection
is asked to do.
-/

namespace DbAccess.Sqlite

variable {ε κ α β : Type}

namespace EngineTask

/-! ### Tasks -/

/-- Where a task leaves states of a kind: in `done` when it ends with a value, and in `failed` when it
fails. -/
def Leaves (task : EngineTask ε α) (P done failed : ε → Prop) : Prop :=
  ∀ handler env e, P e →
    match (task handler env e).ended with
    | .done _ => done (task handler env e).state
    | .failed _ => failed (task handler env e).state
    | .never => True

/-- A task ends with a value, and leaves states of a kind so. -/
def Ensures (task : EngineTask ε α) (P done : ε → Prop) : Prop :=
  ∀ handler env e, P e →
    (∃ a, (task handler env e).ended = .done a) ∧ done (task handler env e).state

variable {P Q D F : ε → Prop}

theorem Ensures.leaves {task : EngineTask ε α} (h : task.Ensures P D) : task.Leaves P D F := by
  intro handler env e he
  obtain ⟨⟨a, ha⟩, hd⟩ := h handler env e he
  rw [ha]
  exact hd

theorem Leaves.imp {task : EngineTask ε α} (h : task.Leaves P Q F) (hQ : ∀ e, Q e → D e) :
    task.Leaves P D F := by
  intro handler env e he
  have ht := h handler env e he
  cases hw : (task handler env e).ended with
  | done a =>
      rw [hw] at ht
      exact hQ _ ht
  | failed f =>
      rw [hw] at ht
      exact ht
  | never => trivial

theorem Leaves.imp_failed {G : ε → Prop} {task : EngineTask ε α} (h : task.Leaves P D F) (hF : ∀ e, F e → G e) :
    task.Leaves P D G := by
  intro handler env e he
  have ht := h handler env e he
  cases hw : (task handler env e).ended with
  | done a =>
      rw [hw] at ht
      exact ht
  | failed f =>
      rw [hw] at ht
      exact hF _ ht
  | never => trivial

theorem Leaves.of_imp {task : EngineTask ε α} (h : task.Leaves Q D F) (hP : ∀ e, P e → Q e) :
    task.Leaves P D F := fun handler env e he => h handler env e (hP e he)

theorem leaves_done (a : α) (h : ∀ e, P e → D e) : (done a).Leaves P D F := fun _ _ e he => h e he

theorem leaves_fail (f : Failure) (h : ∀ e, P e → F e) : (fail f : EngineTask ε α).Leaves P D F :=
  fun _ _ e he => h e he

theorem leaves_ask (f : ε → α) : (ask f).Leaves P P F := fun _ _ _ he => he

theorem leaves_compiling (E : Engine ε) (sql : String) (h : ∀ e, P e → F e) : (E.compiling sql).Leaves P P F := by
  intro handler env e he
  cases hw : (E.compiling sql handler env e).ended with
  | done p => exact he
  | failed f => exact h e he
  | never => trivial

theorem Leaves.andThen {x : EngineTask ε α} {f : α → EngineTask ε β} (hx : x.Leaves P Q F)
    (hf : ∀ a, (f a).Leaves Q D F) : (x.andThen f).Leaves P D F := by
  intro handler env e he
  have h := hx handler env e he
  unfold EngineTask.andThen
  cases hw : (x handler env e).ended with
  | done a =>
      rw [hw] at h
      simp only [hw]
      exact hf a handler _ _ h
  | failed r =>
      rw [hw] at h
      simp only [hw]
      exact h
  | never => simp only [hw]

theorem Leaves.onWorkbench {x : EngineTask ε α} (h : x.Leaves P D F) :
    x.onWorkbench.Leaves (fun b => P b.engine) (fun b => D b.engine) (fun b => F b.engine) :=
  fun handler env b hb => h handler env b.engine hb

end EngineTask

/-! ### Laws -/

/-- What there is to see of an engine, and which texts are more than statements. -/
structure Reading (ε κ : Type) where
  content : ε → κ
  /-- The content at which the open transaction was begun. -/
  began : ε → Option κ
  /-- Nothing may be written for now. -/
  queryOnly : ε → Bool
  /-- The text begins or finishes a transaction. -/
  isControl : String → Bool
  /-- The text may change whether something may be written. -/
  isSwitch : String → Bool

/-- A transaction is open that was begun at `start`. -/
structure Open (R : Reading ε κ) (start : κ) (q : Bool) (e : ε) : Prop where
  began : R.began e = some start
  queryOnly : R.queryOnly e = q

/-- A transaction is open that was begun at `start`, and the content is `now`. -/
structure OpenAt (R : Reading ε κ) (start now : κ) (q : Bool) (e : ε) : Prop extends Open R start q e where
  content : R.content e = now

/-- No transaction is open, and the content is `now`. -/
structure RestsAt (E : Engine ε) (R : Reading ε κ) (now : κ) (q : Bool) (e : ε) : Prop where
  closed : E.inTransaction e = false
  content : R.content e = now
  queryOnly : R.queryOnly e = q

/-- An engine with transactions. -/
structure Lawful (E : Engine ε) (R : Reading ε κ) : Prop where
  /-- What was begun is open. -/
  inTransaction : ∀ start q e, Open R start q e → E.inTransaction e = true
  /-- The statements that begin a transaction succeed or fail as a whole. -/
  begin : ∀ readOnly now, (E.runTexts (Connection.beginTexts readOnly)).Leaves
    (fun b => RestsAt E R now false b.engine) (fun b => OpenAt R now now readOnly b.engine)
    (fun b => RestsAt E R now false b.engine)
  /-- A statement leaves the transaction open, and one that fails changes nothing. -/
  statement : ∀ extent sql args start now q, R.isControl sql = false →
    EngineTask.Leaves (E.run extent sql args) (OpenAt R start now q)
      (fun e => ∃ now' q', OpenAt R start now' q' e ∧ (R.isSwitch sql = false → q' = q))
      (OpenAt R start now q)
  /-- A commit that fails leaves the transaction open. -/
  commit : ∀ start now q, (E.runText "COMMIT").Leaves (fun b => OpenAt R start now q b.engine)
    (fun b => RestsAt E R now q b.engine) (fun b => Open R start q b.engine)
  /-- The rollback of an open transaction succeeds and goes back to the begin. -/
  rollback : ∀ start q, (E.runText "ROLLBACK").Ensures (fun b => Open R start q b.engine)
    (fun b => RestsAt E R start q b.engine)
  /-- Writing can be allowed again. -/
  writable : ∀ now q, (E.runText Connection.writableText).Ensures (fun b => RestsAt E R now q b.engine)
    (fun b => RestsAt E R now false b.engine)
  /-- Savepoints are set and given up by statements. -/
  savepoint : ∀ (op : Database.SavepointOp) name, Database.savepointFault? name = none →
    R.isControl (Text.trimBlank (op.sql name)) = false ∧ R.isSwitch (Text.trimBlank (op.sql name)) = false

end DbAccess.Sqlite
