import DbAccess.Proofs.Session.Body
import DbAccess.Proofs.Sqlite.Connection
/-!
# Requests inside a transaction

Whatever a transaction asks of its connection comes down to one statement of the engine, or to none
when it is only prepared. So a request that is answered has moved the content at most, and one that is
refused has changed nothing.
-/

namespace DbAccess.Sqlite

variable {ε κ α β : Type} {E : Engine ε} {R : Reading ε κ} {start now : κ} {q : Bool} {sql : String}
  {steady : Prop}

/-- A transaction is open that was begun at `start`, and the content is `now`. Whether something may
be written is as it was, if there was no reason for it to change. -/
def OnWay (R : Reading ε κ) (start : κ) (q : Bool) (steady : Prop) (now : κ) (e : ε) : Prop :=
  ∃ q', OpenAt R start now q' e ∧ (steady → q' = q)

/-- A transaction is open that was begun at `start`. -/
def Moved (R : Reading ε κ) (start : κ) (q : Bool) (steady : Prop) (e : ε) : Prop :=
  ∃ now, OnWay R start q steady now e

/-- The text is a statement that leaves the transaction alone and, if that is said, what may be
written. -/
def IsPlain (R : Reading ε κ) (steady : Prop) (sql : String) : Prop :=
  R.isControl sql = false ∧ (steady → R.isSwitch sql = false)

/-- The statement that a request runs, if it runs one. -/
def runs? : Request → Option String
  | .prepare .. => none
  | r => some (Text.trimBlank r.sql)

/-! ### Tasks -/

namespace Engine

theorem leaves_keep (P : ε → Prop) (text : String) (p : Compiled) :
    (keep text p).Leaves (fun b : Workbench ε => P b.engine) (P ·.engine) (P ·.engine) :=
  fun _ _ _ hb => hb

theorem prepare_leaves (P : ε → Prop) (sql : String) :
    (E.prepare sql).Leaves (P ·.engine) (P ·.engine) (P ·.engine) := by
  unfold prepare
  refine (EngineTask.leaves_ask _).andThen fun kept? => ?_
  cases kept? with
  | some p => exact leaves_keep P _ p
  | none =>
      refine (EngineTask.leaves_compiling E _ fun _ he => he).onWorkbench.andThen fun p => ?_
      exact leaves_keep P _ p

theorem prepareFor_leaves (P : ε → Prop) (sql : String) (args : List Value) :
    (E.prepareFor sql args).Leaves (P ·.engine) (P ·.engine) (P ·.engine) := by
  refine (prepare_leaves P sql).andThen fun p => ?_
  split
  · exact EngineTask.leaves_done p fun b hb => hb
  · exact EngineTask.leaves_fail _ fun b hb => hb

theorem statement_leaves (hE : Lawful E R) (hsql : IsPlain R steady sql) (extent : Extent)
    (args : List Stored) :
    EngineTask.Leaves (E.run extent sql args) (OnWay R start q steady now) (Moved R start q steady)
      (OnWay R start q steady now) := by
  rintro handler env e ⟨q', ho, hq⟩
  have h := hE.statement extent sql args start now q' hsql.1 handler env e ho
  cases hw : (E.run extent sql args handler env e).ended with
  | done rows =>
      rw [hw] at h
      obtain ⟨now', q'', ho', hq'⟩ := h
      exact ⟨now', q'', ho', fun hs => (hq' (hsql.2 hs)).trans (hq hs)⟩
  | failed f =>
      rw [hw] at h
      exact ⟨q', h, hq⟩
  | never => trivial

theorem count_leaves (P F : ε → Prop) (f : ε → Nat) :
    (EngineTask.onWorkbench (EngineTask.ask f)).Leaves (P ·.engine) (P ·.engine) (F ·.engine) :=
  fun _ _ _ hb => hb

section tasks

variable {P D F : ε → Prop}

theorem execute_leaves_of (h : ∀ extent args, EngineTask.Leaves (E.run extent (Text.trimBlank sql) args) P D F)
    (hPF : ∀ e, P e → F e) (args : List Value) :
    (E.execute sql args).Leaves (P ·.engine) (D ·.engine) (F ·.engine) := by
  have hrun : ∀ extent, (E.runBound extent sql args).Leaves (P ·.engine) (D ·.engine) (F ·.engine) :=
    fun extent => (h extent _).onWorkbench
  refine ((prepareFor_leaves P sql args).imp_failed fun b hb => hPF _ hb).andThen fun p => ?_
  split
  · refine (hrun .all).andThen fun _ => ?_
    refine (count_leaves _ _ E.changes).andThen fun n => ?_
    exact EngineTask.leaves_done _ fun b hb => hb
  · refine (count_leaves _ _ E.totalChanges).andThen fun before => ?_
    refine (hrun .all).andThen fun _ => ?_
    refine (count_leaves _ _ E.totalChanges).andThen fun n => ?_
    exact EngineTask.leaves_done _ fun b hb => hb

theorem query_leaves_of (h : ∀ extent args, EngineTask.Leaves (E.run extent (Text.trimBlank sql) args) P D F)
    (hPF : ∀ e, P e → F e) (extent : Extent) (args : List Value) :
    (E.query extent sql args).Leaves (P ·.engine) (D ·.engine) (F ·.engine) := by
  refine ((prepareFor_leaves P sql args).imp_failed fun b hb => hPF _ hb).andThen fun p => ?_
  refine (h extent _).onWorkbench.andThen fun rows => ?_
  exact EngineTask.leaves_done _ fun b hb => hb

end tasks

theorem execute_leaves (hE : Lawful E R) (hsql : IsPlain R steady (Text.trimBlank sql))
    (args : List Value) :
    (E.execute sql args).Leaves (OnWay R start q steady now ·.engine)
      (Moved R start q steady ·.engine) (OnWay R start q steady now ·.engine) :=
  execute_leaves_of (fun extent args => statement_leaves hE hsql extent args) (fun _ he => he) args

theorem query_leaves (hE : Lawful E R) (hsql : IsPlain R steady (Text.trimBlank sql)) (extent : Extent)
    (args : List Value) :
    (E.query extent sql args).Leaves (OnWay R start q steady now ·.engine)
      (Moved R start q steady ·.engine) (OnWay R start q steady now ·.engine) :=
  query_leaves_of (fun extent args => statement_leaves hE hsql extent args) (fun _ he => he) extent args

end Engine

/-! ### Requests -/

namespace Connection

variable {c : Connection ε} {readOnly : Bool} {P D F : ε → Prop}

theorem mapReply_leaves {r : Run ε α} {ok error : Connection ε → Prop} (h : Leaves r ok error)
    (f : α → β) :
    Leaves (mapReply f r) ok error := by
  obtain ⟨reply, env, state, log⟩ := r
  cases reply <;> exact h

theorem Held.guarded_leaves {task : EngineTask (Workbench ε) α}
    (h : task.Leaves (P ·.engine) (D ·.engine) (P ·.engine)) (hc : Held readOnly P c) (ctx : Context)
    (env : Env) : Leaves (c.guarded ctx env task) (Held readOnly D) (Held readOnly P) := by
  have hg := Connection.guarded_leaves h (fun e he => he) hc.serves ctx env
  unfold Leaves at hg ⊢
  cases hr : (c.guarded ctx env task).reply with
  | ok a =>
      rw [hr] at hg
      exact ⟨by rw [hg.1]; exact hc.holder, hg.2⟩
  | error e =>
      rw [hr] at hg
      exact ⟨by rw [hg.1]; exact hc.holder, hg.2⟩
  | never => trivial

end Connection

/-- A request that is answered has moved the content at most, and one that is refused has changed
nothing. -/
theorem request_leaves (hE : Lawful E R) {c : Connection ε} {readOnly : Bool}
    (hc : Connection.Held readOnly (OnWay R start q steady now) c) (r : Request) (tx : TxId)
    (hr : ∀ sql, runs? r = some sql → IsPlain R steady sql) (caller : Caller) (env : Env) :
    Leaves ((driver E).run (r.call (.session tx)) caller env c)
      (Connection.Held readOnly (Moved R start q steady))
      (Connection.Held readOnly (OnWay R start q steady now)) := by
  cases r with
  | execute ctx sql args => exact hc.guarded_leaves (Engine.execute_leaves hE (hr _ rfl) args) _ _
  | query ctx sql args =>
      exact Connection.mapReply_leaves
        (hc.guarded_leaves (Engine.query_leaves hE (hr _ rfl) .all args) _ _) _
  | queryOne ctx sql args =>
      exact Connection.mapReply_leaves
        (hc.guarded_leaves (Engine.query_leaves hE (hr _ rfl) .first args) _ _) _
  | prepare ctx sql =>
      have hc' : Connection.Held readOnly (OnWay R start q steady now) { c with nextId := c.nextId + 1 } :=
        ⟨hc.holder, hc.serves⟩
      have ht := (Engine.prepare_leaves (E := E) (OnWay R start q steady now) sql).imp
        fun b hb => (⟨now, hb⟩ : Moved R start q steady b.engine)
      exact Connection.mapReply_leaves (hc'.guarded_leaves ht _ _) _
  | executePrepared ctx stmt args => exact hc.guarded_leaves (Engine.execute_leaves hE (hr _ rfl) args) _ _
  | queryPrepared ctx stmt args =>
      exact Connection.mapReply_leaves
        (hc.guarded_leaves (Engine.query_leaves hE (hr _ rfl) .all args) _ _) _
  | queryOnePrepared ctx stmt args =>
      exact Connection.mapReply_leaves
        (hc.guarded_leaves (Engine.query_leaves hE (hr _ rfl) .first args) _ _) _

end DbAccess.Sqlite
