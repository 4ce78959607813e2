import DbAccess.Proofs.Session.Standing
import Mathlib.Data.List.Chain
/-!
# Batches

A `Batch` runs one prepared statement for item after item, inside one transaction. Its items are taken from
an iterator and turned into arguments by code of the caller, which may do anything in between but end the
transaction, that it does not have.

`Batch.Serves` follows the loop over the items: each is taken, its arguments are made and the statement is
executed with them, until there are no more items or one of the three comes to nothing.
`Batch.exec_in_order` is what a batch does from the begin to the finishing call, and `Batch.exec_adds_up`
what its total is. Counts are added up in 64 bits: when they exceed that, the batch panics with every
execution done, and rolls back (`Batch.rolled_back_of_huge`).
-/

namespace DbAccess

variable {δ σ ν ι α β : Type}

open SessionM

/-! ### What a batch is made of -/

theorem SessionRun.andThen_congr_of_ne_value {r : SessionRun δ σ ν α}
    (h : ∀ a, r.outcome ≠ .value a) (f g : α → SessionM δ σ ν β) : r.andThen f = r.andThen g := by
  obtain ⟨o, w, t⟩ := r
  cases o with
  | value a => exact absurd rfl (h a)
  | failed e => rfl
  | panicked text => rfl
  | stuck => rfl

theorem SessionRun.andThen_pure (r : SessionRun δ σ ν α) : r.andThen pure = r := by
  obtain ⟨o, w, t⟩ := r
  cases o <;> simp [after]

theorem SessionRun.andThen_of_ne_value {r : SessionRun δ σ ν α} (h : ∀ a, r.outcome ≠ .value a)
    (f : α → SessionM δ σ ν α) : r.andThen f = r :=
  (andThen_congr_of_ne_value h f pure).trans r.andThen_pure

namespace Database

variable (db : Database δ σ ν)

section settled

variable (ctx : Context) (tx : TxId) (w : World δ σ)

/-- What a body that leaves its transaction active ends with when that is finished. -/
def settledOutcome : Outcome α → Outcome α
  | .value a => db.commitOutcome a (db.commitReply ctx tx w)
  | .failed e => db.failureOutcome e (db.rollbackReply tx w)
  | .panicked text =>
    panicOutcome text (db.driverRun (w.without tx) .background (.rollback tx)).reply
  | .stuck => .stuck

theorem eq_value_of_settledOutcome {o : Outcome α} {a : α}
    (h : db.settledOutcome ctx tx w o = .value a) : o = .value a := by
  cases o with
  | value a' =>
      rw [settledOutcome] at h
      cases hreply : db.commitReply ctx tx w <;> simp_all [commitOutcome]
  | failed e =>
      rw [settledOutcome] at h
      cases hreply : db.rollbackReply tx w with
      | ok u => simp [hreply, failureOutcome] at h
      | never => simp [hreply, failureOutcome] at h
      | error r =>
          rw [hreply, failureOutcome] at h
          split at h <;> cases h
  | panicked text =>
      rw [settledOutcome] at h
      unfold panicOutcome at h
      split at h <;> cases h
  | stuck => cases h

theorem outcome_settle_of_active (h : w.active.contains tx = true) (o : Outcome α) :
    ((db.settle ctx tx o).run w).outcome = db.settledOutcome ctx tx w o := by
  cases o with
  | value a => rw [db.run_settle_value_of_active ctx tx w h, settledOutcome]
  | failed e => rw [db.run_settle_failed_of_active ctx tx w h, settledOutcome]
  | panicked text => rw [db.run_settle_panicked_of_active ctx tx w h, settledOutcome]
  | stuck => rfl

end settled

variable (w : World δ σ)

theorem calls_attempt (x : SessionM δ σ ν α) : ((attempt x).run w).calls = (x.run w).calls := by
  rw [run_attempt]
  rfl

/-- A request that is taken is its one call, or nothing when its context has ended. -/
theorem calls_request_of_taken (q : Request) (t : Target) (h : takes w t = true) :
    ((q.run db t).run w).calls =
      if (db.statementRefusal? w q.ctx q.sql q.args).isSome then [] else [q.call t] := by
  rw [Request.run_request, SessionRun.calls_map, run_statementAt, if_pos h, calls_statement]

/-- What comes back as the outcome of a computation. -/
def rawOutcome : Option (Except RawError α) → Outcome α
  | some (.ok a) => .value a
  | some (.error e) => .failed (db.classify e)
  | none => .stuck

/-- A statement that is taken ends with what comes back, when a failure is not taken as a result. -/
theorem run_statementAt_ofExcept {t : Target} (ctx : Context) (sql : String) (args : List Value) (c : DriverCall)
    (h : takes w t = true) :
    (db.statementAt t ctx sql args c >>= ofExcept).run w =
      ⟨db.rawOutcome (db.statementRaw? w ctx sql args c), ((db.statement ctx sql args c).run w).world,
        ((db.statement ctx sql args c).run w).trace⟩ := by
  have ho := db.outcome_statement_of_raw w ctx sql args c
  rw [run_bind, run_statementAt, if_pos h]
  generalize db.statementRaw? w ctx sql args c = raw at ho ⊢
  cases raw with
  | none => rw [SessionRun.andThen_of_stuck ho]; rfl
  | some r =>
      rw [SessionRun.andThen_of_value ho]
      cases r <;> simp [resultOutcome, rawOutcome, SessionRun.after]

/-- An execution that is taken is its one call, or nothing when its context has ended. -/
theorem calls_executePrepared (s : Statement) (ctx : Context) (values : List Value)
    (h : takes w s.target = true) :
    ((db.executePrepared s ctx values).run w).calls =
      if (db.statementRefusal? w ctx s.prepared.sql values).isSome then []
      else [.executePrepared s.target s.prepared values] := by
  rw [← calls_attempt]
  exact db.calls_request_of_taken w (.executePrepared ctx s.prepared values) s.target h

theorem outcome_executePrepared (s : Statement) (ctx : Context) (values : List Value)
    (h : takes w s.target = true) :
    ((db.executePrepared s ctx values).run w).outcome =
      db.rawOutcome
        (db.statementRaw? w ctx s.prepared.sql values (.executePrepared s.target s.prepared values)) := by
  have hrun := db.run_statementAt_ofExcept w ctx s.prepared.sql values
    (.executePrepared s.target s.prepared values) h
  exact congrArg SessionRun.outcome hrun

theorem calls_prepare (t : Target) (ctx : Context) (sql : String) (h : takes w t = true) :
    ((db.prepare t ctx sql).run w).calls =
      if (db.statementRefusal? w ctx sql []).isSome then [] else [.prepare t sql] := by
  rw [← calls_attempt]
  exact db.calls_request_of_taken w (.prepare ctx sql) t h

theorem outcome_prepare (t : Target) (ctx : Context) (sql : String) (h : takes w t = true) :
    ((db.prepare t ctx sql).run w).outcome =
      (db.rawOutcome (db.statementRaw? w ctx sql [] (.prepare t sql))).map (⟨t, ·⟩) := by
  rw [prepare, ← SessionM.bind_assoc, run_bind, db.run_statementAt_ofExcept w ctx sql [] _ h]
  generalize db.rawOutcome (db.statementRaw? w ctx sql [] (.prepare t sql)) = o
  cases o <;> rfl

end Database

/-! ### Batches -/

/-- A batch: how its items are taken, one after another, and what makes the arguments of an item. -/
structure Batch (δ σ ν ι : Type) where
  ctx : Context
  sql : String
  /-- Each takes one item. -/
  draws : List (SessionM δ σ ν ι)
  args : ι → SessionM δ σ ν (List Value)

namespace Batch

variable (b : Batch δ σ ν ι) (db : Database δ σ ν)

/-- Takes an item and makes its arguments. -/
def values (draw : SessionM δ σ ν ι) : SessionM δ σ ν (List Value) := draw >>= b.args

/-- Runs the batch. -/
def exec : SessionM δ σ ν UInt64 := db.batchExec b.ctx b.sql b.draws b.values

/-- Prepares the statement of the batch. -/
def preparing (tx : TxId) : SessionM δ σ ν Statement := db.prepare (.session tx) b.ctx b.sql

/-- Executes the statement for the items from one on, with what was counted before. -/
def serving (s : Statement) (draws : List (SessionM δ σ ν ι)) (total : UInt64) :
    SessionM δ σ ν UInt64 :=
  db.executeItems s b.ctx b.values draws total

/-- What a batch does in its transaction. -/
def body (tx : TxId) : SessionM δ σ ν UInt64 :=
  b.preparing db tx >>= fun s => b.serving db s b.draws 0

theorem exec_eq : b.exec db = db.runInTransaction b.ctx .default (b.body db) := rfl

/-- Taking items and making arguments ends no transaction that was begun before. The caller is not handed
the one of the batch. -/
def Spares : Prop := ∀ tx, ∀ d ∈ b.draws, Keeps (Database.Standing tx true) (b.values d)

end Batch

/-- The turn of an item: the statement, and the world where the item is taken. -/
structure Serving (δ σ ν ι : Type) where
  statement : Statement
  world : World δ σ
  draw : SessionM δ σ ν ι

namespace Serving

variable (b : Batch δ σ ν ι) (db : Database δ σ ν) (t : Serving δ σ ν ι)

/-- Taking the item and making its arguments. -/
def arguments : SessionRun δ σ ν (List Value) := (b.values t.draw).run t.world

/-- The whole turn: the item is taken, its arguments are made, and the statement is executed. -/
def run : SessionRun δ σ ν UInt64 :=
  (b.values t.draw >>= db.executePrepared t.statement b.ctx).run t.world

/-- The call that executes the statement for the item. -/
def call (values : List Value) : DriverCall :=
  .executePrepared t.statement.target t.statement.prepared values

/-- The calls that execute the statement for the item: one, when it comes to that. -/
def execution : List DriverCall :=
  match (t.arguments b).outcome with
  | .value values =>
    if (db.statementRefusal? (t.arguments b).world b.ctx t.statement.prepared.sql values).isSome then []
    else [t.call values]
  | _ => []

/-- What comes back to an execution with these arguments that begins in this world. -/
def raw? (w : World δ σ) (values : List Value) : Option (Except RawError UInt64) :=
  db.statementRaw? w b.ctx t.statement.prepared.sql values (t.call values)

/-- How many rows the driver reports for the item, if it does. -/
def reported? : Option UInt64 :=
  match (t.arguments b).outcome with
  | .value values =>
    match t.raw? b db (t.arguments b).world values with
    | some (.ok n) => some n
    | _ => none
  | _ => none

/-- The statement is taken when it is executed for the item. -/
def Taken : Prop := Database.takes (t.arguments b).world t.statement.target = true

variable {b db t}

theorem calls_run (h : t.Taken b) :
    (t.run b db).calls = (t.arguments b).calls ++ t.execution b db := by
  have hrun : t.run b db = (t.arguments b).andThen (db.executePrepared t.statement b.ctx) := rfl
  rw [hrun, execution]
  unfold Taken at h
  generalize t.arguments b = r at h ⊢
  obtain ⟨o, w, u⟩ := r
  cases o with
  | value values =>
      rw [SessionRun.andThen_value, SessionRun.calls_after, db.calls_executePrepared w _ _ _ h]
      rfl
  | failed e => simp
  | panicked text => simp
  | stuck => simp

theorem outcome_run (h : t.Taken b) :
    (t.run b db).outcome =
      match (t.arguments b).outcome with
      | .value values => db.rawOutcome (t.raw? b db (t.arguments b).world values)
      | .failed e => .failed e
      | .panicked text => .panicked text
      | .stuck => .stuck := by
  have hrun : t.run b db = (t.arguments b).andThen (db.executePrepared t.statement b.ctx) := rfl
  rw [hrun]
  unfold Taken at h
  generalize t.arguments b = r at h ⊢
  obtain ⟨o, w, u⟩ := r
  cases o with
  | value values =>
      rw [SessionRun.andThen_value, SessionRun.outcome_after, db.outcome_executePrepared w _ _ _ h]
      rfl
  | failed e => rfl
  | panicked text => rfl
  | stuck => rfl

variable (db) in
theorem value?_run (h : t.Taken b) : (t.run b db).outcome.value? = t.reported? b db := by
  rw [outcome_run h, reported?]
  cases (t.arguments b).outcome with
  | value values =>
      simp only []
      cases t.raw? b db (t.arguments b).world values with
      | none => rfl
      | some r => cases r <;> rfl
  | failed e => rfl
  | panicked text => rfl
  | stuck => rfl

theorem outcome_run_eq_panicked (h : t.Taken b) {text : String} :
    (t.run b db).outcome = .panicked text ↔ (t.arguments b).outcome = .panicked text := by
  rw [outcome_run h]
  cases (t.arguments b).outcome with
  | value values =>
      simp only []
      cases t.raw? b db (t.arguments b).world values with
      | none => simp [Database.rawOutcome]
      | some r => cases r <;> simp [Database.rawOutcome]
  | failed e => simp
  | panicked text => simp
  | stuck => simp

end Serving

/-! ### Item after item -/

namespace Batch

variable (b : Batch δ σ ν ι) (db : Database δ σ ν) (s : Statement)

/-- How the loop over the items goes, with the turns that it consists of. -/
inductive Serves : List (SessionM δ σ ν ι) → UInt64 → World δ σ → List (Serving δ σ ν ι) →
    SessionRun δ σ ν UInt64 → Prop
  /-- There are no more items. -/
  | done (total : UInt64) (w : World δ σ) : Serves [] total w [] ⟨.value total, w, []⟩
  /-- A turn comes to nothing. -/
  | stopped {d : SessionM δ σ ν ι} {ds : List (SessionM δ σ ν ι)} {total : UInt64} {w : World δ σ}
    (h : ∀ n, (Serving.run b db ⟨s, w, d⟩).outcome ≠ .value n) :
    Serves (d :: ds) total w [⟨s, w, d⟩] (Serving.run b db ⟨s, w, d⟩)
  /-- The counts come to too much. -/
  | exceeded {d : SessionM δ σ ν ι} {ds : List (SessionM δ σ ν ι)} {total n : UInt64} {w : World δ σ}
    (h : (Serving.run b db ⟨s, w, d⟩).outcome = .value n) (hn : limit64 ≤ total.toNat + n.toNat) :
    Serves (d :: ds) total w [⟨s, w, d⟩]
      ⟨.panicked Database.overflowText, (Serving.run b db ⟨s, w, d⟩).world,
        (Serving.run b db ⟨s, w, d⟩).trace⟩
  /-- A turn is counted, and the next follows. -/
  | counted {d : SessionM δ σ ν ι} {ds : List (SessionM δ σ ν ι)} {total n : UInt64} {w : World δ σ}
    {ts : List (Serving δ σ ν ι)} {r : SessionRun δ σ ν UInt64}
    (h : (Serving.run b db ⟨s, w, d⟩).outcome = .value n) (hn : total.toNat + n.toNat < limit64)
    (next : Serves ds (total + n) (Serving.run b db ⟨s, w, d⟩).world ts r) :
    Serves (d :: ds) total w (⟨s, w, d⟩ :: ts) (r.after (Serving.run b db ⟨s, w, d⟩).trace)

variable {b db s}

theorem serving_cons (d : SessionM δ σ ν ι) (ds : List (SessionM δ σ ν ι)) (total : UInt64)
    (w : World δ σ) :
    (b.serving db s (d :: ds) total).run w =
      (Serving.run b db ⟨s, w, d⟩).andThen fun n =>
        Database.addCounts total n >>= fun total => b.serving db s ds total := by
  have hassoc := bind_assoc (b.values d) (db.executePrepared s b.ctx) fun n =>
    Database.addCounts total n >>= fun total => b.serving db s ds total
  exact congrArg (SessionM.run · w) hassoc.symm

theorem exists_serves (ds : List (SessionM δ σ ν ι)) (total : UInt64) (w : World δ σ) :
    ∃ ts, b.Serves db s ds total w ts ((b.serving db s ds total).run w) := by
  induction ds generalizing total w with
  | nil => exact ⟨[], .done total w⟩
  | cons d ds ih =>
      rw [serving_cons]
      by_cases hv : ∃ n, (Serving.run b db ⟨s, w, d⟩).outcome = .value n
      · obtain ⟨n, ho⟩ := hv
        rw [SessionRun.andThen_of_value ho, run_bind, Database.addCounts]
        by_cases hn : total.toNat + n.toNat < limit64
        · obtain ⟨ts, hts⟩ := ih (total + n) (Serving.run b db ⟨s, w, d⟩).world
          rw [if_pos hn]
          exact ⟨_, .counted ho hn hts⟩
        · rw [if_neg hn, run_panicWith, SessionRun.andThen_panicked, SessionRun.after, List.append_nil]
          exact ⟨_, .exceeded ho (Nat.le_of_not_lt hn)⟩
      · have ho := not_exists.mp hv
        rw [SessionRun.andThen_of_ne_value ho]
        exact ⟨_, .stopped ho⟩

namespace Serves

variable {ds : List (SessionM δ σ ν ι)} {total : UInt64} {w : World δ σ}
  {ts : List (Serving δ σ ν ι)} {r : SessionRun δ σ ν UInt64}

theorem run_eq (h : b.Serves db s ds total w ts r) : (b.serving db s ds total).run w = r := by
  induction h with
  | done total w => rfl
  | stopped ho => rw [serving_cons, SessionRun.andThen_of_ne_value ho]
  | exceeded ho hn =>
      rw [serving_cons, SessionRun.andThen_of_value ho, run_bind, Database.addCounts,
        if_neg (Nat.not_lt_of_le hn), run_panicWith, SessionRun.andThen_panicked, SessionRun.after,
        List.append_nil]
  | counted ho hn next ih =>
      rw [serving_cons, SessionRun.andThen_of_value ho, run_bind, Database.addCounts, if_pos hn,
        run_pure, SessionRun.andThen_value, SessionRun.after_nil, ih]

theorem trace_eq (h : b.Serves db s ds total w ts r) :
    r.trace = ts.flatMap fun t => (t.run b db).trace := by
  induction h with
  | done total w => rfl
  | stopped ho => simp
  | exceeded ho hn => simp
  | counted ho hn next ih => simp [ih]

theorem draws_prefix (h : b.Serves db s ds total w ts r) : ts.map Serving.draw <+: ds := by
  induction h with
  | done total w => exact List.nil_prefix
  | stopped ho => exact List.prefix_append [_] _
  | exceeded ho hn => exact List.prefix_append [_] _
  | counted ho hn next ih => exact (List.prefix_cons_inj _).mpr ih

theorem statement_eq (h : b.Serves db s ds total w ts r) : ∀ t ∈ ts, t.statement = s := by
  induction h with
  | done total w => nofun
  | stopped ho => simp
  | exceeded ho hn => simp
  | counted ho hn next ih => simpa using ih

theorem head_eq (h : b.Serves db s ds total w ts r) : ∀ t ∈ ts.head?, t.world = w := by
  cases h with
  | done total w => nofun
  | stopped ho => simp
  | exceeded ho hn => simp
  | counted ho hn next => simp

theorem isChain (h : b.Serves db s ds total w ts r) :
    ts.IsChain fun t u => u.world = (t.run b db).world := by
  induction h with
  | done total w => exact .nil
  | stopped ho => exact .singleton _
  | exceeded ho hn => exact .singleton _
  | counted ho hn next ih => exact List.isChain_cons.mpr ⟨next.head_eq, ih⟩

theorem counted_of_dropLast (h : b.Serves db s ds total w ts r) :
    ∀ t ∈ ts.dropLast, ∃ n, (t.run b db).outcome = .value n := by
  induction h with
  | done total w => nofun
  | stopped ho => nofun
  | exceeded ho hn => nofun
  | @counted d ds total n w ts r ho hn next ih =>
      cases ts with
      | nil => nofun
      | cons t ts =>
          rw [List.dropLast_cons_cons]
          exact List.forall_mem_cons.mpr ⟨⟨n, ho⟩, ih⟩

/-- When the loop stops before its time, it makes no difference which items are left. -/
theorem lazy (h : b.Serves db s ds total w ts r) (hr : ∀ n, r.outcome ≠ .value n)
    (rest : List (SessionM δ σ ν ι)) :
    b.Serves db s (ts.map Serving.draw ++ rest) total w ts r := by
  induction h with
  | done total w => exact absurd rfl (hr total)
  | stopped ho => exact .stopped ho
  | exceeded ho hn => exact .exceeded ho hn
  | counted ho hn next ih => exact .counted ho hn (ih hr)

theorem standing (h : b.Serves db s ds total w ts r) {tx : TxId}
    (hspares : ∀ d ∈ ds, Keeps (Database.Standing tx true) (b.values d))
    (hw : Database.Standing tx true w) : ∀ t ∈ ts, Database.Standing tx true (t.arguments b).world := by
  induction h with
  | done total w => nofun
  | @stopped d _ _ w ho => exact List.forall_mem_singleton.mpr (hspares d (List.mem_cons_self ..) w hw)
  | @exceeded d _ _ _ w ho hn =>
      exact List.forall_mem_singleton.mpr (hspares d (List.mem_cons_self ..) w hw)
  | @counted d ds total n w ts r ho hn next ih =>
      have hd := hspares d (List.mem_cons_self ..)
      have hturn : Keeps (Database.Standing tx true) (b.values d >>= db.executePrepared s b.ctx) :=
        hd.bind fun values => db.keeps_executePrepared s b.ctx values
      refine List.forall_mem_cons.mpr ⟨hd w hw, ih (fun d hmem => ?_) (hturn w hw)⟩
      exact hspares d (List.mem_cons_of_mem _ hmem)

end Serves

/-! ### Totals -/

variable (b db)

/-- The rows that the driver reports in turns, in all. -/
def rows (ts : List (Serving δ σ ν ι)) : Nat :=
  (ts.filterMap fun t => t.reported? b db).foldr (fun n rest => n.toNat + rest) 0

variable {b db}

@[simp] theorem rows_nil : b.rows db [] = 0 := rfl

theorem rows_cons_of_reported {t : Serving δ σ ν ι} {n : UInt64} (h : t.reported? b db = some n)
    (ts : List (Serving δ σ ν ι)) : b.rows db (t :: ts) = n.toNat + b.rows db ts := by
  simp [rows, h]

theorem rows_cons_of_not_reported {t : Serving δ σ ν ι} (h : t.reported? b db = none)
    (ts : List (Serving δ σ ν ι)) : b.rows db (t :: ts) = b.rows db ts := by
  simp [rows, h]

theorem toNat_add_of_lt {m n : UInt64} (h : m.toNat + n.toNat < limit64) :
    (m + n).toNat = m.toNat + n.toNat := by
  rw [UInt64.toNat_add]
  exact Nat.mod_eq_of_lt h

theorem toNat_lt_limit64 (n : UInt64) : n.toNat < limit64 := n.toNat_lt

namespace Serves

variable {ds : List (SessionM δ σ ν ι)} {total : UInt64} {w : World δ σ}
  {ts : List (Serving δ σ ν ι)} {r : SessionRun δ σ ν UInt64}

/-- The loop ends with a total when every item is counted, and the total is exact. -/
theorem outcome_eq_value (h : b.Serves db s ds total w ts r) (htaken : ∀ t ∈ ts, t.Taken b)
    {n : UInt64} :
    r.outcome = .value n ↔
      ts.map Serving.draw = ds ∧ (∀ t ∈ ts, (t.reported? b db).isSome = true) ∧
        n.toNat = total.toNat + b.rows db ts := by
  induction h with
  | done total w =>
      refine ⟨fun hr => ?_, fun ⟨_, _, hsum⟩ => congrArg _ (UInt64.toNat_inj.mp hsum).symm⟩
      injection hr with hr
      exact ⟨rfl, nofun, congrArg UInt64.toNat hr.symm⟩
  | @stopped d ds total w ho =>
      have hreported := (Serving.value?_run db (htaken _ (List.mem_singleton_self _))).symm
      refine ⟨fun hr => absurd hr (ho n), fun ⟨_, hall, _⟩ => ?_⟩
      obtain ⟨k, hk⟩ := Option.isSome_iff_exists.mp (hall _ (List.mem_singleton_self _))
      exact absurd (Outcome.value?_eq_some.mp (hreported.symm.trans hk)) (ho k)
  | @exceeded d ds total k w ho hn =>
      have hreported := Serving.value?_run db (htaken _ (List.mem_singleton_self _))
      rw [Outcome.value?_eq_some.mpr ho] at hreported
      refine ⟨nofun, fun ⟨_, _, hsum⟩ => ?_⟩
      rw [rows_cons_of_reported hreported.symm, rows_nil] at hsum
      have hlt := toNat_lt_limit64 n
      omega
  | @counted d ds total k w ts r ho hn next ih =>
      obtain ⟨htaken, hrest⟩ := List.forall_mem_cons.mp htaken
      have hreported := Serving.value?_run db htaken
      rw [Outcome.value?_eq_some.mpr ho] at hreported
      rw [SessionRun.outcome_after, ih hrest, toNat_add_of_lt hn, List.map_cons, List.cons.injEq,
        List.forall_mem_cons, rows_cons_of_reported hreported.symm, Nat.add_assoc]
      simp [← hreported]

theorem outcome_eq_failed (h : b.Serves db s ds total w ts r) {e : Error} :
    r.outcome = .failed e ↔ ∃ t ∈ ts, (t.run b db).outcome = .failed e := by
  induction h with
  | done total w => simp
  | stopped ho => simp
  | exceeded ho hn => simp [ho]
  | counted ho hn next ih => simp [ho, ih]

theorem outcome_eq_stuck (h : b.Serves db s ds total w ts r) :
    r.outcome = .stuck ↔ ∃ t ∈ ts, (t.run b db).outcome = .stuck := by
  induction h with
  | done total w => simp
  | stopped ho => simp
  | exceeded ho hn => simp [ho]
  | counted ho hn next ih => simp [ho, ih]

theorem outcome_eq_panicked (h : b.Serves db s ds total w ts r) (htaken : ∀ t ∈ ts, t.Taken b)
    {text : String} :
    r.outcome = .panicked text ↔
      (∃ t ∈ ts, (t.run b db).outcome = .panicked text) ∨
        text = Database.overflowText ∧ limit64 ≤ total.toNat + b.rows db ts := by
  induction h with
  | done total w =>
      have hlt := toNat_lt_limit64 total
      simp [Nat.not_le_of_lt hlt]
  | @stopped d ds total w ho =>
      have hreported := Serving.value?_run db (htaken _ (List.mem_singleton_self _))
      have hnone : (Serving.run b db ⟨s, w, d⟩).outcome.value? = none :=
        Option.eq_none_iff_forall_ne_some.mpr fun n hn => ho n (Outcome.value?_eq_some.mp hn)
      rw [hnone] at hreported
      have hlt := toNat_lt_limit64 total
      simp [rows_cons_of_not_reported hreported.symm, Nat.not_le_of_lt hlt]
  | @exceeded d ds total k w ho hn =>
      have hreported := Serving.value?_run db (htaken _ (List.mem_singleton_self _))
      rw [Outcome.value?_eq_some.mpr ho] at hreported
      simp [ho, rows_cons_of_reported hreported.symm, hn, eq_comm]
  | @counted d ds total k w ts r ho hn next ih =>
      obtain ⟨htaken, hrest⟩ := List.forall_mem_cons.mp htaken
      have hreported := Serving.value?_run db htaken
      rw [Outcome.value?_eq_some.mpr ho] at hreported
      rw [SessionRun.outcome_after, ih hrest, toNat_add_of_lt hn,
        rows_cons_of_reported hreported.symm, Nat.add_assoc]
      simp [ho]

end Serves

/-! ### The body of a batch -/

variable (b db)

/-- What a batch does in its transaction, with the turns that the items get. -/
structure InOrder (tx : TxId) (w : World δ σ) (ts : List (Serving δ σ ν ι)) : Prop where
  /-- The statement is prepared once. -/
  prepare_calls : ((b.preparing db tx).run w).calls =
    if (db.statementRefusal? w b.ctx b.sql []).isSome then [] else [.prepare (.session tx) b.sql]
  /-- It is that statement that is executed, in the transaction. -/
  statement_eq : ∀ t ∈ ts,
    ((b.preparing db tx).run w).outcome = .value t.statement ∧ t.statement.target = .session tx
  /-- Items are taken in order. -/
  draws_prefix : ts.map Serving.draw <+: b.draws
  /-- The first turn begins when the statement is prepared. -/
  head_eq : ∀ t ∈ ts.head?, t.world = ((b.preparing db tx).run w).world
  /-- Each turn begins where the one before it ended. -/
  isChain : ts.IsChain fun t u => u.world = (t.run b db).world
  /-- Nothing else happens. -/
  trace_eq : ((b.body db tx).run w).trace =
    ((b.preparing db tx).run w).trace ++ ts.flatMap fun t => (t.run b db).trace
  /-- A turn is what the caller does, with one execution behind it. -/
  calls_eq : ∀ t ∈ ts, (t.run b db).calls = (t.arguments b).calls ++ t.execution b db
  /-- A turn counts what the driver reports. -/
  reported_eq : ∀ t ∈ ts, (t.run b db).outcome.value? = t.reported? b db
  /-- No turn follows one that comes to nothing. -/
  counted : ∀ t ∈ ts.dropLast, (t.reported? b db).isSome = true
  /-- When not all is counted, it makes no difference which items are left. -/
  lazy : (∀ n, ((b.body db tx).run w).outcome ≠ .value n) → ∀ rest,
    (({ b with draws := ts.map Serving.draw ++ rest } : Batch δ σ ν ι).body db tx).run w =
      (b.body db tx).run w
  /-- It ends with a total when every item is counted, and the total is exact. -/
  value_iff : ∀ n, ((b.body db tx).run w).outcome = .value n ↔
    (∃ s, ((b.preparing db tx).run w).outcome = .value s) ∧ ts.map Serving.draw = b.draws ∧
      (∀ t ∈ ts, (t.reported? b db).isSome = true) ∧ n.toNat = b.rows db ts
  /-- It fails when the preparing does, and when a turn does. -/
  failed_iff : ∀ e, ((b.body db tx).run w).outcome = .failed e ↔
    ((b.preparing db tx).run w).outcome = .failed e ∨ ∃ t ∈ ts, (t.run b db).outcome = .failed e
  /-- It panics when the caller does, and when the counts come to too much. -/
  panicked_iff : ∀ text, ((b.body db tx).run w).outcome = .panicked text ↔
    (∃ t ∈ ts, (t.arguments b).outcome = .panicked text) ∨
      text = Database.overflowText ∧ limit64 ≤ b.rows db ts
  /-- It never ends when the preparing does not, or a turn. -/
  stuck_iff : ((b.body db tx).run w).outcome = .stuck ↔
    ((b.preparing db tx).run w).outcome = .stuck ∨ ∃ t ∈ ts, (t.run b db).outcome = .stuck

variable {b db} {tx : TxId} {w : World δ σ}

theorem InOrder.calls_body {ts : List (Serving δ σ ν ι)} (h : b.InOrder db tx w ts) :
    ((b.body db tx).run w).calls = ((b.preparing db tx).run w).calls ++
      ts.flatMap fun t => (t.arguments b).calls ++ t.execution b db := by
  rw [SessionRun.calls, h.trace_eq, List.filterMap_append, List.filterMap_flatMap]
  exact congrArg _ (List.flatMap_congr h.calls_eq)

theorem body_of_prepared (h : ((b.preparing db tx).run w).outcome = .value s) :
    (b.body db tx).run w =
      ((b.serving db s b.draws 0).run ((b.preparing db tx).run w).world).after
        ((b.preparing db tx).run w).trace :=
  SessionRun.andThen_of_value h _

theorem body_of_not_prepared (h : ∀ s, ((b.preparing db tx).run w).outcome ≠ .value s) :
    ((b.body db tx).run w).trace = ((b.preparing db tx).run w).trace ∧
      (∀ n, ((b.body db tx).run w).outcome ≠ .value n) ∧
      (∀ e, ((b.body db tx).run w).outcome = .failed e ↔
        ((b.preparing db tx).run w).outcome = .failed e) ∧
      (∀ text, ((b.body db tx).run w).outcome = .panicked text ↔
        ((b.preparing db tx).run w).outcome = .panicked text) ∧
      (((b.body db tx).run w).outcome = .stuck ↔ ((b.preparing db tx).run w).outcome = .stuck) := by
  rw [body, run_bind]
  generalize (b.preparing db tx).run w = r at h ⊢
  obtain ⟨o, w', t⟩ := r
  cases o with
  | value s => exact absurd rfl (h s)
  | failed e => simp
  | panicked text => simp
  | stuck => simp

theorem target_of_prepared (hw : Database.Standing tx true w)
    (h : ((b.preparing db tx).run w).outcome = .value s) : s.target = .session tx := by
  rw [preparing, db.outcome_prepare w (.session tx) b.ctx b.sql hw.2, Outcome.map_eq_value] at h
  obtain ⟨p, -, rfl⟩ := h
  rfl

theorem preparing_ne_panicked (hw : Database.Standing tx true w) (text : String) :
    ((b.preparing db tx).run w).outcome ≠ .panicked text := by
  rw [preparing, db.outcome_prepare w (.session tx) b.ctx b.sql hw.2]
  cases db.statementRaw? w b.ctx b.sql [] (.prepare (.session tx) b.sql) with
  | none => nofun
  | some r => cases r <;> nofun

theorem inOrder_of_serves {ts : List (Serving δ σ ν ι)} (hspares : b.Spares)
    (hw : Database.Standing tx true w) (hp : ((b.preparing db tx).run w).outcome = .value s)
    (h : b.Serves db s b.draws 0 ((b.preparing db tx).run w).world ts
      ((b.serving db s b.draws 0).run ((b.preparing db tx).run w).world)) :
    b.InOrder db tx w ts := by
  have hbody := body_of_prepared hp
  have htarget := target_of_prepared hw hp
  have hstanding := h.standing (hspares tx) (db.keeps_prepare _ b.ctx b.sql w hw)
  have htaken : ∀ t ∈ ts, t.Taken b := fun t ht => by
    rw [Serving.Taken, h.statement_eq t ht, htarget]
    exact (hstanding t ht).2
  exact {
    prepare_calls := db.calls_prepare w (.session tx) b.ctx b.sql hw.2
    statement_eq := fun t ht => by rw [h.statement_eq t ht]; exact ⟨hp, htarget⟩
    draws_prefix := h.draws_prefix
    head_eq := h.head_eq
    isChain := h.isChain
    trace_eq := by rw [hbody, SessionRun.trace_after, h.trace_eq]
    calls_eq := fun t ht => Serving.calls_run (htaken t ht)
    reported_eq := fun t ht => Serving.value?_run db (htaken t ht)
    counted := fun t ht => by
      obtain ⟨n, hn⟩ := h.counted_of_dropLast t ht
      rw [← Serving.value?_run db (htaken t (List.dropLast_subset ts ht)), hn]
      rfl
    lazy := fun hne rest => by
      rw [hbody] at hne
      rw [hbody, ← (h.lazy hne rest).run_eq]
      exact body_of_prepared (b := { b with draws := _ }) hp
    value_iff := fun n => by
      rw [hbody, SessionRun.outcome_after, h.outcome_eq_value htaken]
      simp [hp]
    failed_iff := fun e => by
      rw [hbody, SessionRun.outcome_after, h.outcome_eq_failed]
      simp [hp]
    panicked_iff := fun text => by
      rw [hbody, SessionRun.outcome_after, h.outcome_eq_panicked htaken]
      refine or_congr (exists_congr fun t => and_congr_right fun ht => ?_) (by simp)
      exact Serving.outcome_run_eq_panicked (htaken t ht)
    stuck_iff := by
      rw [hbody, SessionRun.outcome_after, h.outcome_eq_stuck]
      simp [hp] }

theorem inOrder_of_not_prepared (hw : Database.Standing tx true w)
    (hp : ∀ s, ((b.preparing db tx).run w).outcome ≠ .value s) : b.InOrder db tx w [] := by
  obtain ⟨htrace, hvalue, hfailed, hpanicked, hstuck⟩ := body_of_not_prepared hp
  exact {
    prepare_calls := db.calls_prepare w (.session tx) b.ctx b.sql hw.2
    statement_eq := nofun
    draws_prefix := List.nil_prefix
    head_eq := nofun
    isChain := .nil
    trace_eq := by rw [htrace]; simp
    calls_eq := nofun
    reported_eq := nofun
    counted := nofun
    lazy := fun _ _ => SessionRun.andThen_congr_of_ne_value hp _ _
    value_iff := fun n => by simp [hvalue n, hp]
    failed_iff := fun e => by simp [hfailed e]
    panicked_iff := fun text => by
      have hlimit : 0 < limit64 := by decide
      simp [hpanicked text, preparing_ne_panicked hw text, Nat.not_le_of_lt hlimit]
    stuck_iff := by simp [hstuck] }

theorem keeps_body (hspares : b.Spares) :
    Keeps (Database.Standing tx true) (b.body db tx) :=
  .bind (db.keeps_prepare _ b.ctx b.sql) fun s => db.keeps_executeItems s b.ctx b.draws (hspares tx) 0

theorem exists_inOrder (hspares : b.Spares) (hw : Database.Standing tx true w) :
    ∃ ts, b.InOrder db tx w ts := by
  by_cases hp : ∃ s, ((b.preparing db tx).run w).outcome = .value s
  · obtain ⟨s, hp⟩ := hp
    obtain ⟨ts, h⟩ := b.exists_serves b.draws 0 ((b.preparing db tx).run w).world
    exact ⟨ts, inOrder_of_serves hspares hw hp h⟩
  · exact ⟨[], inOrder_of_not_prepared hw (not_exists.mp hp)⟩

/-! ### From the begin to the finishing call -/

theorem exec_of_begun (hspares : b.Spares)
    (h : ((db.begin b.ctx .default).run w).outcome = .value tx) :
    let began := (db.begin b.ctx .default).run w
    let body := (b.body db tx).run began.world
    let r := (b.exec db).run w
    r.calls = began.calls ++ (body.calls ++ Database.closing tx true body.outcome) ∧
    r.outcome = db.settledOutcome b.ctx tx body.world body.outcome := by
  have hkeeps : Keeps (Database.Standing tx true) (b.body db tx) := keeps_body hspares
  have hactive := (hkeeps _ (db.standing_of_begun h)).2
  have hcalls := db.calls_of_begun b.ctx tx w .default (b.body db) h
  simp only [hactive] at hcalls
  refine ⟨hcalls, ?_⟩
  rw [exec_eq, db.run_of_begun b.ctx tx w .default (b.body db) h]
  exact db.outcome_settle_of_active b.ctx tx _ hactive _

theorem exec_of_not_begun (h : ∀ tx, ((db.begin b.ctx .default).run w).outcome ≠ .value tx) :
    ((b.exec db).run w).calls = ((db.begin b.ctx .default).run w).calls ∧
      ((b.exec db).run w).outcome.value? = none := by
  rw [exec_eq, Database.runInTransaction_eq, run_bind]
  generalize (db.begin b.ctx .default).run w = r at h
  obtain ⟨o, w', t⟩ := r
  cases o with
  | value tx => exact absurd rfl (h tx)
  | failed e => exact ⟨rfl, rfl⟩
  | panicked text => exact ⟨rfl, rfl⟩
  | stuck => exact ⟨rfl, rfl⟩

variable (b db) (w)

/-- **A batch is in order and stops at the first failure.** At most one begin is dispatched, and when it does
not succeed nothing else happens. Otherwise the statement is prepared, the items have their turns, and one
call finishes the transaction. It is a commit when every item is counted and the counts come to no more than
64 bits hold; then the batch ends with the total if the commit succeeds. It is a rollback when the preparing
or a turn fails, when the caller panics, and when the counts come to too much; then the batch ends with that
error, alone or with that of the rollback, or goes on with the panic. -/
theorem exec_in_order (hspares : b.Spares) :
    let began := (db.begin b.ctx .default).run w
    let r := (b.exec db).run w
    began.calls = (if (db.refusal? w b.ctx).isSome then [] else [.begin w.nextTx .default]) ∧
    match began.outcome with
    | .value tx =>
      let body := (b.body db tx).run began.world
      ∃ ts, b.InOrder db tx began.world ts ∧
        body.calls = ((b.preparing db tx).run began.world).calls ++
          ts.flatMap (fun t => (t.arguments b).calls ++ t.execution b db) ∧
        r.calls = began.calls ++ (body.calls ++ Database.closing tx true body.outcome) ∧
        r.outcome = db.settledOutcome b.ctx tx body.world body.outcome
    | _ =>
      r.calls = began.calls ∧ r.outcome.value? = none ∧
      ∀ other : Batch δ σ ν ι, other.ctx = b.ctx → (other.exec db).run w = r := by
  refine ⟨db.calls_begin b.ctx w .default, ?_⟩
  cases h : ((db.begin b.ctx .default).run w).outcome with
  | value tx =>
      obtain ⟨ts, hts⟩ := exists_inOrder hspares (db.standing_of_begun h)
      exact ⟨ts, hts, hts.calls_body, exec_of_begun hspares h⟩
  | _ =>
      have hn : ∀ tx, ((db.begin b.ctx .default).run w).outcome ≠ .value tx := by
        intro tx htx
        rw [h] at htx
        cases htx
      obtain ⟨hcalls, hvalue⟩ := exec_of_not_begun hn
      refine ⟨hcalls, hvalue, fun other hctx => ?_⟩
      rw [exec_eq, exec_eq, hctx]
      exact (db.run_of_not_begun b.ctx w .default (other.body db) (b.body db) hn).1

section greedy

open Database

/-- A batch that would panic if a second item was taken. -/
def greedy : Batch Scripted.State Unit Unit Unit :=
  ⟨.background, "DELETE t", [pure (), panicWith "taken too far"], fun _ => pure []⟩

theorem spares_greedy : greedy.Spares := by
  intro tx d hd
  rcases List.mem_pair.mp hd with rfl | rfl
  · exact .bind (.pure ()) fun _ => .pure []
  · exact .bind (.panicWith _) fun _ => .pure []

/-- The driver refuses the first execution, and the second item is not taken. -/
theorem exec_in_order_of_greedy :
    let r := (greedy.exec refusing).run quiet
    greedy.Spares ∧
    r.calls = [.begin 0 .default, .prepare (.session 0) "DELETE t",
      .executePrepared (.session 0) (Scripted.prepared "DELETE t") [], .rollback 0] ∧
    r.outcome = .failed (.retry 1 (.raw diskError)) := by
  obtain ⟨ts, -, -, hcalls, houtcome⟩ := (exec_in_order greedy refusing quiet spares_greedy).2
  exact ⟨spares_greedy, hcalls.trans rfl, houtcome.trans rfl⟩

end greedy

variable {b db w} in
/-- A body all of whose turns are counted ends with the total, or with a panic when that is too much. -/
theorem InOrder.outcome_of_reported {ts : List (Serving δ σ ν ι)} (h : b.InOrder db tx w ts)
    (hp : ((b.preparing db tx).run w).outcome = .value s)
    (hall : ∀ t ∈ ts, (t.reported? b db).isSome = true) :
    (ts.map Serving.draw = b.draws ∧ b.rows db ts < limit64 ∧
      ∃ n, n.toNat = b.rows db ts ∧ ((b.body db tx).run w).outcome = .value n) ∨
    limit64 ≤ b.rows db ts ∧ ((b.body db tx).run w).outcome = .panicked Database.overflowText := by
  have hcounted : ∀ t ∈ ts, ∃ n, (t.run b db).outcome = .value n := fun t ht => by
    obtain ⟨n, hn⟩ := Option.isSome_iff_exists.mp (hall t ht)
    exact ⟨n, Outcome.value?_eq_some.mp ((h.reported_eq t ht).trans hn)⟩
  cases ho : ((b.body db tx).run w).outcome with
  | value n =>
      obtain ⟨-, hdraws, -, hsum⟩ := (h.value_iff n).mp ho
      exact .inl ⟨hdraws, hsum ▸ toNat_lt_limit64 n, n, hsum, rfl⟩
  | failed e =>
      obtain hfailed | ⟨t, ht, hfailed⟩ := (h.failed_iff e).mp ho
      · rw [hp] at hfailed
        cases hfailed
      · obtain ⟨n, hn⟩ := hcounted t ht
        rw [hn] at hfailed
        cases hfailed
  | panicked text =>
      obtain ⟨t, ht, hpanicked⟩ | ⟨rfl, hmuch⟩ := (h.panicked_iff text).mp ho
      · have hsome := hall t ht
        rw [Serving.reported?, hpanicked] at hsome
        cases hsome
      · exact .inr ⟨hmuch, rfl⟩
  | stuck =>
      obtain hstuck | ⟨t, ht, hstuck⟩ := h.stuck_iff.mp ho
      · rw [hp] at hstuck
        cases hstuck
      · obtain ⟨n, hn⟩ := hcounted t ht
        rw [hn] at hstuck
        cases hstuck

/-- **The total of a batch is exact.** A batch that ends with a total has executed the statement for every
item, and the total is the sum of the rows that the driver reported. When the driver reports rows for every
item that has its turn and 64 bits hold their sum, all items have theirs, and the total is committed. When
64 bits do not, the batch panics, and rolls back what was executed. -/
theorem exec_adds_up (hspares : b.Spares) :
    let began := (db.begin b.ctx .default).run w
    let r := (b.exec db).run w
    (∀ n, r.outcome = .value n → ∃ tx ts, began.outcome = .value tx ∧
      b.InOrder db tx began.world ts ∧ ts.map Serving.draw = b.draws ∧
      (∀ t ∈ ts, (t.reported? b db).isSome = true) ∧ n.toNat = b.rows db ts) ∧
    ∀ tx s, began.outcome = .value tx →
      ((b.preparing db tx).run began.world).outcome = .value s →
      let last := ((b.body db tx).run began.world).world
      ∃ ts, b.InOrder db tx began.world ts ∧ ((∀ t ∈ ts, (t.reported? b db).isSome = true) →
        if b.rows db ts < limit64 then
          ts.map Serving.draw = b.draws ∧
          ∃ n, n.toNat = b.rows db ts ∧ r.outcome = db.commitOutcome n (db.commitReply b.ctx tx last)
        else
          (∃ cs, r.calls = cs ++ [.rollback tx]) ∧
          r.outcome = Database.panicOutcome Database.overflowText
            (db.driverRun (last.without tx) .background (.rollback tx)).reply) := by
  refine ⟨fun n hn => ?_, fun tx s hbegun hp => ?_⟩
  · cases h : ((db.begin b.ctx .default).run w).outcome with
    | value tx =>
        obtain ⟨ts, hts⟩ := exists_inOrder hspares (db.standing_of_begun h)
        rw [(exec_of_begun hspares h).2] at hn
        have hbody := db.eq_value_of_settledOutcome b.ctx tx _ hn
        obtain ⟨-, hdraws, hall, hsum⟩ := (hts.value_iff n).mp hbody
        exact ⟨tx, ts, rfl, hts, hdraws, hall, hsum⟩
    | _ =>
        have hne : ∀ tx, ((db.begin b.ctx .default).run w).outcome ≠ .value tx := by
          rw [h]
          nofun
        have hvalue := (exec_of_not_begun hne).2
        rw [hn] at hvalue
        cases hvalue
  · obtain ⟨ts, hts⟩ := exists_inOrder hspares (db.standing_of_begun hbegun)
    obtain ⟨hcalls, houtcome⟩ := exec_of_begun hspares hbegun
    refine ⟨ts, hts, fun hall => ?_⟩
    obtain ⟨hdraws, hlt, n, hsum, hbody⟩ | ⟨hmuch, hbody⟩ := hts.outcome_of_reported hp hall
    · rw [if_pos hlt]
      rw [hbody] at houtcome
      exact ⟨hdraws, n, hsum, houtcome⟩
    · rw [if_neg (Nat.not_lt_of_le hmuch)]
      rw [hbody] at hcalls houtcome
      rw [hcalls]
      exact ⟨⟨_, (List.append_assoc _ _ _).symm⟩, houtcome⟩

section reporting

open Database

/-- A database whose driver reports so many rows for an update. -/
def reporting (n : UInt64) : Database Scripted.State Unit Unit :=
  ⟨Scripted.driver ⟨.sqlite, [], [], [("UPDATE t", n)], false⟩, ⟨[]⟩, .default, .default⟩

/-- A batch of two updates. -/
def twice : Batch Scripted.State Unit Unit Unit :=
  ⟨.background, "UPDATE t", [pure (), pure ()], fun _ => pure []⟩

theorem spares_twice : twice.Spares := by
  intro tx d hd
  rcases List.mem_pair.mp hd with rfl | rfl <;> exact .bind (.pure ()) fun _ => .pure []

/-- Three rows and three rows are six. -/
theorem exec_adds_up_of_twice :
    twice.Spares ∧ ∃ n, ((twice.exec (reporting 3)).run quiet).outcome = .value n ∧ n = 6 ∧
      ∃ ts, n.toNat = twice.rows (reporting 3) ts := by
  obtain ⟨hexact, -⟩ := exec_adds_up twice (reporting 3) quiet spares_twice
  obtain ⟨tx, ts, -, -, -, -, hsum⟩ := hexact 6 rfl
  exact ⟨spares_twice, 6, rfl, rfl, ts, hsum⟩

/-- The greatest number of rows that a driver can report. -/
def most : UInt64 := 0xFFFFFFFFFFFFFFFF

/-- Two executions that succeed are rolled back when they report as much as the driver can. -/
theorem rolled_back_of_huge :
    let r := (twice.exec (reporting most)).run quiet
    let update := DriverCall.executePrepared (.session 0) (Scripted.prepared "UPDATE t") []
    r.calls = [.begin 0 .default, .prepare (.session 0) "UPDATE t", update, update, .rollback 0] ∧
    .commit 0 ∉ r.calls ∧
    ∀ env state, ((reporting most).driver.run update ⟨.background, 0⟩ env state).reply = .ok most := by
  intro r update
  have hcalls : r.calls =
      [.begin 0 .default, .prepare (.session 0) "UPDATE t", update, update, .rollback 0] := rfl
  refine ⟨hcalls, ?_, fun env state => rfl⟩
  rw [hcalls]
  simp [update]

/-- To add up what they report panics. -/
theorem panicked_of_huge :
    let r := (twice.exec (reporting most)).run quiet
    r.outcome = .panicked Database.overflowText ∧ ∀ n, r.outcome ≠ .value n :=
  ⟨rfl, nofun⟩

end reporting

end Batch

end DbAccess
