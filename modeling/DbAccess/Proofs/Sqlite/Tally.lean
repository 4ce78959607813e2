import DbAccess.Proofs.Sqlite.Steady
/-!
# Rows that statements change

An engine counts the rows that its statements change, in two counters: one is set by each statement that changes
rows, the other one grows. `Counts` says so, and `History` is what ran on an engine since some time.

`Shared.counts_rows` is what a job that executes a statement is answered with, after any history of the connection. It
is the number of rows that this very statement changed, when it has rows of its own or is one that changes rows.
For others the counter is read that was set before, so they are answered with the count of whatever changed rows last
(`Memory.count_left_over`).
-/

namespace DbAccess

variable {ε α β : Type}

/-- What a call is answered with, if it is. -/
def Reply.value? : Reply α → Option α
  | .ok a => some a
  | _ => none

theorem Reply.value?_eq_some {r : Reply α} {a : α} : r.value? = some a ↔ r = .ok a := by
  cases r <;> simp [value?]

namespace Sqlite

/-! ### Counters -/

/-- What statements do to rows. -/
structure Tally (ε : Type) where
  /-- The text inserts, updates or deletes rows. -/
  isCounted : String → Bool
  /-- The number of rows that it inserts, updates or deletes when it comes to an end. -/
  changed : String → List Stored → ε → Nat

/-- The number of rows that a statement changes, which is none unless it inserts, updates or deletes rows. -/
def Tally.rows (T : Tally ε) (sql : String) (args : List Stored) (e : ε) : Nat :=
  if T.isCounted sql then T.changed sql args e else 0

/-- An engine that counts the rows that statements change. -/
structure Counts (E : Engine ε) (T : Tally ε) : Prop where
  /-- A statement that changes rows and comes to an end sets one counter, and adds to the other. -/
  counted : ∀ extent sql args handler env e rows, let w := E.run extent sql args handler env e
    T.isCounted sql = true → w.ended = .done rows →
      E.changes w.state = T.changed sql args e ∧
        E.totalChanges w.state = E.totalChanges e + T.changed sql args e
  /-- Other statements leave both alone. -/
  uncounted : ∀ extent sql args handler env e, let w := E.run extent sql args handler env e
    T.isCounted sql = false →
      E.changes w.state = E.changes e ∧ E.totalChanges w.state = E.totalChanges e

/-- A statement that ran, and the number of rows that it changed. Of one that did not come to an end it is the number
that it has left in the counter. -/
structure Entry where
  sql : String
  count : Nat

/-- What ran on an engine, the last first. -/
inductive History (E : Engine ε) (T : Tally ε) (start : ε) : List Entry → ε → Prop
  | nil : History E T start [] start
  | completed {es : List Entry} {e : ε} {extent : Extent} {sql : String} {args : List Stored}
    {handler : Option Watcher} {env : Env} {rows : List (List Stored)} (before : History E T start es e)
    (done : (E.run extent sql args handler env e).ended = .done rows) :
    History E T start (⟨sql, T.rows sql args e⟩ :: es) (E.run extent sql args handler env e).state
  | abandoned {es : List Entry} {e : ε} {extent : Extent} {sql : String} {args : List Stored}
    {handler : Option Watcher} {env : Env} (before : History E T start es e)
    (stopped : ∀ rows, (E.run extent sql args handler env e).ended ≠ .done rows) :
    History E T start (⟨sql, E.changes (E.run extent sql args handler env e).state⟩ :: es)
      (E.run extent sql args handler env e).state

/-- The number of rows that were changed last, when at first it was this one. -/
def Tally.latest (T : Tally ε) (first : Nat) : List Entry → Nat
  | [] => first
  | e :: es => if T.isCounted e.sql then e.count else T.latest first es

variable {E : Engine ε} {T : Tally ε} {start e : ε} {es : List Entry}

theorem History.changes_eq (hE : Counts E T) (h : History E T start es e) :
    E.changes e = T.latest (E.changes start) es := by
  induction h with
  | nil => rfl
  | @completed es e extent sql args handler env rows before done ih =>
      cases hsql : T.isCounted sql with
      | true => simp [Tally.latest, Tally.rows, hsql, (hE.counted extent sql args handler env e rows hsql done).1]
      | false => simp [Tally.latest, hsql, (hE.uncounted extent sql args handler env e hsql).1, ih]
  | @abandoned es e extent sql args handler env before stopped ih =>
      cases hsql : T.isCounted sql with
      | true => simp [Tally.latest, hsql]
      | false => simp [Tally.latest, hsql, (hE.uncounted extent sql args handler env e hsql).1, ih]

theorem steady_history (E : Engine ε) (T : Tally ε) (start : ε) :
    E.Steady fun e => ∃ es, History E T start es e := by
  rintro extent sql args handler env e ⟨es, h⟩
  cases hw : (E.run extent sql args handler env e).ended with
  | done rows => exact ⟨_, h.completed hw⟩
  | failed f => exact ⟨_, h.abandoned (by rw [hw]; nofun)⟩
  | never => exact ⟨_, h.abandoned (by rw [hw]; nofun)⟩

/-! ### Executions -/

theorem EngineTask.done_of_andThen {x : EngineTask ε α} {f : α → EngineTask ε β} {handler : Option Watcher} {env : Env}
    {b : β} (h : (x.andThen f handler env e).ended = .done b) :
    ∃ a, (x handler env e).ended = .done a ∧
      (f a handler (x handler env e).env (x handler env e).state).ended = .done b := by
  unfold EngineTask.andThen at h
  cases hw : (x handler env e).ended with
  | done a =>
      simp only [hw] at h
      exact ⟨a, rfl, h⟩
  | failed r =>
      simp only [hw] at h
      cases h
  | never =>
      simp only [hw] at h
      cases h

namespace Engine

variable {sql : String} {args : List Value} {handler : Option Watcher} {env : Env} {b : Workbench ε}

/-- What is known of a statement before it runs: as it is kept, or as it is compiled under a handler. -/
def compiled (E : Engine ε) (sql : String) (handler : Option Watcher) (env : Env) (b : Workbench ε) :
    Ended Compiled :=
  match b.kept.lookup (Text.trimBlank sql) with
  | some p => .done p
  | none => (E.compile (Text.trimBlank sql) handler env b.engine).1

theorem done_of_prepare {p : Compiled} (h : (E.prepare sql handler env b).ended = .done p) :
    E.compiled sql handler env b = .done p := by
  obtain ⟨kept?, hlookup, h⟩ := EngineTask.done_of_andThen h
  have hkept : b.kept.lookup (Text.trimBlank sql) = kept? := Ended.done.inj hlookup
  rw [compiled, hkept]
  cases kept? with
  | some q => exact h
  | none =>
      obtain ⟨q, hq, h⟩ := EngineTask.done_of_andThen h
      rw [← Ended.done.inj h]
      exact hq

theorem done_of_prepareFor {p : Compiled} (h : (E.prepareFor sql args handler env b).ended = .done p) :
    E.compiled sql handler env b = .done p := by
  obtain ⟨p', hp', hcount⟩ := EngineTask.done_of_andThen h
  split at hcount
  · obtain rfl : p' = p := by injection hcount
    exact done_of_prepare hp'
  · cases hcount

theorem keeps_keep (P : ε → Prop) (text : String) (p : Compiled) : EngineTask.Keeps (P ·.engine) (keep text p) := by
  intro handler env b hb
  simp only [keep]
  exact hb

theorem keeps_prepare (P : ε → Prop) (sql : String) : EngineTask.Keeps (P ·.engine) (E.prepare sql) := by
  unfold prepare
  refine EngineTask.Keeps.andThen (fun _ _ _ hb => hb) fun kept? => ?_
  cases kept? with
  | some p => exact keeps_keep P _ p
  | none => exact EngineTask.Keeps.andThen (fun _ _ _ hb => hb) fun p => keeps_keep P _ p

theorem engine_of_prepareFor : (E.prepareFor sql args handler env b).state.engine = b.engine := by
  have hkeeps : EngineTask.Keeps (·.engine = b.engine) (E.prepareFor sql args) := by
    refine (keeps_prepare (E := E) (· = b.engine) sql).andThen fun p => ?_
    split <;> exact fun _ _ _ hb => hb
  exact hkeeps handler env b rfl

/-- An execution reads the one counter behind a statement without rows, and compares the other one before and behind
a statement with rows. -/
theorem done_of_execute {n : UInt64} (h : (E.execute sql args handler env b).ended = .done n) :
    ∃ p env' rows, E.compiled sql handler env b = .done p ∧
      let w := E.run .all (Text.trimBlank sql) (args.map Stored.ofValue) handler env' b.engine
      w.ended = .done rows ∧
        n = (if p.columns.isEmpty then E.changes w.state
          else E.totalChanges w.state - E.totalChanges b.engine).toUInt64 := by
  obtain ⟨p, hp, h⟩ := EngineTask.done_of_andThen h
  have hcompiled := done_of_prepareFor hp
  have hengine : (E.prepareFor sql args handler env b).state.engine = b.engine := engine_of_prepareFor
  generalize E.prepareFor sql args handler env b = w at h hengine
  obtain ⟨ended, env', b'⟩ := w
  dsimp only at h hengine
  rw [← hengine]
  split at h
  · rename_i hempty
    obtain ⟨rows, hrows, h⟩ := EngineTask.done_of_andThen h
    injection h with h
    exact ⟨p, env', rows, hcompiled, hrows, by rw [if_pos hempty]; exact h.symm⟩
  · rename_i hcolumns
    obtain ⟨before, hbefore, h⟩ := EngineTask.done_of_andThen h
    obtain ⟨rows, hrows, h⟩ := EngineTask.done_of_andThen h
    injection hbefore with hbefore
    injection h with h
    exact ⟨p, env', rows, hcompiled, hrows, by rw [if_neg hcolumns, hbefore]; exact h.symm⟩

theorem count_of_execute (hE : Counts E T) {n : UInt64} (h : (E.execute sql args handler env b).ended = .done n) :
    ∃ p, E.compiled sql handler env b = .done p ∧
      n = (if p.columns.isEmpty && !T.isCounted (Text.trimBlank sql) then E.changes b.engine
        else T.rows (Text.trimBlank sql) (args.map Stored.ofValue) b.engine).toUInt64 := by
  obtain ⟨p, env', rows, hcompiled, hdone, hn⟩ := done_of_execute h
  refine ⟨p, hcompiled, ?_⟩
  rw [hn, Tally.rows]
  cases hsql : T.isCounted (Text.trimBlank sql) with
  | true =>
      obtain ⟨hchanges, htotal⟩ := hE.counted .all _ _ handler env' b.engine rows hsql hdone
      rw [hchanges, htotal]
      cases p.columns.isEmpty <;> simp
  | false =>
      obtain ⟨hchanges, htotal⟩ := hE.uncounted .all _ (args.map Stored.ofValue) handler env' b.engine hsql
      rw [hchanges, htotal]
      cases p.columns.isEmpty <;> simp

end Engine

/-! ### Jobs -/

/-- The handler that is installed while a connection does something under a context. -/
def Connection.handlerFor (c : Connection ε) (ctx : Context) : Option Watcher :=
  if ctx.canEnd then some ctx.watcher else c.handler

theorem Connection.done_of_guarded {task : EngineTask (Workbench ε) α} {c : Connection ε} {ctx : Context} {env : Env}
    {a : α} (h : (c.guarded ctx env task).reply = .ok a) :
    ∃ b, c.engine = some b ∧ (task (c.handlerFor ctx) env b).ended = .done a := by
  have hdone : ∀ {ended : Ended α} {env' : Env}, reply ctx env' ended = .ok a → ended = .done a := by
    intro ended env' h
    cases ended with
    | done a' =>
        injection h with h
        rw [h]
    | failed f => cases h
    | never => cases h
  unfold guarded at h
  cases hengine : c.engine with
  | none =>
      simp only [hengine] at h
      cases h
  | some b =>
      simp only [hengine] at h
      cases hctx : ctx.err env with
      | some done =>
          simp only [hctx] at h
          cases h
      | none =>
          simp only [hctx] at h
          rw [handlerFor]
          split at h
          case isTrue hends =>
            rw [if_pos hends]
            exact ⟨b, rfl, hdone h⟩
          case isFalse hends =>
            rw [if_neg hends]
            exact ⟨b, rfl, hdone h⟩

namespace Job

/-- The statement and the arguments of a job that is to count rows. -/
def counting? : Job → Option (String × List Value)
  | call (.execute _ sql args) => some (sql, args)
  | call (.executePrepared _ p args) => some (p.sql, args)
  | _ => none

/-- The number of rows that a job is answered with, if it is to count them. -/
def count? : (j : Job) → Reply j.Answer → Option UInt64
  | call (.execute ..), r | call (.executePrepared ..), r => r.value?
  | _, _ => none

theorem done_of_count? {j : Job} {c : Connection ε} (hholder : c.holder = none) {caller : Caller} {env : Env}
    {n : UInt64} (h : j.count? (j.run E caller env c).reply = some n) :
    ∃ sql args b, j.counting? = some (sql, args) ∧ c.engine = some b ∧
      (E.execute sql args (c.handlerFor caller.ctx) env b).ended = .done n := by
  have hexecute : ∀ {t sql args}, (c.execute E t sql args caller env).reply = .ok n →
      ∃ b, c.engine = some b ∧ (E.execute sql args (c.handlerFor caller.ctx) env b).ended = .done n := by
    intro t sql args hreply
    rw [Connection.execute, Connection.request_of_unheld hholder] at hreply
    exact Connection.done_of_guarded hreply
  cases j with
  | script sql => cases h
  | call d =>
      cases d with
      | execute t sql args =>
          obtain ⟨b, hb, hdone⟩ := hexecute (Reply.value?_eq_some.mp h)
          exact ⟨sql, args, b, rfl, hb, hdone⟩
      | executePrepared t p args =>
          obtain ⟨b, hb, hdone⟩ := hexecute (Reply.value?_eq_some.mp h)
          exact ⟨p.sql, args, b, rfl, hb, hdone⟩
      | _ => cases h

end Job

namespace Shared

variable {m : Shared ε} {acts : List Act} {c : Connection ε} {env : Env}

/-- **What an execution is answered with, whatever ran before.** However threads take turns on a connection, a job that
executes a statement and succeeds is answered with the number of rows that this very statement changes, when it is one
that inserts, updates or deletes rows, with rows in return or without, and when it has rows of its own, which is none
then. Any other statement is answered with the number of rows that were changed last on the engine, or that were in the
counter at first. -/
theorem counts_rows (hE : Counts E T) (hrun : Run E (ofConnection c env) acts m) {t : Nat} {a : Asked} {n : UInt64}
    (hcount : a.job.count? (m.work E t a).reply = some n) :
    ∃ sql args b₀ es b p, a.job.counting? = some (sql, args) ∧ c.engine = some b₀ ∧
      m.engine = some b ∧ History E T b₀.engine es b.engine ∧
      E.compiled sql ((m.bare a.ticket).handlerFor a.ctx) m.env b = .done p ∧
      n = (if p.columns.isEmpty && !T.isCounted (Text.trimBlank sql) then T.latest (E.changes b₀.engine) es
        else T.rows (Text.trimBlank sql) (args.map Stored.ofValue) b.engine).toUInt64 := by
  have hstart : (ofConnection c env).AtRest c.handler
      fun e => ∃ b₀ es, c.engine = some b₀ ∧ History E T b₀.engine es e :=
    ⟨.inr rfl, fun b hb => ⟨b, [], hb, .nil⟩⟩
  have hsteady : E.Steady fun e => ∃ b₀ es, c.engine = some b₀ ∧ History E T b₀.engine es e := by
    rintro extent sql args handler env e ⟨b₀, es, hb₀, hes⟩
    obtain ⟨es', hes'⟩ := steady_history E T b₀.engine extent sql args handler env e ⟨es, hes⟩
    exact ⟨b₀, es', hb₀, hes'⟩
  have hm := hstart.run hsteady hrun
  obtain ⟨sql, args, b, hcounting, hb, hdone⟩ := Job.done_of_count? rfl hcount
  obtain ⟨p, hcompiled, hn⟩ := Engine.count_of_execute hE hdone
  obtain ⟨b₀, es, hb₀, hes⟩ := hm.upholds b hb
  rw [hes.changes_eq hE] at hn
  exact ⟨sql, args, b₀, es, b, p, hcounting, hb₀, hb, hes, hcompiled, hn⟩

end Shared

/-! ### Databases in memory -/

namespace Memory

variable {m : Memory} {args : List Stored} {c : Command}

/-- What statements do to the rows of a database in memory. -/
def tally : Tally Memory where
  isCounted sql := (Command.read sql).toOption.any isCounted
  changed sql args m :=
    (((Command.read sql).toOption.bind fun c => (m.tables.applyChecked m.foreignKeys args c).toOption).map
      (·.changed)).getD 0

theorem applyTables_counted (hc : isCounted c = true) {rows : List (List Stored)}
    (h : (m.applyTables args c).1 = .ok rows) :
    ∃ e, m.tables.applyChecked m.foreignKeys args c = .ok e ∧ (m.applyTables args c).2.changes = e.changed ∧
      (m.applyTables args c).2.totalChanges = m.totalChanges + e.changed := by
  unfold applyTables at h ⊢
  by_cases hrefused : ((m.readOnly || m.queryOnly) && isWrite c) = true
  · simp only [if_pos hrefused] at h
    cases h
  · simp only [if_neg hrefused] at h ⊢
    cases happly : m.tables.applyChecked m.foreignKeys args c with
    | error f =>
        rw [happly] at h
        cases h
    | ok e => exact ⟨e, rfl, by simp [hc]⟩

theorem applyTables_uncounted (hc : isCounted c = false) :
    (m.applyTables args c).2.changes = m.changes ∧ (m.applyTables args c).2.totalChanges = m.totalChanges := by
  unfold applyTables
  dsimp only
  split <;> simp [hc]

theorem control_uncounted {r : Except Failure Memory}
    (h : ∀ m', r = .ok m' → m'.changes = m.changes ∧ m'.totalChanges = m.totalChanges) :
    (m.control r).2.changes = m.changes ∧ (m.control r).2.totalChanges = m.totalChanges := by
  cases r with
  | ok m' => exact h m' rfl
  | error f => exact ⟨rfl, rfl⟩

theorem perform_uncounted (hc : isCounted c = false) :
    (m.perform args c).2.changes = m.changes ∧ (m.perform args c).2.totalChanges = m.totalChanges := by
  cases c with
  | nothing | savepoint => exact ⟨rfl, rfl⟩
  | begin =>
      refine control_uncounted fun m' h => ?_
      unfold begin at h
      split at h
      · cases h
      · cases h
        exact ⟨rfl, rfl⟩
  | commit =>
      refine control_uncounted fun m' h => ?_
      unfold commit at h
      split at h
      · cases h
        exact ⟨rfl, rfl⟩
      · cases h
  | rollback =>
      refine control_uncounted fun m' h => ?_
      unfold rollback at h
      split at h
      · cases h
        exact ⟨rfl, rfl⟩
      · cases h
  | rollbackTo name =>
      refine control_uncounted fun m' h => ?_
      obtain ⟨⟨t, p, older⟩, -, h⟩ := bind_eq_ok h
      cases h
      exact ⟨rfl, rfl⟩
  | release name =>
      refine control_uncounted fun m' h => ?_
      obtain ⟨⟨t, p, older⟩, -, h⟩ := bind_eq_ok h
      dsimp only at h
      split at h <;> (cases h; exact ⟨rfl, rfl⟩)
  | pragma setting value =>
      unfold perform pragma
      dsimp only
      split <;> exact ⟨rfl, rfl⟩
  | _ => exact applyTables_uncounted hc

theorem isCounted_of_read {sql : String} (h : Command.read sql = .ok c) : tally.isCounted sql = isCounted c := by
  show (Command.read sql).toOption.any isCounted = isCounted c
  rw [h]
  rfl

theorem changed_of_read {sql : String} (h : Command.read sql = .ok c) {e : Effect}
    (happly : m.tables.applyChecked m.foreignKeys args c = .ok e) : tally.changed sql args m = e.changed := by
  simp only [tally, h, Except.toOption, Option.bind_some, happly, Option.map_some, Option.getD_some]

/-- **The engine in memory counts rows.** -/
theorem counts_engine : Counts engine tally where
  counted := by
    intro extent sql args handler env m rows w hsql hdone
    obtain ⟨-, hundone⟩ | ⟨c, p, hr, hrun⟩ := run_cases extent sql args handler env m
    · exact absurd hdone (hundone rows)
    · have hread := read_of_resolve hr
      have hc : isCounted c = true := (isCounted_of_read hread).symm.trans hsql
      have hperform : m.perform args c = m.applyTables args c := by
        cases c with
        | insert | update | delete => rfl
        | _ => cases hc
      have hw : w = workOf extent env (m.applyTables args c) := hperform ▸ hrun
      have hstate : w.state = (m.applyTables args c).2 := hw ▸ state_workOf extent env _
      obtain ⟨rows', hrows⟩ : ∃ rows', (m.applyTables args c).1 = .ok rows' := by
        rw [hw] at hdone
        unfold workOf at hdone
        split at hdone
        · rename_i heq
          exact ⟨_, congrArg Prod.fst heq⟩
        · cases hdone
      obtain ⟨e, happly, hchanges, htotal⟩ := applyTables_counted hc hrows
      rw [hstate, changed_of_read hread happly]
      exact ⟨hchanges, htotal⟩
  uncounted := by
    intro extent sql args handler env m w hsql
    obtain ⟨hsame, -⟩ | ⟨c, p, hr, hrun⟩ := run_cases extent sql args handler env m
    · exact ⟨congrArg changes hsame, congrArg totalChanges hsame⟩
    · have hc : isCounted c = false := (isCounted_of_read (read_of_resolve hr)).symm.trans hsql
      have hstate : w.state = (m.perform args c).2 := (congrArg Work.state hrun).trans (state_workOf extent env _)
      rw [hstate]
      exact perform_uncounted hc

section leftOver

/-- Somebody executes a statement on the handle. -/
def executing (sql : String) : Asked := ⟨.call (.execute .handle sql []), .background, 1⟩

/-- The connection after some statements on the handle of a new database. -/
def afterAll (sqls : List String) : Connection Memory :=
  sqls.foldl (fun c sql => ((executing sql).job.run engine ⟨.background, 0⟩ ⟨0, []⟩ c).state)
    (.ofEngine (fresh false true))

/-- The number that a statement on the handle is answered with after some others. -/
def countAfter (sqls : List String) (sql : String) : Option UInt64 :=
  (executing sql).job.count? ((executing sql).job.run engine ⟨.background, 0⟩ ⟨0, []⟩ (afterAll sqls)).reply

/-- A table is created. -/
def creation : List String := ["CREATE TABLE t (k TEXT)"]

/-- A row is inserted into it. -/
def insertion : String := "INSERT INTO t VALUES ('x')"

/-- Threads that share a connection to a database with that table. -/
def sharing : Shared Memory := .ofConnection (afterAll creation) ⟨0, []⟩

/-- One of them inserts the row. -/
def inserting : List Act :=
  [.asks 0 (executing insertion), .takes 0 (executing insertion), .runs 0 (executing insertion),
    .leaves 0 (some ⟨executing insertion, .ok (1 : UInt64)⟩)]

theorem run_inserting :
    ∃ m, Shared.Run engine sharing inserting m ∧
      (executing "DELETE FROM t").job.count? (m.work engine 1 (executing "DELETE FROM t")).reply = some 1 := by
  have hcount : (executing insertion).job.count? (sharing.work engine 0 (executing insertion)).reply = some 1 := by
    decide +kernel
  have hinserted : (sharing.work engine 0 (executing insertion)).reply = .ok (1 : UInt64) :=
    Reply.value?_eq_some.mp hcount
  have hreturned : Database.returned? (sharing.work engine 0 (executing insertion)).reply =
      some (.ok (1 : UInt64)) := by
    rw [hinserted]
    rfl
  have hunheld : (sharing.work engine 0 (executing insertion)).state.holder = none := by
    obtain h | ⟨tx, opts, hbegin, -⟩ := Shared.unheld_work (E := engine) sharing 0 (executing insertion)
    · exact h.holder
    · cases hbegin
  refine ⟨_, .cons (.asks rfl rfl) (.cons (.takes rfl rfl) (.cons (.runs rfl hreturned hunheld)
    (.cons (.leaves rfl) (.nil _)))), ?_⟩
  decide +kernel

/-- What another one deletes then is the row that this statement has found. -/
theorem counts_rows_of_deleting :
    ∃ m, Shared.Run engine sharing inserting m ∧
      (executing "DELETE FROM t").job.count? (m.work engine 1 (executing "DELETE FROM t")).reply = some 1 ∧
      ∃ b, m.engine = some b ∧ (1 : UInt64) = (tally.rows "DELETE FROM t" [] b.engine).toUInt64 := by
  obtain ⟨m, hrun, hcount⟩ := run_inserting
  obtain ⟨sql, args, b₀, es, b, p, hcounting, -, hb, -, -, hn⟩ := Shared.counts_rows counts_engine hrun hcount
  cases hcounting
  have htext : Text.trimBlank "DELETE FROM t" = "DELETE FROM t" := by decide +kernel
  have hcounted : tally.isCounted "DELETE FROM t" = true := by decide +kernel
  rw [htext, hcounted, Bool.not_true, Bool.and_false] at hn
  exact ⟨m, hrun, hcount, b, hb, hn⟩

/-- After a row was inserted, whoever drops the table is told that one row was changed. -/
theorem count_left_over :
    countAfter creation insertion = some 1 ∧
    countAfter (creation ++ [insertion]) "DROP TABLE t" = some 1 ∧
    tally.isCounted "DROP TABLE t" = false ∧ ∀ m, tally.rows "DROP TABLE t" [] m = 0 := by
  have hdrop : tally.isCounted "DROP TABLE t" = false := by decide +kernel
  refine ⟨by decide +kernel, by decide +kernel, hdrop, fun m => ?_⟩
  rw [Tally.rows, hdrop]
  rfl

end leftOver

end Memory

end Sqlite

end DbAccess
