import DbAccess.Proofs.Sqlite.Holder
import DbAccess.Proofs.Sqlite.Memory
import DbAccess.Proofs.Sqlite.Request
/-!
# Engines that may refuse anything

`Erratic` are the laws of an engine that may fail or be interrupted in any statement but two: to roll back an open
transaction succeeds, and so does to allow writing again. A statement that fails may take the open transaction with
it. So of a state it is only known whether a transaction may be open, and whether something may be written
(`Within`).

The lemmas carry this along what a connection does with the engine: a job leaves it as it was, the statement that
finishes a transaction closes it or fails, and whoever lets go of a connection leaves it closed and writable. A
begin is left out of the laws as a whole, since its statements fail one by one: that the second does not is said
apart (`Forbids`). Databases in memory keep all of this (`Memory.erratic_engine`, `Memory.forbids_engine`).
-/

namespace DbAccess.Sqlite

variable {ε α β : Type}

/-- What there is to see of an engine, and what callers may say to it. -/
structure Sight (ε : Type) where
  /-- Nothing may be written for now. -/
  queryOnly : ε → Bool
  /-- The text neither controls transactions nor changes whether something may be written. -/
  isPlain : String → Prop

/-- A transaction is open only if one may be, and whether something may be written is known. -/
structure Within (E : Engine ε) (S : Sight ε) (may q : Bool) (e : ε) : Prop where
  inTransaction : E.inTransaction e = true → may = true
  queryOnly : S.queryOnly e = q

section within

variable {E : Engine ε} {S : Sight ε} {may q : Bool} {e : ε}

theorem Within.closed (h : Within E S false q e) : E.inTransaction e = false := by
  cases hopen : E.inTransaction e with
  | false => rfl
  | true => exact nomatch h.inTransaction hopen

theorem within_of_closed (hopen : E.inTransaction e = false) (hq : S.queryOnly e = q) : Within E S may q e :=
  ⟨fun h => (nomatch hopen.symm.trans h), hq⟩

end within

/-- An engine of which any statement may fail but the rollback of an open transaction and the one that allows
writing. -/
structure Erratic (E : Engine ε) (S : Sight ε) : Prop where
  /-- A begin that fails opens nothing. -/
  begin : ∀ q, (E.runText "BEGIN DEFERRED").Leaves (fun b => Within E S false q b.engine)
    (fun b => Within E S true q b.engine) (fun b => Within E S false q b.engine)
  /-- A plain statement opens nothing, and leaves alone whether something may be written. -/
  statement : ∀ extent sql args may q, S.isPlain sql →
    EngineTask.Leaves (E.run extent sql args) (Within E S may q) (Within E S may q) (Within E S may q)
  /-- A commit that succeeds leaves nothing open. -/
  commit : ∀ q, (E.runText "COMMIT").Leaves (fun b => Within E S true q b.engine)
    (fun b => Within E S false q b.engine) (fun b => Within E S true q b.engine)
  /-- A rollback that succeeds leaves nothing open. -/
  rollback : ∀ q, (E.runText "ROLLBACK").Leaves (fun b => Within E S true q b.engine)
    (fun b => Within E S false q b.engine) (fun b => Within E S true q b.engine)
  /-- The rollback of an open transaction succeeds. -/
  rolledBack : ∀ q, (E.runText "ROLLBACK").Ensures
    (fun b => E.inTransaction b.engine = true ∧ S.queryOnly b.engine = q) (fun b => Within E S false q b.engine)
  /-- Writing can be allowed again. -/
  writable : ∀ may q, (E.runText Connection.writableText).Ensures (fun b => Within E S may q b.engine)
    (fun b => Within E S may false b.engine)
  ping : S.isPlain Engine.pingText

/-- That writing is forbidden does not fail. -/
def Forbids (E : Engine ε) (S : Sight ε) : Prop :=
  ∀ q, (E.runText "PRAGMA query_only = ON").Ensures (fun b => Within E S true q b.engine)
    (fun b => Within E S true true b.engine)

/-- The texts of a job that reach the engine are plain. -/
def Job.Plain (S : Sight ε) : Job → Prop
  | call (.execute _ sql _) | call (.query _ sql _) | call (.queryOne _ sql _) => S.isPlain (Text.trimBlank sql)
  | call (.executePrepared _ p _) | call (.queryPrepared _ p _) | call (.queryOnePrepared _ p _) =>
    S.isPlain (Text.trimBlank p.sql)
  | script sql => ∀ text ∈ scriptTexts sql, S.isPlain text
  | call (.prepare ..) | call (.begin ..) | call (.commit _) | call (.rollback _) | call .ping | call .close => True

theorem Leaves.of_returned {δ : Type} {r : DriverRun δ α} {ok error : δ → Prop} (h : Leaves r ok error)
    {res : Except RawError α} (hret : Database.returned? r.reply = some res) :
    (res.isOk = true ∧ ok r.state) ∨ (res.isOk = false ∧ error r.state) := by
  obtain ⟨reply, env, state, log⟩ := r
  cases reply with
  | ok a =>
      cases hret
      exact .inl ⟨rfl, h⟩
  | error e =>
      cases hret
      exact .inr ⟨rfl, h⟩
  | never => cases hret

namespace Engine

variable {E : Engine ε} {P D F : ε → Prop} {sql : String}

theorem runText_leaves (h : EngineTask.Leaves (E.run .first sql []) P D F) (hPF : ∀ e, P e → F e) :
    (E.runText sql).Leaves (P ·.engine) (D ·.engine) (F ·.engine) := by
  refine ((EngineTask.leaves_compiling E sql hPF).andThen fun _ => ?_).onWorkbench
  exact h.andThen fun _ => EngineTask.leaves_done () fun _ he => he

theorem runTexts_leaves {texts : List String} (h : ∀ sql ∈ texts, EngineTask.Leaves (E.run .first sql []) P P P) :
    (E.runTexts texts).Leaves (P ·.engine) (P ·.engine) (P ·.engine) := by
  induction texts with
  | nil => exact EngineTask.leaves_done () fun _ hb => hb
  | cons sql rest ih =>
      refine (runText_leaves (h sql List.mem_cons_self) fun _ he => he).andThen fun _ => ?_
      exact ih fun text htext => h text (List.mem_cons_of_mem _ htext)

theorem ping_leaves (h : EngineTask.Leaves (E.run .first pingText []) P P P) :
    E.ping.Leaves (P ·.engine) (P ·.engine) (P ·.engine) := by
  refine ((EngineTask.leaves_compiling E pingText fun _ he => he).andThen fun _ => h.andThen fun rows => ?_).onWorkbench
  split
  · exact EngineTask.leaves_fail _ fun _ he => he
  · exact EngineTask.leaves_done () fun _ he => he

end Engine

namespace Connection

variable {E : Engine ε} {S : Sight ε} {P D F : ε → Prop} {c : Connection ε} {may q : Bool}

/-- The engine is in a state of a kind, unless the connection is closed. -/
def Upholds (P : ε → Prop) (c : Connection ε) : Prop := ∀ b, c.engine = some b → P b.engine

theorem upholds_of_serves (h : c.Serves P) : c.Upholds P := by
  obtain ⟨b, hb, hp⟩ := h
  intro b' hb'
  obtain rfl := Option.some.inj (hb.symm.trans hb')
  exact hp

theorem guarded_upholds {task : EngineTask (Workbench ε) α}
    (h : task.Leaves (P ·.engine) (D ·.engine) (F ·.engine)) (hPF : ∀ e, P e → F e) (hc : c.Upholds P)
    (ctx : Context) (env : Env) : Leaves (c.guarded ctx env task) (Upholds D) (Upholds F) := by
  cases hengine : c.engine with
  | none =>
      unfold guarded
      rw [hengine]
      exact fun b hb => nomatch hengine.symm.trans hb
  | some b =>
      exact (guarded_leaves h hPF ⟨b, hengine, hc b hengine⟩ ctx env).imp
        (fun c' hc' => upholds_of_serves hc'.2) fun c' hc' => upholds_of_serves hc'.2

theorem tidy_upholds {sql : String} (h : (E.runText sql).Ensures (P ·.engine) (D ·.engine)) (hc : c.Upholds P)
    (event : String → LogEvent) (env : Env) : (tidy E sql event env c).2.1.Upholds D := by
  cases hengine : c.engine with
  | none =>
      unfold tidy
      rw [hengine]
      exact fun b hb => nomatch hengine.symm.trans hb
  | some b => exact upholds_of_serves (tidy_ensures h ⟨b, hengine, hc b hengine⟩ event env).2

theorem restore_upholds (hE : Erratic E S) {readOnly : Bool} (hc : c.Upholds (Within E S may readOnly))
    (event : String → LogEvent) (env : Env) :
    (restore E readOnly event env c).2.1.Upholds (Within E S may false) := by
  unfold restore
  cases readOnly with
  | true => exact tidy_upholds (hE.writable may true) hc event env
  | false => exact hc

theorem letGo_upholds (hE : Erratic E S) {readOnly : Bool} (hc : c.Upholds (Within E S true readOnly))
    (env : Env) : (letGo E readOnly env c).2.1.Upholds (Within E S false false) := by
  let c' : Connection ε := { c with holder := none }
  have hisOpen : ∀ b, c.engine = some b → c'.isOpen E = E.inTransaction b.engine := by
    intro b hb
    simp [c', isOpen, hb]
  unfold letGo
  refine restore_upholds hE ?_ .resetFailed _
  split
  · rename_i hopen
    have hc' : c'.Upholds fun e => E.inTransaction e = true ∧ S.queryOnly e = readOnly :=
      fun b hb => ⟨(hisOpen b hb).symm.trans hopen, (hc b hb).queryOnly⟩
    exact tidy_upholds (hE.rolledBack readOnly) hc' .cleanupFailed env
  · rename_i hclosed
    intro b hb
    have hnone : E.inTransaction b.engine = false := (hisOpen b hb).symm.trans (eq_false_of_ne_true hclosed)
    exact within_of_closed hnone (hc b hb).queryOnly

/-- What finishes a transaction leaves nothing open and writing allowed, or fails. -/
theorem conclude_upholds (hE : Erratic E S) {readOnly : Bool} {sql : String}
    (h : (E.runText sql).Leaves (Within E S true readOnly ·.engine) (Within E S false readOnly ·.engine)
      (Within E S true readOnly ·.engine))
    (hc : c.Upholds (Within E S true readOnly)) (caller : Caller) (env : Env) :
    Leaves (c.conclude E readOnly sql caller env) (Upholds (Within E S false false))
      (Upholds (Within E S true readOnly)) := by
  have hg := guarded_upholds h (fun _ he => he) hc caller.ctx env
  unfold conclude
  unfold Leaves at hg ⊢
  cases hr : (c.guarded caller.ctx env (E.runText sql)).reply with
  | ok u =>
      rw [hr] at hg
      simp only [hr]
      exact restore_upholds hE hg .resetFailed _
  | error e =>
      rw [hr] at hg
      simp only [hr]
      exact hg
  | never => simp only [hr]

/-! ### Begins -/

/-- The statements of a begin that fail leave nothing open, if only the first of them may fail. -/
theorem beginTexts_leaves (hE : Erratic E S) (hon : Forbids E S) (readOnly : Bool) :
    (E.runTexts (beginTexts readOnly)).Leaves (Within E S false false ·.engine) (Within E S true readOnly ·.engine)
      (Within E S false false ·.engine) := by
  cases readOnly with
  | false => exact (hE.begin false).andThen fun _ => EngineTask.leaves_done () fun _ hb => hb
  | true =>
      refine (hE.begin false).andThen fun _ => ?_
      exact (hon false).leaves.andThen fun _ => EngineTask.leaves_done () fun _ hb => hb

/-- A begin that is answered leaves a transaction open at most, and makes its caller the holder; one that is refused
leaves nothing open. -/
theorem begin_upholds (hE : Erratic E S) (hon : Forbids E S) (hholder : c.holder = none)
    (hc : c.Upholds (Within E S false false)) (tx : TxId) (opts : TxOptions) (caller : Caller) (env : Env) :
    Leaves (c.run E (.begin tx opts) caller env)
      (fun c' => c'.holder = some ⟨tx, caller.thread, opts.readOnly⟩ ∧ c'.Upholds (Within E S true opts.readOnly))
      fun c' => c'.holder = none ∧ c'.Upholds (Within E S false false) := by
  have hg := guarded_upholds (beginTexts_leaves hE hon opts.readOnly) (fun _ he => he) hc caller.ctx env
  have hfree := (guarded_unheld hholder caller.ctx env (E.runTexts (beginTexts opts.readOnly))).holder
  rw [run, begin, acquire_of_unheld hholder]
  unfold Leaves at hg ⊢
  dsimp only
  cases hr : (c.guarded caller.ctx env (E.runTexts (beginTexts opts.readOnly))).reply with
  | ok u =>
      rw [hr] at hg
      exact ⟨rfl, hg⟩
  | error e =>
      rw [hr] at hg
      simp only [hr]
      exact ⟨hfree, hg⟩
  | never => simp only [hr]

theorem isSome_begin (hholder : c.holder = none) (tx : TxId) (opts : TxOptions) (caller : Caller) (env : Env) :
    (c.run E (.begin tx opts) caller env).state.engine.isSome = c.engine.isSome := by
  rw [run, begin, acquire_of_unheld hholder]
  dsimp only
  split <;> exact isSome_guarded c caller.ctx env _

end Connection

/-! ### Jobs -/

namespace Job

variable {E : Engine ε} {S : Sight ε} {c : Connection ε} {may q : Bool} {j : Job}

/-- A job other than a begin or the end of a transaction leaves the engine within what it was. -/
theorem run_upholds (hE : Erratic E S) (hplain : j.Plain S) (hbegin : ∀ tx opts, j ≠ call (.begin tx opts))
    (hstays : j.isEnding = false) (hholder : c.holder = none) (hc : c.Upholds (Within E S may q)) (caller : Caller)
    (env : Env) :
    Leaves (j.run E caller env c) (Connection.Upholds (Within E S may q))
      (Connection.Upholds (Within E S may q)) := by
  have hsame : ∀ e, Within E S may q e → Within E S may q e := fun _ he => he
  have hrequest : ∀ {γ : Type} {c : Connection ε} {t : Target} {task : EngineTask (Workbench ε) γ},
      task.Leaves (Within E S may q ·.engine) (Within E S may q ·.engine) (Within E S may q ·.engine) →
      c.holder = none → c.Upholds (Within E S may q) →
      Leaves (c.request t caller env task) (Connection.Upholds (Within E S may q))
        (Connection.Upholds (Within E S may q)) := by
    intro γ c t task htask hholder hc
    rw [Connection.request_of_unheld hholder]
    exact Connection.guarded_upholds htask hsame hc caller.ctx env
  have hrun : ∀ {sql}, S.isPlain sql → ∀ extent args,
      EngineTask.Leaves (E.run extent sql args) (Within E S may q) (Within E S may q) (Within E S may q) :=
    fun hsql extent args => hE.statement extent _ args may q hsql
  cases j with
  | script sql => exact hrequest (Engine.runTexts_leaves fun text htext => hrun (hplain text htext) _ _) hholder hc
  | call d =>
      cases d with
      | execute t sql args => exact hrequest (Engine.execute_leaves_of (hrun hplain) hsame args) hholder hc
      | executePrepared t p args => exact hrequest (Engine.execute_leaves_of (hrun hplain) hsame args) hholder hc
      | query t sql args =>
          exact Connection.mapReply_leaves
            (hrequest (Engine.query_leaves_of (hrun hplain) hsame .all args) hholder hc) _
      | queryPrepared t p args =>
          exact Connection.mapReply_leaves
            (hrequest (Engine.query_leaves_of (hrun hplain) hsame .all args) hholder hc) _
      | queryOne t sql args =>
          exact Connection.mapReply_leaves
            (hrequest (Engine.query_leaves_of (hrun hplain) hsame .first args) hholder hc) _
      | queryOnePrepared t p args =>
          exact Connection.mapReply_leaves
            (hrequest (Engine.query_leaves_of (hrun hplain) hsame .first args) hholder hc) _
      | prepare t sql =>
          have hnumbered := hrequest (c := { c with nextId := c.nextId + 1 }) (t := t)
            (Engine.prepare_leaves (E := E) (Within E S may q) sql) hholder hc
          exact Connection.mapReply_leaves hnumbered _
      | ping => exact hrequest (Engine.ping_leaves (hrun hE.ping _ _)) hholder hc
      | close =>
          rw [run, Connection.run, Connection.close, Connection.acquire_of_unheld hholder]
          obtain hshut | ⟨b, code, message, hengine, hshut⟩ := c.shut_cases E env <;> rw [hshut]
          · intro b' hb'
            cases hb'
          · intro b' hb'
            obtain rfl := Option.some.inj hb'
            exact hc b hengine
      | begin tx opts => exact absurd rfl (hbegin tx opts)
      | commit | rollback => cases hstays

/-- What finishes a transaction leaves nothing open and writing allowed, or fails. -/
theorem ending_upholds (hE : Erratic E S) {readOnly : Bool} (hc : c.Upholds (Within E S true readOnly))
    {caller : Caller} {env : Env} {r : Connection.Run ε j.Answer}
    (hr : j.ending? E readOnly caller env c = some r) :
    Leaves r (Connection.Upholds (Within E S false false)) (Connection.Upholds (Within E S true readOnly)) := by
  cases j with
  | script sql => cases hr
  | call d =>
      cases d with
      | commit tx =>
          obtain rfl := Option.some.inj hr
          exact Connection.conclude_upholds hE (hE.commit readOnly) hc caller env
      | rollback tx =>
          obtain rfl := Option.some.inj hr
          exact Connection.conclude_upholds hE (hE.rollback readOnly) hc caller env
      | _ => cases hr

end Job

/-! ### Databases in memory -/

namespace Memory

variable {m : Memory} {may q : Bool} {sql : String} {c : Command}

/-- The command neither controls transactions, savepoints included, nor changes a setting. -/
def isPlainCommand (c : Command) : Bool := !(isControlCommand c || isSavepointCommand c || isPragma c)

/-- What there is to see of a database in memory, and the texts that are plain for it. -/
def sight : Sight Memory where
  queryOnly m := m.queryOnly
  isPlain sql := ∀ c, Command.read sql = .ok c → isPlainCommand c = true

theorem perform_plain (hc : isPlainCommand c = true) (args : List Stored) :
    (m.perform args c).2.transaction = m.transaction ∧ (m.perform args c).2.queryOnly = m.queryOnly := by
  have htables : (m.applyTables args c).2.transaction = m.transaction ∧
      (m.applyTables args c).2.queryOnly = m.queryOnly := by
    unfold applyTables
    dsimp only
    split
    · split <;> exact ⟨rfl, rfl⟩
    · split <;> exact ⟨rfl, rfl⟩
  cases c with
  | nothing => exact ⟨rfl, rfl⟩
  | begin | commit | rollback | savepoint | rollbackTo | release | pragma => cases hc
  | _ => exact htables

theorem plain_leaves (hsql : sight.isPlain sql) (extent : Extent) (args : List Stored) :
    EngineTask.Leaves (run extent sql args) (Within engine sight may q) (Within engine sight may q)
      (Within engine sight may q) := by
  intro handler env m hm
  have hstate : Within engine sight may q (run extent sql args handler env m).state := by
    obtain ⟨hsame, -⟩ | ⟨c, p, hr, hrun⟩ := run_cases extent sql args handler env m
    · rw [hsame]
      exact hm
    · obtain ⟨htransaction, hqueryOnly⟩ := perform_plain (m := m) (hsql c (read_of_resolve hr)) args
      rw [hrun, state_workOf]
      have hopen : engine.inTransaction (m.perform args c).2 = engine.inTransaction m :=
        congrArg Option.isSome htransaction
      exact ⟨fun h => hm.inTransaction (hopen.symm.trans h), hqueryOnly.trans hm.queryOnly⟩
  cases (run extent sql args handler env m).ended with
  | done rows => exact hstate
  | failed f => exact hstate
  | never => trivial

/-- A command that controls transactions or changes a setting leaves what its text leaves in a script. -/
theorem runText_leaves {P D F : Memory → Prop} (hread : (Command.read sql).toOption = some c)
    (hc : isControlCommand c = true ∨ isPragma c = true)
    (h : ∀ m, P m → (∃ m', m.perform [] c = (.ok [], m') ∧ D m') ∨ ∃ f, m.perform [] c = (.error f, m) ∧ F m) :
    (engine.runText sql).Leaves (P ·.engine) (D ·.engine) (F ·.engine) := by
  intro handler env b hb
  rw [runText_eq (read_eq_ok hread) hc]
  obtain ⟨m', hperform, hd⟩ | ⟨f, hperform, hf⟩ := h b.engine hb
  · rw [hperform]
    exact hd
  · rw [hperform]
    exact hf

theorem commit_leaves : (engine.runText "COMMIT").Leaves (Within engine sight true q ·.engine)
    (Within engine sight false q ·.engine) (Within engine sight true q ·.engine) := by
  refine runText_leaves (c := .commit) (by decide +kernel) (.inl rfl) fun m hm => ?_
  cases ht : m.transaction with
  | none =>
      refine .inr ⟨.code 1 "cannot commit - no transaction is active", ?_, hm⟩
      simp only [perform, commit, ht, misplaced, control]
  | some t =>
      refine .inl ⟨{ m with transaction := none }, ?_, within_of_closed rfl hm.queryOnly⟩
      simp only [perform, commit, ht, control]

theorem rollback_leaves : (engine.runText "ROLLBACK").Leaves (Within engine sight true q ·.engine)
    (Within engine sight false q ·.engine) (Within engine sight true q ·.engine) := by
  refine runText_leaves (c := .rollback) (by decide +kernel) (.inl rfl) fun m hm => ?_
  cases ht : m.transaction with
  | none =>
      refine .inr ⟨.code 1 "cannot rollback - no transaction is active", ?_, hm⟩
      simp only [perform, rollback, ht, misplaced, control]
  | some t =>
      refine .inl ⟨{ m with tables := t.start, transaction := none }, ?_, within_of_closed rfl hm.queryOnly⟩
      simp only [perform, rollback, ht, control]

theorem ping_plain : sight.isPlain Engine.pingText := by
  intro c hread
  have hplain : ((Command.read Engine.pingText).toOption.map isPlainCommand) = some true := by decide +kernel
  rw [hread] at hplain
  exact Option.some.inj hplain

/-- **The engine in memory is one of these**, although it refuses less. -/
theorem erratic_engine : Erratic engine sight where
  begin q := by
    refine (runText_ensures (c := .begin) (by decide +kernel) (.inl rfl) fun m hm => ?_).leaves
    have ht : m.transaction = none := Option.isNone_iff_eq_none.mp (Option.isSome_eq_false_iff.mp hm.closed)
    refine ⟨{ m with transaction := some ⟨m.tables, [], false⟩ }, ?_, fun _ => rfl, hm.queryOnly⟩
    simp only [perform, begin, ht, control]
  statement extent sql args may q hsql := plain_leaves hsql extent args
  commit q := commit_leaves
  rollback q := rollback_leaves
  rolledBack q := by
    refine runText_ensures (P := fun m => engine.inTransaction m = true ∧ sight.queryOnly m = q) (c := .rollback)
      (by decide +kernel) (.inl rfl) fun m hm => ?_
    obtain ⟨t, ht⟩ := Option.isSome_iff_exists.mp hm.1
    refine ⟨{ m with tables := t.start, transaction := none }, ?_, within_of_closed rfl hm.2⟩
    simp only [perform, rollback, ht, control]
  writable may q := by
    refine runText_ensures (c := .pragma "query_only" "OFF") (by decide +kernel) (.inr rfl) fun m hm => ?_
    have hoff : isOn "OFF" = false := by decide +kernel
    exact ⟨_, perform_queryOnly m "OFF", hm.inTransaction, hoff⟩
  ping := ping_plain

theorem forbids_engine : Forbids engine sight := by
  intro q
  refine runText_ensures (c := .pragma "query_only" "ON") (by decide +kernel) (.inr rfl) fun m hm => ?_
  have hon : isOn "ON" = true := by decide +kernel
  exact ⟨_, perform_queryOnly m "ON", hm.inTransaction, hon⟩

end Memory

end DbAccess.Sqlite
