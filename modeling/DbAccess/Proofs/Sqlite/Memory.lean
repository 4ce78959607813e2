import DbAccess.Proofs.Sqlite.Lawful
import DbAccess.Proofs.Sqlite.Savepoint
import DbAccess.Sqlite.Memory
/-!
# The engine in memory keeps the laws

`lawful_engine`: the engine of databases in memory is lawful, where the control of a transaction is a
`BEGIN`, a `COMMIT` or a `ROLLBACK` to the start, and `PRAGMA` is what may change whether something
may be written.
-/

namespace DbAccess.Sqlite.Memory

/-- The command begins or finishes a transaction. -/
def isControlCommand : Command → Bool
  | .begin | .commit | .rollback => true
  | _ => false

/-- The command changes a setting. -/
def isPragma : Command → Bool
  | .pragma .. => true
  | _ => false

/-- What there is to see of a database in memory. A transaction that was begun by a savepoint was not
begun. -/
def reading : Reading Memory Tables where
  content m := m.tables
  began m := m.transaction.bind fun t => if t.bySavepoint then none else some t.start
  queryOnly m := m.queryOnly
  isControl sql := match Command.read sql with
    | .ok c => isControlCommand c
    | .error _ => false
  isSwitch sql := match Command.read sql with
    | .ok c => isPragma c
    | .error _ => false

variable {m : Memory} {start now : Tables} {q : Bool} {sql : String} {c : Command}

/-! ### Open transactions -/

theorem began_iff :
    reading.began m = some start ↔
      ∃ t, m.transaction = some t ∧ t.bySavepoint = false ∧ t.start = start := by
  simp only [reading]
  cases m.transaction with
  | none => simp
  | some t => cases ht : t.bySavepoint <;> simp [ht]

theorem seek_transaction {name : String} {t : OpenTransaction} {p : Savepoint} {older : List Savepoint}
    (h : m.seek name = .ok (t, p, older)) : m.transaction = some t := by
  unfold seek at h
  cases ht : m.transaction with
  | none =>
      rw [ht] at h
      cases h
  | some t' =>
      rw [ht] at h
      simp only [Option.map_some] at h
      split at h
      · rename_i heq
        injection heq with heq
        injection heq with h1 h2
        injection h with h
        injection h with h3 h4
        rw [h1, h3]
      · cases h

/-! ### Commands inside a transaction -/

/-- Where a command leaves a database with an open transaction. -/
def Keeps (m : Memory) (c : Command) (r : Except Failure (List (List Stored)) × Memory) : Prop :=
  reading.began r.2 = reading.began m ∧
    match r.1 with
    | .ok _ => isPragma c = false → r.2.queryOnly = m.queryOnly
    | .error _ => r.2.tables = m.tables ∧ r.2.queryOnly = m.queryOnly

theorem applyTables_keeps (args : List Stored) : Keeps m c (m.applyTables args c) := by
  unfold applyTables
  simp only
  split
  · split <;> exact ⟨rfl, fun _ => rfl⟩
  · split <;> exact ⟨rfl, rfl, rfl⟩

theorem pragma_keeps (setting value : String) :
    Keeps m (.pragma setting value) (.ok (m.pragma setting value).1, (m.pragma setting value).2) := by
  unfold pragma
  split <;> exact ⟨rfl, nofun⟩

theorem perform_keeps (h : reading.began m = some start) (hc : isControlCommand c = false)
    (args : List Stored) : Keeps m c (m.perform args c) := by
  obtain ⟨t, ht, hby, hstart⟩ := began_iff.mp h
  cases c with
  | nothing => exact ⟨rfl, rfl, rfl⟩
  | begin => cases hc
  | commit => cases hc
  | rollback => cases hc
  | savepoint name =>
      refine ⟨?_, fun _ => rfl⟩
      rw [h]
      refine began_iff.mpr ⟨_, rfl, ?_⟩
      simp only [ht]
      exact ⟨hby, hstart⟩
  | rollbackTo name =>
      simp only [perform, rollbackTo]
      cases hs : m.seek name with
      | error f => exact ⟨rfl, rfl, rfl⟩
      | ok r =>
          obtain ⟨t', p, older⟩ := r
          refine ⟨?_, fun _ => rfl⟩
          rw [h]
          have htt := Option.some.inj ((seek_transaction hs).symm.trans ht)
          exact began_iff.mpr ⟨_, rfl, by rw [htt]; exact hby, by rw [htt]; exact hstart⟩
  | release name =>
      simp only [perform, release]
      cases hs : m.seek name with
      | error f => exact ⟨rfl, rfl, rfl⟩
      | ok r =>
          obtain ⟨t', p, older⟩ := r
          have htt := Option.some.inj ((seek_transaction hs).symm.trans ht)
          show Keeps m _ (m.control (if older.isEmpty && t'.bySavepoint then _ else _))
          rw [htt, hby, Bool.and_false, if_neg Bool.false_ne_true]
          refine ⟨?_, fun _ => rfl⟩
          rw [h]
          exact began_iff.mpr ⟨_, rfl, rfl, hstart⟩
  | pragma setting value => exact pragma_keeps setting value
  | _ => exact applyTables_keeps args

/-! ### Statements -/

theorem bind_eq_ok {α β : Type} {x : Except Failure α} {f : α → Except Failure β} {b : β}
    (h : x >>= f = .ok b) : ∃ a, x = .ok a ∧ f a = .ok b := by
  cases x with
  | error e => cases h
  | ok a => exact ⟨a, rfl, h⟩

theorem read_of_resolve {p : Compiled} (h : m.resolve sql = .ok (c, p)) : Command.read sql = .ok c := by
  unfold resolve at h
  obtain ⟨c', hread, h⟩ := bind_eq_ok h
  have hc : c' = c := by
    split at h
    · obtain ⟨_, _, h⟩ := bind_eq_ok h
      injection h with h
      injection h with h
    · obtain ⟨table, _, h⟩ := bind_eq_ok h
      simp only at h
      split at h
      · cases h
      · injection h with h
        injection h with h
  rw [← hc]
  cases hr : Command.read sql with
  | error t =>
      rw [hr] at hread
      cases hread
  | ok c'' =>
      rw [hr] at hread
      injection hread with hread
      rw [hread]

/-- What a command comes to as work of the engine. -/
def workOf (extent : Extent) (env : Env) (r : Except Failure (List (List Stored)) × Memory) :
    Work Memory (List (List Stored)) :=
  match r with
  | (.ok rows, m) => ⟨.done (if extent = .first then rows.take 1 else rows), env, m⟩
  | (.error f, m) => ⟨.failed f, env, m⟩

theorem state_workOf (extent : Extent) (env : Env) (r : Except Failure (List (List Stored)) × Memory) :
    (workOf extent env r).state = r.2 := by
  obtain ⟨result, m⟩ := r
  cases result <;> rfl

theorem run_of_resolve {p : Compiled} (hr : m.resolve sql = .ok (c, p))
    (hc : ∀ start next, c ≠ .unbounded start next) (extent : Extent) (args : List Stored)
    (handler : Option Watcher) (env : Env) :
    run extent sql args handler env m = workOf extent env (m.perform args c) := by
  unfold run
  rw [hr]
  cases c with
  | unbounded start next => exact absurd rfl (hc start next)
  | _ => rfl

theorem run_cases (extent : Extent) (sql : String) (args : List Stored) (handler : Option Watcher)
    (env : Env) (m : Memory) :
    (run extent sql args handler env m).state = m ∧
        (∀ rows, (run extent sql args handler env m).ended ≠ .done rows) ∨
      ∃ c p, m.resolve sql = .ok (c, p) ∧
        run extent sql args handler env m = workOf extent env (m.perform args c) := by
  cases hr : m.resolve sql with
  | error f =>
      unfold run
      rw [hr]
      exact .inl ⟨rfl, nofun⟩
  | ok r =>
      obtain ⟨c, p⟩ := r
      cases c with
      | unbounded start next =>
          unfold run
          simp only [hr]
          cases stopAt handler env with
          | some env => exact .inl ⟨rfl, nofun⟩
          | none => exact .inl ⟨rfl, nofun⟩
      | _ => exact .inr ⟨_, p, rfl, run_of_resolve hr (fun _ _ => nofun) extent args handler env⟩

theorem statement_leaves (h : reading.isControl sql = false) (extent : Extent) (args : List Stored) :
    EngineTask.Leaves (run extent sql args) (OpenAt reading start now q)
      (fun e => ∃ now' q', OpenAt reading start now' q' e ∧ (reading.isSwitch sql = false → q' = q))
      (OpenAt reading start now q) := by
  intro handler env m hm
  rcases run_cases extent sql args handler env m with ⟨hstate, hdone⟩ | ⟨c, p, hr, hrun⟩
  · cases hended : (run extent sql args handler env m).ended with
    | done rows => exact absurd hended (hdone rows)
    | failed f =>
        rw [hstate]
        exact hm
    | never => trivial
  · have hread := read_of_resolve hr
    have hc : isControlCommand c = false := by simpa only [reading, hread] using h
    have hk := perform_keeps hm.began hc args
    rw [hrun]
    generalize m.perform args c = r at hk
    obtain ⟨result, m'⟩ := r
    obtain ⟨hbegan, hk⟩ := hk
    have hb : reading.began m' = some start := hbegan.trans hm.began
    cases result with
    | ok rows =>
        refine ⟨m'.tables, m'.queryOnly, ⟨⟨hb, rfl⟩, rfl⟩, fun hs => ?_⟩
        have hs : isPragma c = false := by simpa only [reading, hread] using hs
        exact (hk hs).trans hm.queryOnly
    | error f => exact ⟨⟨hb, hk.2.trans hm.queryOnly⟩, hk.1.trans hm.content⟩

/-! ### Begin and end -/

theorem read_eq_ok (h : (Command.read sql).toOption = some c) : Command.read sql = .ok c := by
  cases hr : Command.read sql with
  | ok c' =>
      rw [hr] at h
      exact congrArg Except.ok (Option.some.inj h)
  | error t =>
      rw [hr] at h
      cases h

theorem resolve_of_read (h : Command.read sql = .ok c) (hc : isControlCommand c = true ∨ isPragma c = true)
    (m : Memory) : ∃ p, m.resolve sql = .ok (c, p) := by
  unfold resolve
  rw [h]
  cases c with
  | begin => exact ⟨_, rfl⟩
  | commit => exact ⟨_, rfl⟩
  | rollback => exact ⟨_, rfl⟩
  | pragma setting value => exact ⟨_, rfl⟩
  | _ => simp [isControlCommand, isPragma] at hc

/-- A text of a script that controls a transaction or a setting is that command. -/
theorem runText_eq (h : Command.read sql = .ok c) (hc : isControlCommand c = true ∨ isPragma c = true)
    (handler : Option Watcher) (env : Env) (b : Workbench Memory) :
    engine.runText sql handler env b =
      match b.engine.perform [] c with
      | (.ok _, m') => ⟨.done (), env, { b with engine := m' }⟩
      | (.error f, m') => ⟨.failed f, env, { b with engine := m' }⟩ := by
  obtain ⟨p, hr⟩ := resolve_of_read h hc b.engine
  have hcompile : engine.compiling sql handler env b.engine = ⟨.done p, env, b.engine⟩ := by
    show Work.mk (.ofExcept ((b.engine.resolve sql).map (·.2))) env b.engine = _
    rw [hr]
    rfl
  have hunbounded : ∀ start next, c ≠ .unbounded start next := by
    rintro start next rfl
    simp [isControlCommand, isPragma] at hc
  have hrun : engine.run .first sql [] handler env b.engine = workOf .first env (b.engine.perform [] c) :=
    run_of_resolve hr hunbounded .first [] handler env
  unfold Engine.runText EngineTask.onWorkbench
  simp only [EngineTask.andThen, EngineTask.done, hcompile, hrun]
  generalize b.engine.perform [] c = r
  obtain ⟨result, m'⟩ := r
  cases result <;> rfl

theorem runText_ensures {P D : Memory → Prop} (hread : (Command.read sql).toOption = some c)
    (hc : isControlCommand c = true ∨ isPragma c = true)
    (h : ∀ m, P m → ∃ m', m.perform [] c = (.ok [], m') ∧ D m') :
    (engine.runText sql).Ensures (P ·.engine) (D ·.engine) := by
  intro handler env b hb
  obtain ⟨m', hperform, hd⟩ := h b.engine hb
  rw [runText_eq (read_eq_ok hread) hc, hperform]
  exact ⟨⟨(), rfl⟩, hd⟩

theorem perform_queryOnly (m : Memory) (value : String) :
    m.perform [] (.pragma "query_only" value) = (.ok [], { m with queryOnly := isOn value }) := by
  have hlower : "query_only".toLower = "query_only" := by decide +kernel
  have hpragma : m.pragma "query_only" value = ([], { m with queryOnly := isOn value }) := by
    unfold pragma
    rw [hlower]
    rfl
  rw [perform, hpragma]

theorem transaction_of_rests (h : RestsAt engine reading now q m) : m.transaction = none :=
  Option.isNone_iff_eq_none.mp (Option.isSome_eq_false_iff.mp h.closed)

theorem begin_ensures : (engine.runText "BEGIN DEFERRED").Ensures
    (RestsAt engine reading now q ·.engine) (OpenAt reading now now q ·.engine) := by
  refine runText_ensures (c := .begin) (by decide +kernel) (.inl rfl) fun m hm => ?_
  refine ⟨{ m with transaction := some ⟨m.tables, [], false⟩ }, ?_, ?_⟩
  · simp only [perform, begin, transaction_of_rests hm, control]
  · exact ⟨⟨congrArg some hm.content, hm.queryOnly⟩, hm.content⟩

theorem readOnly_ensures : (engine.runText "PRAGMA query_only = ON").Ensures
    (OpenAt reading start now q ·.engine) (OpenAt reading start now true ·.engine) := by
  refine runText_ensures (c := .pragma "query_only" "ON") (by decide +kernel) (.inr rfl) fun m hm => ?_
  have hon : isOn "ON" = true := by decide +kernel
  exact ⟨_, perform_queryOnly m "ON", ⟨hm.began, hon⟩, hm.content⟩

theorem writable_ensures : (engine.runText Connection.writableText).Ensures
    (RestsAt engine reading now q ·.engine) (RestsAt engine reading now false ·.engine) := by
  refine runText_ensures (c := .pragma "query_only" "OFF") (by decide +kernel) (.inr rfl) fun m hm => ?_
  have hoff : isOn "OFF" = false := by decide +kernel
  exact ⟨_, perform_queryOnly m "OFF", hm.closed, hm.content, hoff⟩

theorem commit_ensures : (engine.runText "COMMIT").Ensures
    (OpenAt reading start now q ·.engine) (RestsAt engine reading now q ·.engine) := by
  refine runText_ensures (c := .commit) (by decide +kernel) (.inl rfl) fun m hm => ?_
  obtain ⟨t, ht, -⟩ := began_iff.mp hm.began
  refine ⟨{ m with transaction := none }, ?_, rfl, hm.content, hm.queryOnly⟩
  simp only [perform, commit, ht, control]

theorem rollback_ensures : (engine.runText "ROLLBACK").Ensures
    (Open reading start q ·.engine) (RestsAt engine reading start q ·.engine) := by
  refine runText_ensures (c := .rollback) (by decide +kernel) (.inl rfl) fun m hm => ?_
  obtain ⟨t, ht, -, hstart⟩ := began_iff.mp hm.began
  refine ⟨{ m with tables := t.start, transaction := none }, ?_, rfl, hstart, hm.queryOnly⟩
  simp only [perform, rollback, ht, control]

theorem beginTexts_leaves (readOnly : Bool) :
    (engine.runTexts (Connection.beginTexts readOnly)).Leaves (RestsAt engine reading now false ·.engine)
      (OpenAt reading now now readOnly ·.engine) (RestsAt engine reading now false ·.engine) := by
  cases readOnly with
  | false => exact begin_ensures.leaves.andThen fun _ => EngineTask.leaves_done () fun _ hb => hb
  | true =>
      refine begin_ensures.leaves.andThen fun _ => ?_
      exact readOnly_ensures.leaves.andThen fun _ => EngineTask.leaves_done () fun _ hb => hb

/-- Operations on savepoints neither control transactions nor change settings. -/
theorem savepoint_plain (op : Database.SavepointOp) (name : String) :
    reading.isControl (Text.trimBlank (op.sql name)) = false ∧
      reading.isSwitch (Text.trimBlank (op.sql name)) = false := by
  simp only [reading]
  cases hread : Command.read (Text.trimBlank (op.sql name)) with
  | error t => exact ⟨rfl, rfl⟩
  | ok c =>
      have hc := read_savepoint op name hread
      cases c with
      | savepoint name => exact ⟨rfl, rfl⟩
      | rollbackTo name => exact ⟨rfl, rfl⟩
      | release name => exact ⟨rfl, rfl⟩
      | _ => cases hc

/-- **The engine in memory is lawful.** -/
theorem lawful_engine : Lawful engine reading where
  inTransaction start q e h := by
    obtain ⟨t, ht, -⟩ := began_iff.mp h.began
    show e.transaction.isSome = true
    rw [ht]
    rfl
  begin readOnly now := beginTexts_leaves readOnly
  statement extent sql args start now q h := statement_leaves h extent args
  commit start now q := commit_ensures.leaves
  rollback start q := rollback_ensures
  writable now q := writable_ensures
  savepoint op name _ := savepoint_plain op name

end DbAccess.Sqlite.Memory
