import DbAccess.Proofs.Session.Likeness
import DbAccess.Proofs.Session.Pipeline
/-!
# Code that runs on a database and inside a transaction

A `Routine` is code that takes whoever executes statements as it comes: it makes requests of a place, the
handle of a database or one of its transactions, and of the statements it has prepared there, each chosen by
what came of those before it. `Routine.same_everywhere` says that a routine does the same on a database and
inside an active transaction, when sessions of the driver answer as its handle does; and that it makes no
difference whether a routine makes a request of a prepared statement or gives the text of the statement to the
place itself, when the driver does with prepared statements what it does with their texts.
-/

namespace DbAccess

variable {δ σ ν α : Type}

/-! ### What code sees -/

namespace Request

/-- What code gets to see of an answer. Where a statement was prepared cannot be seen. -/
abbrev Seen : Request → Type
  | execute .. | executePrepared .. => UInt64
  | query .. | queryPrepared .. => List Row
  | queryOne .. | queryOnePrepared .. => OneRow
  | prepare .. => PreparedStatement

/-- Looks at an answer. -/
def see : (q : Request) → Except Error q.Answer → Except Error q.Seen
  | execute .., r => r
  | query .., r => r
  | queryOne .., r => r
  | prepare .., r => r.map Statement.prepared
  | executePrepared .., r => r
  | queryPrepared .., r => r
  | queryOnePrepared .., r => r

/-- Makes a request of a place, or of a statement that was prepared there. -/
def ask (db : Database δ σ ν) (t : Target) (q : Request) : SessionM δ σ ν (Except Error q.Seen) := do
  return q.see (← q.run db t)

end Request

/-- Code that takes whoever executes statements as it comes. -/
inductive Routine (α : Type) where
  /-- It ends. -/
  | done (o : Outcome α)
  /-- It makes a request and goes on with what it sees of the answer. -/
  | ask (q : Request) (next : Except Error q.Seen → Routine α)
  /-- Something happens to the clock and the signals, and the routine looks at them. -/
  | meanwhile (change : Env → Env) (next : Env → Routine α)

/-- Runs a routine on a place. -/
def Routine.run (db : Database δ σ ν) (t : Target) : Routine α → SessionM δ σ ν α
  | done o => SessionM.finish o
  | ask q next => do run db t (next (← q.ask db t))
  | meanwhile change next => do
    SessionM.modify fun w => { w with env := change w.env }
    run db t (next (← SessionM.env))

/-! ### What drivers answer -/

namespace Request

/-- What the driver answers to a request, wherever it goes. -/
abbrev Plain : Request → Type
  | execute .. | executePrepared .. => UInt64
  | query .. | queryPrepared .. => List Row
  | queryOne .. | queryOnePrepared .. => Option Row
  | prepare .. => PreparedStatement

/-- The answer to the call of a request. -/
def plain (t : Target) : (q : Request) → (q.call t).Answer → q.Plain
  | execute .., a => a
  | query .., a => a
  | queryOne .., a => a
  | prepare .., a => a
  | executePrepared .., a => a
  | queryPrepared .., a => a
  | queryOnePrepared .., a => a

/-- What code sees of an answer of the driver. -/
def present (db : Database δ σ ν) : (q : Request) → Except Error q.Plain → Except Error q.Seen
  | execute .., r => r
  | query .., r => r
  | queryOne .., r => .ok ⟨r, db.mapper⟩
  | prepare .., r => r
  | executePrepared .., r => r
  | queryPrepared .., r => r
  | queryOnePrepared .., r => .ok ⟨r, db.mapper⟩

theorem see_result (db : Database δ σ ν) (t : Target) (q : Request) (r : Except Error (q.call t).Answer) :
    q.see (q.result db t r) = q.present db (r.map (q.plain t)) := by
  cases q <;> cases r <;> rfl

theorem run_ask (db : Database δ σ ν) (t : Target) (q : Request) (w : World δ σ) :
    (q.ask db t).run w =
      ((db.statementAt t q.ctx q.sql q.args (q.call t)).run w).map fun r =>
        q.present db (r.map (q.plain t)) := by
  have hask : (q.ask db t).run w = ((q.run db t).run w).andThen fun r => pure (q.see r) := rfl
  rw [hask, run_request]
  generalize (db.statementAt t q.ctx q.sql q.args (q.call t)).run w = r
  obtain ⟨o, w', t'⟩ := r
  cases o with
  | value a =>
      simp only [SessionRun.map, Outcome.map, SessionRun.andThen_value, SessionM.run_pure,
        SessionRun.after, see_result, List.append_nil]
  | failed e => rfl
  | panicked text => rfl
  | stuck => rfl

end Request

open SessionM

/-- Requests go likewise when the driver takes their calls likewise and what comes of the answers is related. -/
theorem Request.likewise_asks (db : Database δ σ ν) {L : Likeness δ} {t t' : Target} (q q' : Request)
    {β : Type} {read : (q.call t).Answer → β} {read' : (q'.call t').Answer → β}
    {S : Except Error q.Seen → Except Error q'.Seen → Prop} (hctx : q'.ctx = q.ctx) (hsql : q'.sql = q.sql)
    (hargs : q'.args = q.args) (hcall : L.left (q.call t) = L.right (q'.call t'))
    (htakes : ∀ w w' : World δ σ, L.Worlds w w' → Database.takes w' t' = Database.takes w t)
    (hdriver : db.driver.Likewise L read read')
    (hS : ∀ r r', Database.ReadsSame read read' r r' →
      S (q.present db (r.map (q.plain t))) (q'.present db (r'.map (q'.plain t')))) :
    Likewise L S (q.ask db t) (q'.ask db t') := by
  have hs := db.likewise_statementAt hcall hdriver htakes q.ctx q.sql q.args
  rw [← hctx, ← hsql, ← hargs] at hs
  refine .of_map (q.run_ask db t) (q'.run_ask db t') ?_ hS
  rwa [hctx, hsql, hargs] at hs ⊢

/-- Requests of two places go likewise when the driver takes their calls likewise. -/
theorem Request.likewise_ask (db : Database δ σ ν) {L : Likeness δ} {t t' : Target} (q : Request)
    (hcall : L.left (q.call t) = L.right (q.call t'))
    (htakes : ∀ w w' : World δ σ, L.Worlds w w' → Database.takes w' t' = Database.takes w t)
    (hdriver : db.driver.Likewise L (q.plain t) (q.plain t')) :
    Likewise L Eq (q.ask db t) (q.ask db t') :=
  likewise_asks db q q rfl rfl rfl hcall htakes hdriver fun _ _ h => congrArg (q.present db) h

/-! ### Inside a transaction -/

/-- The call with its statement sent to another place. -/
def DriverCall.sentTo (t : Target) : DriverCall → DriverCall
  | execute _ sql args => execute t sql args
  | query _ sql args => query t sql args
  | queryOne _ sql args => queryOne t sql args
  | prepare _ sql => prepare t sql
  | executePrepared _ stmt args => executePrepared t stmt args
  | queryPrepared _ stmt args => queryPrepared t stmt args
  | queryOnePrepared _ stmt args => queryOnePrepared t stmt args
  | c => c

theorem Request.sentTo_call (q : Request) (t t' : Target) : (q.call t).sentTo t' = q.call t' := by
  cases q <;> rfl

/-- The session of a transaction answers statements as the handle does. The relation says which states of the
driver amount to the same; both states may change, as long as they still do. -/
def Driver.SessionAsHandle (d : Driver δ) (tx : TxId) (R : δ → δ → Prop) : Prop :=
  ∀ (q : Request) caller env s s', R s s' →
    let r := d.run (q.call .handle) caller env s
    let r' := d.run (q.call (.session tx)) caller env s'
    r'.reply.map (q.plain (.session tx)) = r.reply.map (q.plain .handle) ∧ r'.env = r.env ∧
      R r.state r'.state ∧ r'.log = r.log

/-- Worlds that are the same but for their transactions and the states of their drivers, which amount to the
same. -/
structure World.Alike (R : δ → δ → Prop) (w w' : World δ σ) : Prop where
  env_eq : w'.env = w.env
  hooks_eq : w'.hooks = w.hooks
  thread_eq : w'.thread = w.thread
  driver : R w.driver w'.driver

/-- The second side runs inside a transaction, and stays there. -/
def Likeness.inside (tx : TxId) (R : δ → δ → Prop) : Likeness δ where
  State := R
  Standing _ standing := tx ∈ standing.1
  left := DriverCall.sentTo (.session tx)
  right := id

theorem Routine.likewise_inside (db : Database δ σ ν) {tx : TxId} {R : δ → δ → Prop}
    (h : db.driver.SessionAsHandle tx R) (p : Routine α) :
    Likewise (.inside tx R) Eq (p.run db .handle) (p.run db (.session tx)) := by
  have htakes : ∀ w w' : World δ σ, (Likeness.inside tx R).Worlds w w' →
      Database.takes w' (.session tx) = Database.takes w .handle :=
    fun w w' hw => List.contains_iff_mem.mpr hw.standing
  induction p with
  | done o => exact .finish o
  | ask q next ih =>
      refine .bind (q.likewise_ask db (q.sentTo_call _ _) htakes (h q)) fun r _ hr => ?_
      subst hr
      exact ih r
  | meanwhile change next ih =>
      refine .bind (.change_env change) fun _ _ _ => .bind .env fun env _ henv => ?_
      subst henv
      exact ih env

/-! ### Prepared statements and their texts -/

/-- The driver does with a prepared statement what it does with the text of it. -/
structure Driver.PreparesByDefault (d : Driver δ) : Prop where
  execute (t : Target) (stmt : PreparedStatement) (args : List Value) :
    d.run (.executePrepared t stmt args) = d.run (.execute t stmt.sql args)
  query (t : Target) (stmt : PreparedStatement) (args : List Value) :
    d.run (.queryPrepared t stmt args) = d.run (.query t stmt.sql args)
  queryOne (t : Target) (stmt : PreparedStatement) (args : List Value) :
    d.run (.queryOnePrepared t stmt args) = d.run (.queryOne t stmt.sql args)

/-- The second routine gives the place the texts of some of the prepared statements that the first one makes
requests of. -/
inductive Routine.Unprepares : Routine α → Routine α → Prop where
  | done (o : Outcome α) : Unprepares (.done o) (.done o)
  | ask (q : Request) {next next' : Except Error q.Seen → Routine α}
      (h : ∀ r, Unprepares (next r) (next' r)) : Unprepares (.ask q next) (.ask q next')
  | execute (ctx : Context) (stmt : PreparedStatement) (args : List Value)
      {next next' : Except Error UInt64 → Routine α} (h : ∀ r, Unprepares (next r) (next' r)) :
      Unprepares (.ask (.executePrepared ctx stmt args) next) (.ask (.execute ctx stmt.sql args) next')
  | query (ctx : Context) (stmt : PreparedStatement) (args : List Value)
      {next next' : Except Error (List Row) → Routine α} (h : ∀ r, Unprepares (next r) (next' r)) :
      Unprepares (.ask (.queryPrepared ctx stmt args) next) (.ask (.query ctx stmt.sql args) next')
  | queryOne (ctx : Context) (stmt : PreparedStatement) (args : List Value)
      {next next' : Except Error OneRow → Routine α} (h : ∀ r, Unprepares (next r) (next' r)) :
      Unprepares (.ask (.queryOnePrepared ctx stmt args) next) (.ask (.queryOne ctx stmt.sql args) next')
  | meanwhile (change : Env → Env) {next next' : Env → Routine α}
      (h : ∀ env, Unprepares (next env) (next' env)) :
      Unprepares (.meanwhile change next) (.meanwhile change next')

/-- The sides differ in whether statements are prepared and in nothing else. -/
def Likeness.unprepared : Likeness δ where
  State := Eq
  Standing := Eq
  left := DriverCall.unprepared
  right := DriverCall.unprepared

theorem Likeness.eq_of_unprepared {w w' : World δ σ} (hw : Likeness.unprepared.Worlds w w') : w' = w := by
  obtain ⟨env, s, hooks, thread, active, nextTx⟩ := w
  obtain ⟨_, _, _, _, _, _⟩ := w'
  obtain ⟨henv, hhooks, hthread, hstate, hstanding⟩ := hw
  cases henv
  cases hhooks
  cases hthread
  cases hstate
  cases hstanding
  rfl

theorem Routine.likewise_unprepared (db : Database δ σ ν) (h : db.driver.PreparesByDefault) (t : Target)
    {p p' : Routine α} (hp : p.Unprepares p') : Likewise .unprepared Eq (p.run db t) (p'.run db t) := by
  have htakes : ∀ w w' : World δ σ, Likeness.unprepared.Worlds w w' →
      Database.takes w' t = Database.takes w t :=
    fun w w' hw => by rw [Likeness.eq_of_unprepared hw]
  induction hp with
  | done o => exact .finish o
  | ask q _ ih =>
      have hdriver : db.driver.Likewise .unprepared (q.plain t) (q.plain t) := by
        rintro caller env s _ rfl
        exact ⟨rfl, rfl, rfl, rfl⟩
      refine .bind (q.likewise_ask db rfl htakes hdriver) fun r _ hr => ?_
      subst hr
      exact ih r
  | execute ctx stmt args _ ih =>
      have hdriver : db.driver.Likewise .unprepared (Request.plain t (.executePrepared ctx stmt args))
          (Request.plain t (.execute ctx stmt.sql args)) := by
        rintro caller env s _ rfl
        dsimp only [Request.call]
        rw [h.execute t stmt args]
        exact ⟨rfl, rfl, rfl, rfl⟩
      have hasks := Request.likewise_asks (S := Eq) db (.executePrepared ctx stmt args)
        (.execute ctx stmt.sql args) rfl rfl rfl rfl htakes hdriver fun _ _ h => h
      refine .bind hasks fun r _ hr => ?_
      subst hr
      exact ih r
  | query ctx stmt args _ ih =>
      have hdriver : db.driver.Likewise .unprepared (Request.plain t (.queryPrepared ctx stmt args))
          (Request.plain t (.query ctx stmt.sql args)) := by
        rintro caller env s _ rfl
        dsimp only [Request.call]
        rw [h.query t stmt args]
        exact ⟨rfl, rfl, rfl, rfl⟩
      have hasks := Request.likewise_asks (S := Eq) db (.queryPrepared ctx stmt args)
        (.query ctx stmt.sql args) rfl rfl rfl rfl htakes hdriver fun _ _ h => h
      refine .bind hasks fun r _ hr => ?_
      subst hr
      exact ih r
  | queryOne ctx stmt args _ ih =>
      have hdriver : db.driver.Likewise .unprepared (Request.plain t (.queryOnePrepared ctx stmt args))
          (Request.plain t (.queryOne ctx stmt.sql args)) := by
        rintro caller env s _ rfl
        dsimp only [Request.call]
        rw [h.queryOne t stmt args]
        exact ⟨rfl, rfl, rfl, rfl⟩
      have hasks := Request.likewise_asks (S := Eq) db (.queryOnePrepared ctx stmt args)
        (.queryOne ctx stmt.sql args) rfl rfl rfl rfl htakes hdriver fun _ _ h =>
          congrArg (Request.present db (.queryOne ctx stmt.sql args)) h
      refine .bind hasks fun r _ hr => ?_
      subst hr
      exact ih r
  | meanwhile change _ ih =>
      refine .bind (.change_env change) fun _ _ _ => .bind .env fun env _ henv => ?_
      subst henv
      exact ih env

/-! ### The two together -/

/-- **A routine does the same everywhere.** Inside an active transaction it ends as it does on the database,
with the same events but for where the calls go, and the transaction is still active; provided that the
session answers as the handle does. And it makes no difference which of the prepared statements it makes its
requests of, and of which it gives the text to the place it runs on; provided that the driver does with a
prepared statement what it does with the text of it. -/
theorem Routine.same_everywhere (db : Database δ σ ν) (p : Routine α) :
    (∀ (tx : TxId) (R : δ → δ → Prop) (w w' : World δ σ), db.driver.SessionAsHandle tx R → w.Alike R w' →
      tx ∈ w'.active →
      let r := (p.run db .handle).run w
      let r' := (p.run db (.session tx)).run w'
      r'.outcome = r.outcome ∧ r'.trace = r.trace.map (Event.mapCall (DriverCall.sentTo (.session tx))) ∧
        r.world.Alike R r'.world ∧ tx ∈ r'.world.active) ∧
    (db.driver.PreparesByDefault → ∀ p' : Routine α, p.Unprepares p' → ∀ (t : Target) (w : World δ σ),
      let r := (p.run db t).run w
      let r' := (p'.run db t).run w
      r'.outcome = r.outcome ∧ r'.world = r.world ∧
        r'.trace.map (Event.mapCall DriverCall.unprepared) =
          r.trace.map (Event.mapCall DriverCall.unprepared)) := by
  constructor
  · intro tx R w w' hdriver halike hactive
    have hw : (Likeness.inside tx R).Worlds w w' :=
      ⟨halike.env_eq, halike.hooks_eq, halike.thread_eq, halike.driver, hactive⟩
    obtain ⟨ho, hworlds, htrace⟩ := p.likewise_inside db hdriver w w' hw
    refine ⟨ho.eq, ?_, ⟨hworlds.env_eq, hworlds.hooks_eq, hworlds.thread_eq, hworlds.state⟩,
      hworlds.standing⟩
    have hid : Event.mapCall (Likeness.inside tx R).right = (id : Event ν → Event ν) := Event.mapCall_id
    rw [hid, List.map_id] at htrace
    exact htrace.symm
  · intro hdriver p' hp t w
    have hw : Likeness.unprepared.Worlds w w := ⟨rfl, rfl, rfl, rfl, rfl⟩
    obtain ⟨ho, hworlds, htrace⟩ := likewise_unprepared db hdriver t hp w w hw
    exact ⟨ho.eq, Likeness.eq_of_unprepared hworlds, htrace.symm⟩

section tidying

open Database

theorem Scripted.sessionAsHandle (s : Scripted.Script) (tx : TxId) :
    (Scripted.driver s).SessionAsHandle tx Eq := by
  rintro q caller env state _ rfl
  cases q <;> exact ⟨rfl, rfl, rfl, rfl⟩

theorem Scripted.preparesByDefault (s : Scripted.Script) : (Scripted.driver s).PreparesByDefault :=
  ⟨fun _ _ _ => rfl, fun _ _ _ => rfl, fun _ _ _ => rfl⟩

/-- Prepares a statement and goes on with it. -/
def tidying (next : PreparedStatement → Routine UInt64) : Routine UInt64 :=
  .ask (.prepare .background "DELETE t") fun
    | .ok stmt => next stmt
    | .error e => .done (.failed e)

/-- Runs the prepared statement. -/
def tidy : Routine UInt64 :=
  tidying fun stmt => .ask (.executePrepared .background stmt []) fun r => .done (resultOutcome r)

/-- Runs the text of the prepared statement. -/
def tidyByText : Routine UInt64 :=
  tidying fun stmt => .ask (.execute .background stmt.sql []) fun r => .done (resultOutcome r)

theorem tidy_unprepares : tidy.Unprepares tidyByText := by
  refine .ask _ fun r => ?_
  cases r with
  | ok stmt => exact .execute .background stmt [] fun r => .done (resultOutcome r)
  | error e => exact .done (.failed e)

/-- The driver refuses the statement wherever it goes, prepared or not, and the hooks are told. -/
theorem same_everywhere_of_tidy :
    let inside : World Scripted.State Unit := { quiet with active := [3], nextTx := 4 }
    let r := (tidy.run refusing .handle).run quiet
    let r' := (tidy.run refusing (.session 3)).run inside
    let s := (tidyByText.run refusing .handle).run quiet
    r.outcome = .failed (.retry 1 (.raw diskError)) ∧ r'.outcome = r.outcome ∧ s.outcome = r.outcome ∧
      r'.calls = [.prepare (.session 3) "DELETE t",
        .executePrepared (.session 3) (Scripted.prepared "DELETE t") []] ∧
      s.calls = [.prepare .handle "DELETE t", .execute .handle "DELETE t" []] := by
  intro inside r r' s
  have hboth := Routine.same_everywhere refusing tidy
  obtain ⟨hinside, -, -⟩ := hboth.1 3 Eq quiet inside (Scripted.sessionAsHandle _ 3) ⟨rfl, rfl, rfl, rfl⟩
    (List.mem_singleton.mpr rfl)
  obtain ⟨htext, -, -⟩ := hboth.2 (Scripted.preparesByDefault _) tidyByText tidy_unprepares .handle quiet
  refine ⟨?_, hinside, htext, ?_, ?_⟩ <;> rfl

end tidying

end DbAccess
