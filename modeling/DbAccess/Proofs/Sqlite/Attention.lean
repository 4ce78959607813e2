import DbAccess.Proofs.Sqlite.Exclusion
import DbAccess.Proofs.Sqlite.Interrupt
/-!
# Whose context ends an operation

Threads that share a connection wait for it under their contexts, and run statements under them.
`Shared.ended_by_own_context` puts together that none is ever told of the end of a context but its own, and that
nothing whose context has ended reaches the engine.
-/

namespace DbAccess.Sqlite

variable {ε α δ : Type} {E : Engine ε}

/-! ### Answers -/

/-- A sleeper that is woken up by the end of its context is told the reason that the context gives. -/
theorem err_of_wakes? {c : Context} {env : Env} {now : Instant} {d : Span} {e : ContextError}
    (h : wakes? c (c.sleepPlan now d) env = some (.ended e)) : c.err env = some e := by
  have hended := endedBy_of_wakes? h
  cases hcancelled : c.isCancelled env with
  | true =>
      rw [wakes?_of_cancelled _ hcancelled] at h
      cases h
      rw [Context.err, if_pos hcancelled]
  | false =>
      cases e with
      | cancelled =>
          rw [Context.EndedBy, hcancelled] at hended
          cases hended
      | deadlineExceeded =>
          have hexpired : c.isExpired env = true := hended
          simp [Context.err, hcancelled, hexpired]

theorem Reply.eq_error_of_returned {r : Reply α} {e : RawError} (h : Database.returned? r = some (.error e)) :
    r = .error e := by
  cases r with
  | error e' =>
      cases h
      rfl
  | _ => cases h

/-- Whoever is answered that a context has ended is told what its own context said between two moments. -/
def Answered.Honest (env env' : Env) (r : Answered) : Prop :=
  ∀ e, r.result = .error (.context e) → r.asked.patience.EndedWithin env env' e

theorem Answered.Honest.widen {env env' env₀ env₁ : Env} {r : Answered} (h : r.Honest env env')
    (hbefore : env₀.Precedes env) (hafter : env'.Precedes env₁) : r.Honest env₀ env₁ :=
  fun e he => (h e he).widen hbefore hafter

theorem honest_of_heeds {a : Asked} {env : Env} {r : DriverRun δ a.job.Answer} {res : Except RawError a.job.Answer}
    (h : Heeds a.patience env r) (hret : Database.returned? r.reply = some res) :
    (⟨a, res⟩ : Answered).Honest env r.env := by
  intro e he
  obtain rfl : res = .error (.context e) := he
  exact h.ended e (Reply.eq_error_of_returned hret)

/-- The thread is at what was asked at a moment: it has no answer yet, or an honest one. -/
def Doing.Attends (a : Asked) (env env' : Env) : Doing → Prop
  | trying b | shutOut b | sleeping b _ | inside b | asking _ b => b = a
  | begun r _ | leaving (some r) | dropping _ _ (some r) | disowned _ _ (some r) | releasing _ (some r) =>
    r.asked = a ∧ r.Honest env env'
  | idle | leaving none | dropping _ _ none | disowned _ _ none | releasing _ none => False

theorem Doing.Attends.later {a : Asked} {env env' env₁ : Env} {d : Doing} (h : d.Attends a env env')
    (hlater : env'.Precedes env₁) : d.Attends a env env₁ := by
  have hhonest : ∀ {r : Answered}, r.asked = a ∧ r.Honest env env' → r.asked = a ∧ r.Honest env env₁ :=
    fun hr => ⟨hr.1, hr.2.widen env.precedes_refl hlater⟩
  cases d with
  | idle => exact h
  | trying | shutOut | sleeping | inside | asking => exact h
  | begun r h' => exact hhonest h
  | leaving r | dropping _ _ r | disowned _ _ r | releasing _ r =>
      cases r with
      | none => exact h
      | some r => exact hhonest h

/-- What waits for the lock or has got it is a job of the handle. -/
def Doing.OnHandle : Doing → Prop
  | trying a | shutOut a | sleeping a _ | inside a => a.job.tx? = none
  | _ => True

/-- The job that is done on the engine in a step. -/
def Act.job? : Act → Option Asked
  | .runs _ a => some a
  | .tells _ r | .finishes _ _ r => some r.asked
  | _ => none

/-- Two engines that agree about the rollback, the statement that allows writing, and what is open, look the same to
whoever tidies up after a transaction. -/
structure Engine.TidiesAlike (E E' : Engine ε) : Prop where
  inTransaction : E'.inTransaction = E.inTransaction
  rollback : E'.runText "ROLLBACK" = E.runText "ROLLBACK"
  writable : E'.runText Connection.writableText = E.runText Connection.writableText

namespace Shared

/-- The threads are in order, and no interrupt handler is installed. -/
structure Calm (m : Shared ε) : Prop where
  orderly : m.Orderly
  onHandle : ∀ t, (m.doing t).OnHandle
  handler : m.handler = none

variable {m m' m₂ m₃ : Shared ε} {t : Nat} {a : Asked} {act : Act} {acts : List Act} {r : Answered} {env : Env}

theorem calm_ofConnection {c : Connection ε} (hhandler : c.handler = none) (env : Env) : (ofConnection c env).Calm :=
  ⟨orderly_ofConnection c env, fun _ => trivial, hhandler⟩

namespace Calm

theorem onHandle_step (hm : m.Calm) (hstep : Step E m act m') : ∀ t, (m'.doing t).OnHandle := by
  have hupdate : ∀ t {d : Doing}, d.OnHandle → ∀ u, ((m.sets t d).doing u).OnHandle :=
    fun t d hd => forall_doing_of_update hm.onHandle rfl hd
  cases hstep with
  | passes => exact hm.onHandle
  | asks idle handle => exact hupdate _ handle
  | @takes t a hd | @misses t u a hd | @dozes t a hd | @wakes t a p hd =>
      have h := hm.onHandle t
      rw [hd] at h
      exact hupdate t h
  | @tidies t h finished r disowned => cases finished <;> exact hupdate t trivial
  | _ => exact hupdate _ trivial

theorem step (hm : m.Calm) (hstep : Step E m act m') : m'.Calm := by
  have hsteady : E.Steady fun _ => True := fun _ _ _ _ _ _ _ => trivial
  have hrest : m.AtRest none fun _ => True := ⟨.inl hm.handler, fun _ _ => trivial⟩
  exact ⟨hm.orderly.step hstep, hm.onHandle_step hstep, or_self_iff.mp (hrest.step hsteady hstep).handler⟩

theorem run (hm : m.Calm) (hrun : Run E m acts m') : m'.Calm := by
  induction hrun with
  | nil => exact hm
  | cons hstep _ ih => exact ih (hm.step hstep)

theorem isEnding_of_inside (hm : m.Calm) (hd : m.doing t = .inside a) : a.job.isEnding = false := by
  have hhandle := hm.onHandle t
  rw [hd] at hhandle
  exact Job.isEnding_of_handle hhandle

section watched

variable (hE : E.Watched)
include hE

theorem work_heeds (hm : m.Calm) (t : Nat) (a : Asked) : Heeds a.patience m.env (m.work E t a) :=
  a.job.run_heeds hE (c := m.bare a.ticket) hm.handler rfl ⟨a.ctx, t⟩ m.env

theorem honest_of_work (hm : m.Calm) (hfrom : env.Precedes m.env) {res : Except RawError a.job.Answer}
    (returned : Database.returned? (m.work E t a).reply = some res) :
    (⟨a, res⟩ : Answered).Honest env (m.work E t a).env :=
  (honest_of_heeds (hm.work_heeds hE t a) returned).widen hfrom (Env.precedes_refl _)

theorem later_of_step (hm : m.Calm) (hstep : Step E m act m') : m.env.Precedes m'.env := by
  cases hstep with
  | passes later => exact later
  | @runs t a | @begins t a | @tells t h a => exact (hm.work_heeds hE t a).later
  | finishes asking ending returned => exact (Job.ending_heeds (c := m.bare m.nextId) hE hm.handler ending).later
  | @tidies t h finished r disowned =>
      cases finished with
      | true => exact m.env.precedes_refl
      | false => exact Connection.later_letGo hE (m.bare m.nextId) h.readOnly m.env
  | _ => exact m.env.precedes_refl

theorem later_of_run (hm : m.Calm) (hrun : Run E m acts m') : m.env.Precedes m'.env := by
  induction hrun with
  | nil m => exact m.env.precedes_refl
  | cons hstep _ ih => exact (hm.later_of_step hE hstep).trans (ih (hm.step hstep))

end watched

end Calm

/-- What a step of a thread that is at something leads to: it is still at it, or answers honestly. -/
inductive AttendsStep (a : Asked) (env : Env) (t : Nat) (m' : Shared ε) : Option Answered → Prop
  | still (attends : (m'.doing t).Attends a env m'.env) : AttendsStep a env t m' none
  | answers {r : Answered} (asked : r.asked = a) (honest : r.Honest env m'.env) : AttendsStep a env t m' (some r)

theorem AttendsStep.of_sets {d : Doing} (h : d.Attends a env m.env) : AttendsStep a env t (m.sets t d) none :=
  .still (by rw [doing_sets_self]; exact h)

theorem Calm.attendsStep (hE : E.Watched) (hm : m.Calm) (hat : (m.doing t).Attends a env m.env)
    (hfrom : env.Precedes m.env) (hstep : Step E m act m') (ht : act.thread? = some t) :
    AttendsStep a env t m' act.answer? := by
  have hlater := hm.later_of_step hE hstep
  have hnow : ∀ {u : Nat} {d : Doing}, m.doing u = d → some u = some t → u = t ∧ d.Attends a env m.env := by
    intro u d hd hu
    obtain rfl := Option.some.inj hu
    exact ⟨rfl, hd ▸ hat⟩
  cases hstep with
  | passes => cases ht
  | asks hd | asksOwn hd | drops hd | glances hd => exact (hnow hd ht).2.elim
  | takes hd | misses hd | dozes hd | wakes hd =>
      obtain ⟨rfl, hbusy⟩ := hnow hd ht
      exact .of_sets hbusy
  | refused hd => exact .answers (hnow hd ht).2 fun e he => by simp [heldError] at he
  | expires hd other ended =>
      refine .answers (hnow hd ht).2 fun e he => ?_
      obtain rfl := RawError.context.inj (Except.error.inj he)
      exact Context.endedWithin_of_err ended hfrom
  | @expiresAsleep u _ _ _ hd ended =>
      have hgenuine := hm.orderly.genuine u
      rw [hd] at hgenuine
      obtain ⟨now, hp⟩ := hgenuine
      rw [hp] at ended
      refine .answers (hnow hd ht).2 fun e he => ?_
      obtain rfl := RawError.context.inj (Except.error.inj he)
      exact Context.endedWithin_of_err (err_of_wakes? ended) hfrom
  | runs hd returned | begins hd returned =>
      obtain ⟨rfl, rfl⟩ := hnow hd ht
      exact .of_sets ⟨rfl, hm.honest_of_work hE hfrom returned⟩
  | tells hd stays returned =>
      obtain ⟨rfl, rfl⟩ := hnow hd ht
      exact .answers rfl (hm.honest_of_work hE hfrom returned)
  | finishes hd ending returned =>
      obtain ⟨rfl, rfl⟩ := hnow hd ht
      have hheeds := Job.ending_heeds (c := m.bare m.nextId) hE hm.handler ending
      exact .of_sets ⟨rfl, (honest_of_heeds hheeds returned).widen hfrom (Env.precedes_refl _)⟩
  | owns hd =>
      obtain ⟨asked, honest⟩ := (hnow hd ht).2
      exact .answers asked honest
  | @leaves _ r hd | @releases _ _ r hd =>
      cases r with
      | none => exact (hnow hd ht).2.elim
      | some r =>
          obtain ⟨asked, honest⟩ := (hnow hd ht).2
          exact .answers asked honest
  | @disowns _ h finished r hd =>
      obtain ⟨rfl, hbusy⟩ := hnow hd ht
      cases r with
      | none => exact hbusy.elim
      | some r => exact .of_sets hbusy
  | @tidies _ h finished r hd =>
      obtain ⟨rfl, hbusy⟩ := hnow hd ht
      cases r with
      | none => exact hbusy.elim
      | some r => exact .of_sets (hbusy.later hlater)

/-- **Whoever is told that a context has ended is told about its own.** What a thread that is at something answers in
the end is about what it was asked, and honest. -/
theorem Calm.answers (hE : E.Watched) (hm : m.Calm) (hat : (m.doing t).Attends a env m.env)
    (hfrom : env.Precedes m.env) (hrun : Run E m acts m₂) (hsilent : Silent t acts) (hstep : Step E m₂ act m₃)
    (ht : act.thread? = some t) (hanswer : act.answer? = some r) : r.asked = a ∧ r.Honest env m₃.env := by
  -- Along the run the thread stays at what it was asked: its own steps are silent, and others only let time pass.
  induction hrun with
  | nil m =>
      have hnext := hm.attendsStep hE hat hfrom hstep ht
      rw [hanswer] at hnext
      cases hnext with
      | answers asked honest => exact ⟨asked, honest⟩
  | @cons m m' m'' act' acts hfirst _ ih =>
      have hlater := hm.later_of_step hE hfirst
      refine ih (hm.step hfirst) ?_ (hfrom.trans hlater) hsilent.tail hstep
      by_cases ht' : act'.thread? = some t
      · have hnext := hm.attendsStep hE hat hfrom hfirst ht'
        rw [hsilent.head ht'] at hnext
        cases hnext with
        | still attends => exact attends
      · rw [doing_of_step hfirst ht']
        exact hat.later hlater

/-! ### What reaches the engine -/

/-- The step asks nothing of the engine: it leaves it alone, and it is one whatever the engine would do. -/
structure Mute (m : Shared ε) (act : Act) (m' : Shared ε) : Prop where
  engine : m'.engine = m.engine
  step : ∀ E : Engine ε, Step E m act m'

/-- Nothing reaches the engine but jobs, and what tidies up after transactions. -/
theorem mute_of_step (hstep : Step E m act m') (hjob : act.job? = none) (htidy : ∀ t h, act ≠ .tidies t h) :
    Mute m act m' := by
  cases hstep with
  | runs | begins | tells | finishes => cases hjob
  | tidies => exact absurd rfl (htidy _ _)
  | passes later => exact ⟨rfl, fun _ => .passes later⟩
  | asks idle handle => exact ⟨rfl, fun _ => .asks idle handle⟩
  | takes trying free => exact ⟨rfl, fun _ => .takes trying free⟩
  | misses trying taken => exact ⟨rfl, fun _ => .misses trying taken⟩
  | refused shut own => exact ⟨rfl, fun _ => .refused shut own⟩
  | expires shut other ended => exact ⟨rfl, fun _ => .expires shut other ended⟩
  | dozes shut other lasting => exact ⟨rfl, fun _ => .dozes shut other lasting⟩
  | wakes sleeping rested => exact ⟨rfl, fun _ => .wakes sleeping rested⟩
  | expiresAsleep sleeping ended => exact ⟨rfl, fun _ => .expiresAsleep sleeping ended⟩
  | owns begun => exact ⟨rfl, fun _ => .owns begun⟩
  | leaves leaving => exact ⟨rfl, fun _ => .leaves leaving⟩
  | asksOwn idle live own asked => exact ⟨rfl, fun _ => .asksOwn idle live own asked⟩
  | drops idle live own => exact ⟨rfl, fun _ => .drops idle live own⟩
  | disowns dropping => exact ⟨rfl, fun _ => .disowns dropping⟩
  | releases releasing => exact ⟨rfl, fun _ => .releases releasing⟩
  | glances idle free => exact ⟨rfl, fun _ => .glances idle free⟩

theorem letGo_eq_of_alike {E' : Engine ε} (halike : E.TidiesAlike E') :
    Connection.letGo E' = Connection.letGo E := by
  have htidy : ∀ {sql : String}, E'.runText sql = E.runText sql → Connection.tidy E' sql = Connection.tidy E sql := by
    intro sql hsql
    funext event env c
    rw [Connection.tidy, hsql]
    rfl
  have hopen : Connection.isOpen E' = Connection.isOpen E := by
    funext c
    rw [Connection.isOpen, halike.inTransaction, Connection.isOpen]
  have hrestore : Connection.restore E' = Connection.restore E := by
    funext readOnly
    unfold Connection.restore
    rw [htidy halike.writable]
  unfold Connection.letGo
  rw [hopen, hrestore, htidy halike.rollback]

/-- Tidying up after a transaction asks the engine for nothing but whether one is open, to roll it back, and to allow
writing again. -/
theorem tidies_of_alike {E' : Engine ε} {h : Holder} (halike : E.TidiesAlike E')
    (hstep : Step E m (.tidies t h) m') : Step E' m (.tidies t h) m' := by
  cases hstep with
  | @tidies _ _ finished r disowned =>
      have hsame : m.tidied E h finished = m.tidied E' h finished := by
        unfold tidied
        rw [letGo_eq_of_alike halike]
      rw [hsame]
      exact .tidies disowned

/-- **What is asked under a context that has ended does not reach the engine.** A transaction that was to be finished
is let go of then as one that is not. -/
theorem Calm.mute_of_ended {e : ContextError} (hm : m.Calm) (hstep : Step E m act m') (hjob : act.job? = some a)
    (hended : a.patience.err m.env = some e) :
    Mute m act m' ∧ ∀ t h r, act = .finishes t h r → m'.doing t = .dropping h false (some r) := by
  -- The work is the same for every engine, so the step with it is one for every engine.
  have hwork : ∀ (E : Engine ε) t, a.job.isEnding = false → m.work E t a =
      ⟨.error ((m.bare a.ticket).refusal e), m.env, m.bare (a.ticket + a.job.tickets), []⟩ :=
    fun E t h => Job.run_of_err ⟨a.ctx, t⟩ rfl h hended
  cases hstep with
  | @runs t a res inside returned unheld =>
      obtain rfl := Option.some.inj hjob
      have hending := hm.isEnding_of_inside inside
      refine ⟨⟨?_, fun E' => ?_⟩, fun t' h' r' hact => by cases hact⟩
      · rw [hwork E t hending]
        rfl
      · rw [(hwork E t hending).trans (hwork E' t hending).symm] at returned unheld ⊢
        exact .runs inside returned unheld
  | @begins t a res h inside returned held =>
      obtain rfl := Option.some.inj hjob
      rw [hwork E t (hm.isEnding_of_inside inside)] at held
      cases held
  | @tells t h a res asking stays returned =>
      obtain rfl := Option.some.inj hjob
      refine ⟨⟨?_, fun E' => ?_⟩, fun t' h' r' hact => by cases hact⟩
      · rw [hwork E t stays]
        rfl
      · rw [(hwork E t stays).trans (hwork E' t stays).symm] at returned ⊢
        exact .tells asking stays returned
  | @finishes t h a r res asking ending returned =>
      obtain rfl := Option.some.inj hjob
      obtain ⟨hr, hsame⟩ := Job.ending_of_err ⟨a.ctx, t⟩ hended ending
      refine ⟨⟨?_, fun E' => .finishes asking (hsame E') returned⟩, ?_⟩
      · rw [hr]
        rfl
      · intro t' h' r' hact
        cases hact
        rw [hr] at returned
        obtain rfl := Option.some.inj returned
        exact doing_sets_self
  | _ => cases hjob

/-! ### Every operation by its own context -/

theorem attends_of_asks {m₁ : Shared ε} (hasks : Step E m (.asks t a) m₁) :
    (m₁.doing t).Attends a m.env m₁.env := by
  cases hasks with
  | asks | asksOwn =>
      rw [doing_sets_self]
      rfl

/-- **A statement is only ever interrupted by its own context.** However threads take turns on a connection to an
engine that interrupts statements only when the installed handler says so: between operations no handler is
installed. Whoever is answered that a context has ended had a context that can end, and has ended by then, and is told
what this context said at a moment of its waiting or running: that it was cancelled exactly if it was.

What has ended stays so, and nothing that is asked under a context that has ended reaches the engine; a transaction
that was to be finished so is let go of. Letting go asks the engine for nothing but whether a transaction is open, to
roll it back, and to allow writing again, and nothing else that happens asks it for anything. -/
theorem ended_by_own_context (hE : E.Watched) {c : Connection ε} (hhandler : c.handler = none) (env : Env)
    (hrun : Run E (ofConnection c env) acts m) :
    m.handler = none ∧
    (∀ t a m₁ between m₂ act m₃ r, Step E m (.asks t a) m₁ → Run E m₁ between m₂ → Silent t between →
      Step E m₂ act m₃ → act.thread? = some t → act.answer? = some r →
        r.asked = a ∧ ∀ e, r.result = .error (.context e) →
          a.patience.canEnd = true ∧ a.patience.isDone m₃.env = true ∧
            ∃ moment, m.env.Precedes moment ∧ moment.Precedes m₃.env ∧ a.patience.err moment = some e ∧
              (e = .cancelled ↔ a.patience.isCancelled moment = true)) ∧
    (∀ (ctx : Context) later m', Run E m later m' → ctx.isDone m.env = true → ctx.isDone m'.env = true) ∧
    (∀ act a m', Step E m act m' → act.job? = some a → a.patience.isDone m.env = true →
      Mute m act m' ∧ ∀ t h r, act = .finishes t h r → m'.doing t = .dropping h false (some r)) ∧
    (∀ t h m' E', Step E m (.tidies t h) m' → E.TidiesAlike E' → Step E' m (.tidies t h) m') ∧
    ∀ act m', Step E m act m' → act.job? = none → (∀ t h, act ≠ .tidies t h) → Mute m act m' := by
  have hm : m.Calm := (calm_ofConnection hhandler env).run hrun
  refine ⟨hm.handler, ?_, ?_, ?_, fun t h m' E' hstep halike => tidies_of_alike halike hstep,
    fun act m' => mute_of_step⟩
  · intro t a m₁ between m₂ act m₃ r hasks hbetween hsilent hlast ht hanswer
    have hat := attends_of_asks hasks
    have hm₁ := hm.step hasks
    obtain ⟨rfl, hhonest⟩ :=
      hm₁.answers hE hat (hm.later_of_step hE hasks) hbetween hsilent hlast ht hanswer
    refine ⟨rfl, fun e he => ?_⟩
    obtain ⟨moment, hafter, hbefore, herr⟩ := hhonest e he
    have hdone := Context.isDone_of_err herr
    exact ⟨Context.canEnd_of_isDone hdone, Context.isDone_of_later hdone hbefore, moment, hafter, hbefore, herr,
      Context.eq_cancelled_iff herr⟩
  · exact fun ctx later m' hlater hdone => Context.isDone_of_later hdone (hm.later_of_run hE hlater)
  · intro act a m' hstep hjob hdone
    obtain ⟨e, herr⟩ := Option.isSome_iff_exists.mp hdone
    exact hm.mute_of_ended hstep hjob herr

section endless

/-- A statement that does not end by itself, under a context with a deadline. -/
def endless : Asked :=
  ⟨.call (.execute .handle "WITH RECURSIVE c(x) AS (SELECT 1 UNION ALL SELECT x + 1 FROM c) SELECT count(*) FROM c" []),
    ⟨some 8, none⟩, 1⟩

/-- What comes of it: its context has ended. -/
def stopped : Answered := ⟨endless, .error (.context .deadlineExceeded)⟩

/-- Threads that share a connection to a new database. -/
def sharing : Shared Memory := .ofConnection (.ofEngine (.fresh false true)) ⟨0, []⟩

/-- The reason of an error that tells of the end of a context. -/
def reason? : Reply α → Option ContextError
  | .error (.context e) => some e
  | _ => none

theorem reply_of_reason? {r : Reply α} {e : ContextError} (h : reason? r = some e) : r = .error (.context e) := by
  unfold reason? at h
  split at h
  · rw [Option.some.inj h]
  · cases h

/-- An engine that is not done compiling a statement before its handler stops it. -/
def bulky : Engine Unit where
  compile _ handler env _ := match Memory.stopAt handler env with
    | some stop => (.failed .interrupted, stop)
    | none => (.never, env)
  run _ _ _ _ env e := ⟨.done [], env, e⟩
  changes _ := 0
  totalChanges _ := 0
  inTransaction _ := false
  close _ := none

theorem watched_bulky : bulky.Watched where
  compile sql handler env e := by
    unfold Engine.compiling bulky
    dsimp only
    cases hstop : Memory.stopAt handler env with
    | none => exact ⟨env.precedes_refl, nofun⟩
    | some stop =>
        obtain ⟨hlater, hstopped⟩ := Memory.stopped_of_stopAt hstop
        exact ⟨hlater, fun _ => hstopped⟩
  run _ _ _ _ env _ := ⟨env.precedes_refl, nofun⟩

/-- A statement is to be prepared, under a context with a deadline. -/
def preparation : Asked := ⟨.call (.prepare .handle "SELECT * FROM t"), ⟨some 8, none⟩, 1⟩

/-- Threads that share a connection to that engine. -/
def workshop : Shared Unit := .ofConnection (.ofEngine ()) ⟨0, []⟩

/-- What comes of it: its context has ended. -/
def unprepared : Answered := ⟨preparation, .error (.context .deadlineExceeded)⟩

/-- The steps of a job that nobody gets in between of are silent until it is answered. -/
theorem silent_of_alone {t : Nat} {a : Asked} : Silent t [.takes t a, .runs t a] := by
  intro act hact _
  obtain rfl | rfl : act = .takes t a ∨ act = .runs t a := by simpa using hact
  · rfl
  · rfl

/-- A job on the handle that nobody gets in between of, on a connection that nobody holds. -/
theorem answered_alone {m : Shared ε} {t : Nat} {job : Job} {ctx : Context} {res : Except RawError job.Answer}
    (hidle : m.doing t = .idle) (hfree : m.lock = none) (hhandle : job.tx? = none)
    (hreturned : Database.returned? (m.work E t ⟨job, ctx, m.nextId⟩).reply = some res)
    (hunheld : (m.work E t ⟨job, ctx, m.nextId⟩).state.holder = none) :
    ∃ m₁ m₂ m₃, Step E m (.asks t ⟨job, ctx, m.nextId⟩) m₁ ∧
      Run E m₁ [.takes t ⟨job, ctx, m.nextId⟩, .runs t ⟨job, ctx, m.nextId⟩] m₂ ∧
      Step E m₂ (.leaves t (some ⟨⟨job, ctx, m.nextId⟩, res⟩)) m₃ ∧ m₃.doing t = .idle ∧ m₃.lock = none ∧
      m₃.nextId = m.nextId + job.tickets :=
  ⟨_, _, _, .asks hidle hhandle,
    .cons (.takes doing_sets_self hfree) (.cons (.runs doing_sets_self hreturned hunheld) (.nil _)),
    .leaves doing_sets_self, doing_sets_self, rfl, rfl⟩

/-- A statement is interrupted at its deadline, be it that it runs or that it is compiled, and is not run when it is
asked for once more. -/
theorem ended_by_own_context_of_endless :
    (∃ m₁ m₂ m₃, Step bulky workshop (.asks 0 preparation) m₁ ∧
      Run bulky m₁ [.takes 0 preparation, .runs 0 preparation] m₂ ∧
      Step bulky m₂ (.leaves 0 (some unprepared)) m₃ ∧ preparation.patience.isDone m₃.env = true) ∧
    ∃ m₁ m₂ m₃ m₄ m₅, Step Memory.engine sharing (.asks 0 endless) m₁ ∧
      Run Memory.engine m₁ [.takes 0 endless, .runs 0 endless] m₂ ∧
      Step Memory.engine m₂ (.leaves 0 (some stopped)) m₃ ∧ endless.patience.isDone m₃.env = true ∧
      Run Memory.engine m₃ [.asks 0 endless, .takes 0 endless] m₄ ∧ m₄.handler = none ∧
      Step Memory.engine m₄ (.runs 0 endless) m₅ ∧ Mute m₄ (.runs 0 endless) m₅ := by
  refine ⟨?_, ?_⟩
  · have hreturned : Database.returned? (workshop.work bulky 0 preparation).reply = some unprepared.result := rfl
    obtain ⟨m₁, m₂, m₃, hasks, hrun, hleaves, -⟩ :=
      answered_alone (E := bulky) (m := workshop) (t := 0) rfl rfl rfl hreturned rfl
    obtain ⟨-, hanswers, -⟩ := ended_by_own_context watched_bulky rfl ⟨0, []⟩ (.nil workshop)
    obtain ⟨-, htold⟩ :=
      hanswers 0 preparation m₁ _ m₂ _ m₃ unprepared hasks hrun silent_of_alone hleaves rfl rfl
    obtain ⟨-, hdone, -⟩ := htold .deadlineExceeded rfl
    exact ⟨m₁, m₂, m₃, hasks, hrun, hleaves, hdone⟩
  have hreply : (sharing.work Memory.engine 0 endless).reply = .error (.context .deadlineExceeded) :=
    reply_of_reason? (by decide +kernel)
  have hreturned : Database.returned? (sharing.work Memory.engine 0 endless).reply = some stopped.result := by
    rw [hreply]
    rfl
  obtain ⟨m₁, m₂, m₃, hasks, hrun, hleaves, hidle, hfree, hnext⟩ :=
    answered_alone (E := Memory.engine) (m := sharing) (t := 0) rfl rfl rfl hreturned rfl
  obtain ⟨-, hanswers, -⟩ := ended_by_own_context Memory.watched_engine rfl ⟨0, []⟩ (.nil sharing)
  obtain ⟨-, htold⟩ := hanswers 0 endless m₁ _ m₂ _ m₃ stopped hasks hrun silent_of_alone hleaves rfl rfl
  obtain ⟨-, hdone, -⟩ := htold .deadlineExceeded rfl
  have hsecond : ∃ m₄, Run Memory.engine m₃ [.asks 0 endless, .takes 0 endless] m₄ ∧
      m₄.doing 0 = .inside endless ∧ m₄.env = m₃.env := by
    have hasks' : Step Memory.engine m₃ (.asks 0 ⟨endless.job, endless.ctx, m₃.nextId⟩) _ := .asks hidle rfl
    rw [show m₃.nextId = 1 from hnext] at hasks'
    exact ⟨_, .cons hasks' (.cons (.takes doing_sets_self hfree) (.nil _)), doing_sets_self, rfl⟩
  obtain ⟨m₄, hrun₄, hinside, henv⟩ := hsecond
  have hall : Run Memory.engine sharing _ m₄ := .cons hasks (hrun.append (.cons hleaves hrun₄))
  obtain ⟨hhandler, -, -, hmute, -⟩ := ended_by_own_context Memory.watched_engine rfl ⟨0, []⟩ hall
  have hdone₄ : endless.patience.isDone m₄.env = true := by rw [henv, hdone]
  obtain ⟨e, herr⟩ := Option.isSome_iff_exists.mp hdone₄
  have hwork : m₄.work Memory.engine 0 endless = ⟨.error ((m₄.bare 1).refusal e), m₄.env, m₄.bare 1, []⟩ :=
    Job.run_of_err ⟨endless.ctx, 0⟩ rfl rfl herr
  have hrefused : Database.returned? (m₄.work Memory.engine 0 endless).reply =
      some (.error ((m₄.bare 1).refusal e)) := by
    rw [hwork]
    rfl
  have hunheld : (m₄.work Memory.engine 0 endless).state.holder = none := by
    rw [hwork]
    rfl
  obtain ⟨m₅, hruns⟩ : ∃ m₅, Step Memory.engine m₄ (.runs 0 endless) m₅ := ⟨_, .runs hinside hrefused hunheld⟩
  exact ⟨m₁, m₂, m₃, m₄, m₅, hasks, hrun, hleaves, hdone, hrun₄, hhandler, hruns,
    (hmute _ endless m₅ hruns rfl hdone₄).1⟩

end endless

end Shared

end DbAccess.Sqlite
