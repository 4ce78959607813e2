import DbAccess.Proofs.Sqlite.Holder
/-!
# One thread alone

While nothing else happens, a call that `Connection.run` answers is a run of the steps of its thread, with the same
answer, and it leaves threads and connection as the call leaves the connection (`Shared.run_alone`). So the steps
take apart what the connection does, and add nothing to it.
-/

namespace DbAccess

theorem Context.err_of_awaitEnd {c : Context} {env env' : Env} {e : ContextError}
    (h : c.awaitEnd env = some (e, env')) : env.Precedes env' ∧ c.err env' = some e := by
  unfold awaitEnd at h
  cases herr : c.err env with
  | some e' =>
      rw [herr] at h
      cases h
      exact ⟨env.precedes_refl, herr⟩
  | none =>
      cases hdeadline : c.deadline with
      | none => simp [herr, hdeadline] at h
      | some t =>
          simp only [herr, hdeadline, Option.some.injEq, Prod.mk.injEq] at h
          obtain ⟨rfl, rfl⟩ := h
          have hcancelled := isCancelled_of_err herr
          have hexpired : c.isExpired (env.advanceTo t) = true := by
            rw [isExpired, hdeadline]
            exact decide_eq_true (Nat.le_max_right _ _)
          refine ⟨env.precedes_advanceTo t, ?_⟩
          rw [err, show c.isCancelled (env.advanceTo t) = false from hcancelled, hexpired]
          rfl

namespace Sqlite

namespace Shared

variable {ε : Type} {E : Engine ε} {m m' : Shared ε} {t : Nat} {a : Asked} {res : Except RawError a.job.Answer}

/-- The thread can come to its answer by its own steps, while time may pass. -/
def Answers (E : Engine ε) (m : Shared ε) (t : Nat) (r : Answered) (m' : Shared ε) : Prop :=
  ∃ acts m₁ act, Run E m acts m₁ ∧ Alone t acts ∧ Step E m₁ act m' ∧ act.thread? = some t ∧ act.answer? = some r

theorem answers_of_last {act : Act} {r : Answered} (hstep : Step E m act m') (ht : act.thread? = some t)
    (hr : act.answer? = some r) : Answers E m t r m' :=
  ⟨[], m, act, .nil m, List.forall_mem_nil _, hstep, ht, hr⟩

theorem Answers.of_step {act : Act} {r : Answered} {m₁ : Shared ε} (hstep : Step E m act m₁)
    (hact : act = .passes ∨ act.thread? = some t) (h : Answers E m₁ t r m') : Answers E m t r m' := by
  obtain ⟨acts, m₂, last, hrun, hacts, hlast⟩ := h
  exact ⟨act :: acts, m₂, last, .cons hstep hrun, List.forall_mem_cons.mpr ⟨hact, hacts⟩, hlast⟩

theorem eq_ofConnection {c : Connection ε} {env : Env} {holder : Option Holder} (hholder : c.holder = holder)
    (hengine : m.engine = c.engine) (hhandler : m.handler = c.handler) (hnextId : m.nextId = c.nextId)
    (hlock : m.lock = holder.map (·.thread)) (howner : m.owner = holder.map (·.thread))
    (hlive : m.live = holder.toList) (henv : m.env = env) (hidle : ∀ u, m.doing u = .idle) :
    m = ofConnection c env := by
  have hdoing : m.doing = fun _ => .idle := funext hidle
  obtain ⟨engine, handler, nextId, lock, owner, live, env', doing⟩ := m
  cases hholder
  cases hengine
  cases hhandler
  cases hnextId
  cases hlock
  cases howner
  cases hlive
  cases henv
  cases hdoing
  rfl

theorem idle_sets (hothers : ∀ u, u ≠ t → m.doing u = .idle) (u : Nat) : (m.sets t .idle).doing u = .idle := by
  by_cases hu : u = t
  · rw [hu, doing_sets_self]
  · rw [doing_sets_of_ne hu, hothers u hu]

theorem others_sets {d : Doing} (hothers : ∀ u, u ≠ t → m.doing u = .idle) :
    ∀ u, u ≠ t → (m.sets t d).doing u = .idle := fun u hu => (doing_sets_of_ne hu).trans (hothers u hu)

/-- A call on the handle of a connection that nobody holds takes the lock and gives it back, unless it begins a
transaction. -/
theorem answers_of_free {c : Connection ε} (hc : c.holder = none) {d : DriverCall} (hd : (Job.call d).tx? = none)
    (caller : Caller) (env : Env) {res : Except RawError d.Answer}
    (hret : Database.returned? (c.run E d caller env).reply = some res) :
    let r := c.run E d caller env
    Answers E (ofConnection c env) caller.thread ⟨⟨.call d, caller.ctx, c.nextId⟩, res⟩
      (ofConnection r.state r.env) := by
  intro r
  have hstays : (Job.call d).isEnding = false := by
    cases d with
    | commit | rollback => cases hd
    | _ => rfl
  have hnext : r.state.nextId = c.nextId + (Job.call d).tickets := Connection.nextId_run hc hstays caller env
  obtain ⟨engine, handler, holder, nextId⟩ := c
  cases hc
  let a : Asked := ⟨.call d, caller.ctx, nextId⟩
  let t := caller.thread
  let m₁ : Shared ε := { ofConnection ⟨engine, handler, none, nextId⟩ env with
    nextId := nextId + (Job.call d).tickets }.sets t (.trying a)
  let m₂ : Shared ε := { m₁ with lock := some t }.sets t (.inside a)
  have hwork : m₂.work E t a = r := rfl
  have hothers : ∀ u, u ≠ t → m₂.doing u = .idle := others_sets (others_sets fun _ _ => rfl)
  have hasks : Step E (ofConnection ⟨engine, handler, none, nextId⟩ env) (.asks t a) m₁ := .asks rfl hd
  have htakes : Step E m₁ (.takes t a) m₂ := .takes doing_sets_self rfl
  refine .of_step hasks (.inr rfl) (.of_step htakes (.inr rfl) ?_)
  cases hholder : r.state.holder with
  | none =>
      let m₃ : Shared ε := (m₂.put r.env r.state).sets t (.leaving (some ⟨a, res⟩))
      have hruns : Step E m₂ (.runs t a) m₃ := .runs doing_sets_self hret hholder
      have hleaves : Step E m₃ (.leaves t (some ⟨a, res⟩)) ({ m₃ with lock := none }.sets t .idle) :=
        .leaves doing_sets_self
      have hend : { m₃ with lock := none }.sets t .idle = ofConnection r.state r.env :=
        eq_ofConnection hholder rfl rfl hnext.symm rfl rfl rfl rfl (idle_sets (others_sets hothers))
      exact .of_step hruns (.inr rfl) (answers_of_last (hend ▸ hleaves) rfl rfl)
  | some h =>
      let m₃ : Shared ε := { m₂.put r.env r.state with live := [h] }.sets t (.begun ⟨a, res⟩ h)
      have hruns : Step E m₂ (.runs t a) m₃ := .begins doing_sets_self hret hholder
      have howns : Step E m₃ (.owns t ⟨a, res⟩) ({ m₃ with owner := some t }.sets t .idle) :=
        .owns doing_sets_self
      have hthread : h.thread = t := (begin_of_work (E := E) (m := m₂) (t := t) (a := a) hholder).1
      have hend : { m₃ with owner := some t }.sets t .idle = ofConnection r.state r.env := by
        refine eq_ofConnection hholder rfl rfl hnext.symm ?_ ?_ rfl rfl (idle_sets (others_sets hothers))
        · exact congrArg some hthread.symm
        · exact congrArg some hthread.symm
      exact .of_step hruns (.inr rfl) (answers_of_last (hend ▸ howns) rfl rfl)

/-- A call on the handle of a connection that is held misses the lock. The holder is refused, and another thread
gives up when its context has ended. -/
theorem answers_of_held {c : Connection ε} {h : Holder} (hc : c.holder = some h) {d : DriverCall}
    (hd : (Job.call d).tx? = none) (caller : Caller) (env : Env) {res : Except RawError d.Answer}
    (hret : Database.returned? (c.run E d caller env).reply = some res) :
    let r := c.run E d caller env
    Answers E (ofConnection c env) caller.thread ⟨⟨.call d, caller.ctx, c.nextId⟩, res⟩
      (ofConnection r.state r.env) := by
  intro r
  obtain ⟨hstate, hrefused, hwaits⟩ := Connection.run_turned (E := E) hc hd caller env
  let a : Asked := ⟨.call d, caller.ctx, c.nextId⟩
  let t := caller.thread
  let m₁ : Shared ε := { ofConnection c env with nextId := c.nextId + (Job.call d).tickets }.sets t (.trying a)
  let m₂ : Shared ε := m₁.sets t (.shutOut a)
  have hlock : m₁.lock = some h.thread := congrArg (Option.map Holder.thread) hc
  have howner : m₂.owner = some h.thread := congrArg (Option.map Holder.thread) hc
  have hothers : ∀ u, u ≠ t → m₂.doing u = .idle := others_sets (others_sets fun _ _ => rfl)
  have hasks : Step E (ofConnection c env) (.asks t a) m₁ := .asks rfl hd
  have hmisses : Step E m₁ (.misses t a) m₂ := .misses doing_sets_self hlock
  refine .of_step hasks (.inr rfl) (.of_step hmisses (.inr rfl) ?_)
  have hend : ∀ env', env' = r.env → { m₂ with env := env' }.sets t .idle = ofConnection r.state r.env := by
    rintro _ rfl
    rw [show r.state = _ from hstate]
    exact eq_ofConnection rfl rfl rfl rfl rfl rfl rfl rfl (idle_sets hothers)
  by_cases hthread : h.thread = t
  · obtain ⟨hreply, henv⟩ := hrefused hthread
    rw [hreply] at hret
    cases hret
    have hstep : Step E m₂ (.refused t a) (m₂.sets t .idle) :=
      .refused doing_sets_self (howner.trans (congrArg some hthread))
    have hlast : m₂.sets t .idle = ofConnection r.state r.env := hend env henv.symm
    exact answers_of_last (hlast ▸ hstep) rfl rfl
  · have hother : m₂.owner ≠ some t := fun heq => hthread (Option.some.inj (howner.symm.trans heq))
    obtain ⟨e, hawait, hreply⟩ | hreply := hwaits hthread
    · rw [hreply] at hret
      cases hret
      obtain ⟨hlater, herr⟩ := Context.err_of_awaitEnd hawait
      have hpasses : Step E m₂ .passes { m₂ with env := r.env } := .passes hlater
      have hstep : Step E { m₂ with env := r.env } (.expires t a e) ({ m₂ with env := r.env }.sets t .idle) :=
        .expires doing_sets_self hother herr
      exact .of_step hpasses (.inl rfl) (answers_of_last (hend r.env rfl ▸ hstep) rfl rfl)
    · rw [hreply] at hret
      cases hret

/-- Work on its transaction is done by the thread that holds the connection, which keeps it. -/
theorem answers_of_session {c : Connection ε} {h : Holder} (hc : c.holder = some h) {d : DriverCall}
    (hd : (Job.call d).tx? = some h.tx) (hstays : (Job.call d).isEnding = false) {caller : Caller}
    (hown : h.thread = caller.thread) (env : Env) {res : Except RawError d.Answer}
    (hret : Database.returned? (c.run E d caller env).reply = some res) :
    let r := c.run E d caller env
    Answers E (ofConnection c env) caller.thread ⟨⟨.call d, caller.ctx, c.nextId⟩, res⟩
      (ofConnection r.state r.env) := by
  intro r
  let a : Asked := ⟨.call d, caller.ctx, c.nextId⟩
  let t := caller.thread
  let m₁ : Shared ε :=
    { ofConnection c env with nextId := c.nextId + (Job.call d).tickets }.sets t (.asking h a)
  let q := m₁.work E t a
  have hr : c.run E d caller env = Connection.heldBy (some h) q := by
    have hheld := Connection.run_heldBy (E := E) { c with holder := none } (some h) hd hstays caller env
    rwa [← hc] at hheld ⊢
  have hnext : q.state.nextId = c.nextId + (Job.call d).tickets :=
    Connection.nextId_run (rfl : (m₁.bare c.nextId).holder = none) hstays caller env
  have hlive : h ∈ (ofConnection c env).live := by
    rw [show (ofConnection c env).live = c.holder.toList from rfl, hc]
    exact List.mem_singleton_self h
  have hasks : Step E (ofConnection c env) (.asks t a) m₁ := .asksOwn rfl hlive hown hd
  have htells : Step E m₁ (.tells t ⟨a, res⟩) ((m₁.put q.env q.state).sets t .idle) := by
    refine .tells doing_sets_self hstays ?_
    rw [hr] at hret
    exact hret
  have hend : (m₁.put q.env q.state).sets t .idle = ofConnection r.state r.env := by
    rw [show r = Connection.heldBy (some h) q from hr]
    refine eq_ofConnection rfl rfl rfl hnext.symm ?_ ?_ ?_ rfl (idle_sets (others_sets fun _ _ => rfl))
    · exact congrArg (Option.map Holder.thread) hc
    · exact congrArg (Option.map Holder.thread) hc
    · exact congrArg Option.toList hc
  exact .of_step hasks (.inr rfl) (answers_of_last (hend ▸ htells) rfl rfl)

/-- The end of a transaction goes through its statement, the note, the tidying up and the lock. -/
theorem answers_of_conclude {c : Connection ε} {h : Holder} (hc : c.holder = some h) {d : DriverCall}
    (hd : (Job.call d).tx? = some h.tx) {caller : Caller} (hown : h.thread = caller.thread) (env : Env)
    (hticket : (Job.call d).tickets = 0) {q : Connection.Run ε d.Answer}
    (hq : (Job.call d).ending? E h.readOnly caller env { c with holder := none } = some q)
    (hholder : q.state.holder = none) (hnext : q.state.nextId = c.nextId) {res : Except RawError d.Answer}
    (hret : Database.returned? q.reply = some res) :
    let left := Connection.released E h.readOnly q res
    Answers E (ofConnection c env) caller.thread ⟨⟨.call d, caller.ctx, c.nextId⟩, res⟩
      (ofConnection left.2 left.1) := by
  intro left
  let a : Asked := ⟨.call d, caller.ctx, c.nextId⟩
  let t := caller.thread
  let m₁ : Shared ε :=
    { ofConnection c env with nextId := c.nextId + (Job.call d).tickets }.sets t (.asking h a)
  let m₂ : Shared ε := (m₁.put q.env q.state).sets t (.dropping h res.isOk (some ⟨a, res⟩))
  let m₃ : Shared ε := { m₂ with owner := none }.sets t (.disowned h res.isOk (some ⟨a, res⟩))
  let m₄ : Shared ε := (m₃.tidied E h res.isOk).sets t (.releasing h (some ⟨a, res⟩))
  let m₅ : Shared ε := { m₄ with lock := none, live := m₄.live.erase h }.sets t .idle
  have hlive : (ofConnection c env).live = [h] := congrArg Option.toList hc
  have hasks : Step E (ofConnection c env) (.asks t a) m₁ :=
    .asksOwn rfl (hlive ▸ List.mem_singleton_self h) hown hd
  have hfinishes : Step E m₁ (.finishes t h ⟨a, res⟩) m₂ := by
    refine .finishes doing_sets_self ?_ hret
    have hbare : m₁.bare m₁.nextId = { c with holder := none } := by
      rw [show m₁.nextId = c.nextId + (Job.call d).tickets from rfl, hticket]
      rfl
    rw [hbare]
    exact hq
  have hdisowns : Step E m₂ (.disowns t h) m₃ := .disowns doing_sets_self
  have htidies : Step E m₃ (.tidies t h) m₄ := .tidies doing_sets_self
  have hreleases : Step E m₄ (.releases t h (some ⟨a, res⟩)) m₅ := .releases doing_sets_self
  have hothers : ∀ u, u ≠ t → m₃.doing u = .idle := others_sets (others_sets (others_sets fun _ _ => rfl))
  have hnext₃ : m₃.nextId = q.state.nextId := by
    rw [show m₃.nextId = c.nextId + (Job.call d).tickets from rfl, hticket, hnext, Nat.add_zero]
  have hbare : m₃.bare m₃.nextId = q.state := by
    rw [hnext₃]
    exact congrArg (fun held => { q.state with holder := held }) hholder.symm
  have herased : (ofConnection c env).live.erase h = [] := by
    rw [hlive, List.erase_cons_head]
  have htidied : m₃.tidied E h res.isOk = m₃.put left.1 left.2 := by
    simp only [tidied, left, Connection.released, hbare]
    split <;> rfl
  have hkept : m₃.nextId = left.2.nextId := hnext₃.trans (Connection.nextId_released q h.readOnly res).symm
  have hend : m₅ = ofConnection left.2 left.1 := by
    simp only [m₅, m₄, htidied]
    exact eq_ofConnection (Connection.holder_released hholder h.readOnly res) rfl rfl hkept rfl rfl herased rfl
      (idle_sets (others_sets hothers))
  exact .of_step hasks (.inr rfl) (.of_step hfinishes (.inr rfl) (.of_step hdisowns (.inr rfl)
    (.of_step htidies (.inr rfl) (answers_of_last (hend ▸ hreleases) rfl rfl))))

/-- A call that returns is a run of the steps of its thread. It returns the same answer, and leaves threads and
connection as the call leaves the connection. What is asked of a transaction is asked by the thread that holds the
connection for it. -/
theorem run_alone (c : Connection ε) (d : DriverCall) (caller : Caller) (env : Env) {res : Except RawError d.Answer}
    (hown : ∀ tx, (Job.call d).tx? = some tx → ∃ h, c.holder = some h ∧ h.tx = tx ∧ h.thread = caller.thread)
    (hret : Database.returned? (c.run E d caller env).reply = some res) :
    let r := c.run E d caller env
    Answers E (ofConnection c env) caller.thread ⟨⟨.call d, caller.ctx, c.nextId⟩, res⟩
      (ofConnection r.state r.env) := by
  intro r
  cases htx : (Job.call d).tx? with
  | none =>
      cases hc : c.holder with
      | none => exact answers_of_free hc htx caller env hret
      | some h => exact answers_of_held hc htx caller env hret
  | some tx =>
      obtain ⟨h, hc, rfl, hthread⟩ := hown tx htx
      cases hstays : (Job.call d).isEnding with
      | false => exact answers_of_session hc htx hstays hthread env hret
      | true =>
          -- The two calls that end a transaction differ in their statement.
          cases d with
          | commit tx =>
              obtain ⟨hq, hleft⟩ := Connection.finish_of_returned hc caller env "COMMIT" hret
              have hanswers := answers_of_conclude hc htx hthread env rfl rfl
                (Connection.holder_conclude rfl h.readOnly "COMMIT" caller env)
                (Connection.nextId_conclude _ h.readOnly "COMMIT" caller env) hq
              rwa [← hleft] at hanswers
          | rollback tx =>
              obtain ⟨hq, hleft⟩ := Connection.finish_of_returned hc caller env "ROLLBACK" hret
              have hanswers := answers_of_conclude hc htx hthread env rfl rfl
                (Connection.holder_conclude rfl h.readOnly "ROLLBACK" caller env)
                (Connection.nextId_conclude _ h.readOnly "ROLLBACK" caller env) hq
              rwa [← hleft] at hanswers
          | _ => cases hstays

end Shared

end Sqlite

end DbAccess
