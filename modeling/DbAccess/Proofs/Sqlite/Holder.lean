import DbAccess.Proofs.Sqlite.Threads
/-!
# Calls and who holds the connection

What a guarded task does does not depend on who holds the connection (`Connection.guarded_heldBy`). On one that
nobody holds every job is done at once; only a begin makes somebody a holder, and no answer looks like the refusal
of one (`Connection.run_unheld`). On one that is held, a call on the handle changes nothing: the holder is refused,
and others wait (`Connection.run_turned`).
-/

namespace DbAccess.Sqlite

variable {ε α β : Type} {E : Engine ε}

namespace Connection

/-! ### What does not depend on the holder -/

/-- What came of a request, for another holder. -/
def heldBy (holder : Option Holder) (r : Run ε α) : Run ε α := { r with state := { r.state with holder := holder } }

/-- What a guarded task does is the same whoever holds the connection. -/
theorem guarded_heldBy (c : Connection ε) (holder : Option Holder) (ctx : Context) (env : Env)
    (task : EngineTask (Workbench ε) α) :
    ({ c with holder := holder } : Connection ε).guarded ctx env task = heldBy holder (c.guarded ctx env task) := by
  obtain ⟨engine, handler, holder', nextId⟩ := c
  cases engine with
  | none => rfl
  | some b =>
      simp only [guarded]
      cases ctx.err env with
      | some e => rfl
      | none =>
          dsimp only
          split <;> rfl

theorem nextId_guarded (c : Connection ε) (ctx : Context) (env : Env) (task : EngineTask (Workbench ε) α) :
    (c.guarded ctx env task).state.nextId = c.nextId := by
  unfold guarded
  cases c.engine with
  | none => rfl
  | some b =>
      dsimp only
      cases ctx.err env with
      | some e => rfl
      | none =>
          dsimp only
          split <;> rfl

theorem isSome_guarded (c : Connection ε) (ctx : Context) (env : Env) (task : EngineTask (Workbench ε) α) :
    (c.guarded ctx env task).state.engine.isSome = c.engine.isSome := by
  unfold guarded
  cases hengine : c.engine with
  | none => exact congrArg Option.isSome hengine
  | some b =>
      dsimp only
      cases ctx.err env with
      | some e => exact congrArg Option.isSome hengine
      | none =>
          dsimp only
          split <;> rfl

theorem tidy_heldBy (c : Connection ε) (holder : Option Holder) (sql : String) (event : String → LogEvent)
    (env : Env) :
    let r := tidy E sql event env c
    tidy E sql event env { c with holder := holder } = (r.1, { r.2.1 with holder := holder }, r.2.2) := by
  obtain ⟨engine, handler, holder', nextId⟩ := c
  cases engine <;> rfl

theorem restore_heldBy (c : Connection ε) (holder : Option Holder) (readOnly : Bool) (event : String → LogEvent)
    (env : Env) :
    let r := restore E readOnly event env c
    restore E readOnly event env { c with holder := holder } = (r.1, { r.2.1 with holder := holder }, r.2.2) := by
  unfold restore
  cases readOnly with
  | true => exact tidy_heldBy c holder writableText event env
  | false => rfl

theorem nextId_tidy (c : Connection ε) (sql : String) (event : String → LogEvent) (env : Env) :
    (tidy E sql event env c).2.1.nextId = c.nextId := by
  unfold tidy
  cases c.engine <;> rfl

theorem nextId_restore (c : Connection ε) (readOnly : Bool) (event : String → LogEvent) (env : Env) :
    (restore E readOnly event env c).2.1.nextId = c.nextId := by
  unfold restore
  cases readOnly with
  | true => exact nextId_tidy c writableText event env
  | false => rfl

/-- A job of a transaction other than its end does the same whoever holds the connection. -/
theorem run_heldBy (c : Connection ε) (holder : Option Holder) {d : DriverCall} {tx : TxId}
    (htx : (Job.call d).tx? = some tx) (hd : (Job.call d).isEnding = false) (caller : Caller) (env : Env) :
    ({ c with holder := holder } : Connection ε).run E d caller env = heldBy holder (c.run E d caller env) := by
  cases d with
  | execute t sql args | executePrepared t stmt args =>
      cases t with
      | handle => cases htx
      | session tx => exact guarded_heldBy c holder caller.ctx env _
  | query t sql args | queryOne t sql args | queryPrepared t stmt args | queryOnePrepared t stmt args =>
      cases t with
      | handle => cases htx
      | session tx => exact congrArg (mapReply _) (guarded_heldBy c holder caller.ctx env _)
  | prepare t sql =>
      cases t with
      | handle => cases htx
      | session tx =>
          exact congrArg (mapReply _)
            (guarded_heldBy { c with nextId := c.nextId + 1 } holder caller.ctx env _)
  | begin | ping | close => cases htx
  | commit | rollback => cases hd

/-! ### Connections that nobody holds -/

theorem released_of_unheld {c : Connection ε} (hc : c.holder = none) : { c with holder := none } = c := by
  obtain ⟨engine, handler, holder, nextId⟩ := c
  cases hc
  rfl

theorem acquire_of_unheld {c : Connection ε} (hc : c.holder = none) (caller : Caller) (env : Env)
    (go : Unit → Run ε α) : c.acquire caller env go = go () := by
  rw [acquire, hc]

/-- The engine is closed, or it refuses, and then the statements that were kept for it are gone. -/
theorem shut_cases (E : Engine ε) (c : Connection ε) (env : Env) :
    c.shut E env = ⟨.ok (), env, { c with engine := none }, []⟩ ∨
      ∃ b code message, c.engine = some b ∧ c.shut E env =
        ⟨.error ((Failure.code code message).error .background env), env,
          { c with engine := some { b with kept := [] } }, []⟩ := by
  obtain ⟨engine, handler, holder, nextId⟩ := c
  unfold shut
  cases engine with
  | none => exact .inl rfl
  | some b =>
      cases hclose : E.close b.engine with
      | none =>
          left
          simp only [hclose]
      | some refusal =>
          refine .inr ⟨b, refusal.1, refusal.2, rfl, ?_⟩
          simp only [hclose]

/-- On a connection that nobody holds, and in a transaction, a request is just guarded. -/
theorem request_of_unheld {c : Connection ε} (hc : c.holder = none) (t : Target) (caller : Caller) (env : Env)
    (task : EngineTask (Workbench ε) α) : c.request t caller env task = c.guarded caller.ctx env task := by
  cases t with
  | handle => rw [request, acquire_of_unheld hc]
  | session tx => rfl

/-- A job on a connection that nobody holds uses up its numbers, if it is not the end of a transaction. -/
theorem nextId_run {c : Connection ε} (hc : c.holder = none) {d : DriverCall}
    (hd : (Job.call d).isEnding = false) (caller : Caller) (env : Env) :
    (c.run E d caller env).state.nextId = c.nextId + (Job.call d).tickets := by
  have hrequest : ∀ {γ : Type} (c : Connection ε) (t : Target) (task : EngineTask (Workbench ε) γ),
      c.holder = none → (c.request t caller env task).state.nextId = c.nextId := by
    intro γ c t task hc
    rw [request_of_unheld hc]
    exact nextId_guarded c caller.ctx env task
  cases d with
  | execute t sql args => exact hrequest c t _ hc
  | query t sql args => exact hrequest c t _ hc
  | queryOne t sql args => exact hrequest c t _ hc
  | prepare t sql => exact hrequest { c with nextId := c.nextId + 1 } t _ hc
  | executePrepared t stmt args => exact hrequest c t _ hc
  | queryPrepared t stmt args => exact hrequest c t _ hc
  | queryOnePrepared t stmt args => exact hrequest c t _ hc
  | ping => exact hrequest c .handle _ hc
  | commit | rollback => cases hd
  | close =>
      rw [run, close, acquire_of_unheld hc]
      obtain hshut | ⟨b, code, message, -, hshut⟩ := c.shut_cases E env <;> rw [hshut] <;> rfl
  | begin tx opts =>
      rw [run, begin, acquire_of_unheld hc]
      dsimp only
      split <;> exact nextId_guarded c caller.ctx env _

/-- What comes of a request other than a begin on a connection that nobody holds: nobody holds it then, and the
refusal of its holder is not the answer. -/
structure Unheld (r : Run ε α) : Prop where
  holder : r.state.holder = none
  ne_held : r.reply ≠ .error heldError

theorem failure_error_ne_held (f : Failure) (ctx : Context) (env : Env) :
    f.error ctx env ≠ heldError := by
  cases f <;> simp [Failure.error, heldError, BackendError.ofText]

theorem reply_ne_held (ctx : Context) (env : Env) (o : Ended α) : reply ctx env o ≠ .error heldError := by
  cases o with
  | done a => nofun
  | failed f => exact fun h => failure_error_ne_held f ctx env (Reply.error.inj h)
  | never => nofun

theorem guarded_unheld {c : Connection ε} (hc : c.holder = none) (ctx : Context) (env : Env)
    (task : EngineTask (Workbench ε) α) : Unheld (c.guarded ctx env task) := by
  unfold guarded
  cases c.engine with
  | none => exact ⟨hc, by simp [closedError, heldError, BackendError.ofText]⟩
  | some b =>
      dsimp only
      cases ctx.err env with
      | some e => exact ⟨hc, by simp [heldError]⟩
      | none =>
          dsimp only
          split
          · exact ⟨hc, reply_ne_held _ _ _⟩
          · exact ⟨hc, reply_ne_held _ _ _⟩

theorem Unheld.mapReply {r : Run ε α} (h : Unheld r) (f : α → β) : Unheld (mapReply f r) := by
  obtain ⟨reply, env, state, log⟩ := r
  refine ⟨h.holder, ?_⟩
  cases reply with
  | ok a => nofun
  | error e => exact fun he => h.ne_held (congrArg Reply.error (Reply.error.inj he))
  | never => nofun

theorem request_unheld {c : Connection ε} (hc : c.holder = none) (t : Target) (caller : Caller) (env : Env)
    (task : EngineTask (Workbench ε) α) : Unheld (c.request t caller env task) := by
  rw [request_of_unheld hc]
  exact guarded_unheld hc caller.ctx env task

theorem holder_tidy (c : Connection ε) (sql : String) (event : String → LogEvent) (env : Env) :
    (tidy E sql event env c).2.1.holder = c.holder := by
  unfold tidy
  cases hc : c.engine <;> rfl

theorem holder_restore (c : Connection ε) (readOnly : Bool) (event : String → LogEvent) (env : Env) :
    (restore E readOnly event env c).2.1.holder = c.holder := by
  unfold restore
  cases readOnly with
  | true => exact holder_tidy c writableText event env
  | false => rfl

theorem holder_letGo (c : Connection ε) (readOnly : Bool) (env : Env) :
    (letGo E readOnly env c).2.1.holder = none := by
  unfold letGo
  rw [holder_restore]
  split
  · exact holder_tidy _ "ROLLBACK" .cleanupFailed env
  · rfl

theorem nextId_letGo (c : Connection ε) (readOnly : Bool) (env : Env) :
    (letGo E readOnly env c).2.1.nextId = c.nextId := by
  unfold letGo
  rw [nextId_restore]
  split
  · exact nextId_tidy _ "ROLLBACK" .cleanupFailed env
  · rfl

theorem finish_unheld {c : Connection ε} (hc : c.holder = none) (caller : Caller) (env : Env) (sql : String) :
    Unheld (c.finish E caller env sql) := by
  have hg := guarded_unheld hc caller.ctx env (E.runText sql)
  refine ⟨?_, hg.ne_held⟩
  unfold finish
  dsimp only
  split
  · rfl
  · exact holder_letGo _ _ _

theorem holder_conclude {c : Connection ε} (hc : c.holder = none) (readOnly : Bool) (sql : String) (caller : Caller)
    (env : Env) : (c.conclude E readOnly sql caller env).state.holder = none := by
  have hg := guarded_unheld hc caller.ctx env (E.runText sql)
  unfold conclude
  dsimp only
  split
  · exact (holder_restore _ readOnly .resetFailed _).trans hg.holder
  · exact hg.holder

theorem nextId_conclude (c : Connection ε) (readOnly : Bool) (sql : String) (caller : Caller) (env : Env) :
    (c.conclude E readOnly sql caller env).state.nextId = c.nextId := by
  unfold conclude
  dsimp only
  split
  · exact (nextId_restore _ readOnly .resetFailed _).trans (nextId_guarded c caller.ctx env _)
  · exact nextId_guarded c caller.ctx env _

/-- The end of a transaction is its statement, and what lets go of the connection unless that succeeds. -/
theorem finish_of_conclude {c : Connection ε} {h : Holder} (hc : c.holder = some h) (caller : Caller) (env : Env)
    (sql : String) :
    let q := ({ c with holder := none } : Connection ε).conclude E h.readOnly sql caller env
    let l := letGo E h.readOnly q.env q.state
    c.finish E caller env sql = match q.reply with
      | .ok () => q
      | _ => ⟨q.reply, l.1, l.2.1, q.log ++ l.2.2⟩ := by
  let g := ({ c with holder := none } : Connection ε).guarded caller.ctx env (E.runText sql)
  have hg : c.guarded caller.ctx env (E.runText sql) = heldBy (some h) g := by
    have hheld := guarded_heldBy { c with holder := none } (some h) caller.ctx env (E.runText sql)
    rwa [← hc] at hheld ⊢
  have hreadOnly : c.holder.any (·.readOnly) = h.readOnly := by rw [hc, Option.any_some]
  have hfree : g.state.holder = none := (guarded_unheld rfl caller.ctx env (E.runText sql)).holder
  intro q l
  have hq : q = match g.reply with
    | .ok () => ⟨g.reply, (restore E h.readOnly .resetFailed g.env g.state).1,
        (restore E h.readOnly .resetFailed g.env g.state).2.1,
        g.log ++ (restore E h.readOnly .resetFailed g.env g.state).2.2⟩
    | _ => g := rfl
  simp only [finish, hg, hreadOnly, heldBy]
  cases hreply : g.reply with
  | ok u =>
      have hkept : (restore E h.readOnly .resetFailed g.env g.state).2.1.holder = none :=
        (holder_restore g.state h.readOnly .resetFailed g.env).trans hfree
      rw [hreply] at hq
      simp only [hq, restore_heldBy]
      rw [released_of_unheld hkept]
  | error e =>
      rw [hreply] at hq
      simp only [l, hq, hreply]
      rfl
  | never =>
      rw [hreply] at hq
      simp only [l, hq, hreply]
      rfl

/-- What the end of a transaction leaves, once its statement is answered. -/
def released (E : Engine ε) (readOnly : Bool) (q : Run ε α) (res : Except RawError α) : Env × Connection ε :=
  if res.isOk then (q.env, q.state)
  else
    let l := letGo E readOnly q.env q.state
    (l.1, l.2.1)

theorem holder_released {q : Run ε α} (hq : q.state.holder = none) (readOnly : Bool) (res : Except RawError α) :
    (released E readOnly q res).2.holder = none := by
  unfold released
  split
  · exact hq
  · exact holder_letGo q.state readOnly q.env

theorem nextId_released (q : Run ε α) (readOnly : Bool) (res : Except RawError α) :
    (released E readOnly q res).2.nextId = q.state.nextId := by
  unfold released
  split
  · rfl
  · exact nextId_letGo q.state readOnly q.env

/-- The end of a transaction that is answered is its statement, and what lets go of the connection unless that
succeeds. -/
theorem finish_of_returned {c : Connection ε} {h : Holder} (hc : c.holder = some h) (caller : Caller) (env : Env)
    (sql : String) {res : Except RawError Unit}
    (hret : Database.returned? (c.finish E caller env sql).reply = some res) :
    let q := ({ c with holder := none } : Connection ε).conclude E h.readOnly sql caller env
    Database.returned? q.reply = some res ∧
      ((c.finish E caller env sql).env, (c.finish E caller env sql).state) = released E h.readOnly q res := by
  intro q
  let l := letGo E h.readOnly q.env q.state
  have hf : c.finish E caller env sql = match q.reply with
      | .ok () => q
      | _ => ⟨q.reply, l.1, l.2.1, q.log ++ l.2.2⟩ := finish_of_conclude hc caller env sql
  cases hreply : q.reply with
  | ok u =>
      rw [hreply] at hf
      rw [hf] at hret ⊢
      have hres : Except.ok u = res := by rw [hreply] at hret; exact Option.some.inj hret
      rw [← hres]
      exact ⟨rfl, rfl⟩
  | error e =>
      rw [hreply] at hf
      rw [hf] at hret ⊢
      have hres : Except.error e = res := Option.some.inj hret
      rw [← hres]
      exact ⟨rfl, rfl⟩
  | never =>
      rw [hreply] at hf
      rw [hf] at hret
      cases hret

/-- What comes of any call on a connection that nobody holds. Only a begin that is answered leaves it held, by
its caller. -/
theorem run_unheld {c : Connection ε} (hc : c.holder = none) (d : DriverCall) (caller : Caller) (env : Env) :
    Unheld (c.run E d caller env) ∨
      ∃ tx opts, d = .begin tx opts ∧ (c.run E d caller env).reply ≠ .error heldError ∧
        (c.run E d caller env).state.holder = some ⟨tx, caller.thread, opts.readOnly⟩ := by
  cases d with
  | execute t sql args => exact .inl (request_unheld hc t caller env _)
  | query t sql args => exact .inl ((request_unheld hc t caller env _).mapReply _)
  | queryOne t sql args => exact .inl ((request_unheld hc t caller env _).mapReply _)
  | prepare t sql =>
      have hc' : ({ c with nextId := c.nextId + 1 } : Connection ε).holder = none := hc
      exact .inl ((request_unheld hc' t caller env _).mapReply _)
  | executePrepared t stmt args => exact .inl (request_unheld hc t caller env _)
  | queryPrepared t stmt args => exact .inl ((request_unheld hc t caller env _).mapReply _)
  | queryOnePrepared t stmt args => exact .inl ((request_unheld hc t caller env _).mapReply _)
  | commit tx => exact .inl (finish_unheld hc caller env "COMMIT")
  | rollback tx => exact .inl (finish_unheld hc caller env "ROLLBACK")
  | ping => exact .inl (request_unheld hc .handle caller env _)
  | close =>
      rw [run, close, acquire_of_unheld hc]
      obtain hshut | ⟨b, code, message, -, hshut⟩ := c.shut_cases E env <;> rw [hshut]
      · exact .inl ⟨hc, nofun⟩
      · exact .inl ⟨hc, fun h => failure_error_ne_held _ _ _ (Reply.error.inj h)⟩
  | begin tx opts =>
      have hg := guarded_unheld hc caller.ctx env (E.runTexts (beginTexts opts.readOnly))
      rw [run, begin, acquire_of_unheld hc]
      dsimp only
      split
      · exact .inr ⟨tx, opts, rfl, hg.ne_held, rfl⟩
      · exact .inl hg

/-! ### Connections that are held -/

/-- Who asks a connection that is held leaves it alone. The holder is refused, and another thread gives up when
its context ends. -/
structure Turned (c : Connection ε) (h : Holder) (patience : Context) (thread : Nat) (env : Env) (r : Run ε α) :
    Prop where
  state : r.state = c
  refused : h.thread = thread → r.reply = .error heldError ∧ r.env = env
  waits : h.thread ≠ thread → (∃ e, patience.awaitEnd env = some (e, r.env) ∧ r.reply = .error (.context e)) ∨
    r.reply = .never

theorem acquire_turned {c : Connection ε} {h : Holder} (hc : c.holder = some h) (caller : Caller) (env : Env)
    (go : Unit → Run ε α) : Turned c h caller.ctx caller.thread env (c.acquire caller env go) := by
  rw [acquire, hc]
  by_cases hthread : h.thread = caller.thread
  · simp only [hthread, if_true]
    exact ⟨rfl, fun _ => ⟨rfl, rfl⟩, fun hne => absurd hthread hne⟩
  · simp only [hthread, if_false]
    cases hawait : caller.ctx.awaitEnd env with
    | none => exact ⟨rfl, fun heq => absurd heq hthread, fun _ => .inr rfl⟩
    | some ended => exact ⟨rfl, fun heq => absurd heq hthread, fun _ => .inl ⟨ended.1, hawait, rfl⟩⟩

theorem Turned.mapReply {c : Connection ε} {h : Holder} {patience : Context} {thread : Nat} {env : Env}
    {r : Run ε α} (hr : Turned c h patience thread env r) (f : α → β) :
    Turned c h patience thread env (mapReply f r) := by
  obtain ⟨reply, env', state, log⟩ := r
  refine ⟨hr.state, fun heq => ?_, fun hne => ?_⟩
  · obtain ⟨hreply, henv⟩ := hr.refused heq
    cases hreply
    exact ⟨rfl, henv⟩
  · obtain ⟨e, hawait, hreply⟩ | hreply := hr.waits hne
    · cases hreply
      exact .inl ⟨e, hawait, rfl⟩
    · cases hreply
      exact .inr rfl

/-- On a connection that is held, a call on the handle waits or is refused. -/
theorem run_turned {c : Connection ε} {h : Holder} (hc : c.holder = some h) {d : DriverCall}
    (hd : (Job.call d).tx? = none) (caller : Caller) (env : Env) :
    Turned { c with nextId := c.nextId + (Job.call d).tickets } h ((Job.call d).patience caller.ctx) caller.thread
      env (c.run E d caller env) := by
  cases d with
  | execute t sql args | executePrepared t stmt args =>
      cases t with
      | handle => exact acquire_turned hc caller env fun _ => c.guarded caller.ctx env (E.execute _ args)
      | session tx => cases hd
  | query t sql args | queryOne t sql args | queryPrepared t stmt args | queryOnePrepared t stmt args =>
      cases t with
      | handle => exact (acquire_turned hc caller env _).mapReply _
      | session tx => cases hd
  | prepare t sql =>
      cases t with
      | handle =>
          have hc' : ({ c with nextId := c.nextId + 1 } : Connection ε).holder = some h := hc
          exact (acquire_turned hc' caller env _).mapReply _
      | session tx => cases hd
  | begin tx opts =>
      rw [run, begin]
      exact acquire_turned hc caller env _
  | ping => exact acquire_turned hc caller env fun _ => c.guarded caller.ctx env E.ping
  | close =>
      rw [run, close]
      exact acquire_turned hc { caller with ctx := .background } env _
  | commit | rollback => cases hd

end Connection

namespace Shared

variable {m m' : Shared ε} {t u : Nat} {a : Asked} {h : Holder}

theorem unheld_work (m : Shared ε) (t : Nat) (a : Asked) :
    Connection.Unheld (m.work E t a) ∨
      ∃ tx opts, a.job = .call (.begin tx opts) ∧ (m.work E t a).reply ≠ .error heldError ∧
        (m.work E t a).state.holder = some ⟨tx, t, opts.readOnly⟩ := by
  obtain ⟨job, ctx, ticket⟩ := a
  cases job with
  | call d =>
      obtain hu | ⟨tx, opts, rfl, hne, hholder⟩ :=
        Connection.run_unheld (E := E) (rfl : (m.bare ticket).holder = none) d ⟨ctx, t⟩ m.env
      · exact .inl hu
      · exact .inr ⟨tx, opts, rfl, hne, hholder⟩
  | script sql =>
      exact .inl (Connection.request_unheld (rfl : (m.bare ticket).holder = none) .handle ⟨ctx, t⟩ m.env _)

theorem result_ne_held {res : Except RawError a.job.Answer}
    (h : Database.returned? (m.work E t a).reply = some res) : res ≠ .error heldError := by
  have hne : (m.work E t a).reply ≠ .error heldError := by
    obtain hu | ⟨-, -, -, hne, -⟩ := m.unheld_work (E := E) t a
    · exact hu.ne_held
    · exact hne
  rintro rfl
  cases hreply : (m.work E t a).reply with
  | ok x => rw [hreply] at h; cases h
  | error e =>
      rw [hreply] at h
      cases h
      exact hne hreply
  | never => rw [hreply] at h; cases h

theorem begin_of_work (hh : (m.work E t a).state.holder = some h) :
    h.thread = t ∧ ∃ opts, a.job = .call (.begin h.tx opts) ∧ h.readOnly = opts.readOnly := by
  obtain hu | ⟨tx, opts, hjob, -, hholder⟩ := m.unheld_work (E := E) t a
  · rw [hu.holder] at hh
    cases hh
  · rw [hholder] at hh
    rw [← Option.some.inj hh]
    exact ⟨rfl, opts, hjob, rfl⟩

end Shared

end DbAccess.Sqlite
