import DbAccess.Proofs.Session.Program
/-!
# One statement, one pass

`Requests` are statements one after another, to the handle of a database or to its transactions, each
chosen by the results of those before it. A run of them takes `Turn`s: an entry of the hook chain is told
something, or the driver is asked something.

`Requests.one_pass_each` says that the turns of a run are those of its statements one after another, and
that each statement takes one pass: every entry is told in order, the driver is asked unless the context
has ended by then, which the hooks may have brought about, and every entry is told how it went. What comes
back is mapped once, for the caller and the hooks alike; that a row is missing is an error only for whoever
asks for the row.
-/

namespace DbAccess

variable {δ σ ν α : Type}

/-! ### Turns -/

/-- What happens on the way of statements. -/
inductive Turn where
  | told (entry : Nat) (n : Notice)
  | asked (c : DriverCall) (ctx : Context)
deriving Repr

/-- The turn of an event, when it is one. -/
def Event.turn? : Event (Visit ⊕ ν) → Option Turn
  | .call c ctx _ => some (.asked c ctx)
  | .hook e => e.visit?.map fun v => .told v.entry v.notice
  | _ => none

/-- The turns of a run, in order. -/
def SessionRun.turns (r : SessionRun δ σ (Visit ⊕ ν) α) : List Turn := r.trace.filterMap Event.turn?

/-- One turn for every entry of the chain. -/
def Database.roundOf (db : Database δ σ ν) (n : Notice) : List Turn :=
  (List.range db.hooks.size).map fun i => .told i n

@[simp] theorem SessionRun.turns_after (r : SessionRun δ σ (Visit ⊕ ν) α)
    (t : List (Event (Visit ⊕ ν))) : (r.after t).turns = t.filterMap Event.turn? ++ r.turns := by
  simp [turns, after]

namespace Database

variable (db : Database δ σ ν) (w : World δ σ)

@[simp] theorem turns_heard (n : Notice) :
    (db.watched.heard w n).filterMap Event.turn? = db.roundOf n := by
  have hturn : Event.turn? ∘ Event.hook =
      fun e : HookEvent (Visit ⊕ ν) => e.visit?.map fun v => .told v.entry v.notice := rfl
  have hvisits := db.hooks.visits_tell ⟨w.env, w.thread⟩ n w.hooks
  calc (db.watched.heard w n).filterMap Event.turn?
      = ((db.hooks.watched.tell ⟨w.env, w.thread⟩ n w.hooks).events.filterMap HookEvent.visit?).map
          fun v => .told v.entry v.notice := by
        rw [heard, List.filterMap_map, hturn, List.map_filterMap]
        rfl
    _ = db.roundOf n := by
        rw [hvisits, List.map_map]
        rfl

@[simp] theorem turns_driverTrace (ctx : Context) (c : DriverCall) :
    (db.watched.driverTrace w ctx c).filterMap Event.turn? = [.asked c ctx] := by
  simp [driverTrace, List.filterMap_map, Function.comp_def, Event.turn?]

/-! ### The pass of a statement -/

/-- What comes back of a reply, if anything does. -/
def returned? : Reply α → Option (Except RawError α)
  | .ok a => some (.ok a)
  | .error e => some (.error e)
  | .never => none

/-- What comes back of a call that is handed over in this world: why the driver is not asked, or what it
answers. -/
def answer? (ctx : Context) (c : DriverCall) : Option (Except RawError c.Answer) :=
  match ctx.err w.env with
  | some e => some (.error (.context e))
  | none => returned? (db.driverRun w ctx c).reply

/-- The clock and the signals when an answer comes back. -/
def answered (ctx : Context) (c : DriverCall) : Env :=
  match ctx.err w.env with
  | some _ => w.env
  | none => (db.driverRun w ctx c).env

/-- What comes back to a call that begins in this world and that no hook is told of. -/
def raw? (ctx : Context) (c : DriverCall) : Option (Except RawError c.Answer) :=
  db.answer? w.tick (db.effectiveContext w ctx) c

theorem raw?_eq (ctx : Context) (c : DriverCall) :
    db.raw? w ctx c =
      match db.refusal? w ctx with
      | some e => some (.error (.context e))
      | none => returned? (db.driverRun w.tick (db.effectiveContext w ctx) c).reply := rfl

section statement

variable (ctx : Context) (sql : String) (args : List Value) (c : DriverCall)

/-- What comes back to a statement that begins in this world, once the hooks have been told of it. -/
def statementRaw? : Option (Except RawError c.Answer) :=
  db.answer? (db.briefed w ctx sql args) (db.effectiveContext w ctx) c

theorem statementRaw?_eq :
    db.statementRaw? w ctx sql args c =
      match db.statementRefusal? w ctx sql args with
      | some e => some (.error (.context e))
      | none => returned? (db.driverRun (db.briefed w ctx sql args) (db.effectiveContext w ctx) c).reply := rfl

/-- How long the driver has a statement that begins in this world. -/
def elapsed : Span :=
  let w' := db.briefed w ctx sql args
  .ofNanos ((db.answered w' (db.effectiveContext w ctx) c).now - w'.env.now)

/-- The turns of a statement that begins in this world. Whether the driver is asked is seen from the context when
the hooks have been told. -/
def passTurns : List Turn :=
  let ctx' := db.effectiveContext w ctx
  db.roundOf (.before ctx' sql args) ++
    (if (db.statementRefusal? w ctx sql args).isSome then [] else [.asked c ctx']) ++
    match db.statementRaw? w ctx sql args c with
    | some raw =>
      db.roundOf (.after ctx' sql args (db.elapsed w ctx sql args c) (error? (raw.mapError db.classify)))
    | none => []

end statement

theorem turns_conclude (ctx : Context) (sql : String) (args : List Value) (start : Instant)
    (raw : Except RawError α) :
    ((db.watched.conclude ctx sql args start raw).run w).turns =
      db.roundOf (.after ctx sql args (.ofNanos (w.env.now - start))
        (error? (raw.mapError db.classify))) := by
  have hturns := db.turns_heard w (.after ctx sql args (.ofNanos (w.env.now - start))
    (error? (raw.mapError db.classify)))
  simp only [conclude, SessionM.run_bind, SessionM.run_env, run_tell, SessionM.run_pure,
    SessionRun.andThen_value, SessionRun.after_nil, SessionRun.turns_after]
  rw [SessionRun.turns, List.filterMap_nil, List.append_nil]
  exact hturns

theorem briefed_watched (ctx : Context) (sql : String) (args : List Value) :
    db.watched.briefed w ctx sql args = db.briefed w ctx sql args := by
  have htell : db.hooks.tell ⟨w.tick.env, w.thread⟩ (db.briefing w ctx sql args) w.hooks =
      HookView.unwatched.seen
        (db.hooks.watched.tell ⟨w.tick.env, w.thread⟩ (db.briefing w ctx sql args) w.hooks) :=
    HookView.maps_unwatched db.hooks _ _ _
  show ({ w.tick with env := _, hooks := _ } : World δ σ) =
    { w.tick with
      env := (db.hooks.tell ⟨w.tick.env, w.thread⟩ (db.briefing w ctx sql args) w.hooks).env
      hooks := (db.hooks.tell ⟨w.tick.env, w.thread⟩ (db.briefing w ctx sql args) w.hooks).state }
  rw [htell]
  rfl

/-- The turns of a statement from when the hooks have been told that it begins. -/
theorem turns_handed (ctx : Context) (sql : String) (args : List Value) (c : DriverCall) :
    (((db.watched.dispatchLive ctx c).run w).andThen
        (db.watched.conclude ctx sql args w.env.now)).turns =
      (if (ctx.err w.env).isSome then [] else [.asked c ctx]) ++
        match db.answer? w ctx c with
        | some raw =>
          db.roundOf (.after ctx sql args (.ofNanos ((db.answered w ctx c).now - w.env.now))
            (error? (raw.mapError db.classify)))
        | none => [] := by
  rw [run_dispatchLive, answer?, answered]
  cases ctx.err w.env with
  | some e =>
      rw [SessionRun.andThen_value, SessionRun.after_nil, turns_conclude]
      rfl
  | none =>
      have hdriver : db.watched.driverRun w ctx c = db.driverRun w ctx c := rfl
      simp only [run_dispatch, hdriver]
      cases hreply : (db.driverRun w ctx c).reply with
      | ok a =>
          rw [replyOutcome, SessionRun.andThen_value, SessionRun.turns_after, turns_driverTrace,
            turns_conclude]
          rfl
      | error e =>
          rw [replyOutcome, SessionRun.andThen_value, SessionRun.turns_after, turns_driverTrace,
            turns_conclude]
          rfl
      | never =>
          rw [replyOutcome, SessionRun.andThen_stuck, SessionRun.turns, turns_driverTrace]
          rfl

theorem turns_statement (ctx : Context) (sql : String) (args : List Value) (c : DriverCall) :
    ((db.watched.statement ctx sql args c).run w).turns = db.passTurns w ctx sql args c := by
  have hhanded := db.turns_handed (db.briefed w ctx sql args) (db.effectiveContext w ctx) sql args c
  rw [run_statement, SessionRun.turns_after, turns_heard, briefed_watched, passTurns, List.append_assoc]
  exact congrArg (_ ++ ·) hhanded

theorem outcome_statement_of_raw (ctx : Context) (sql : String) (args : List Value) (c : DriverCall) :
    ((db.statement ctx sql args c).run w).outcome =
      match db.statementRaw? w ctx sql args c with
      | some raw => .value (raw.mapError db.classify)
      | none => .stuck := by
  rw [outcome_statement, statementRaw?_eq]
  cases db.statementRefusal? w ctx sql args with
  | some e => rfl
  | none =>
      show (replyOutcome _).map _ = _
      cases (db.driverRun (db.briefed w ctx sql args) (db.effectiveContext w ctx) c).reply <;> rfl

end Database

/-! ### Statements one after another -/

/-- Requests, each chosen by the results of those before it. -/
inductive Requests (α : Type) where
  /-- They end. -/
  | done (o : Outcome α)
  /-- One is made, and they go on with the result. -/
  | ask (t : Target) (q : Request) (next : Except Error q.Answer → Requests α)
  /-- Something happens to the clock and the signals, and whoever makes the requests looks at them. -/
  | meanwhile (change : Env → Env) (next : Env → Requests α)

/-- Requests as a program. -/
def Requests.program : Requests α → Program α
  | done o => .done o
  | ask .handle q next => .call (.statement q) fun r => (next r).program
  | ask (.session tx) q next => .call (.transaction tx (.statement q)) fun r => (next r).program
  | meanwhile change next => .meanwhile change fun env _ => (next env).program

/-- A request that was made: in which world, and where it went. -/
structure Exchange (δ σ : Type) where
  world : World δ σ
  target : Target
  request : Request

namespace Exchange

/-- What came of an exchange. -/
def run (db : Database δ σ ν) (e : Exchange δ σ) :
    SessionRun δ σ ν (Except Error e.request.Answer) :=
  (e.request.run db e.target).run e.world

/-- The call on the driver that an exchange stands for. -/
abbrev call (e : Exchange δ σ) : DriverCall := e.request.call e.target

end Exchange

/-- The exchanges of requests that begin in a world, in order. -/
def Requests.exchanges (db : Database δ σ ν) : Requests α → World δ σ → List (Exchange δ σ)
  | done _, _ => []
  | ask t q next, w =>
    let r := (q.run db t).run w
    ⟨w, t, q⟩ :: match r.outcome with
      | .value a => exchanges db (next a) r.world
      | _ => []
  | meanwhile change next, w => exchanges db (next (change w.env)) { w with env := change w.env }

theorem Requests.run_ask (db : Database δ σ ν) (t : Target) (q : Request)
    (next : Except Error q.Answer → Requests α) :
    (Requests.ask t q next).program.run db = q.run db t >>= fun r => (next r).program.run db := by
  cases t <;> rfl

theorem Requests.trace_run (db : Database δ σ ν) (s : Requests α) (w : World δ σ) :
    ((s.program.run db).run w).trace = (s.exchanges db w).flatMap fun e => (e.run db).trace := by
  induction s generalizing w with
  | done o => rfl
  | ask t q next ih =>
      have hrun : (Exchange.mk w t q).run db = (q.run db t).run w := rfl
      rw [run_ask, SessionM.run_bind]
      simp only [exchanges, List.flatMap_cons, hrun]
      generalize (q.run db t).run w = r
      obtain ⟨o, w', u⟩ := r
      cases o with
      | value a => exact congrArg (u ++ ·) (ih a w')
      | failed e => exact (List.append_nil u).symm
      | panicked text => exact (List.append_nil u).symm
      | stuck => exact (List.append_nil u).symm
  | meanwhile change next ih => exact ih _ _

theorem Requests.exchanges_watched (db : Database δ σ ν) (s : Requests α) (w : World δ σ) :
    s.exchanges db.watched w = s.exchanges db w := by
  induction s generalizing w with
  | done o => rfl
  | ask t q next ih =>
      have hshows := db.watched.shows_request (HookView.maps_unwatched db.hooks) t q w
      have hrun : (q.run db t).run w = ((q.run db.watched t).run w).seen .unwatched := hshows
      simp only [exchanges, hrun]
      generalize (q.run db.watched t).run w = r
      obtain ⟨o, w', u⟩ := r
      cases o with
      | value a => exact congrArg (_ :: ·) (ih a w')
      | failed e => rfl
      | panicked text => rfl
      | stuck => rfl
  | meanwhile change next ih => exact ih _ _

/-- The text and the arguments that the driver gets with a statement. -/
def DriverCall.statement? : DriverCall → Option (String × List Value)
  | execute _ sql args | query _ sql args | queryOne _ sql args => some (sql, args)
  | prepare _ sql => some (sql, [])
  | executePrepared _ stmt args | queryPrepared _ stmt args | queryOnePrepared _ stmt args =>
    some (stmt.sql, args)
  | begin .. | commit _ | rollback _ | ping | close => none

/-- The statement of an exchange goes through in one pass. -/
structure Exchange.OnePass (db : Database δ σ ν) (e : Exchange δ σ) : Prop where
  /-- The entries are told, the driver is asked, the entries are told. -/
  turns_eq : (e.run db.watched).turns =
    db.passTurns e.world e.request.ctx e.request.sql e.request.args e.call
  /-- What the hooks are told of is what the driver gets. -/
  statement_eq : e.call.statement? = some (e.request.sql, e.request.args)
  /-- What comes back is mapped once, when it is an error, and not changed when it is a value. -/
  outcome_eq : (e.run db).outcome =
    match db.statementRaw? e.world e.request.ctx e.request.sql e.request.args e.call with
    | some raw => .value (e.request.result db e.target (raw.mapError db.classify))
    | none => .stuck

theorem Request.statement?_call (q : Request) (t : Target) :
    (q.call t).statement? = some (q.sql, q.args) := by
  cases q <;> rfl

theorem SessionRun.turns_map {β : Type} (f : α → β) (r : SessionRun δ σ (Visit ⊕ ν) α) :
    (r.map f).turns = r.turns := rfl

theorem Exchange.onePass (db : Database δ σ ν) (e : Exchange δ σ)
    (h : Database.takes e.world e.target = true) : e.OnePass db where
  turns_eq := by
    rw [Exchange.run, Request.run_request, SessionRun.turns_map, Database.run_statementAt, if_pos h,
      Database.turns_statement]
  statement_eq := e.request.statement?_call e.target
  outcome_eq := by
    have hs := db.outcome_statement_of_raw e.world e.request.ctx e.request.sql e.request.args e.call
    rw [Exchange.run, Request.run_request, Database.run_statementAt, if_pos h, SessionRun.outcome_map,
      hs]
    cases db.statementRaw? e.world e.request.ctx e.request.sql e.request.args e.call with
    | some raw => rfl
    | none => rfl

/-- The answer to a query for one row, of what came back. -/
def Database.oneRow (db : Database δ σ ν) (raw : Except RawError (Option Row)) : OneRow :=
  ⟨raw.mapError db.classify, db.mapper⟩

/-- **One statement, one pass.** Watched hooks show the turns of requests that are made one after another.
They are the turns of the exchanges, in order and with nothing in between; and every exchange with the
handle, or with a transaction that is active, is one pass. The answer to a query for one row keeps what
came back: the error mapped already, or a row, or none. That there is none is no error for the hooks, nor
for who takes the row as optional; who needs it gets the mapped error of a missing row. -/
theorem Requests.one_pass_each (db : Database δ σ ν) (s : Requests α) (w : World δ σ) :
    let watched := (s.program.run db.watched).run w
    watched.seen .unwatched = (s.program.run db).run w ∧
    watched.turns = (s.exchanges db w).flatMap (fun e => (e.run db.watched).turns) ∧
    (∀ e ∈ s.exchanges db w, Database.takes e.world e.target = true → e.OnePass db) ∧
    ∀ (raw : Except RawError (Option Row)) (t : Target) (ctx : Context) (sql : String)
      (stmt : PreparedStatement) (args : List Value),
      let result := raw.mapError db.classify
      (Request.queryOne ctx sql args).result db t result = .ok (db.oneRow raw) ∧
      (Request.queryOnePrepared ctx stmt args).result db t result = .ok (db.oneRow raw) ∧
      (db.oneRow raw).optional = result ∧
      match raw with
      | .ok (some r) => (db.oneRow raw).row = .ok r
      | .ok none =>
        Database.error? result = none ∧ (db.oneRow raw).row = .error (db.mapper.map (.raw .noRows))
      | .error e => (db.oneRow raw).row = .error (db.mapper.map (.raw e)) := by
  refine ⟨?_, ?_, ?_, ?_⟩
  · exact (s.program.shows db.watched (HookView.maps_unwatched db.hooks) w).symm
  · rw [SessionRun.turns, Requests.trace_run, exchanges_watched, List.filterMap_flatMap]
    rfl
  · intro e _ h
    exact e.onePass db h
  · intro raw t ctx sql stmt args
    refine ⟨rfl, rfl, rfl, ?_⟩
    cases raw with
    | ok o =>
        cases o with
        | some r => rfl
        | none => exact ⟨rfl, rfl⟩
    | error e => rfl

section refusing

open Database

/-- A mapper that would show if it was applied twice. -/
def nesting : Mapper := .ofFunction fun e => .retry 1 e

/-- A database whose driver refuses to delete, with a hook that panics and one that does nothing. -/
def refusing : Database Scripted.State Unit Unit :=
  ⟨Scripted.driver ⟨.sqlite, [(.statement "DELETE t", ⟨diskError, none⟩)], [], [], false⟩,
    panicking, nesting, .default⟩

/-- An exchange that fails. -/
def deletion : Exchange Scripted.State Unit := ⟨quiet, .handle, .execute .background "DELETE t" []⟩

/-- A hook that takes a second to be told that a statement begins. -/
def lingering : HookChain Unit Unit :=
  ⟨[.leaf fun site n s =>
    ⟨match n with
      | .before .. => { site.env with now := site.env.now + nanosPerSecond }
      | .after .. => site.env, s, [], none⟩]⟩

/-- An exchange with a deadline that has not passed when it begins. -/
def hurriedDeletion : Exchange Scripted.State Unit :=
  ⟨quiet, .handle, .execute ⟨some nanosPerMilli, none⟩ "DELETE t" []⟩

/-- The statement fails, and each hook is told before and after. A hook that takes longer to be told of a statement
than its context allows keeps the driver from being asked. -/
theorem one_pass_of_deletion :
    (deletion.OnePass refusing ∧
      (deletion.run refusing.watched).turns =
        [.told 0 (.before .background "DELETE t" []), .told 1 (.before .background "DELETE t" []),
          .asked (.execute .handle "DELETE t" []) .background,
          .told 0 (.after .background "DELETE t" [] (.ofNanos 1000) (some (.retry 1 (.raw diskError)))),
          .told 1 (.after .background "DELETE t" [] (.ofNanos 1000) (some (.retry 1 (.raw diskError))))]) ∧
    let slow := refusing.withHooks lingering
    let ctx : Context := ⟨some nanosPerMilli, none⟩
    slow.refusal? quiet ctx = none ∧ hurriedDeletion.OnePass slow ∧
      (hurriedDeletion.run slow.watched).turns =
        [.told 0 (.before ctx "DELETE t" []),
          .told 0 (.after ctx "DELETE t" [] .zero (some (.retry 1 (.raw (.context .deadlineExceeded)))))] := by
  have hone := Requests.one_pass_each refusing
    (.ask .handle deletion.request fun r => .done (SessionM.resultOutcome r)) quiet
  have hslow := Requests.one_pass_each (refusing.withHooks lingering)
    (.ask .handle hurriedDeletion.request fun r => .done (SessionM.resultOutcome r)) quiet
  refine ⟨⟨hone.2.2.1 deletion ?_ rfl, rfl⟩, rfl, hslow.2.2.1 hurriedDeletion ?_ rfl, rfl⟩
  · simp [Requests.exchanges, deletion]
  · simp [Requests.exchanges, hurriedDeletion]

end refusing

end DbAccess
