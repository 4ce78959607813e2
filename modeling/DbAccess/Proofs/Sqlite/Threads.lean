import DbAccess.Proofs.Context.Sleep
import DbAccess.Proofs.Session.Pipeline
import DbAccess.Sqlite.Connection
import Mathlib.Logic.Function.Basic
/-!
# Threads that share a connection

`Connection.run` tells what comes of a call while nothing else happens. Here threads take turns. What the holder
of a connection stands for is taken apart: the lock on the engine, the note of the thread that owns the open
transaction, and the transactions that were begun and not let go of are three things, and they change at
different steps.

`Shared.Step` is one atomic step. A call on the handle tries the lock; a thread that misses it looks whether it
owns the transaction itself, and else sleeps for a while under its own context and tries again. What runs on the
engine is what `Connection` runs. A transaction stays with its thread. Whoever asks for the numbers about the
connection takes the lock for a moment when it is free; a lock that was let go of in a panic is taken like any
other.
-/

namespace DbAccess.Sqlite

/-! ### What is asked -/

/-- What a thread asks of a connection or of a transaction on it. -/
inductive Job where
  | call (c : DriverCall)
  /-- A script, which is run on the handle. -/
  | script (sql : String)

namespace Job

/-- What a job is answered with when it succeeds. -/
abbrev Answer : Job → Type
  | call c => c.Answer
  | script _ => Unit

/-- The transaction that is asked, none when it is the handle. -/
def tx? : Job → Option TxId
  | call (.execute t ..) | call (.query t ..) | call (.queryOne t ..) | call (.prepare t _)
  | call (.executePrepared t ..) | call (.queryPrepared t ..) | call (.queryOnePrepared t ..) =>
    match t with
    | .handle => none
    | .session tx => some tx
  | call (.commit tx) | call (.rollback tx) => some tx
  | call (.begin ..) | call .ping | call .close | script _ => none

/-- How many numbers for prepared statements are used up. -/
def tickets : Job → Nat
  | call (.prepare ..) => 1
  | _ => 0

/-- The job finishes the transaction that is asked. -/
def isEnding : Job → Bool
  | call (.commit _) | call (.rollback _) => true
  | _ => false

/-- Closing is not given up. -/
def patience (ctx : Context) : Job → Context
  | call .close => .background
  | _ => ctx

variable {ε : Type}

/-- Does a job on a connection. -/
def run (E : Engine ε) (j : Job) (caller : Caller) (env : Env) (c : Connection ε) :
    Connection.Run ε j.Answer :=
  match j with
  | call d => c.run E d caller env
  | script sql => c.executeScript E caller env sql

end Job

/-- Finishes a transaction by a statement, before it is let go of. -/
def Connection.conclude {ε : Type} (E : Engine ε) (readOnly : Bool) (sql : String) (caller : Caller) (env : Env)
    (c : Connection ε) : Run ε Unit :=
  let r := c.guarded caller.ctx env (E.runText sql)
  match r.reply with
  | .ok () =>
    let (env, c, log) := restore E readOnly .resetFailed r.env r.state
    ⟨r.reply, env, c, r.log ++ log⟩
  | _ => r

/-- What the end of a transaction begins with, for jobs that finish one. -/
def Job.ending? {ε : Type} (E : Engine ε) (readOnly : Bool) (caller : Caller) (env : Env) (c : Connection ε) :
    (j : Job) → Option (Connection.Run ε j.Answer)
  | call (.commit _) => some (c.conclude E readOnly "COMMIT" caller env)
  | call (.rollback _) => some (c.conclude E readOnly "ROLLBACK" caller env)
  | _ => none

/-- A job that was asked, and the number for the statement if it prepares one. -/
structure Asked where
  job : Job
  ctx : Context
  ticket : Nat

/-- The context that ends the wait for the connection. -/
def Asked.patience (a : Asked) : Context := a.job.patience a.ctx

/-- A job with its result. -/
structure Answered where
  asked : Asked
  result : Except RawError asked.job.Answer

/-! ### What threads do -/

/-- What a thread is doing. -/
inductive Doing where
  | idle
  /-- It is about to try the lock. -/
  | trying (a : Asked)
  /-- It has missed the lock, and is about to look who owns the transaction. -/
  | shutOut (a : Asked)
  | sleeping (a : Asked) (p : SleepPlan)
  /-- It has the lock, and is about to do the job. -/
  | inside (a : Asked)
  /-- Its transaction is begun, and it is about to note that it owns it. -/
  | begun (r : Answered) (h : Holder)
  /-- It is about to unlock, and to return if it was asked for something. -/
  | leaving (r : Option Answered)
  /-- It is about to do a job on its transaction. -/
  | asking (h : Holder) (a : Asked)
  /-- It is letting go of its transaction, which is finished or not, and is about to clear the note. -/
  | dropping (h : Holder) (finished : Bool) (r : Option Answered)
  /-- It has cleared the note, and is about to tidy up. -/
  | disowned (h : Holder) (finished : Bool) (r : Option Answered)
  /-- It has tidied up, and is about to unlock and to return. -/
  | releasing (h : Holder) (r : Option Answered)

/-- A connection and the threads that share it. -/
structure Shared (ε : Type) where
  /-- The engine with its kept statements, until the connection is closed. -/
  engine : Option (Workbench ε)
  /-- The installed interrupt handler. -/
  handler : Option Watcher
  /-- The number of the next prepared statement. -/
  nextId : Nat
  /-- The thread that has the lock on the engine. -/
  lock : Option Nat
  /-- The thread that is noted to own the open transaction. -/
  owner : Option Nat
  /-- The transactions that were begun and are not let go of. -/
  live : List Holder
  env : Env
  doing : Nat → Doing

/-- How long a thread sleeps before it tries the lock again. -/
def lockPoll : Span := .ofNanos 2000000

/-- What it means for a sleeper to wake up now; nothing sends it back to sleep. -/
def wakes? (c : Context) (p : SleepPlan) (env : Env) : Option SleepResult :=
  if c.signal.isNone && p.until?.isNone then some .rested else p.check env.now (c.isCancelled env)

/-- What happens in a step. -/
inductive Act where
  | passes
  | asks (t : Nat) (a : Asked)
  | takes (t : Nat) (a : Asked)
  | misses (t : Nat) (a : Asked)
  /-- The thread is refused, since it owns the open transaction. -/
  | refused (t : Nat) (a : Asked)
  /-- The thread gives up, since the context has ended. -/
  | expires (t : Nat) (a : Asked) (e : ContextError)
  | dozes (t : Nat) (a : Asked)
  | wakes (t : Nat) (a : Asked)
  /-- A job of the handle is done on the engine. -/
  | runs (t : Nat) (a : Asked)
  /-- The thread notes that it owns the transaction it has begun, and returns. -/
  | owns (t : Nat) (r : Answered)
  | leaves (t : Nat) (r : Option Answered)
  /-- A statement of a transaction is run on the engine, and the thread returns. -/
  | tells (t : Nat) (r : Answered)
  /-- The statement that finishes a transaction is run on the engine. -/
  | finishes (t : Nat) (h : Holder) (r : Answered)
  | drops (t : Nat) (h : Holder)
  | disowns (t : Nat) (h : Holder)
  | tidies (t : Nat) (h : Holder)
  | releases (t : Nat) (h : Holder) (r : Option Answered)
  | glances (t : Nat)

/-- The thread that takes the step, none when only time passes. -/
def Act.thread? : Act → Option Nat
  | passes => none
  | asks t _ | takes t _ | misses t _ | refused t _ | expires t _ _ | dozes t _ | wakes t _ | runs t _
  | owns t _ | leaves t _ | tells t _ | finishes t _ _ | drops t _ | disowns t _ | tidies t _
  | releases t _ _ | glances t => some t

/-- The answer that the thread which takes the step returns with. -/
def Act.answer? : Act → Option Answered
  | refused _ a => some ⟨a, .error heldError⟩
  | expires _ a e => some ⟨a, .error (.context e)⟩
  | owns _ r | tells _ r => some r
  | leaves _ r | releases _ _ r => r
  | _ => none

namespace Shared

variable {ε : Type}

/-- The thread goes on with something else. -/
def sets (m : Shared ε) (t : Nat) (d : Doing) : Shared ε := { m with doing := Function.update m.doing t d }

/-- The connection as whoever has the lock sees it, with the number for a statement to be prepared. -/
def bare (m : Shared ε) (ticket : Nat) : Connection ε := ⟨m.engine, m.handler, none, ticket⟩

/-- The engine as somebody leaves it, at some time. -/
def put (m : Shared ε) (env : Env) (c : Connection ε) : Shared ε :=
  { m with engine := c.engine, handler := c.handler, env := env }

/-- What comes of a job when the engine is free for it. -/
def work (E : Engine ε) (m : Shared ε) (t : Nat) (a : Asked) : Connection.Run ε a.job.Answer :=
  a.job.run E ⟨a.ctx, t⟩ m.env (m.bare a.ticket)

/-- Tidies up after a transaction that is not finished. -/
def tidied (E : Engine ε) (m : Shared ε) (h : Holder) (finished : Bool) : Shared ε :=
  if finished then m
  else
    let (env, c, _) := (m.bare m.nextId).letGo E h.readOnly m.env
    m.put env c

/-- An atomic step. -/
inductive Step (E : Engine ε) : Shared ε → Act → Shared ε → Prop
  /-- Time passes, and signals may be cancelled. -/
  | passes {m : Shared ε} {env : Env} (later : m.env.Precedes env) : Step E m .passes { m with env := env }
  /-- Something is asked of the handle. -/
  | asks {m : Shared ε} {t : Nat} {job : Job} {ctx : Context} (idle : m.doing t = .idle)
      (handle : job.tx? = none) :
      Step E m (.asks t ⟨job, ctx, m.nextId⟩)
        ({ m with nextId := m.nextId + job.tickets }.sets t (.trying ⟨job, ctx, m.nextId⟩))
  | takes {m : Shared ε} {t : Nat} {a : Asked} (trying : m.doing t = .trying a) (free : m.lock = none) :
      Step E m (.takes t a) ({ m with lock := some t }.sets t (.inside a))
  | misses {m : Shared ε} {t u : Nat} {a : Asked} (trying : m.doing t = .trying a) (taken : m.lock = some u) :
      Step E m (.misses t a) (m.sets t (.shutOut a))
  | refused {m : Shared ε} {t : Nat} {a : Asked} (shut : m.doing t = .shutOut a) (own : m.owner = some t) :
      Step E m (.refused t a) (m.sets t .idle)
  | expires {m : Shared ε} {t : Nat} {a : Asked} {e : ContextError} (shut : m.doing t = .shutOut a)
      (other : m.owner ≠ some t) (ended : a.patience.err m.env = some e) :
      Step E m (.expires t a e) (m.sets t .idle)
  | dozes {m : Shared ε} {t : Nat} {a : Asked} (shut : m.doing t = .shutOut a) (other : m.owner ≠ some t)
      (lasting : a.patience.err m.env = none) :
      Step E m (.dozes t a) (m.sets t (.sleeping a (a.patience.sleepPlan m.env.now lockPoll)))
  | wakes {m : Shared ε} {t : Nat} {a : Asked} {p : SleepPlan} (sleeping : m.doing t = .sleeping a p)
      (rested : wakes? a.patience p m.env = some .rested) :
      Step E m (.wakes t a) (m.sets t (.trying a))
  | expiresAsleep {m : Shared ε} {t : Nat} {a : Asked} {p : SleepPlan} {e : ContextError}
      (sleeping : m.doing t = .sleeping a p) (ended : wakes? a.patience p m.env = some (.ended e)) :
      Step E m (.expires t a e) (m.sets t .idle)
  | runs {m : Shared ε} {t : Nat} {a : Asked} {res : Except RawError a.job.Answer}
      (inside : m.doing t = .inside a) (returned : Database.returned? (m.work E t a).reply = some res)
      (unheld : (m.work E t a).state.holder = none) :
      Step E m (.runs t a)
        ((m.put (m.work E t a).env (m.work E t a).state).sets t (.leaving (some ⟨a, res⟩)))
  /-- A transaction is begun. -/
  | begins {m : Shared ε} {t : Nat} {a : Asked} {res : Except RawError a.job.Answer} {h : Holder}
      (inside : m.doing t = .inside a) (returned : Database.returned? (m.work E t a).reply = some res)
      (held : (m.work E t a).state.holder = some h) :
      Step E m (.runs t a)
        ({ m.put (m.work E t a).env (m.work E t a).state with live := h :: m.live }.sets t (.begun ⟨a, res⟩ h))
  | owns {m : Shared ε} {t : Nat} {r : Answered} {h : Holder} (begun : m.doing t = .begun r h) :
      Step E m (.owns t r) ({ m with owner := some t }.sets t .idle)
  | leaves {m : Shared ε} {t : Nat} {r : Option Answered} (leaving : m.doing t = .leaving r) :
      Step E m (.leaves t r) ({ m with lock := none }.sets t .idle)
  /-- Something is asked of the thread's own transaction. -/
  | asksOwn {m : Shared ε} {t : Nat} {h : Holder} {job : Job} {ctx : Context} (idle : m.doing t = .idle)
      (live : h ∈ m.live) (own : h.thread = t) (asked : job.tx? = some h.tx) :
      Step E m (.asks t ⟨job, ctx, m.nextId⟩)
        ({ m with nextId := m.nextId + job.tickets }.sets t (.asking h ⟨job, ctx, m.nextId⟩))
  | tells {m : Shared ε} {t : Nat} {h : Holder} {a : Asked} {res : Except RawError a.job.Answer}
      (asking : m.doing t = .asking h a) (stays : a.job.isEnding = false)
      (returned : Database.returned? (m.work E t a).reply = some res) :
      Step E m (.tells t ⟨a, res⟩) ((m.put (m.work E t a).env (m.work E t a).state).sets t .idle)
  | finishes {m : Shared ε} {t : Nat} {h : Holder} {a : Asked} {r : Connection.Run ε a.job.Answer}
      {res : Except RawError a.job.Answer} (asking : m.doing t = .asking h a)
      (ending : a.job.ending? E h.readOnly ⟨a.ctx, t⟩ m.env (m.bare m.nextId) = some r)
      (returned : Database.returned? r.reply = some res) :
      Step E m (.finishes t h ⟨a, res⟩)
        ((m.put r.env r.state).sets t (.dropping h res.isOk (some ⟨a, res⟩)))
  /-- The transaction goes out of scope. -/
  | drops {m : Shared ε} {t : Nat} {h : Holder} (idle : m.doing t = .idle) (live : h ∈ m.live)
      (own : h.thread = t) : Step E m (.drops t h) (m.sets t (.dropping h false none))
  | disowns {m : Shared ε} {t : Nat} {h : Holder} {finished : Bool} {r : Option Answered}
      (dropping : m.doing t = .dropping h finished r) :
      Step E m (.disowns t h) ({ m with owner := none }.sets t (.disowned h finished r))
  | tidies {m : Shared ε} {t : Nat} {h : Holder} {finished : Bool} {r : Option Answered}
      (disowned : m.doing t = .disowned h finished r) :
      Step E m (.tidies t h) ((m.tidied E h finished).sets t (.releasing h r))
  | releases {m : Shared ε} {t : Nat} {h : Holder} {r : Option Answered} (releasing : m.doing t = .releasing h r) :
      Step E m (.releases t h r) ({ m with lock := none, live := m.live.erase h }.sets t .idle)
  /-- Somebody looks at the numbers. -/
  | glances {m : Shared ε} {t : Nat} (idle : m.doing t = .idle) (free : m.lock = none) :
      Step E m (.glances t) ({ m with lock := some t }.sets t (.leaving none))

/-- Steps one after another. -/
inductive Run (E : Engine ε) : Shared ε → List Act → Shared ε → Prop
  | nil (m : Shared ε) : Run E m [] m
  | cons {m m' m'' : Shared ε} {act : Act} {acts : List Act} (step : Step E m act m') (rest : Run E m' acts m'') :
      Run E m (act :: acts) m''

theorem Run.append {E : Engine ε} {m m' m'' : Shared ε} {acts acts' : List Act} (h : Run E m acts m')
    (h' : Run E m' acts' m'') : Run E m (acts ++ acts') m'' := by
  induction h with
  | nil => exact h'
  | cons hstep _ ih => exact .cons hstep (ih h')

/-- No thread but this one takes a step, while time may pass. -/
def Alone (t : Nat) (acts : List Act) : Prop := ∀ act ∈ acts, act = .passes ∨ act.thread? = some t

@[simp] theorem doing_sets_self {m : Shared ε} {t : Nat} {d : Doing} : (m.sets t d).doing t = d := by simp [sets]

theorem doing_sets_of_ne {m : Shared ε} {t u : Nat} {d : Doing} (h : u ≠ t) :
    (m.sets t d).doing u = m.doing u := by simp [sets, h]

/-- What holds of what every thread does holds still when one does something else of which it holds. -/
theorem forall_doing_of_update {m m' : Shared ε} {t : Nat} {d : Doing} {P : Doing → Prop} (h : ∀ u, P (m.doing u))
    (hdoing : m'.doing = Function.update m.doing t d) (hd : P d) (u : Nat) : P (m'.doing u) := by
  rw [hdoing]
  by_cases hut : u = t
  · rw [hut, Function.update_self]
    exact hd
  · rw [Function.update_of_ne hut]
    exact h u

/-- A connection that threads share, while none of them asks anything. The thread that holds it has the lock and
the transaction, and is noted as its owner. -/
def ofConnection (c : Connection ε) (env : Env) : Shared ε :=
  ⟨c.engine, c.handler, c.nextId, c.holder.map (·.thread), c.holder.map (·.thread), c.holder.toList, env,
    fun _ => .idle⟩

end Shared

end DbAccess.Sqlite
