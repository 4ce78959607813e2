import DbAccess.Context.Sleep
/-!
# Scopes

A `Scope` holds the contexts, cancel handles and watchers that a program has under names, together with
the clock and the signals. A signal is alive while a named context or handle holds it, or a context that a
computation uses meanwhile. What a program does with contexts is a `ContextOp`, and `Scope.step` carries it
out; each step takes a moment of time.
-/

namespace DbAccess

/-- Named contexts, handles and watchers. -/
structure Scope where
  env : Env
  contexts : List (String × Context)
  handles : List (String × SignalId)
  watchers : List (String × Watcher)
  /-- The contexts that computations use, the one that began last first. -/
  inUse : List Context
deriving Repr

/-- What a program does with contexts. The first name of a derivation is the new one. -/
inductive ContextOp where
  | timeout (name source : String) (d : Span)
  | cancelable (name source : String)
  | orTimeout (name source : String) (d : Option Span)
  | deadline (name source : String) (t : Instant)
  /-- Takes over the deadline of another context, when that has one. -/
  | deadlineOf (name source other : String)
  | clone (name source : String)
  | cancel (handle : String)
  | dropContext (name : String)
  | dropHandle (name : String)
  | watch (name source : String)
  | sleep (name : String) (d : Span)
  /-- Sleeps while another thread cancels a handle three milliseconds later. -/
  | sleepCancel (name handle : String) (d : Span)
  /-- Looks at a handle. -/
  | handle (name : String)
  /-- Looks at a context. -/
  | probe (name : String)
  /-- Compares two deadlines. -/
  | compare (a b : String)
  /-- Looks through a watcher. -/
  | watchProbe (watcher : String)
deriving DecidableEq, Repr

/-- What can be seen of a context. -/
structure ContextView where
  state : ContextState
  err : Option ContextError
  canEnd : Bool
  /-- The time that is left, when there is a deadline. -/
  remaining : Option Span
  /-- The diagnostic text of a context without deadline. -/
  shown : Option String
deriving DecidableEq, Repr

/-- What can be seen of a context now. -/
def Context.view (c : Context) (env : Env) : ContextView :=
  ⟨c.state env, c.err env, c.canEnd, c.remaining env,
    if c.deadline.isSome then none else some (c.diagnostic env)⟩

/-- What an operation on contexts is answered with. -/
inductive ContextAnswer where
  | done
  | slept (r : SleepResult)
  /-- There was something of that name. -/
  | existed (b : Bool)
  | handle (cancelled : Bool)
  | context (v : Option ContextView)
  /-- The order of two deadlines, when there are two. -/
  | order (o : Option Ordering)
  | watched (isDone : Bool)
deriving DecidableEq, Repr

/-- A cancel handle in diagnostic text. -/
def handleDiagnostic (cancelled : Bool) : String :=
  Text.recordText "CancelHandle" [("cancelled", Text.boolText cancelled)]

namespace Scope

/-- Puts an entry under a name, in place of the one it had. -/
def put {α : Type} (l : List (String × α)) (name : String) (a : α) : List (String × α) :=
  (name, a) :: l.filter fun e => e.1 != name

/-- Forgets the entry of a name. -/
def forget {α : Type} (l : List (String × α)) (name : String) : List (String × α) :=
  l.filter fun e => e.1 != name

/-- One day on the clock. -/
def start : Instant := 86400 * nanosPerSecond

/-- The background context under its name, and nothing else, at an instant. -/
def fresh (t : Instant) : Scope := ⟨⟨t, []⟩, [("bg", .background)], [], [], []⟩

/-- The scope that programs begin with. -/
def initial : Scope := fresh start

/-- The context of a name. -/
def context? (s : Scope) (name : String) : Option Context := s.contexts.lookup name

/-- Somebody holds the signal. -/
def isAlive (s : Scope) (id : SignalId) : Bool :=
  s.contexts.any (fun e => e.2.signal = some id) || s.handles.any (fun e => e.2 = id) ||
    s.inUse.any (fun c => c.signal = some id)

/-- A moment passes. -/
def tick (s : Scope) : Scope := { s with env := s.env.tick }

/-- A computation begins to use a context. -/
def hold (s : Scope) (c : Context) : Scope := { s with inUse := c :: s.inUse }

/-- The computation that began last does not use its context any longer. -/
def release (s : Scope) : Scope := { s with inUse := s.inUse.drop 1 }

/-- Cancels the signal of a handle in another state of clock and signals. -/
def cancelIn (s : Scope) (handle : String) (env : Env) : Env :=
  match s.handles.lookup handle with
  | some id => env.cancel s.isAlive id
  | none => env

/-- Names a context. -/
def bind (s : Scope) (name : String) (c : Context) : Scope :=
  { s with contexts := put s.contexts name c }

/-- Derives a context from a named one. -/
def derive (s : Scope) (name source : String) (f : Context → Context) : Scope :=
  match s.context? source with
  | some c => s.bind name (f c)
  | none => s

/-- The deadline of a named context. -/
def deadline? (s : Scope) (name : String) : Option Instant := (s.context? name).bind (·.deadline)

/-- The order of two deadlines. -/
def order (a b : Option Instant) : Option Ordering :=
  match a, b with
  | some a, some b => some (Ord.compare a b)
  | _, _ => none

/-- Sleeps under a named context. -/
def sleepUnder (s : Scope) (name : String) (f : Context → SleepResult × Env) :
    ContextAnswer × Scope :=
  match s.context? name with
  | some c =>
    let (r, env) := f c
    (.slept r, { s with env := env })
  | none => (.done, s)

/-- Carries out one operation at its moment. Names that stand for nothing change nothing. -/
def perform (s : Scope) : ContextOp → ContextAnswer × Scope
  | .timeout name source d => (.done, s.derive name source fun c => c.withTimeout s.env d)
  | .cancelable name source =>
    match s.context? source with
    | some c =>
      let (c, id, env) := c.withCancel s.env s.isAlive
      (.done, { s.bind name c with env := env, handles := put s.handles name id })
    | none => (.done, s)
  | .orTimeout name source d => (.done, s.derive name source fun c => c.orTimeout s.env d)
  | .deadline name source t => (.done, s.derive name source fun c => c.withDeadline t)
  | .deadlineOf name source other =>
    (.done, s.derive name source fun c =>
      match s.deadline? other with
      | some t => c.withDeadline t
      | none => c)
  | .clone name source => (.done, s.derive name source id)
  | .cancel handle => (.done, { s with env := s.cancelIn handle s.env })
  | .dropContext name =>
    (.existed (s.context? name).isSome, { s with contexts := forget s.contexts name })
  | .dropHandle name =>
    (.existed (s.handles.lookup name).isSome, { s with handles := forget s.handles name })
  | .watch name source =>
    match s.context? source with
    | some c => (.done, { s with watchers := put s.watchers name c.watcher })
    | none => (.done, s)
  | .sleep name d => s.sleepUnder name fun c => c.sleep s.env d
  | .sleepCancel name handle d =>
    s.sleepUnder name fun c =>
      c.sleepDuring s.env d (s.env.now + 3 * nanosPerMilli) (s.cancelIn handle)
  | .handle name => (.handle ((s.handles.lookup name).any s.env.isCancelled), s)
  | .probe name => (.context ((s.context? name).map fun c => c.view s.env), s)
  | .compare a b => (.order (order (s.deadline? a) (s.deadline? b)), s)
  | .watchProbe watcher => (.watched ((s.watchers.lookup watcher).any (·.isDone s.env)), s)

/-- Carries out one operation, after a moment has passed. -/
def step (s : Scope) (op : ContextOp) : ContextAnswer × Scope := s.tick.perform op

/-- Carries out operations in order. -/
def run (s : Scope) : List ContextOp → List ContextAnswer × Scope
  | [] => ([], s)
  | op :: ops =>
    let (a, s) := s.step op
    let (as, s) := s.run ops
    (a :: as, s)

end Scope

end DbAccess
