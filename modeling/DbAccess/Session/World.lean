import DbAccess.Driver.Call
import DbAccess.Hook.Basic
/-!
# Sessions as computations

What a program does with a database is a `SessionM`: it runs in a world, ends with an outcome, and leaves a
trace of the driver calls, hook events and log events that occurred, in order. A failure or a panic ends
the computation; `attempt` takes a failure as a result, and `catching` looks at any outcome.
-/

namespace DbAccess

/-- The world of a session: clock and signals, the states of driver and hooks, the running thread, and the
transactions that are begun and not finished. -/
structure World (δ σ : Type) where
  env : Env
  driver : δ
  hooks : σ
  thread : Nat
  active : List TxId
  nextTx : TxId

/-- Something that occurred. -/
inductive Event (ν : Type) where
  /-- A call reached the driver under the context, which was in this state then. -/
  | call (c : DriverCall) (ctx : Context) (state : ContextState)
  /-- A factory was asked to connect. -/
  | opened (factory dsn : String)
  | hook (e : HookEvent ν)
  | log (e : LogEvent)
deriving Repr

/-- How a computation ends. -/
inductive Outcome (α : Type) where
  | value (a : α)
  | failed (e : Error)
  | panicked (text : String)
  /-- It never ends. -/
  | stuck
deriving Repr

/-- What came of a computation. -/
structure SessionRun (δ σ ν α : Type) where
  outcome : Outcome α
  world : World δ σ
  trace : List (Event ν)

/-- A computation on a database. -/
def SessionM (δ σ ν α : Type) := World δ σ → SessionRun δ σ ν α

namespace SessionM

variable {δ σ ν α β : Type}

/-- Ends with a value. -/
def ret (a : α) : SessionM δ σ ν α := fun w => ⟨.value a, w, []⟩

/-- Goes on with the value of a computation, if it has one. -/
def andThen (x : SessionM δ σ ν α) (f : α → SessionM δ σ ν β) : SessionM δ σ ν β := fun w =>
  let r := x w
  match r.outcome with
  | .value a =>
    let s := f a r.world
    ⟨s.outcome, s.world, r.trace ++ s.trace⟩
  | .failed e => ⟨.failed e, r.world, r.trace⟩
  | .panicked text => ⟨.panicked text, r.world, r.trace⟩
  | .stuck => ⟨.stuck, r.world, r.trace⟩

instance : Monad (SessionM δ σ ν) where
  pure := ret
  bind := andThen

/-- Ends with a failure. -/
def fail (e : Error) : SessionM δ σ ν α := fun w => ⟨.failed e, w, []⟩

/-- Ends with a panic. -/
def panicWith (text : String) : SessionM δ σ ν α := fun w => ⟨.panicked text, w, []⟩

/-- Ends with the outcome. -/
def finish (o : Outcome α) : SessionM δ σ ν α := fun w => ⟨o, w, []⟩

/-- The result as a value or a failure. -/
def ofExcept : Except Error α → SessionM δ σ ν α
  | .ok a => ret a
  | .error e => fail e

/-- The world. -/
def world : SessionM δ σ ν (World δ σ) := fun w => ⟨.value w, w, []⟩

/-- Clock and signals. -/
def env : SessionM δ σ ν Env := fun w => ⟨.value w.env, w, []⟩

/-- A moment passes. -/
def tick : SessionM δ σ ν Unit := fun w => ⟨.value (), { w with env := w.env.tick }, []⟩

/-- Changes the world. -/
def modify (f : World δ σ → World δ σ) : SessionM δ σ ν Unit := fun w => ⟨.value (), f w, []⟩

/-- Leaves events in the trace. -/
def emit (es : List (Event ν)) : SessionM δ σ ν Unit := fun w => ⟨.value (), w, es⟩

/-- Logs an event. -/
def log (e : LogEvent) : SessionM δ σ ν Unit := emit [.log e]

/-- Runs a computation and looks at its outcome. -/
def catching (x : SessionM δ σ ν α) : SessionM δ σ ν (Outcome α) := fun w =>
  let r := x w
  ⟨.value r.outcome, r.world, r.trace⟩

/-- Runs a computation and takes a failure as a result. -/
def attempt (x : SessionM δ σ ν α) : SessionM δ σ ν (Except Error α) := fun w =>
  let r := x w
  match r.outcome with
  | .value a => ⟨.value (.ok a), r.world, r.trace⟩
  | .failed e => ⟨.value (.error e), r.world, r.trace⟩
  | .panicked text => ⟨.panicked text, r.world, r.trace⟩
  | .stuck => ⟨.stuck, r.world, r.trace⟩

end SessionM

end DbAccess
