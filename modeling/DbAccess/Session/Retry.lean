import DbAccess.Context.Sleep
import DbAccess.Retry.Run
import DbAccess.Session.World
/-!
# Waiting and retrying in a session
-/

namespace DbAccess.SessionM

variable {δ σ ν α : Type}

/-- Sleeps under a context from a moment later on, and answers with the reason when the context ends first. -/
def sleep (ctx : Context) (d : Span) : SessionM δ σ ν (Option ContextError) := fun w =>
  let (r, env) := ctx.sleep w.env.tick d
  let w := { w with env := env }
  match r with
  | .rested => ⟨.value none, w, []⟩
  | .ended e => ⟨.value (some e), w, []⟩
  | .forever => ⟨.stuck, w, []⟩

/-- What a session offers to retrying. -/
def retryHost : RetryHost (SessionM δ σ ν) := ⟨sleep, log⟩

/-- Runs an operation under a retry policy. -/
def retry (p : RetryPolicy) (ctx : Context) (op : SessionM δ σ ν α) : SessionM δ σ ν α := do
  ofExcept (← p.withRetry retryHost ctx (attempt op))

end DbAccess.SessionM
