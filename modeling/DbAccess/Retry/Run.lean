import DbAccess.Context.Basic
import DbAccess.Log
import DbAccess.Retry.Policy
/-!
# Retrying

`withRetry` runs an operation until it succeeds, fails with an error that is not worth another attempt, or
runs out of attempts. It asks its surroundings for two things only: to wait under a context, and to log.
-/

namespace DbAccess

/-- What retrying needs of its surroundings. A wait answers with the reason when its context ends first. -/
structure RetryHost (m : Type → Type) where
  sleep : Context → Span → m (Option ContextError)
  log : LogEvent → m Unit

namespace RetryPolicy

variable {m : Type → Type} [Monad m] {α : Type}

/-- Runs attempts from the given one on, with so many left after it. -/
def attempts (p : RetryPolicy) (host : RetryHost m) (ctx : Context) (op : m (Except Error α)) :
    (left attempt : Nat) → m (Except Error α)
  | left, attempt => do
    match ← op with
    | .ok a => return .ok a
    | .error e =>
      if !p.retryIf e then return .error e
      else match left with
        | 0 => do
          host.log (.retriesExhausted attempt e)
          return .error (.retry attempt e)
        | left + 1 => do
          match ← host.sleep ctx (p.delayFor attempt) with
          | some cause => return .error (.ofKind .timeout (.context cause))
          | none => attempts p host ctx op left (attempt + 1)

/-- Runs the operation under the policy. -/
def withRetry (p : RetryPolicy) (host : RetryHost m) (ctx : Context) (op : m (Except Error α)) :
    m (Except Error α) :=
  match p.validate with
  | .error e => return .error e
  | .ok () => p.attempts host ctx op (p.maxAttempts - 1) 1

end RetryPolicy

end DbAccess
