import DbAccess.Context.Scope
import DbAccess.Retry.Run
/-!
# Retrying an operation whose outcomes are known

A `Trial` retries an operation that ends as a list says, the last outcome standing for all later ones. At the
beginning of one attempt a handle may be cancelled.
-/

namespace DbAccess.Scenario

/-- A trial. Values are of a type of its own. -/
structure Trial (ρ : Type) where
  policy : RetryPolicy
  outcomes : List (Except Error ρ)
  /-- What is done with contexts before. -/
  setup : List ContextOp
  ctx : String
  /-- The attempt at whose beginning a handle is cancelled. -/
  cancel : Option (Nat × String)

/-- The state of a trial: contexts, the number of attempts so far, and the log. -/
structure TrialState where
  scope : Scope
  attempts : Nat
  log : List LogEvent

/-- A computation of a trial, which may never end. -/
abbrev TrialM := StateT TrialState Option

/-- What came of a trial. -/
structure TrialReport (ρ : Type) where
  setup : List ContextAnswer
  result : Except Error ρ
  attempts : Nat
  log : List LogEvent

/-- What a trial offers to retrying. -/
def trialHost : RetryHost TrialM where
  sleep ctx d s :=
    let (r, env) := ctx.sleep s.scope.env.tick d
    let s := { s with scope := { s.scope with env := env } }
    match r with
    | .rested => some (none, s)
    | .ended e => some (some e, s)
    | .forever => none
  log e s := some ((), { s with log := s.log ++ [e] })

namespace Trial

variable {ρ : Type}

/-- The outcome of an attempt, counted from zero. -/
def outcome? (t : Trial ρ) (i : Nat) : Option (Except Error ρ) :=
  (t.outcomes[i]?).or t.outcomes.getLast?

/-- One attempt. -/
def attempt (t : Trial ρ) : TrialM (Except Error ρ) := fun s =>
  let scope := match t.cancel with
    | some (n, handle) => if n = s.attempts + 1 then (s.scope.step (.cancel handle)).2 else s.scope
    | none => s.scope
  (t.outcome? s.attempts).map fun o => (o, { s with scope := scope, attempts := s.attempts + 1 })

/-- Carries a trial out, if it comes to an end. -/
def run? (t : Trial ρ) : Option (TrialReport ρ) :=
  let (answers, scope) := Scope.initial.run t.setup
  let ctx := (scope.context? t.ctx).getD .background
  ((t.policy.withRetry trialHost ctx t.attempt).run ⟨scope, 0, []⟩).map fun (r, s) =>
    ⟨answers, r, s.attempts, s.log⟩

end Trial

end DbAccess.Scenario
