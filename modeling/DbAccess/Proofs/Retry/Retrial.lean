import DbAccess.Proofs.Session.Program
import DbAccess.Session.Retry
/-!
# Retrying a transaction

A `Retrial` is a transaction with a retry policy, the body of every attempt, and what comes of the waits between
them. `Retrial.run` puts it to the policy in a session that counts the attempts. The count can be done without:
`run_eq_loop` says that the run is a plain loop, and `run_ofBody` that with the same body in each attempt it is
what a session does that does not count. Both are readings of the one recursion behind retrying.
-/

namespace DbAccess

variable {δ σ ν α : Type}

/-- A transaction that is retried. Attempts are counted from one, and each has a body of its own, as code has
that counts them; a wait can come to anything, as it does when others cancel its context. -/
structure Retrial (α : Type) where
  ctx : Context
  opts : TxOptions
  policy : RetryPolicy
  body : Nat → TxId → Program α
  /-- What comes of a sleep after an attempt. -/
  wait : Nat → Context → Span → Env → SleepResult × Env

namespace Retrial

open SessionM

variable (t : Retrial α) (db : Database δ σ ν)

/-! ### The loop -/

/-- The transaction of an attempt. -/
def transaction (k : Nat) : SessionM δ σ ν α :=
  db.runInTransaction t.ctx t.opts fun tx => (t.body k tx).run db

/-- One more attempt after so many. -/
def attempt : StateT Nat (SessionM δ σ ν) (Except Error α) := fun n => do
  let r ← SessionM.attempt (t.transaction db (n + 1))
  return (r, n + 1)

/-- The wait after an attempt. -/
def sleep (k : Nat) (ctx : Context) (d : Span) : SessionM δ σ ν (Option ContextError) := fun w =>
  let r := t.wait k ctx d w.env
  let w := { w with env := r.2 }
  match r.1 with
  | .rested => ⟨.value none, w, []⟩
  | .ended e => ⟨.value (some e), w, []⟩
  | .forever => ⟨.stuck, w, []⟩

/-- What a session that counts attempts offers to retrying. -/
def host : RetryHost (StateT Nat (SessionM δ σ ν)) where
  sleep ctx d := fun n => do return (← t.sleep n ctx d, n)
  log e := fun n => do return (← SessionM.log e, n)

/-- The transaction under its policy. -/
def run : SessionM δ σ ν α := do
  let r ← (t.policy.withRetry t.host t.ctx (t.attempt db)).run 0
  ofExcept r.1

/-- Attempts after so many, with so many left after the first of them. -/
def loop : (left n : Nat) → SessionM δ σ ν α
  | left, n => do
    match ← SessionM.attempt (t.transaction db (n + 1)) with
    | .ok a => return a
    | .error e =>
      if !t.policy.retryIf e then fail e
      else match left with
        | 0 => do
          SessionM.log (.retriesExhausted (n + 1) e)
          fail (.retry (n + 1) e)
        | left + 1 => do
          match ← t.sleep (n + 1) t.ctx (t.policy.delayFor (n + 1)) with
          | some cause => fail (.ofKind .timeout (.context cause))
          | none => loop left (n + 1)

section reading

variable {m : Type → Type} [Monad m]

/-- A way to read retrying somewhere else as computations of a session, after so many attempts. -/
structure Reading (host : RetryHost m) (op : m (Except Error α)) where
  read : Nat → m (Except Error α) → SessionM δ σ ν α
  read_pure (n : Nat) (r : Except Error α) : read n (pure r) = ofExcept r
  read_attempt (n : Nat) (f : Except Error α → m (Except Error α)) :
    read n (op >>= f) = SessionM.attempt (t.transaction db (n + 1)) >>= fun r => read (n + 1) (f r)
  read_sleep (n : Nat) (ctx : Context) (d : Span) (f : Option ContextError → m (Except Error α)) :
    read n (host.sleep ctx d >>= f) = t.sleep n ctx d >>= fun r => read n (f r)
  read_log (n : Nat) (e : LogEvent) (f : Unit → m (Except Error α)) :
    read n (host.log e >>= f) = SessionM.log e >>= fun u => read n (f u)

variable {t db} {host : RetryHost m} {op : m (Except Error α)}

theorem Reading.read_attempts (s : t.Reading db host op) (left n : Nat) :
    s.read n (t.policy.attempts host t.ctx op left (n + 1)) = t.loop db left n := by
  rw [RetryPolicy.attempts.eq_def, loop.eq_def, s.read_attempt]
  congr
  funext r
  cases r with
  | ok a => exact s.read_pure _ _
  | error e =>
      simp only
      cases t.policy.retryIf e with
      | false => exact s.read_pure _ _
      | true =>
          simp only [Bool.not_true, Bool.false_eq_true, if_false]
          cases left with
          | zero =>
              simp only [s.read_log, s.read_pure]
              rfl
          | succ left =>
              simp only [s.read_sleep]
              congr
              funext r
              cases r with
              | some cause => exact s.read_pure _ _
              | none => exact s.read_attempts left (n + 1)

theorem Reading.read_withRetry (s : t.Reading db host op) :
    s.read 0 (t.policy.withRetry host t.ctx op) =
      if t.policy.maxAttempts = 0 then fail (.config .noAttempts)
      else t.loop db (t.policy.maxAttempts - 1) 0 := by
  rw [RetryPolicy.withRetry, RetryPolicy.validate]
  split
  · rename_i hrefused
    split at hrefused
    · rename_i hzero
      cases hrefused
      rw [if_pos hzero, s.read_pure]
      rfl
    · cases hrefused
  · rename_i haccepted
    split at haccepted
    · cases haccepted
    · rename_i hpos
      rw [if_neg hpos]
      exact s.read_attempts _ 0

end reading

theorem run_eq_loop :
    t.run db = if t.policy.maxAttempts = 0 then fail (.config .noAttempts)
      else t.loop db (t.policy.maxAttempts - 1) 0 :=
  let counted : t.Reading db t.host (t.attempt db) := {
    read n x := x.run n >>= fun r => ofExcept r.1
    read_pure _ _ := rfl
    read_attempt n f := by
      rw [StateT.run_bind, bind_assoc]
      exact bind_assoc _ _ _
    read_sleep n ctx d f := by
      rw [StateT.run_bind, bind_assoc]
      exact bind_assoc _ _ _
    read_log n e f := by
      rw [StateT.run_bind, bind_assoc]
      exact bind_assoc _ _ _ }
  counted.read_withRetry

/-- A transaction with the same body in each attempt, and with sleeps that nobody interferes with. -/
def ofBody (ctx : Context) (opts : TxOptions) (p : RetryPolicy) (body : TxId → Program α) : Retrial α :=
  ⟨ctx, opts, p, fun _ => body, fun _ ctx d env => ctx.sleep env.tick d⟩

/-- Such a transaction is retried as a session retries any computation. -/
theorem run_ofBody (ctx : Context) (opts : TxOptions) (p : RetryPolicy) (body : TxId → Program α) :
    (ofBody ctx opts p body).run db =
      retry p ctx (db.runInTransaction ctx opts fun tx => (body tx).run db) := by
  let t := ofBody ctx opts p body
  let uncounted : t.Reading db retryHost (SessionM.attempt (t.transaction db 1)) := {
    read _ x := x >>= ofExcept
    read_pure _ _ := rfl
    read_attempt _ _ := bind_assoc _ _ _
    read_sleep _ _ _ _ := bind_assoc _ _ _
    read_log _ _ _ := bind_assoc _ _ _ }
  rw [run_eq_loop]
  exact uncounted.read_withRetry.symm

end Retrial

end DbAccess
