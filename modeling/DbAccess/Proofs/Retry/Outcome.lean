import DbAccess.Proofs.Context.Sleep
import DbAccess.Retry.Run
import Mathlib.Data.Nat.Find
/-!
# How retrying ends

A `Course` is what retrying meets: what the attempts end with, what happens to the clock and the signals
during them, and which signals somebody cancels during the waits. `RetryPolicy.withRetry_ends` says of
every course after which attempt retrying is over, what has been done until then, and what it ends with.

A wait that is too long for the clock is endless under a context without a deadline whose signal nobody cancels
(`Course.Hangs`). Retrying goes no further than such a wait, and does not end (`withRetry_hangs_of_leisurely`).
-/

namespace DbAccess

/-- A signal is cancelled elsewhere, at an instant. -/
structure Cancellation where
  instant : Instant
  root : SignalId
  /-- The signals that somebody holds then. -/
  alive : SignalId → Bool

namespace Cancellation

/-- What a cancellation does. -/
def act (x : Cancellation) (env : Env) : Env := env.cancel x.alive x.root

theorem precedes_happens (x : Cancellation) (env : Env) : env.Precedes (x.act (env.advanceTo x.instant)) :=
  (env.precedes_advanceTo x.instant).trans (Env.precedes_cancel _ x.alive x.root)

end Cancellation

/-- What retrying meets. Attempts are counted from one. -/
structure Course (α : Type) where
  /-- Clock and signals at the beginning. -/
  start : Env
  /-- What an attempt ends with. -/
  outcome : Nat → Except Error α
  /-- What happens to clock and signals during an attempt. -/
  during : Nat → Env → Env
  /-- What happens elsewhere during the wait after an attempt. -/
  beside? : Nat → Option Cancellation

/-- What retrying does. -/
inductive RetryStep where
  | called
  | waited (ctx : Context) (d : Span)
deriving DecidableEq, Repr

/-- A moment of a course: clock and signals, the number of attempts so far, what has been done, and what has
been logged. -/
structure CourseState where
  env : Env
  attempts : Nat
  steps : List RetryStep
  log : List LogEvent

/-- A computation that meets a course, and may never end. -/
abbrev CourseM := OptionT (StateM CourseState)

/-- The run of a computation from a moment of the course: its value, if it ends, and the moment it has
come to. -/
def CourseM.run {β : Type} (x : CourseM β) (s : CourseState) : Option β × CourseState :=
  StateT.run (OptionT.run x) s

namespace Course

variable {α : Type} (c : Course α)

/-- An attempt. -/
def attempt : CourseM (Except Error α) :=
  .mk fun s =>
    let i := s.attempts + 1
    (some (c.outcome i), { s with env := c.during i s.env, attempts := i, steps := s.steps ++ [.called] })

/-- A sleep after an attempt. -/
def sleep (ctx : Context) (i : Nat) (env : Env) (d : Span) : SleepResult × Env :=
  match c.beside? i with
  | some x => ctx.sleepDuring env.tick d x.instant x.act
  | none => ctx.sleep env.tick d

/-- What a course offers to retrying. -/
def host : RetryHost CourseM where
  sleep ctx d := .mk fun s =>
    let r := c.sleep ctx s.attempts s.env d
    let s := { s with env := r.2, steps := s.steps ++ [.waited ctx d] }
    match r.1 with
    | .rested => (some none, s)
    | .ended e => (some (some e), s)
    | .forever => (none, s)
  log e := .mk fun s => (some (), { s with log := s.log ++ [e] })

theorem endedBy_sleep {ctx : Context} {i : Nat} {env : Env} {d : Span} {e : ContextError}
    (h : (c.sleep ctx i env d).1 = .ended e) : ctx.EndedBy (c.sleep ctx i env d).2 e := by
  unfold sleep at h ⊢
  cases hbeside : c.beside? i with
  | none =>
      simp only [hbeside] at h
      exact Context.endedBy_sleep h
  | some x =>
      simp only [hbeside] at h
      exact (ctx.sleptDuring env.tick d x.instant x.act).endedBy x.precedes_happens h

theorem sleep_eq_forever_iff {ctx : Context} {i : Nat} {env : Env} {d : Span} :
    (c.sleep ctx i env d).1 = .forever ↔ ctx.Endless env.tick.now d (c.sleep ctx i env d).2 := by
  unfold sleep
  cases c.beside? i with
  | none => exact Context.sleep_eq_forever_iff
  | some x => exact (ctx.sleptDuring env.tick d x.instant x.act).eq_forever_iff x.precedes_happens

/-! ### The moments of a course -/

/-- The beginning. -/
def initial : CourseState := ⟨c.start, 0, [], []⟩

variable (p : RetryPolicy) (ctx : Context)

/-- Clock and signals after so many attempts and the waits after them. -/
def rested : Nat → Env
  | 0 => c.start
  | i + 1 => (c.sleep ctx (i + 1) (c.during (i + 1) (rested i)) (p.delayFor (i + 1))).2

/-- Clock and signals after an attempt. -/
def tried (k : Nat) : Env := c.during k (c.rested p ctx (k - 1))

/-- The wait after an attempt. -/
def wait (k : Nat) : SleepResult × Env := c.sleep ctx k (c.tried p ctx k) (p.delayFor k)

/-- So many attempts, and a wait after each. -/
def rounds (n : Nat) : List RetryStep :=
  (List.range n).flatMap fun i => [.called, .waited ctx (p.delayFor (i + 1))]

/-- The moment before one more attempt. -/
def before (n : Nat) : CourseState := ⟨c.rested p ctx n, n, rounds p ctx n, []⟩

/-- The moment after an attempt. -/
def after (k : Nat) : CourseState := ⟨c.tried p ctx k, k, rounds p ctx (k - 1) ++ [.called], []⟩

/-- The moment after an attempt and the wait after it. -/
def slept (k : Nat) : CourseState :=
  ⟨(c.wait p ctx k).2, k, rounds p ctx (k - 1) ++ [.called, .waited ctx (p.delayFor k)], []⟩

theorem slept_succ (n : Nat) : c.slept p ctx (n + 1) = c.before p ctx (n + 1) := by
  have hrounds : rounds p ctx (n + 1) = rounds p ctx n ++ [.called, .waited ctx (p.delayFor (n + 1))] := by
    simp [rounds, List.range_succ]
  rw [before, hrounds]
  rfl

/-! ### Where retrying is over -/

/-- Retrying is over with the attempt: it succeeds, fails with an error that is not worth another attempt, or
is the last one, or the wait after it is ended by the context. -/
def Stops (k : Nat) : Prop :=
  match c.outcome k with
  | .ok _ => True
  | .error e => p.retryIf e = false ∨ k = p.maxAttempts ∨ ∃ cause, (c.wait p ctx k).1 = .ended cause

/-- There is to be another attempt, but nothing ends the wait for it. -/
structure Hangs (k : Nat) : Prop where
  accepted : ∃ e, c.outcome k = .error e ∧ p.retryIf e = true
  more : k < p.maxAttempts
  endless : ctx.Endless (c.tried p ctx k).tick.now (p.delayFor k) (c.wait p ctx k).2

/-- There is another attempt, after a wait that is slept to its end. -/
structure GoesOn (k : Nat) : Prop where
  accepted : ∃ e, c.outcome k = .error e ∧ p.retryIf e = true
  more : k < p.maxAttempts
  wait : (c.wait p ctx k).1 = .rested

/-- How retrying ends that is over with an attempt, and at which moment: it returns. -/
inductive Ends (k : Nat) : Option (Except Error α) × CourseState → Prop
  /-- With the value. -/
  | succeeded {a : α} (h : c.outcome k = .ok a) : Ends k (some (.ok a), c.after p ctx k)
  /-- With the error itself. -/
  | rejected {e : Error} (h : c.outcome k = .error e) (hreject : p.retryIf e = false) :
    Ends k (some (.error e), c.after p ctx k)
  /-- With the last error and the number of attempts. -/
  | exhausted {e : Error} (h : c.outcome k = .error e) (haccept : p.retryIf e = true)
      (hlast : k = p.maxAttempts) :
    Ends k (some (.error (.retry k e)), { c.after p ctx k with log := [.retriesExhausted k e] })
  /-- With the reason for which the context has ended. -/
  | interrupted {e : Error} {cause : ContextError} (h : c.outcome k = .error e)
      (haccept : p.retryIf e = true) (hmore : k < p.maxAttempts)
      (hwait : (c.wait p ctx k).1 = .ended cause) (hcause : ctx.EndedBy (c.wait p ctx k).2 cause) :
    Ends k (some (.error (.ofKind .timeout (.context cause))), c.slept p ctx k)

end Course

namespace CourseM

variable {α β : Type}

theorem run_bind (x : CourseM α) (f : α → CourseM β) (s : CourseState) :
    CourseM.run (x >>= f) s =
      match CourseM.run x s with
      | (some a, s') => CourseM.run (f a) s'
      | (none, s') => (none, s') := by
  unfold CourseM.run OptionT.run StateT.run
  simp only [bind, OptionT.bind, OptionT.mk, StateT.bind]
  cases x s with
  | mk o s' => cases o <;> rfl

theorem run_pure (a : α) (s : CourseState) : CourseM.run (pure a) s = (some a, s) := rfl

end CourseM

namespace Course

variable {α : Type} (c : Course α) (p : RetryPolicy) (ctx : Context)

theorem run_attempt (n : Nat) :
    CourseM.run c.attempt (c.before p ctx n) = (some (c.outcome (n + 1)), c.after p ctx (n + 1)) :=
  rfl

theorem run_sleep (k : Nat) :
    CourseM.run (c.host.sleep ctx (p.delayFor k)) (c.after p ctx k) =
      (match (c.wait p ctx k).1 with
        | .rested => some none
        | .ended e => some (some e)
        | .forever => none, c.slept p ctx k) := by
  have hslept : c.slept p ctx k =
      ⟨(c.wait p ctx k).2, k, (c.after p ctx k).steps ++ [.waited ctx (p.delayFor k)], []⟩ := by
    simp [slept, after]
  rw [hslept]
  show (match (c.wait p ctx k).1 with
    | .rested => _
    | .ended e => _
    | .forever => _) = _
  cases (c.wait p ctx k).1 <;> rfl

/-- The run of what is left before one more attempt after so many. -/
def runAfter (n : Nat) : Option (Except Error α) × CourseState :=
  CourseM.run (p.attempts c.host ctx c.attempt (p.maxAttempts - (n + 1)) (n + 1)) (c.before p ctx n)

variable {c p ctx} {n k : Nat}

theorem runAfter_eq (hbound : n < p.maxAttempts) :
    c.runAfter p ctx n =
      match c.outcome (n + 1) with
      | .ok a => (some (.ok a), c.after p ctx (n + 1))
      | .error e =>
        if p.retryIf e = false then (some (.error e), c.after p ctx (n + 1))
        else if n + 1 = p.maxAttempts then
          (some (.error (.retry (n + 1) e)),
            { c.after p ctx (n + 1) with log := [.retriesExhausted (n + 1) e] })
        else
          match (c.wait p ctx (n + 1)).1 with
          | .ended cause =>
            (some (.error (.ofKind .timeout (.context cause))), c.slept p ctx (n + 1))
          | .forever => (none, c.slept p ctx (n + 1))
          | .rested => c.runAfter p ctx (n + 1) := by
  rw [runAfter, RetryPolicy.attempts.eq_def, CourseM.run_bind, run_attempt]
  cases c.outcome (n + 1) with
  | ok a => rfl
  | error e =>
      cases haccept : p.retryIf e with
      | false => simp [haccept, CourseM.run_pure]
      | true =>
          simp only [haccept, Bool.not_true, Bool.true_eq_false, Bool.false_eq_true, if_false]
          obtain ⟨left, hleft⟩ : ∃ left, p.maxAttempts = n + 1 + left := ⟨_, (Nat.add_sub_cancel' hbound).symm⟩
          have hsub : p.maxAttempts - (n + 1) = left := by omega
          rw [hsub]
          cases left with
          | zero =>
              rw [if_pos hleft.symm]
              rfl
          | succ left =>
              have hmore : ¬ n + 1 = p.maxAttempts := by omega
              have hsub' : p.maxAttempts - (n + 1 + 1) = left := by omega
              rw [if_neg hmore]
              simp only [CourseM.run_bind, run_sleep, ← slept_succ, runAfter, hsub']
              cases (c.wait p ctx (n + 1)).1 <;> rfl

/-- An attempt with which retrying is not over leads on to the next one, or to an endless wait. -/
theorem goesOn_of_not (hbound : k < p.maxAttempts) (hstops : ¬ c.Stops p ctx k) (hhangs : ¬ c.Hangs p ctx k) :
    c.GoesOn p ctx k := by
  rw [Stops] at hstops
  cases hout : c.outcome k with
  | ok a =>
      rw [hout] at hstops
      exact absurd trivial hstops
  | error e =>
      simp only [hout, not_or, not_exists, Bool.not_eq_false] at hstops
      obtain ⟨haccept, -, hended⟩ := hstops
      have haccepted : ∃ e, c.outcome k = .error e ∧ p.retryIf e = true := ⟨e, hout, haccept⟩
      refine ⟨haccepted, hbound, ?_⟩
      cases hwait : (c.wait p ctx k).1 with
      | rested => rfl
      | ended cause => exact absurd hwait (hended cause)
      | forever => exact absurd ⟨haccepted, hbound, c.sleep_eq_forever_iff.mp hwait⟩ hhangs

theorem GoesOn.runAfter_succ (h : c.GoesOn p ctx (n + 1)) : c.runAfter p ctx n = c.runAfter p ctx (n + 1) := by
  obtain ⟨⟨e, hout, haccept⟩, hmore, hwait⟩ := h
  rw [runAfter_eq (Nat.lt_of_succ_lt hmore), hout]
  simp [haccept, Nat.ne_of_lt hmore, hwait]

/-- Attempts that all lead on to the next one. The induction is on their number. -/
theorem runAfter_of_goesOn (h : ∀ i, 1 ≤ i → i ≤ n → c.GoesOn p ctx i) : c.runAfter p ctx 0 = c.runAfter p ctx n := by
  induction n with
  | zero => rfl
  | succ n ih =>
      rw [ih fun i hi hin => h i hi (Nat.le_succ_of_le hin)]
      exact (h (n + 1) (Nat.succ_pos n) (Nat.le_refl _)).runAfter_succ

theorem Hangs.runAfter_eq (h : c.Hangs p ctx (n + 1)) : c.runAfter p ctx n = (none, c.slept p ctx (n + 1)) := by
  obtain ⟨⟨e, hout, haccept⟩, hmore, hendless⟩ := h
  have hwait : (c.wait p ctx (n + 1)).1 = .forever := c.sleep_eq_forever_iff.mpr hendless
  rw [Course.runAfter_eq (Nat.lt_of_succ_lt hmore), hout]
  simp [haccept, Nat.ne_of_lt hmore, hwait]

theorem ends_runAfter (hbound : n < p.maxAttempts) (h : c.Stops p ctx (n + 1)) :
    c.Ends p ctx (n + 1) (c.runAfter p ctx n) := by
  rw [runAfter_eq hbound]
  cases hout : c.outcome (n + 1) with
  | ok a => exact .succeeded hout
  | error e =>
      dsimp only
      by_cases hreject : p.retryIf e = false
      · rw [if_pos hreject]
        exact .rejected hout hreject
      rw [if_neg hreject]
      have haccept : p.retryIf e = true := by simpa using hreject
      by_cases hlast : n + 1 = p.maxAttempts
      · rw [if_pos hlast]
        exact .exhausted hout haccept hlast
      rw [if_neg hlast]
      rw [Stops, hout] at h
      obtain ⟨cause, hwait⟩ := (h.resolve_left hreject).resolve_left hlast
      rw [hwait]
      exact .interrupted hout haccept (Nat.lt_of_le_of_ne hbound hlast) hwait (c.endedBy_sleep hwait)

variable (c p ctx) in
theorem exists_stops (hpos : p.maxAttempts ≠ 0) :
    ∃ k, 1 ≤ k ∧ k ≤ p.maxAttempts ∧ (∀ i, 1 ≤ i → i < k → ¬ c.Stops p ctx i) ∧ c.Stops p ctx k := by
  classical
  have hlast : c.Stops p ctx p.maxAttempts := by
    rw [Stops]
    cases c.outcome p.maxAttempts with
    | ok a => trivial
    | error e => exact .inr (.inl rfl)
  have hsome : ∃ k, 1 ≤ k ∧ c.Stops p ctx k := ⟨p.maxAttempts, Nat.one_le_iff_ne_zero.mpr hpos, hlast⟩
  obtain ⟨hfirst, hstops⟩ := Nat.find_spec hsome
  refine ⟨Nat.find hsome, hfirst, Nat.find_min' hsome ⟨Nat.one_le_iff_ne_zero.mpr hpos, hlast⟩,
    fun i hi hik h => ?_, hstops⟩
  exact Nat.find_min hsome hik ⟨hi, h⟩

theorem Ends.isSome {r : Option (Except Error α) × CourseState} (h : c.Ends p ctx k r) : r.1.isSome = true := by
  cases h <;> rfl

end Course

/-- **How retrying ends.** A policy without any attempt is refused, and nothing is done. Otherwise
retrying is over with the first attempt that succeeds, fails with an error that is not worth another
one, is the last one, or is followed by a wait that the context ends. Unless a wait before is endless, the attempts up
to this one have been made by then, and the context has been looked at in the waits only: those between the
attempts, and the one that the context has ended. Retrying ends with the value, the error itself,
the error with the number of attempts, or the reason for which the context has ended. When a wait before is endless,
the attempts up to the first such wait are made, and retrying does not end. -/
theorem RetryPolicy.withRetry_ends {α : Type} (p : RetryPolicy) (ctx : Context) (c : Course α) :
    let r := CourseM.run (p.withRetry c.host ctx c.attempt) c.initial
    (p.maxAttempts = 0 → r = (some (.error (.config .noAttempts)), c.initial)) ∧
    (p.maxAttempts ≠ 0 → ∃ k, 1 ≤ k ∧ k ≤ p.maxAttempts ∧
      (∀ i, 1 ≤ i → i < k → ¬ c.Stops p ctx i) ∧ c.Stops p ctx k ∧
      ((∀ i, 1 ≤ i → i < k → ¬ c.Hangs p ctx i) → c.Ends p ctx k r) ∧
      ∀ i, 1 ≤ i → i < k → c.Hangs p ctx i → (∀ j, 1 ≤ j → j < i → ¬ c.Hangs p ctx j) →
        r = (none, c.slept p ctx i)) := by
  intro r
  refine ⟨fun hzero => ?_, fun hpos => ?_⟩
  · have hrefused : p.withRetry c.host ctx c.attempt = pure (.error (.config .noAttempts)) := by
      simp [withRetry, validate, hzero]
    simp only [r, hrefused, CourseM.run_pure]
  · have hattempts : p.withRetry c.host ctx c.attempt =
        p.attempts c.host ctx c.attempt (p.maxAttempts - 1) 1 := by
      simp [withRetry, validate, hpos]
    have hr : r = c.runAfter p ctx 0 := by
      simp only [r, hattempts]
      rfl
    obtain ⟨k, hfirst, hlast, hnone, hstops⟩ := c.exists_stops p ctx hpos
    -- Before the first endless wait, and before the end, every attempt leads on to the next one.
    have hgoes : ∀ n < k, (∀ i, 1 ≤ i → i ≤ n → ¬ c.Hangs p ctx i) → r = c.runAfter p ctx n := by
      intro n hn hrest
      rw [hr]
      refine Course.runAfter_of_goesOn fun i hi hin => ?_
      exact Course.goesOn_of_not (by omega) (hnone i hi (by omega)) (hrest i hi hin)
    refine ⟨k, hfirst, hlast, hnone, hstops, fun hrest => ?_, fun i hi hik hhangs hrest => ?_⟩
    · obtain ⟨n, rfl⟩ : ∃ n, k = n + 1 := ⟨k - 1, by omega⟩
      rw [hgoes n (by omega) fun i hi hin => hrest i hi (by omega)]
      exact Course.ends_runAfter hlast hstops
    · obtain ⟨n, rfl⟩ : ∃ n, i = n + 1 := ⟨i - 1, by omega⟩
      rw [hgoes n (by omega) fun j hj hjn => hrest j hj (by omega)]
      exact hhangs.runAfter_eq

section unlucky

/-- A policy of five attempts that takes every error. -/
def patient : RetryPolicy := { RetryPolicy.new 5 (.ofMillis 1) with retryIf := fun _ => true }

/-- A course of failures. -/
def unlucky : Course Unit :=
  ⟨⟨0, []⟩, fun i => .error (.custom (toString i)), fun _ => Env.tick, fun _ => none⟩

/-- The deadline is reached during the second wait. -/
theorem withRetry_ends_at_deadline :
    let ctx : Context := ⟨some 1500000, none⟩
    let r := CourseM.run (patient.withRetry unlucky.host ctx unlucky.attempt) unlucky.initial
    patient.maxAttempts ≠ 0 ∧
      r.1.any (· matches .error (.classified ⟨.timeout, .context .deadlineExceeded, none⟩)) ∧
      r.2.steps = [.called, .waited ctx (.ofMillis 1), .called, .waited ctx (.ofMillis 1)] ∧
      ∃ k, 1 ≤ k ∧ k ≤ 5 ∧ unlucky.Stops patient ctx k ∧ unlucky.Ends patient ctx k r := by
  have hpos : patient.maxAttempts ≠ 0 := by decide
  obtain ⟨-, hover⟩ := patient.withRetry_ends ⟨some 1500000, none⟩ unlucky
  obtain ⟨k, hfirst, hlast, -, hstops, hends, -⟩ := hover hpos
  have hrest : ∀ i, 1 ≤ i → i < k → ¬ unlucky.Hangs patient ⟨some 1500000, none⟩ i :=
    fun i _ _ h => nomatch h.endless.deadline
  exact ⟨hpos, by decide +kernel, by decide +kernel, k, hfirst, hlast, hstops, hends hrest⟩

end unlucky

section leisurely

/-- A policy of two attempts with the longest delay between them. -/
def leisurely : RetryPolicy := .new 2 .longest

/-- A context without a deadline, whose signal can be cancelled. -/
def cancelable : Context := ⟨none, some 0⟩

/-- A course of deadlocks. Nobody cancels the signal. -/
def deadlocks : Course Unit :=
  ⟨⟨0, [.new]⟩, fun _ => .error (.ofKind .deadlock .noRows), fun _ => Env.tick, fun _ => none⟩

/-- There are to be two attempts, and there is one. It does not come to the second one, which would be the last, and
to none of the results. -/
theorem withRetry_hangs_of_leisurely :
    let r := CourseM.run (leisurely.withRetry deadlocks.host cancelable deadlocks.attempt) deadlocks.initial
    leisurely.maxAttempts = 2 ∧ ¬ deadlocks.Stops leisurely cancelable 1 ∧
      deadlocks.Stops leisurely cancelable 2 ∧ r.1 = none ∧ r.2.attempts = 1 ∧
      ∀ k, ¬ deadlocks.Ends leisurely cancelable k r := by
  intro r
  have hwait : (deadlocks.wait leisurely cancelable 1).1 = .forever := by decide +kernel
  have hnone : r.1 = none := Option.isNone_iff_eq_none.mp (by decide +kernel)
  refine ⟨rfl, ?_, .inr (.inl rfl), hnone, by decide +kernel, fun k hends => ?_⟩
  · rintro (hreject | hlast | ⟨cause, hended⟩)
    · revert hreject
      decide +kernel
    · cases hlast
    · cases hwait.symm.trans hended
  · have hsome := hends.isSome
    rw [hnone] at hsome
    cases hsome

end leisurely

end DbAccess
