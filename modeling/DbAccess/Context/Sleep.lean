import DbAccess.Context.Basic
/-!
# Sleeping

Whoever sleeps under a context wakes up when the span is over, at the deadline, or when the signal is
cancelled. `SleepPlan` fixes at the beginning until when to sleep and what that moment will mean;
`SleepPlan.check` is the look that a sleeper takes at the world whenever it wakes.

What a sleeper meets meanwhile is a `Night`, and `Context.sleepThrough` is a sleep through any of them.
Sleeping while nothing else happens (`Context.sleep`), and while something happens at one instant
(`Context.sleepDuring`), are sleeps through certain nights.
-/

namespace DbAccess

/-- How a sleep ends. -/
inductive SleepResult where
  /-- The span is over. -/
  | rested
  | ended (e : ContextError)
  /-- Nothing will wake the sleeper. -/
  | forever
deriving DecidableEq, Repr

/-- Until when to sleep, and whether that moment is the deadline. -/
structure SleepPlan where
  until? : Option Instant
  hitsDeadline : Bool
deriving DecidableEq, Repr

namespace SleepPlan

/-- What it means to have slept to the end. -/
def result (p : SleepPlan) : SleepResult :=
  if p.hitsDeadline then .ended .deadlineExceeded else .rested

/-- What a waking sleeper sees: the clock, and whether its signal has been cancelled. `none` sends it back
to sleep. -/
def check (p : SleepPlan) (now : Instant) (cancelled : Bool) : Option SleepResult :=
  if cancelled then some (.ended .cancelled)
  else match p.until? with
    | some t => if t ≤ now then some p.result else none
    | none => none

end SleepPlan

/-- What a sleeper meets after it has made its plan. -/
structure Night where
  /-- What it sees whenever it looks, before it falls asleep and when it is woken up, be it for nothing. It
  looks at its signal first, and then at the clock. -/
  looks : List Env
  /-- The world after a pause of so many nanoseconds. -/
  pause : Env → Nat → Env
  /-- No pause is shorter than was asked for. -/
  pause_lasts : ∀ env ns, env.now + ns ≤ (pause env ns).now

/-- Nothing happens after a look at the world, and the sleeper wakes up at the end of the plan. -/
def Night.quiet (p : SleepPlan) (env : Env) : Night where
  looks := env :: (p.until?.map env.advanceTo).toList
  pause := Env.advance
  pause_lasts := Env.le_now_advance

namespace Context

/-- The plan of a sleep that begins at an instant. -/
def sleepPlan (c : Context) (now : Instant) (d : Span) : SleepPlan :=
  match laterBy? now d, c.deadline with
  | some wake, some deadline => if deadline ≤ wake then ⟨some deadline, true⟩ else ⟨some wake, false⟩
  | some wake, none => ⟨some wake, false⟩
  | none, some deadline => ⟨some deadline, true⟩
  | none, none => ⟨none, false⟩

/-- Carries out a plan that was made in a world. A sleeper with a signal goes on at the first look that tells
it to, and sleeps on when woken up for nothing. One without cannot be woken up by anybody: it looks at the
clock once, and pauses for what is missing. Nothing when the sleep is not over after the last look. -/
def follow (c : Context) (p : SleepPlan) (start : Env) (night : Night) : Option (SleepResult × Env) :=
  match c.signal, p.until? with
  | some _, _ => night.looks.findSome? fun env => (p.check env.now (c.isCancelled env)).map (·, env)
  | none, some t => night.looks.head?.map fun env => (p.result, night.pause env (t - env.now))
  | none, none => some (.rested, start)

/-- Sleeps through a night: what is reported, and the world as it was seen last. A context that has ended at
the entry is not slept under; the plan is made a little later. -/
def sleepThrough (c : Context) (d : Span) (entry start : Env) (night : Night) : Option (SleepResult × Env) :=
  match c.err entry with
  | some e => some (.ended e, entry)
  | none => c.follow (c.sleepPlan start.now d) start night

/-- Sleeps while nothing else happens. -/
def sleep (c : Context) (env : Env) (d : Span) : SleepResult × Env :=
  (c.sleepThrough d env env (.quiet (c.sleepPlan env.now d) env)).getD (.forever, env)

/-- Sleeps while at an instant something happens elsewhere, which is over when the sleep is reported. Nobody
looks before it happens, unless the sleep is over by then. -/
def sleepDuring (c : Context) (env : Env) (d : Span) (t : Instant) (act : Env → Env) :
    SleepResult × Env :=
  let happens (env : Env) : Env := act (env.advanceTo t)
  let p := c.sleepPlan env.now d
  if c.isDone env || p.until?.any (· ≤ t) || c.signal.isNone && p.until?.isNone then
    let (r, env) := c.sleep env d
    (r, happens env)
  else (c.sleepThrough d env env (.quiet p (happens env))).getD (.forever, happens env)

/-- Waits until the context ends, while nothing else happens: the reason and the world then, or nothing when
it never ends. -/
def awaitEnd (c : Context) (env : Env) : Option (ContextError × Env) :=
  match c.err env, c.deadline with
  | some e, _ => some (e, env)
  | none, some t => some (.deadlineExceeded, env.advanceTo t)
  | none, none => none

/-! ### Quiet nights -/

/-- What a sleep comes to while the world is quiet. Without signal and without end there is nothing to wait
for, and it is over at once. -/
def sleepOut (c : Context) (p : SleepPlan) (env : Env) : SleepResult × Env :=
  match p.until? with
  | some t => (p.result, env.advanceTo t)
  | none => (if c.signal.isSome then .forever else .rested, env)

variable {c : Context} {p : SleepPlan} {start env : Env} {d : Span}

theorem follow_quiet_of_signal {s : SignalId} (hsignal : c.signal = some s) :
    (c.follow p start (.quiet p env)).getD (.forever, env) =
      match p.check env.now (c.isCancelled env) with
      | some r => (r, env)
      | none => c.sleepOut p env := by
  have hlater : ∀ t, c.isCancelled (env.advanceTo t) = c.isCancelled env := fun _ => rfl
  cases hcancelled : c.isCancelled env with
  | true => simp [follow, hsignal, Night.quiet, SleepPlan.check, hcancelled]
  | false =>
      cases huntil : p.until? with
      | none => simp [follow, hsignal, Night.quiet, SleepPlan.check, hcancelled, huntil, sleepOut]
      | some t =>
          have hwake : t ≤ (env.advanceTo t).now := Nat.le_max_right _ _
          by_cases ht : t ≤ env.now
          · simp [follow, hsignal, Night.quiet, SleepPlan.check, hcancelled, huntil, ht]
          · simp [follow, hsignal, Night.quiet, SleepPlan.check, hcancelled, hlater, huntil, ht, hwake, sleepOut]

theorem follow_quiet_of_until {t : Instant} (hsignal : c.signal = none) (huntil : p.until? = some t) :
    c.follow p start (.quiet p env) = some (p.result, env.advanceTo t) := by
  have hpause : env.advance (t - env.now) = env.advanceTo t := by
    rw [Env.advance, Env.advanceTo, Nat.add_comm, Nat.sub_add_eq_max, Nat.max_comm]
  simp only [follow, hsignal, huntil, Night.quiet, List.head?_cons, Option.map_some, hpause]

theorem sleep_eq (c : Context) (env : Env) (d : Span) :
    c.sleep env d =
      match c.err env with
      | some e => (.ended e, env)
      | none => c.sleepOut (c.sleepPlan env.now d) env := by
  rw [sleep, sleepThrough]
  cases herr : c.err env with
  | some e => rfl
  | none =>
      have hcancelled := isCancelled_of_err herr
      generalize c.sleepPlan env.now d = p
      cases hsignal : c.signal with
      | some s =>
          simp only [follow_quiet_of_signal hsignal, SleepPlan.check, hcancelled, sleepOut]
          cases p.until? with
          | none => rfl
          | some t =>
              by_cases ht : t ≤ env.now
              · simp [ht, Env.advanceTo_of_le ht]
              · simp [ht]
      | none =>
          cases huntil : p.until? with
          | some t => simp [follow_quiet_of_until hsignal huntil, sleepOut, huntil]
          | none => simp [follow, hsignal, huntil, sleepOut]

/-- What happens meanwhile happens after the sleep, or before the sleeper looks again. -/
theorem sleepDuring_eq (c : Context) (env : Env) (d : Span) (t : Instant) (act : Env → Env) :
    c.sleepDuring env d t act =
      let happens (env : Env) : Env := act (env.advanceTo t)
      match c.err env with
      | some e => (.ended e, happens env)
      | none =>
        let p := c.sleepPlan env.now d
        if p.until?.any fun wake => wake ≤ t then
          let (r, env) := c.sleepOut p env
          (r, happens env)
        else if c.signal.isNone && p.until?.isNone then (.rested, happens env)
        else
          let env := happens env
          match p.check env.now (c.isCancelled env) with
          | some r => (r, env)
          | none => c.sleepOut p env := by
  cases herr : c.err env with
  | some e =>
      have hdone : c.isDone env = true := by rw [isDone, herr, Option.isSome_some]
      simp [sleepDuring, hdone, sleep_eq, herr]
  | none =>
      have hdone : c.isDone env = false := by rw [isDone, herr, Option.isSome_none]
      have hsleep : c.sleep env d = c.sleepOut (c.sleepPlan env.now d) env := by simp [sleep_eq, herr]
      have hthrough : ∀ night,
          c.sleepThrough d env env night = c.follow (c.sleepPlan env.now d) env night := fun night => by
        simp [sleepThrough, herr]
      simp only [sleepDuring, hdone, hsleep, hthrough]
      generalize c.sleepPlan env.now d = p
      by_cases hover : p.until?.any fun wake => wake ≤ t
      · simp [hover]
      · cases hsignal : c.signal with
        | some s => simp [hover, follow_quiet_of_signal hsignal]
        | none =>
            cases huntil : p.until? with
            | none => simp [sleepOut, hsignal, huntil]
            | some wake =>
                have hcancelled : ∀ env, c.isCancelled env = false := fun env => by rw [isCancelled, hsignal]; rfl
                have hlate : ¬ wake ≤ t := by simpa [huntil] using hover
                by_cases hwake : wake ≤ (act (env.advanceTo t)).now
                · simp [huntil, hlate, follow_quiet_of_until hsignal huntil, SleepPlan.check, hcancelled, hwake,
                    Env.advanceTo_of_le hwake]
                · simp [huntil, hlate, follow_quiet_of_until hsignal huntil, SleepPlan.check, hcancelled, hwake,
                    sleepOut]

end Context

end DbAccess
