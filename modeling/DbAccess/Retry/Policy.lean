import DbAccess.Decimal.Notation
import DbAccess.Error.Basic
import DbAccess.Span
import DbAccess.Width
/-!
# Retry policies

How often an operation is tried, and how long to wait in between: the delay times a factor that grows by
the multiplier from one attempt to the next, cut off at the longest delay.
-/

namespace DbAccess

open Decimal

/-- How often and how patiently to try again. -/
structure RetryPolicy where
  /-- All attempts, the first included. -/
  maxAttempts : Nat
  /-- The wait before the second attempt. -/
  delay : Span
  /-- The factor by which the wait grows with every further attempt. -/
  multiplier : Binary64
  /-- No wait is longer. -/
  maxDelay : Option Span
  /-- Which errors are worth another attempt. -/
  retryIf : Error → Bool

namespace RetryPolicy

/-- The number one. -/
def one : Binary64 := .ofInt 1

/-- A fixed delay, for deadlocks and timeouts. -/
def new (maxAttempts : Nat) (delay : Span) : RetryPolicy :=
  ⟨maxAttempts, delay, one, none, Error.isTransient⟩

/-- Three attempts, 50 milliseconds apart. -/
def default : RetryPolicy := new 3 (.ofMillis 50)

/-- A delay that grows. -/
def withBackoff (p : RetryPolicy) (multiplier : Binary64) (maxDelay : Option Span) : RetryPolicy :=
  { p with multiplier := multiplier, maxDelay := maxDelay }

/-- `acc * a ^ n` by squaring, every product rounded; for an `n` below `2 ^ fuel`. -/
def power (fuel : Nat) (acc a : Binary64) (n : Nat) : Binary64 :=
  match fuel with
  | 0 => acc
  | fuel + 1 =>
    let acc := if n % 2 = 1 then acc.mul a else acc
    if n / 2 = 0 then acc else power fuel acc (a.mul a) (n / 2)

/-- The greatest exponent of the factor. -/
def maxExponent : Nat := limit31 - 1

/-- The factor on the delay after the attempt, which counts from one. A multiplier that is not a finite
positive number counts as one. -/
def factor (p : RetryPolicy) (attempt : Nat) : Binary64 :=
  if p.multiplier.unpack.isPositive then
    power 32 one p.multiplier (Min.min (attempt - 1) maxExponent)
  else one

/-- The wait after the attempt before the cut: the nearest whole number of nanoseconds, or the longest
span when 64 bits do not hold it. -/
def rawDelay (p : RetryPolicy) (attempt : Nat) : Span :=
  match ((Binary64.ofInt p.delay.ns).mul (p.factor attempt)).unpack.roundNat with
  | some n => if n < limit64 then .ofNanos n else .longest
  | none => .longest

/-- The wait after the attempt. -/
def delayFor (p : RetryPolicy) (attempt : Nat) : Span :=
  match p.maxDelay with
  | some cap => (p.rawDelay attempt).min cap
  | none => p.rawDelay attempt

/-- Refuses a policy without any attempt. -/
def validate (p : RetryPolicy) : Except Error Unit :=
  if p.maxAttempts = 0 then .error (.config .noAttempts) else .ok ()

/-- The policy in diagnostic text. -/
def diagnostic (p : RetryPolicy) : String :=
  Text.openRecordText "RetryPolicy"
    [("max_attempts", toString p.maxAttempts), ("delay", p.delay.diagnostic),
      ("multiplier", p.multiplier.render Decimal.diagnostic),
      ("max_delay", Text.optionText (p.maxDelay.map Span.diagnostic))]

end RetryPolicy

end DbAccess
