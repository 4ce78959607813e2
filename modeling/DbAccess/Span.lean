import DbAccess.Text.Diagnostic
import DbAccess.Width
/-!
# Spans of time

A `Span` is a length of time in whole nanoseconds, up to the greatest number of seconds that 64 bits
hold and just short of one second more.
-/

namespace DbAccess

/-- The nanoseconds of a microsecond. -/
def nanosPerMicro : Nat := 1000

/-- The nanoseconds of a millisecond. -/
def nanosPerMilli : Nat := 1000000

/-- The nanoseconds of a second. -/
def nanosPerSecond : Nat := 1000000000

/-- One past the greatest number of nanoseconds in a span. -/
def spanLimit : Nat := limit64 * nanosPerSecond

/-- A length of time. -/
structure Span where
  ns : Nat
  ns_lt : ns < spanLimit := by decide
deriving DecidableEq, Repr

namespace Span

/-- No time. -/
def zero : Span := ⟨0, by decide⟩

/-- The longest span. -/
def longest : Span := ⟨spanLimit - 1, by decide⟩

/-- The span of `n` nanoseconds, or the longest one. -/
def ofNanos (n : Nat) : Span := if h : n < spanLimit then ⟨n, h⟩ else longest

/-- The span of `n` milliseconds. -/
def ofMillis (n : Nat) : Span := ofNanos (n * nanosPerMilli)

/-- The span of `n` seconds. -/
def ofSeconds (n : Nat) : Span := ofNanos (n * nanosPerSecond)

/-- Whole seconds. -/
def seconds (d : Span) : Nat := d.ns / nanosPerSecond

/-- Whole milliseconds. -/
def millis (d : Span) : Nat := d.ns / nanosPerMilli

/-- No time at all. -/
def isZero (d : Span) : Bool := d.ns = 0

/-- The shorter of two spans. -/
def min (a b : Span) : Span := if b.ns < a.ns then b else a

/-- A number of `width` decimal places after the point, without trailing zeros. -/
def fractionText (width n : Nat) : String :=
  let ds := (toString n).toList
  let padded := List.replicate (width - ds.length) '0' ++ ds
  let kept := (padded.reverse.dropWhile (· = '0')).reverse
  if kept.isEmpty then "" else String.ofList ('.' :: kept)

/-- The quotient of `n` by a power of ten, with as many places as needed. -/
def scaledText (n places : Nat) : String :=
  toString (n / Nat.pow 10 places) ++ fractionText places (n % Nat.pow 10 places)

/-- The span in the largest unit of which it holds at least one. -/
def diagnostic (d : Span) : String :=
  if nanosPerSecond ≤ d.ns then scaledText d.ns 9 ++ "s"
  else if nanosPerMilli ≤ d.ns then scaledText d.ns 6 ++ "ms"
  else if nanosPerMicro ≤ d.ns then scaledText d.ns 3 ++ "µs"
  else toString d.ns ++ "ns"

end Span

end DbAccess
