import DbAccess.Decimal.Reader
import DbAccess.Json.Syntax
import DbAccess.Width
/-!
# JSON numbers

A number without fraction and exponent that fits 64 bits, signed or unsigned, is an integer; every
other number is a double. `Number.read?` collects the digits of a double in 64 bits and scales them
once, so its last bit may differ from the nearest double for long literals.
-/

namespace DbAccess.Json

open Decimal
open Text (digitsValue)

/-- A number: an integer between `-2^63` and `2^64 - 1`, or a double. -/
inductive Number where
  | int (n : Int)
  | double (x : Binary64)
deriving DecidableEq, Repr

/-- The least number beyond the 64-bit significand. -/
def significandLimit : Nat := limit64

/-- Appends digits to the significand while it fits, and counts those left over. -/
def accumulate : Nat → List Char → Nat × List Char
  | acc, [] => (acc, [])
  | acc, c :: rest =>
    let next := 10 * acc + (c.toNat - 48)
    if significandLimit ≤ next then (acc, c :: rest) else accumulate next rest

/-- The double of a significand times a power of ten. Exponents beyond the table of powers shrink by
308 steps of ten at a time. `none` when the value is too large. The first argument bounds the number
of steps. -/
def scale? (neg : Bool) : Nat → Binary64 → Int → Option Binary64
  | 0, f, _ => some (if neg then f.neg else f)
  | fuel + 1, f, e =>
    if e.natAbs ≤ 308 then
      let power := Binary64.ofDecimal false 1 e.natAbs
      let g := if 0 ≤ e then f.mul power else f.div power
      if g.unpack.isFinite then some (if neg then g.neg else g) else none
    else if f.unpack.isPositive then
      if 0 ≤ e then none else scale? neg fuel (f.div (.ofDecimal false 1 308)) (e + 308)
    else some (if neg then f.neg else f)

/-- A signed zero. -/
def signedZero (neg : Bool) : Binary64 :=
  let zero := Binary64.ofInt 0
  if neg then zero.neg else zero

/-- The double of a significand, the exponent that its digits leave, and a written exponent. A written
exponent beyond 31 bits is out of range when it is positive and the significand is not zero. -/
def double? (neg : Bool) (significand : Nat) (place : Int) (exp : Option (Bool × List Char)) :
    Option Binary64 :=
  let scaled (e : Int) := scale? neg 16 (.ofInt significand) e
  match exp with
  | none => scaled place
  | some (down, ds) =>
    let n := digitsValue ds
    if limit31 ≤ n then
      if significand ≠ 0 ∧ !down then none else some (signedZero neg)
    else
      let e := if down then place - n else place + n
      scaled (max (-(limit31 : Int)) (min (limit31 - 1) e))

/-- The number of a literal, or `none` when it is too large for a double. -/
def Number.read? (t : NumberText) : Option Number :=
  let (significand, left) := accumulate 0 t.whole
  match t.frac, t.exp, left with
  | none, none, [] =>
    if !t.neg then some (.int significand)
    else if 1 ≤ significand ∧ significand ≤ limit63 then some (.int (-(significand : Int)))
    else some (.double (Binary64.ofInt significand).neg)
  | frac, exp, left =>
    let (significand, place) := match frac with
      | none => (significand, (left.length : Int))
      | some ds =>
        let (s, skipped) := accumulate significand ds
        (s, (left.length : Int) - ((ds.length : Int) - (skipped.length : Int)))
    (double? t.neg significand place exp).map .double

/-- The number as a double. -/
def Number.toBinary64 : Number → Binary64
  | .int n => .ofInt n
  | .double x => x

/-- The written form of a number. -/
def Number.render : Number → String
  | .int n => toString n
  | .double x => x.render document

/-- Equality of values. -/
def Number.same : Number → Number → Bool
  | .int m, .int n => m == n
  | .double x, .double y => x.same y
  | _, _ => false

end DbAccess.Json
