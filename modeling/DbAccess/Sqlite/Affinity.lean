import DbAccess.Sqlite.Numeral
/-!
# Affinities

A column prefers a storage class, and an operand is brought to the preference of the column it is compared
with. Values have an order, across storage classes too, and a sum.
-/

namespace DbAccess.Sqlite

open Decimal

/-- The storage class that a column prefers. -/
inductive Affinity where
  | integer
  | text
  | none
deriving DecidableEq, Repr

/-- The integer of an integral real, when 64 bits hold it and neither end of their range is met. -/
def integral? (x : Binary64) : Option Int :=
  match x.unpack with
  | .finite neg m q =>
    let n := (Unpacked.finite false m q).whole
    if n * pow2 (-q) = m * pow2 q ∧ n < limit63 - 1 then some (if neg then -(n : Int) else n) else Option.none
  | _ => Option.none

namespace Stored

/-- An integral real as an integer; anything else as it is. -/
def integralAsInteger (s : Stored) : Stored :=
  match s with
  | real x => ((integral? x).map fun n => integer (.ofInt n)).getD s
  | _ => s

/-- The number that a whole text writes. -/
def number? (utf8 : List UInt8) : Option Stored :=
  match numberAtFront? (Text.decodeLossy utf8).toList with
  | some (n, rest) => if rest.all isSpace then some n else Option.none
  | Option.none => Option.none

/-- The value as text, when it has one. -/
def textBytes? : Stored → Option (List UInt8)
  | null => Option.none
  | integer n => some (Text.utf8 (toString n.toInt))
  | real x => some (Text.utf8 (realText x))
  | text b => some b
  | blob b => some b

/-- The value as a number: text counts as far as it writes one, and otherwise as zero. -/
def toNumber (s : Stored) : Stored :=
  match s with
  | text b | blob b =>
    ((numberAtFront? (Text.decodeLossy b).toList).map (·.1)).getD (integer 0)
  | s => s

/-- Converts a value for a preference, when that loses nothing. -/
def convert (a : Affinity) (s : Stored) : Stored :=
  match a, s with
  | .integer, text b => ((number? b).map integralAsInteger).getD s
  | .integer, s => s.integralAsInteger
  | .text, integer n => ofText (toString n.toInt)
  | .text, real x => ofText (realText x)
  | _, s => s

/-- The rank of a storage class in comparisons. -/
def rank : Stored → Nat
  | null => 0
  | integer _ => 1
  | real _ => 1
  | text _ => 2
  | blob _ => 3

/-- A number as a real taken apart. -/
def unpack? : Stored → Option Unpacked
  | integer n => some (.finite (n.toInt < 0) n.toInt.natAbs 0)
  | real x => some x.unpack
  | _ => Option.none

/-- The order of bytes. -/
def compareBytes : List UInt8 → List UInt8 → Ordering
  | [], [] => .eq
  | [], _ :: _ => .lt
  | _ :: _, [] => .gt
  | a :: as, b :: bs => (compare a.toNat b.toNat).then (compareBytes as bs)

/-- The order of values: null, numbers, texts, blobs. -/
def order (a b : Stored) : Ordering :=
  match a, b with
  | text x, text y => compareBytes x y
  | blob x, blob y => compareBytes x y
  | _, _ =>
    match a.unpack?, b.unpack? with
    | some x, some y => x.order y
    | _, _ => compare a.rank b.rank

/-- The sum of two values as numbers. -/
def sum (a b : Stored) : Stored :=
  match a.toNumber, b.toNumber with
  | integer m, integer n =>
    if isInt64 (m.toInt + n.toInt) then integer (m + n)
    else real ((Binary64.ofInt m.toInt).add (.ofInt n.toInt))
  | integer m, real y => ofDouble ((Binary64.ofInt m.toInt).add y)
  | real x, integer n => ofDouble (x.add (.ofInt n.toInt))
  | real x, real y => ofDouble (x.add y)
  | _, _ => null

end Stored

end DbAccess.Sqlite
