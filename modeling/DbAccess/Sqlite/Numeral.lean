import DbAccess.Decimal.Extended
import DbAccess.Decimal.Reader
import DbAccess.Sqlite.Stored
import DbAccess.Width
/-!
# Numerals

Reals are written with fifteen digits, and text is read as a number as far as it writes one. Both ways lead
through extended precision, where a number is brought to its magnitude in steps of rounded powers of ten.
-/

namespace DbAccess.Sqlite

open Decimal

/-- The integer lies within 64 bits. -/
def isInt64 (n : Int) : Bool := -(limit63 : Int) ≤ n && n < limit63

/-- An integer, or the nearest real when 64 bits do not hold it. -/
def Stored.ofInt (n : Int) : Stored := if isInt64 n then integer (.ofInt n) else real (.ofInt n)

/-- How many digits of a real are written. -/
def realDigits : Nat := 15

/-- The first digits of a positive real, rounded half up, without trailing zeros. -/
def leadingDigits (x : Unpacked) : Dec :=
  let (scaled, exp) := x.tower
  let v := scaled.whole
  let cut := (digitsOf v).length - realDigits
  let unit := Nat.pow 10 cut
  stripZeros (realDigits + 1) ⟨(v + unit / 2) / unit, exp + cut⟩

/-- Lays a decimal out: positional while the exponent of its leading digit is at least -4 and below the number
of digits, always with a digit behind the point. -/
def layoutReal (d : Dec) : List Char :=
  let ds := digitsOf d.digits
  let lead := d.exp + (ds.length : Int) - 1
  let tail (rest : List Char) : List Char := if rest.isEmpty then ['0'] else rest
  if -4 ≤ lead ∧ lead < realDigits then
    if 0 ≤ lead then
      let whole := ds ++ List.replicate d.exp.toNat '0'
      whole.take (lead.toNat + 1) ++ '.' :: tail (whole.drop (lead.toNat + 1))
    else '0' :: '.' :: List.replicate ((-lead).toNat - 1) '0' ++ ds
  else
    let e := digitsOf lead.natAbs
    ds.take 1 ++ '.' :: tail (ds.drop 1) ++ 'e' :: (if lead < 0 then '-' else '+') ::
      List.replicate (2 - e.length) '0' ++ e

/-- A real as text. -/
def realText (x : Binary64) : String :=
  match x.unpack with
  | .nan => ""
  | .infinite neg => if neg then "-Inf" else "Inf"
  | .finite neg m q =>
    if m = 0 then "0.0"
    else (if neg then "-" else "") ++ String.ofList (layoutReal (leadingDigits (.finite false m q)))

/-- The digits that count, as a natural, and the power of ten that it has to be multiplied with. -/
structure Significand where
  digits : Nat
  exp : Int
deriving DecidableEq, Repr

namespace Significand

/-- A natural below this takes one more digit within 64 bits. -/
def limit : Nat := (limit64 - 10) / 10

/-- Takes a digit before the point. Digits for which there is no room count as places. -/
def takeWhole (s : Significand) (c : Char) : Significand :=
  if s.digits < limit then { s with digits := 10 * s.digits + (c.toNat - 48) }
  else { s with exp := s.exp + 1 }

/-- Takes a digit behind the point. Digits for which there is no room are dropped. -/
def takeFraction (s : Significand) (c : Char) : Significand :=
  if s.digits < limit then ⟨10 * s.digits + (c.toNat - 48), s.exp - 1⟩ else s

/-- Moves a positive exponent into the digits as long as there is room; the first argument bounds the
steps. -/
def widen : Nat → Significand → Significand
  | 0, s => s
  | fuel + 1, s =>
    if 0 < s.exp && s.digits < (limit64 - 1) / 10 then widen fuel ⟨10 * s.digits, s.exp - 1⟩ else s

/-- Moves trailing zeros of the digits into a negative exponent; the first argument bounds the steps. -/
def narrow : Nat → Significand → Significand
  | 0, s => s
  | fuel + 1, s =>
    if s.exp < 0 && s.digits % 10 = 0 then narrow fuel ⟨s.digits / 10, s.exp + 1⟩ else s

/-- Above this a real has no room for a number. -/
def greatest : Unpacked :=
  extended.ofRatio false (17976931348623157081452742373 * Nat.pow 10 280) 1

/-- The real that the digits stand for. -/
def toReal (s : Significand) (neg : Bool) : Binary64 :=
  if s.digits = 0 then .pack (.finite neg 0 double.minExp)
  else
    let s := narrow 20 (widen 20 s)
    let x := (Unpacked.finite false s.digits 0).scale s.exp
    let y := if greatest.below x then .infinite false else x.convert double
    let r := Binary64.pack y
    if neg then r.neg else r

end Significand

/-- The value of an exponent's digits, which stop to count when it is far beyond every real. -/
def exponentValue (ds : List Char) : Nat :=
  ds.foldl (fun e c => if e < 10000 then 10 * e + (c.toNat - 48) else 10000) 0

/-- White space around a number. -/
def isSpace (c : Char) : Bool := c = ' ' || ('\t' ≤ c && c ≤ '\r')

/-- The number at the front of a text, and what follows it. -/
def numberAtFront? (s : List Char) : Option (Stored × List Char) :=
  let (neg, body) := splitSign (s.dropWhile isSpace)
  let whole := body.takeWhile Text.isDigit
  let rest := body.dropWhile Text.isDigit
  let (frac, rest, pointed) := match rest with
    | '.' :: r => (r.takeWhile Text.isDigit, r.dropWhile Text.isDigit, true)
    | r => ([], r, false)
  if whole.isEmpty && frac.isEmpty then none
  else
    let (exp, rest, scaled) := exponentAtFront rest
    let s := frac.foldl Significand.takeFraction (whole.foldl Significand.takeWhole ⟨0, 0⟩)
    let value := { s with exp := exp + s.exp }.toReal neg
    let n : Int := if neg then -(Text.digitsValue whole : Int) else Text.digitsValue whole
    some (if !pointed && !scaled && isInt64 n then .integer (.ofInt n) else .real value, rest)
where
  /-- An exponent, when there is one. -/
  exponentAtFront (s : List Char) : Int × List Char × Bool :=
    match s with
    | c :: r =>
      let (neg, ds) := splitSign r
      let e := ds.takeWhile Text.isDigit
      if (c = 'e' ∨ c = 'E') ∧ !e.isEmpty then
        (if neg then -(exponentValue e : Int) else exponentValue e, ds.dropWhile Text.isDigit, true)
      else (0, s, false)
    | [] => (0, [], false)

end DbAccess.Sqlite
