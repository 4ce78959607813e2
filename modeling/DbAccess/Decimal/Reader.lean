import DbAccess.Decimal.Notation
import DbAccess.Text.Digits
/-!
# Reading decimal text

`Binary64.parse?` reads a decimal number: an optional sign, digits with an optional point and at least
one digit, and an optional exponent; or a word for infinity or for no number, in any letter case. The
value is rounded once.
-/

namespace DbAccess.Decimal

open Text (isDigit digitsValue)

/-- The number that the digits, read as a natural, and an exponent of ten stand for. Exponents far
beyond the range of doubles give zero or infinity without forming the power. -/
def Binary64.ofDecimal (neg : Bool) (digits : Nat) (exp : Int) : Binary64 :=
  let lead := exp + ((toString digits).length : Int)
  if digits = 0 ∨ lead < -400 then .pack (.finite neg 0 double.minExp)
  else if 400 < lead then .pack (.infinite neg)
  else .pack (double.ofRatio neg (digits * pow10 exp) (pow10 (-exp)))

/-- Splits off a leading sign; `true` stands for minus. -/
def splitSign : List Char → Bool × List Char
  | '-' :: rest => (true, rest)
  | '+' :: rest => (false, rest)
  | s => (false, s)

/-- The exponent after its mark: nothing, or an optional sign and at least one digit. -/
def exponent? : List Char → Option Int
  | [] => some 0
  | c :: rest =>
    if c = 'e' ∨ c = 'E' then
      let (neg, ds) := splitSign rest
      if ds.isEmpty || !ds.all isDigit then none
      else some (if neg then -(digitsValue ds : Int) else digitsValue ds)
    else none

/-- A number without its sign. -/
def unsigned? (neg : Bool) (s : List Char) : Option Binary64 :=
  let whole := s.takeWhile isDigit
  let rest := s.dropWhile isDigit
  let (frac, rest) := match rest with
    | '.' :: r => (r.takeWhile isDigit, r.dropWhile isDigit)
    | r => ([], r)
  if whole.isEmpty && frac.isEmpty then none
  else (exponent? rest).map fun e =>
    .ofDecimal neg (digitsValue (whole ++ frac)) (e - frac.length)

/-- The number that the text writes, or `none` when it writes none. -/
def Binary64.parse? (text : String) : Option Binary64 :=
  let (neg, s) := splitSign text.toList
  let word := s.map Char.toLower
  if word = "inf".toList ∨ word = "infinity".toList then some (.pack (.infinite neg))
  else if word = "nan".toList then some (.pack .nan)
  else unsigned? neg s

end DbAccess.Decimal
