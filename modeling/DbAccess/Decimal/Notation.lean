import DbAccess.Decimal.Shortest
/-!
# Writing floating-point numbers

A `NumberStyle` holds the decisions of one written form: where positional notation ends, how exponents
look, which way ties go and what stands for the values that are no finite numbers.
-/

namespace DbAccess.Decimal

/-- The decisions of a written form. A number is positional when the exponent of its leading digit
lies in `plainFrom ≤ e < plainBelow`. -/
structure NumberStyle where
  plainFrom : Int
  plainBelow : Int
  signedExponent : Bool
  tie : Tie
  nan : String
  infinity : String
deriving DecidableEq, Repr

/-- The form in diagnostic output: positional from `0.0001` up to below `1e16`. -/
def diagnostic : NumberStyle := ⟨-4, 16, false, .up, "NaN", "inf"⟩

/-- The form in documents: positional from `0.00001` up to below `1e+16`; what is not finite is `null`. -/
def document : NumberStyle := ⟨-5, 16, true, .toEven, "null", "null"⟩

/-- Decimal digits of `n`. -/
def digitsOf (n : Nat) : List Char := (toString n).toList

/-- Exponent with its mark. -/
def exponentText (style : NumberStyle) (e : Int) : List Char :=
  'e' :: ((if e < 0 then ['-'] else if style.signedExponent then ['+'] else []) ++ digitsOf e.natAbs)

/-- Lays out a positive decimal. -/
def layout (style : NumberStyle) (d : Dec) : List Char :=
  let ds := digitsOf d.digits
  let lead := d.exp + (ds.length : Int) - 1
  if style.plainFrom ≤ lead ∧ lead < style.plainBelow then
    if 0 ≤ d.exp then ds ++ List.replicate d.exp.toNat '0' ++ ['.', '0']
    else if 0 ≤ lead then
      ds.take (lead.toNat + 1) ++ '.' :: ds.drop (lead.toNat + 1)
    else '0' :: '.' :: List.replicate ((-lead).toNat - 1) '0' ++ ds
  else
    match ds with
    | [c] => c :: exponentText style lead
    | c :: rest => c :: '.' :: rest ++ exponentText style lead
    | [] => []

/-- The written form of a number of the format. -/
def Unpacked.render (f : Format) (style : NumberStyle) : Unpacked → String
  | .nan => style.nan
  | .infinite neg => (if neg then "-" else "") ++ style.infinity
  | .finite neg m q =>
    (if neg then "-" else "") ++
      if m = 0 then "0.0" else String.ofList (layout style (shortest f style.tie m q))

/-- The written form of a double. -/
def Binary64.render (style : NumberStyle) (x : Binary64) : String := x.unpack.render double style

/-- The written form of a single, by the digits that identify it among singles. -/
def Binary32.render (style : NumberStyle) (x : Binary32) : String := x.unpack.render single style

end DbAccess.Decimal
