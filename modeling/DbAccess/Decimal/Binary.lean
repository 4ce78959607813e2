import DbAccess.Width
/-!
# Binary floating point, exactly

Floating-point numbers are kept as their interchange bits and computed with in exact arithmetic: an
operation forms the exact quotient of two naturals and `Format.round` brings it back to the format,
to the nearest value and on a tie to the even one.
-/

namespace DbAccess.Decimal

/-- The size of a binary format: bits of the significand, and the exponents of the last place of the
least and of the greatest finite values. -/
structure Format where
  precision : Nat
  minExp : Int
  maxExp : Int
deriving DecidableEq, Repr

/-- Double precision. -/
def double : Format := ⟨53, -1074, 971⟩

/-- The least significand of a number with all its bits. -/
def Format.hidden (f : Format) : Nat := Nat.pow 2 (f.precision - 1)

/-- Single precision. -/
def single : Format := ⟨24, -149, 104⟩

/-- A floating-point number taken apart: a signed multiple of a power of two, an infinity, or no number. -/
inductive Unpacked where
  | finite (neg : Bool) (m : Nat) (q : Int)
  | infinite (neg : Bool)
  | nan
deriving DecidableEq, Repr

/-- Two to the power `n`, or one for negative `n`. -/
def pow2 (n : Int) : Nat := Nat.pow 2 n.toNat

/-- Ten to the power `n`, or one for negative `n`. -/
def pow10 (n : Int) : Nat := Nat.pow 10 n.toNat

/-- The quotient `num / den` to the nearest natural, a tie to the even neighbour. -/
def roundDiv (num den : Nat) : Nat :=
  let quot := num / den
  let twice := 2 * (num % den)
  if twice < den then quot
  else if den < twice then quot + 1
  else if quot % 2 = 0 then quot else quot + 1

/-- The greatest `e` with `2 ^ e ≤ num / den`, for positive `num` and `den`. -/
def binaryExponent (num den : Nat) : Int :=
  let e : Int := (num.log2 : Int) - (den.log2 : Int)
  if num * pow2 (-e) < den * pow2 e then e - 1 else e

/-- The magnitude `num / den` in the format, as `m * 2 ^ q`, or `none` when it is too large. -/
def Format.round (f : Format) (num den : Nat) : Option (Nat × Int) :=
  if num = 0 then some (0, f.minExp)
  else
    let q := max (binaryExponent num den - ((f.precision : Int) - 1)) f.minExp
    let m := roundDiv (num * pow2 (-q)) (den * pow2 q)
    let (m, q) := if m = 2 * f.hidden then (f.hidden, q + 1) else (m, q)
    if f.maxExp < q then none else some (m, q)

/-- A signed quotient in the format. -/
def Format.ofRatio (f : Format) (neg : Bool) (num den : Nat) : Unpacked :=
  match f.round num den with
  | some (m, q) => .finite neg m q
  | none => .infinite neg

/-- The interchange bits below the sign for a magnitude of the format. -/
def Format.encode (f : Format) (m : Nat) (q : Int) : Nat :=
  if m < f.hidden then m else (q - f.minExp + 1).toNat * f.hidden + (m - f.hidden)

/-- The exponent field of infinities. -/
def Format.topField (f : Format) : Nat := (f.maxExp - f.minExp + 2).toNat

/-- The bits below the sign of any number of the format. -/
def Format.magnitudeBits (f : Format) : Unpacked → Nat
  | .finite _ m q => f.encode m q
  | .infinite _ => f.topField * f.hidden
  | .nan => f.topField * f.hidden + f.hidden / 2

/-- Takes the bits below the sign apart. -/
def Format.decode (f : Format) (neg : Bool) (bits : Nat) : Unpacked :=
  let field := bits / f.hidden
  let frac := bits % f.hidden
  if field = f.topField then (if frac = 0 then .infinite neg else .nan)
  else if field = 0 then .finite neg frac f.minExp
  else .finite neg (f.hidden + frac) (f.minExp + field - 1)

namespace Unpacked

/-- The sign bit; there is only one value that is no number, and it has none. -/
def isNegative : Unpacked → Bool
  | finite neg _ _ => neg
  | infinite neg => neg
  | nan => false

/-- A finite number. -/
def isFinite : Unpacked → Bool
  | finite .. => true
  | _ => false

/-- A finite number above zero. -/
def isPositive : Unpacked → Bool
  | finite neg m _ => !neg && m != 0
  | _ => false

/-- The exact product, brought back to the format. -/
def mul (f : Format) : Unpacked → Unpacked → Unpacked
  | nan, _ => nan
  | _, nan => nan
  | finite a m q, finite b n r => f.ofRatio (a != b) (m * n * pow2 (q + r)) (pow2 (-(q + r)))
  | infinite a, infinite b => infinite (a != b)
  | infinite a, finite b n _ => if n = 0 then nan else infinite (a != b)
  | finite a m _, infinite b => if m = 0 then nan else infinite (a != b)

/-- The exact quotient of finite numbers, brought back to the format; the divisor is not zero. -/
def div (f : Format) : Unpacked → Unpacked → Unpacked
  | finite a m q, finite b n r => f.ofRatio (a != b) (m * pow2 (q - r)) (n * pow2 (r - q))
  | finite a _ _, infinite b => finite (a != b) 0 f.minExp
  | infinite a, finite b _ _ => infinite (a != b)
  | _, _ => nan

/-- A signed multiple of a power of two as a signed multiple of a lower power. -/
def scaledInt (neg : Bool) (m shift : Nat) : Int :=
  if neg then -((m * Nat.pow 2 shift : Nat) : Int) else (m * Nat.pow 2 shift : Nat)

/-- The exact sum, brought back to the format. -/
def add (f : Format) : Unpacked → Unpacked → Unpacked
  | finite a m q, finite b n r =>
    let low := min q r
    let s := scaledInt a m (q - low).toNat + scaledInt b n (r - low).toNat
    if s = 0 then finite (a && b) 0 f.minExp
    else f.ofRatio (s < 0) (s.natAbs * pow2 low) (pow2 (-low))
  | infinite a, infinite b => if a = b then infinite a else nan
  | infinite a, finite .. => infinite a
  | finite .., infinite b => infinite b
  | _, _ => nan

/-- The number in another format. -/
def convert (f : Format) : Unpacked → Unpacked
  | finite neg m q => f.ofRatio neg (m * pow2 q) (pow2 (-q))
  | r => r

/-- The nearest natural to a finite number that is not negative, halves upwards. -/
def roundNat : Unpacked → Option Nat
  | finite neg m q =>
    if neg && m != 0 then none
    else some ((2 * (m * pow2 q) + pow2 (-q)) / (2 * pow2 (-q)))
  | _ => none

end Unpacked

/-- Double precision, as its 64 bits. -/
structure Binary64 where
  bits : UInt64
deriving DecidableEq, Repr

/-- Single precision, as its 32 bits. -/
structure Binary32 where
  bits : UInt32
deriving DecidableEq, Repr

namespace Binary64

/-- The number taken apart. -/
def unpack (x : Binary64) : Unpacked :=
  double.decode (limit63 ≤ x.bits.toNat) (x.bits.toNat % limit63)

/-- The bits of a number of the format. -/
def pack (r : Unpacked) : Binary64 :=
  ⟨(double.magnitudeBits r + if r.isNegative then limit63 else 0).toUInt64⟩

/-- The nearest double to an integer. -/
def ofInt (n : Int) : Binary64 := pack (double.ofRatio (n < 0) n.natAbs 1)

/-- Equality of values: zeros are equal whatever their sign, and what is no number equals nothing. -/
def same (x y : Binary64) : Bool :=
  match x.unpack, y.unpack with
  | .nan, _ => false
  | _, .nan => false
  | .finite _ 0 _, .finite _ 0 _ => true
  | _, _ => x == y

/-- The number with its sign turned round. -/
def neg (x : Binary64) : Binary64 := ⟨x.bits ^^^ 0x8000000000000000⟩

/-- The sum, rounded once. -/
def add (x y : Binary64) : Binary64 := pack (x.unpack.add double y.unpack)

/-- The product, rounded once. -/
def mul (x y : Binary64) : Binary64 := pack (x.unpack.mul double y.unpack)

/-- The quotient, rounded once. -/
def div (x y : Binary64) : Binary64 := pack (x.unpack.div double y.unpack)

end Binary64

namespace Binary32

/-- The number taken apart. -/
def unpack (x : Binary32) : Unpacked :=
  single.decode (limit31 ≤ x.bits.toNat) (x.bits.toNat % limit31)

/-- The bits of a number of the format. -/
def pack (r : Unpacked) : Binary32 :=
  ⟨(single.magnitudeBits r + if r.isNegative then limit31 else 0).toUInt32⟩

/-- The same number in double precision. -/
def widen (x : Binary32) : Binary64 := .pack (x.unpack.convert double)

/-- Equality of values. -/
def same (x y : Binary32) : Bool := x.widen.same y.widen

end Binary32

/-- The nearest single to a double. -/
def Binary64.narrow (x : Binary64) : Binary32 := .pack (x.unpack.convert single)

end DbAccess.Decimal
