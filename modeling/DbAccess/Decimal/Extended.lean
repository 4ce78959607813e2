import DbAccess.Decimal.Binary
/-!
# Extended precision

Numbers with a significand of 64 bits, which are brought to another magnitude by steps of a hundred, ten and
one powers of ten. Every step is rounded, so a result may miss the nearest number by its last bits. Whoever
follows this way has to take the same steps: `scale` takes them, and `tower` brings a number between two
powers of ten.
-/

namespace DbAccess.Decimal

/-- Extended precision. -/
def extended : Format := ⟨64, -16445, 16320⟩

namespace Unpacked

/-- The order of numbers; what is no number is equal to everything. -/
def order : Unpacked → Unpacked → Ordering
  | finite a m q, finite b n r =>
    let low := min q r
    compare (scaledInt a m (q - low).toNat) (scaledInt b n (r - low).toNat)
  | infinite a, infinite b => compare b a
  | infinite a, _ => if a then .lt else .gt
  | _, infinite b => if b then .gt else .lt
  | _, _ => .eq

/-- The number is below the other. -/
def below (x y : Unpacked) : Bool := x.order y == .lt

/-- A power of ten in extended precision. -/
def powTen (k : Int) : Unpacked := extended.ofRatio false (pow10 k) (pow10 (-k))

/-- The number multiplied so many times by a factor, in extended precision. -/
def timesOften (x factor : Unpacked) : Nat → Unpacked
  | 0 => x
  | n + 1 => timesOften (x.mul extended factor) factor n

/-- The number times a power of ten, in steps of a hundred, ten and one powers. -/
def scale (x : Unpacked) (k : Int) : Unpacked :=
  let n := k.natAbs
  let step : Int := if k < 0 then -1 else 1
  ((x.timesOften (powTen (100 * step)) (n / 100)).timesOften (powTen (10 * step)) (n % 100 / 10)).timesOften
    (powTen step) (n % 10)

/-- A number and the power of ten that it has to be multiplied with. -/
abbrev Scaled := Unpacked × Int

/-- Multiplies by a power of ten as long as the number is below a bound; the first argument bounds the
steps. -/
def raise : Nat → (k bound : Int) → Scaled → Scaled
  | 0, _, _, s => s
  | fuel + 1, k, bound, s =>
    if s.1.below (powTen bound) then raise fuel k bound (s.1.mul extended (powTen k), s.2 - k) else s

/-- Divides by a power of ten as long as the number is not below a bound; the first argument bounds the
steps. -/
def lower : Nat → (k bound : Int) → Scaled → Scaled
  | 0, _, _, s => s
  | fuel + 1, k, bound, s =>
    if s.1.below (powTen bound) then s else lower fuel k bound (s.1.mul extended (powTen (-k)), s.2 + k)

/-- More steps of one size than any double takes. -/
def maxSteps : Nat := 40

/-- A positive number brought between the seventeenth and the nineteenth power of ten. -/
def tower (x : Unpacked) : Scaled :=
  if x.below (powTen 19) then
    raise maxSteps 1 17 (raise maxSteps 10 7 (raise maxSteps 100 (-97) (x, 0)))
  else lower maxSteps 1 19 (lower maxSteps 10 29 (lower maxSteps 100 119 (x, 0)))

/-- The whole part of a magnitude. -/
def whole : Unpacked → Nat
  | finite _ m q => m * pow2 q / pow2 (-q)
  | _ => 0

end Unpacked

end DbAccess.Decimal
