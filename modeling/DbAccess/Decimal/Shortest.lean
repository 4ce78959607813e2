import DbAccess.Decimal.Binary
/-!
# The fewest digits that read back

Every finite number has an interval of reals that round to it. `shortest` finds the decimal with
the fewest digits inside that interval, and of those the nearest to the number.
-/

namespace DbAccess.Decimal

/-- The decimal `digits * 10 ^ exp`. -/
structure Dec where
  digits : Nat
  exp : Int
deriving DecidableEq, Repr

/-- What to do when two candidates are equally near. -/
inductive Tie where
  | toEven
  | up
deriving DecidableEq, Repr

/-- Compares `a * 10 ^ i` with `n * 2 ^ j`, exactly. -/
def cmpScaled (a : Nat) (i : Int) (n : Nat) (j : Int) : Ordering :=
  compare (a * pow10 i * pow2 (-j)) (n * pow2 j * pow10 (-i))

/-- The decimal lies among the reals that round to `m * 2 ^ q`: between the two half-way points, ends
included for even `m`. Below a power of two the lower neighbour is half as far away. -/
def readsBack (f : Format) (m : Nat) (q : Int) (d : Dec) : Bool :=
  let narrowBelow := m = f.hidden ∧ f.minExp < q
  let lo := if narrowBelow then 4 * m - 1 else 4 * m - 2
  let hi := 4 * m + 2
  let even := m % 2 = 0
  let below := cmpScaled d.digits d.exp lo (q - 2)
  let above := cmpScaled d.digits d.exp hi (q - 2)
  (below == .gt || (even && below == .eq)) && (above == .lt || (even && above == .eq))

/-- The least `k` with `m * 2 ^ q < 10 ^ k`, for positive `m`. -/
def decimalScale (m : Nat) (q : Int) : Int :=
  let guess := ((m.log2 : Int) + q) * 30103 / 100000 - 1
  (([0, 1, 2, 3, 4].map (fun d : Nat => guess + d)).find? fun k => cmpScaled 1 k m q == .gt).getD guess

/-- Of the two neighbours of `m * 2 ^ q` on the grid `10 ^ exp`, the nearer that reads back. -/
def onGrid (f : Format) (tie : Tie) (m : Nat) (q exp : Int) : Option Dec :=
  let num := m * pow2 q * pow10 (-exp)
  let den := pow2 (-q) * pow10 exp
  let low : Dec := ⟨num / den, exp⟩
  let high : Dec := ⟨num / den + 1, exp⟩
  match readsBack f m q low, readsBack f m q high with
  | false, false => none
  | true, false => some low
  | false, true => some high
  | true, true =>
    match compare (2 * (num % den)) den with
    | .lt => some low
    | .gt => some high
    | .eq => match tie with
      | .up => some high
      | .toEven => if low.digits % 2 = 0 then some low else some high

/-- Moves trailing zeros of the digits into the exponent. The first argument bounds their number. -/
def stripZeros : Nat → Dec → Dec
  | 0, d => d
  | n + 1, d => if d.digits % 10 = 0 then stripZeros n ⟨d.digits / 10, d.exp + 1⟩ else d

/-- The shortest decimal of a positive number; the grids are tried from coarse to fine. -/
def shortest (f : Format) (tie : Tie) (m : Nat) (q : Int) : Dec :=
  let k := decimalScale m q
  match (List.range 17).findSome? fun n : Nat => onGrid f tie m q (k - 1 - (n : Int)) with
  | some d => stripZeros 17 d
  | none => ⟨m * pow2 q * pow10 (-q) / pow2 (-q), min q 0⟩

end DbAccess.Decimal
