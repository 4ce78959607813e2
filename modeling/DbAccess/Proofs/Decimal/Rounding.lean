import DbAccess.Decimal.Binary
import Mathlib.Algebra.Order.Field.Power
import Mathlib.Data.Rat.Cast.Order
import Mathlib.Tactic.FieldSimp
import Mathlib.Tactic.Positivity
import Mathlib.Tactic.Ring
/-!
# What rounding gives

`Format.round` finds a quotient's place by `binaryExponent`, which is not too low (`lt_binaryExponent`); so the
significand it gives fits the format (`fits_of_round`), and its bits stay below those of infinities
(`encode_lt`). A number that was rounded is therefore a number (`unpack_pack_ofRatio`), and so is one that is
widened (`unpack_widen`).
-/

namespace DbAccess.Decimal

/-! ### Powers of two -/

theorem pow2_pos (k : Int) : 0 < pow2 k := Nat.pow_pos (by decide)

/-- A power of two and the one of the opposite exponent, of which one is cut off. -/
theorem cast_pow2 (k : Int) : (pow2 k : ℚ) = 2 ^ k * pow2 (-k) := by
  have hcast : ∀ n : Int, (pow2 n : ℚ) = 2 ^ n.toNat := fun n => by
    show ((2 ^ n.toNat : Nat) : ℚ) = _
    push_cast
    rfl
  obtain hk | hk := le_total 0 k
  · obtain ⟨n, rfl⟩ := Int.eq_ofNat_of_zero_le hk
    simp [hcast]
  · obtain ⟨n, hn⟩ := Int.eq_ofNat_of_zero_le (Int.neg_nonneg.mpr hk)
    have hk' : k = -n := by omega
    subst hk'
    simp [hcast]

/-- A quotient is below a power of two. -/
def Below (num den : Nat) (k : Int) : Prop := num * pow2 (-k) < den * pow2 k

variable {num den : Nat}

theorem below_iff {k : Int} : Below num den k ↔ (num : ℚ) < den * 2 ^ k := by
  have hpos : (0 : ℚ) < pow2 (-k) := by exact_mod_cast pow2_pos (-k)
  rw [Below, ← Nat.cast_lt (α := ℚ), Nat.cast_mul, Nat.cast_mul, cast_pow2 k, ← mul_assoc]
  exact mul_lt_mul_iff_left₀ hpos

theorem Below.mono {k k' : Int} (h : Below num den k) (hk : k ≤ k') : Below num den k' := by
  rw [below_iff] at h ⊢
  exact h.trans_le (mul_le_mul_of_nonneg_left (zpow_le_zpow_right₀ one_le_two hk) (Nat.cast_nonneg den))

theorem Below.scaled {q : Int} {p : Nat} (h : Below num den (q + p)) :
    num * pow2 (-q) < Nat.pow 2 p * (den * pow2 q) := by
  have hpos : (0 : ℚ) < pow2 (-q) := by exact_mod_cast pow2_pos (-q)
  rw [below_iff, zpow_add₀ two_ne_zero, zpow_natCast] at h
  have hcast : (num * pow2 (-q) : ℚ) < 2 ^ p * (den * pow2 q) := by
    rw [cast_pow2 q]
    calc (num * pow2 (-q) : ℚ) < den * (2 ^ q * 2 ^ p) * pow2 (-q) := mul_lt_mul_of_pos_right h hpos
      _ = 2 ^ p * (den * (2 ^ q * pow2 (-q))) := by ring
  exact_mod_cast hcast

/-- A quotient is below the power of two after its exponent. -/
theorem lt_binaryExponent (num : Nat) (hden : 0 < den) : Below num den (binaryExponent num den + 1) := by
  rw [binaryExponent]
  split
  case isTrue h =>
    rw [Int.sub_add_cancel]
    exact h
  case isFalse =>
    rw [below_iff, zpow_add₀ two_ne_zero, zpow_sub₀ two_ne_zero, zpow_natCast, zpow_natCast, zpow_one]
    have hnum : (num : ℚ) < 2 ^ num.log2 * 2 := by
      rw [← pow_succ]
      exact_mod_cast Nat.lt_log2_self
    have hlog : (2 ^ den.log2 : ℚ) ≤ den := by exact_mod_cast Nat.log2_self_le hden.ne'
    have hpos : (0 : ℚ) < 2 ^ den.log2 := by positivity
    calc (num : ℚ) < 2 ^ num.log2 * 2 := hnum
      _ = 2 ^ den.log2 * (2 ^ num.log2 / 2 ^ den.log2 * 2) := by field_simp
      _ ≤ den * (2 ^ num.log2 / 2 ^ den.log2 * 2) := mul_le_mul_of_nonneg_right hlog (by positivity)

theorem roundDiv_le {n : Nat} (h : num < n * den) : roundDiv num den ≤ n := by
  have hquot : num / den < n := Nat.div_lt_of_lt_mul (by rwa [Nat.mul_comm] at h)
  rw [roundDiv]
  split
  · omega
  split
  · omega
  split <;> omega

/-! ### The bits of what is rounded -/

/-- The magnitude `m * 2 ^ q` fits the format. -/
structure Format.Fits (f : Format) (m : Nat) (q : Int) : Prop where
  significand : m < 2 * f.hidden
  least : f.minExp ≤ q
  greatest : q ≤ f.maxExp

theorem Format.hidden_pos (f : Format) : 0 < f.hidden := Nat.pow_pos (by decide)

/-- **What rounding gives fits the format.** -/
theorem Format.fits_of_round {f : Format} (hp : 0 < f.precision) (hexp : f.minExp ≤ f.maxExp)
    (hden : 0 < den) {m : Nat} {q : Int} (h : f.round num den = some (m, q)) : f.Fits m q := by
  have hhidden := f.hidden_pos
  rw [round] at h
  split at h
  case isTrue =>
    cases h
    exact ⟨by omega, Int.le_refl _, hexp⟩
  case isFalse =>
    dsimp only at h
    generalize hq : max (binaryExponent num den - ((f.precision : Int) - 1)) f.minExp = q₀ at h
    generalize hm : roundDiv (num * pow2 (-q₀)) (den * pow2 q₀) = m₀ at h
    have hfull : Nat.pow 2 f.precision = 2 * f.hidden := by
      show 2 ^ f.precision = 2 * 2 ^ (f.precision - 1)
      rw [← Nat.pow_succ', Nat.succ_eq_add_one, Nat.sub_add_cancel hp]
    have hbelow : Below num den (q₀ + f.precision) := (lt_binaryExponent num hden).mono (by omega)
    have hm₀ : m₀ ≤ 2 * f.hidden := by
      rw [← hm, ← hfull]
      exact roundDiv_le hbelow.scaled
    -- a significand that has become too long by rounding up is a power of two
    split at h
    all_goals
      rename_i hcarry
      split at h
      · cases h
      · cases h
        exact ⟨by omega, by omega, by omega⟩

theorem Format.encode_lt {f : Format} {m : Nat} {q : Int} (h : f.Fits m q) :
    f.encode m q < f.topField * f.hidden := by
  obtain ⟨hm, hleast, hgreatest⟩ := h
  rw [encode]
  split
  case isTrue hlt =>
    have htop : 1 ≤ f.topField := by rw [topField]; omega
    calc m < 1 * f.hidden := by omega
      _ ≤ f.topField * f.hidden := Nat.mul_le_mul_right _ htop
  case isFalse hge =>
    have hfield : (q - f.minExp + 1).toNat + 1 ≤ f.topField := by rw [topField]; omega
    calc (q - f.minExp + 1).toNat * f.hidden + (m - f.hidden)
        < (q - f.minExp + 1).toNat * f.hidden + f.hidden := by omega
      _ = ((q - f.minExp + 1).toNat + 1) * f.hidden := by rw [Nat.add_mul, Nat.one_mul]
      _ ≤ f.topField * f.hidden := Nat.mul_le_mul_right _ hfield

theorem Format.decode_ne_nan {f : Format} {bits : Nat} (h : bits ≤ f.topField * f.hidden) (neg : Bool) :
    f.decode neg bits ≠ .nan := by
  have hhidden := f.hidden_pos
  rw [decode]
  split
  case isTrue htop =>
    have hbits : bits = f.topField * f.hidden :=
      Nat.le_antisymm h (htop ▸ Nat.div_mul_le_self bits f.hidden)
    rw [hbits, Nat.mul_mod_left, if_pos rfl]
    nofun
  case isFalse => split <;> nofun

theorem Binary64.unpack_pack_ne_nan {r : Unpacked}
    (h : double.magnitudeBits r ≤ double.topField * double.hidden) : (pack r).unpack ≠ .nan := by
  have hlimit : double.topField * double.hidden < limit63 := by decide
  have hbits : (pack r).bits.toNat % limit63 = double.magnitudeBits r := by
    show (UInt64.ofNat _).toNat % limit63 = _
    have hsign : (if r.isNegative then limit63 else 0) ≤ limit63 := by split <;> decide
    rw [UInt64.toNat_ofNat_of_lt' (by show _ < 0x10000000000000000; unfold limit63 at *; omega)]
    split <;> unfold limit63 at * <;> omega
  rw [unpack, hbits]
  exact Format.decode_ne_nan h _

theorem Binary64.unpack_pack_ofRatio (neg : Bool) (num : Nat) (hden : 0 < den) :
    (pack (double.ofRatio neg num den)).unpack ≠ .nan := by
  apply unpack_pack_ne_nan
  rw [Format.ofRatio]
  cases h : double.round num den with
  | none => exact Nat.le_refl _
  | some r => exact (Format.encode_lt (Format.fits_of_round (by decide) (by decide) hden h)).le

/-- **A number is widened to a number.** -/
theorem Binary32.unpack_widen {x : Binary32} (h : x.unpack ≠ .nan) : x.widen.unpack ≠ .nan := by
  rw [widen]
  cases hx : x.unpack with
  | finite neg m q => exact Binary64.unpack_pack_ofRatio neg _ (pow2_pos (-q))
  | infinite neg => exact Binary64.unpack_pack_ne_nan (Nat.le_refl _)
  | nan => exact absurd hx h

end DbAccess.Decimal
