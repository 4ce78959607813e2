import DbAccess.Text.Digits
import Mathlib.Algebra.Group.Nat.Defs
import Mathlib.Tactic.ByContra
/-!
# Numbers as digits

A natural is shown in ASCII digits, and the value of these digits is the natural: `digitsValue_toString`. How
many digits there are is told by the powers of ten about the number, `length_toString_eq`; and a run of digits
stands for less than the power of ten of its length, `digitsValue_lt`.
-/

namespace DbAccess.Text

theorem isDigit_eq (c : Char) : isDigit c = c.isDigit := rfl

theorem digitsValue_eq (ds : List Char) : digitsValue ds = Nat.ofDigitChars 10 ds 0 := rfl

theorem toList_toString (n : Nat) : (toString n).toList = Nat.toDigits 10 n := by
  rw [Nat.toString_eq_repr, Nat.toList_repr]

theorem isDigit_of_mem_toString {n : Nat} {c : Char} (h : c ∈ (toString n).toList) : isDigit c = true := by
  rw [toList_toString] at h
  rw [isDigit_eq]
  exact Nat.isDigit_of_mem_toDigits (by decide) (by decide) h

/-- Reading a natural that is shown gives it back. -/
theorem digitsValue_toString (n : Nat) : digitsValue (toString n).toList = n := by
  rw [toList_toString, digitsValue_eq]
  exact Nat.ofDigitChars_toDigits (by decide) (by decide)

/-- A run of digits stands for less than the power of ten that has one digit more. -/
theorem digitsValue_lt {ds : List Char} (h : ∀ d ∈ ds, isDigit d = true) :
    digitsValue ds < 10 ^ ds.length := by
  have hfold : ∀ acc : Nat,
      ds.foldl (fun acc c => 10 * acc + (c.toNat - 48)) acc < (acc + 1) * 10 ^ ds.length := by
    induction ds with
    | nil => intro acc; simp
    | cons d ds ih =>
        intro acc
        have hd : d.toNat - 48 ≤ 9 := by
          have hrange := h d (List.mem_cons_self ..)
          simp only [isDigit, Bool.and_eq_true, decide_eq_true_eq, Char.le_def,
            UInt32.le_iff_toNat_le] at hrange
          have hhi : d.toNat ≤ 57 := hrange.2
          omega
        calc (d :: ds).foldl (fun acc c => 10 * acc + (c.toNat - 48)) acc
          _ < (10 * acc + (d.toNat - 48) + 1) * 10 ^ ds.length :=
              ih (fun e he => h e (List.mem_cons_of_mem d he)) _
          _ ≤ (10 * (acc + 1)) * 10 ^ ds.length := Nat.mul_le_mul_right _ (by omega)
          _ = (acc + 1) * 10 ^ (d :: ds).length := by
              rw [List.length_cons, Nat.pow_succ, Nat.mul_comm 10 (acc + 1), Nat.mul_assoc, Nat.mul_comm 10]
  have hzero := hfold 0
  rwa [Nat.zero_add, Nat.one_mul] at hzero

theorem head?_toDigits {n : Nat} (h : 0 < n) : (Nat.toDigits 10 n).head? ≠ some '0' := by
  have hdigit : ∀ d < 10, 0 < d → [d.digitChar].head? ≠ some '0' := by decide
  induction n using Nat.strongRecOn with
  | _ n ih =>
      rw [Nat.toDigits_eq_if (by decide)]
      split
      case isTrue hlt => exact hdigit n hlt h
      case isFalse hle =>
        have hpos : 0 < n / 10 := Nat.div_pos (Nat.le_of_not_lt hle) (by decide)
        have hlt : n / 10 < n := Nat.div_lt_self h (by decide)
        have hfront := ih _ hlt hpos
        cases hds : Nat.toDigits 10 (n / 10) with
        | nil => exact absurd hds Nat.toDigits_ne_nil
        | cons d ds =>
            rw [hds] at hfront
            exact hfront

/-- Between two powers of ten the number of digits is the upper exponent. -/
theorem length_toString_eq {n k : Nat} (hlo : 10 ^ k ≤ n) (hhi : n < 10 ^ (k + 1)) :
    (toString n).toList.length = k + 1 := by
  rw [toList_toString]
  have hmost : (Nat.toDigits 10 n).length ≤ k + 1 :=
    (Nat.length_toDigits_le_iff (by decide) (by omega)).mpr hhi
  have hleast : k < (Nat.toDigits 10 n).length := by
    by_contra hshort
    obtain rfl | hk := Nat.eq_zero_or_pos k
    · have hempty : Nat.toDigits 10 n = [] := List.length_eq_zero_iff.mp (by omega)
      exact Nat.toDigits_ne_nil hempty
    · have hsmall : n < 10 ^ k :=
        (Nat.length_toDigits_le_iff (by decide) hk).mp (Nat.le_of_not_lt hshort)
      omega
  omega

end DbAccess.Text
