import DbAccess.Text.Blank
import DbAccess.Text.Word
/-!
# How character classes lie to each other

Classes are tables of ranges, so that one is part of another (`inRanges_of_covers`) or lies apart from it
(`inRanges_of_apart`) is a matter of comparing ranges. Digits of every script are characters of words, and none of
them is white space.
-/

namespace DbAccess.Text

variable {small large left right : Array CharRange} {c : Char}

theorem inRanges_iff : inRanges small c = true ↔ ∃ r ∈ small.toList, r.1 ≤ c.toNat ∧ c.toNat ≤ r.2 := by
  rw [inRanges, ← Array.any_toList, List.any_eq_true]
  simp only [Bool.and_eq_true, decide_eq_true_eq]

/-- Each of the second ranges lies within one of the first. Both are taken in order: those in front that lie
within the first range are passed over with it. -/
def covers : List CharRange → List CharRange → Bool
  | [], inner => inner.isEmpty
  | r :: outer, inner => covers outer (inner.dropWhile fun s => r.1 ≤ s.1 && s.2 ≤ r.2)

theorem exists_of_covers {outer inner : List CharRange} (h : covers outer inner = true) :
    ∀ s ∈ inner, ∃ r ∈ outer, r.1 ≤ s.1 ∧ s.2 ≤ r.2 := by
  induction outer generalizing inner with
  | nil =>
      intro s hs
      rw [List.isEmpty_iff.mp h] at hs
      cases hs
  | cons r outer ih =>
      intro s hs
      let inside (s : CharRange) : Bool := r.1 ≤ s.1 && s.2 ≤ r.2
      have hsplit : inner.takeWhile inside ++ inner.dropWhile inside = inner := List.takeWhile_append_dropWhile
      rw [← hsplit, List.mem_append] at hs
      obtain hs | hs := hs
      · have hfront := List.all_eq_true.mp List.all_takeWhile s hs
        exact ⟨r, List.mem_cons_self, by simpa [inside] using hfront⟩
      · obtain ⟨r', hr', hwithin⟩ := ih h s hs
        exact ⟨r', List.mem_cons_of_mem r hr', hwithin⟩

/-- A class is part of another when its ranges lie within those of the other. -/
theorem inRanges_of_covers (h : covers large.toList small.toList = true) (hc : inRanges small c = true) :
    inRanges large c = true := by
  obtain ⟨s, hs, hlo, hhi⟩ := inRanges_iff.mp hc
  obtain ⟨r, hr, hlo', hhi'⟩ := exists_of_covers h s hs
  exact inRanges_iff.mpr ⟨r, hr, Nat.le_trans hlo' hlo, Nat.le_trans hhi hhi'⟩

/-- Classes have nothing in common when no range of the one meets a range of the other. -/
theorem inRanges_of_apart (h : ∀ r ∈ left.toList, ∀ r' ∈ right.toList, r.2 < r'.1 ∨ r'.2 < r.1)
    (hc : inRanges left c = true) : inRanges right c = false := by
  obtain ⟨r, hr, hlo, hhi⟩ := inRanges_iff.mp hc
  rw [← Bool.not_eq_true, inRanges_iff]
  rintro ⟨r', hr', hlo', hhi'⟩
  have hapart := h r hr r' hr'
  omega

theorem isWordChar_of_isDecimalDigit (h : isDecimalDigit c = true) : isWordChar c = true :=
  inRanges_of_covers (by decide +kernel) h

theorem isBlank_of_isDecimalDigit (h : isDecimalDigit c = true) : isBlank c = false :=
  inRanges_of_apart (by decide +kernel) h

theorem isWordChar_of_toLower (hlo : 97 ≤ c.toLower.toNat) (hhi : c.toLower.toNat ≤ 122) :
    isWordChar c = true := by
  by_cases hupper : c.val ≥ 'A'.val ∧ c.val ≤ 'Z'.val
  · have hlo' : 65 ≤ c.toNat := UInt32.le_iff_toNat_le.mp hupper.1
    have hhi' : c.toNat ≤ 90 := UInt32.le_iff_toNat_le.mp hupper.2
    exact inRanges_iff.mpr ⟨(0x41, 0x5A), by decide +kernel, hlo', hhi'⟩
  · have hsame : c.toLower = c := dif_neg hupper
    rw [hsame] at hlo hhi
    exact inRanges_iff.mpr ⟨(0x61, 0x7A), by decide +kernel, hlo, hhi⟩

end DbAccess.Text
