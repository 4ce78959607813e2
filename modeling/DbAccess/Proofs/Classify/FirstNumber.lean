import DbAccess.Proofs.Classify.Mention
import DbAccess.Proofs.Text.CharRange
import Mathlib.Order.WellFounded
/-!
# Which number a message mentions first

The scan for numbers ends at the first mention (`mentionAt_of_firstFrom`), and a mention may be written in
the digits of any script. Its number is read in ASCII digits only: so the leftmost mention in ASCII digits is
the one that counts when no mention in other digits begins before it, and when one does no number is found
(`first?_leftmost`).
-/

namespace DbAccess.ErrorNumber

open Text (isBlank isDecimalDigit isDigit isWordChar digitsValue)

variable {s t before word blanks digits after : List Char} {c : Char} {inWord : Bool}

/-! ### Mentions -/

/-- The marker in some letter case, white space, and four digits of any script. -/
structure IsMention (word blanks digits : List Char) : Prop where
  word : word.map Char.toLower = marker
  blanks_ne_nil : blanks ≠ []
  isBlank : ∀ c ∈ blanks, isBlank c = true
  length : digits.length = 4
  isDecimalDigit : ∀ d ∈ digits, isDecimalDigit d = true

/-- Between the two texts a word begins or ends: just one of them has a character of words there. -/
def Boundary (left right : List Char) : Prop := left.getLast?.any isWordChar ≠ right.head?.any isWordChar

theorem IsMention.length_word (h : IsMention word blanks digits) : word.length = marker.length := by
  rw [← h.word, List.length_map]

/-- The marker begins with a character of words, so a word begins there unless another one goes on. -/
theorem IsMention.boundary_word_iff (h : IsMention word blanks digits) (before : List Char) :
    Boundary before word ↔ before.getLast?.any isWordChar = false := by
  have hhead : word.head?.any isWordChar = true := by
    have hword := h.word
    cases word with
    | nil => cases hword
    | cons c word =>
        have hc : c.toLower = 'e' := (List.cons_eq_cons.mp hword).1
        rw [List.head?_cons, Option.any_some]
        exact Text.isWordChar_of_toLower (by rw [hc]; decide) (by rw [hc]; decide)
  rw [Boundary, hhead, ne_eq, Bool.not_eq_true]

/-- The last digit is a character of words, so a word ends there unless it goes on. -/
theorem IsMention.boundary_digits_iff (h : IsMention word blanks digits) (after : List Char) :
    Boundary digits after ↔ after.head?.any isWordChar = false := by
  have hlast : digits.getLast?.any isWordChar = true := by
    cases hdigits : digits.getLast? with
    | none =>
        have hlength := h.length
        rw [List.getLast?_eq_none_iff.mp hdigits] at hlength
        cases hlength
    | some d =>
        rw [Option.any_some]
        exact Text.isWordChar_of_isDecimalDigit (h.isDecimalDigit d (List.mem_of_getLast? hdigits))
  rw [Boundary, hlast, ne_comm, ne_eq, Bool.not_eq_true]

theorem mention?_eq_some_iff : mention? s = some digits ↔ ∃ word blanks after,
    IsMention word blanks digits ∧ Boundary digits after ∧ s = word ++ blanks ++ digits ++ after := by
  constructor
  · intro h
    simp only [mention?] at h
    split at h
    · rename_i hword
      split at h
      · rename_i hall
        obtain rfl := Option.some.inj h
        simp only [Bool.and_eq_true, decide_eq_true_eq, List.all_eq_true, Bool.not_eq_true'] at hall
        obtain ⟨⟨⟨hblank, hlength⟩, hdigits⟩, hafter⟩ := hall
        have hmention : IsMention (s.take marker.length) ((s.drop marker.length).takeWhile isBlank)
            (((s.drop marker.length).dropWhile isBlank).take 4) := by
          refine ⟨hword, ?_, fun c hc => List.all_eq_true.mp List.all_takeWhile c hc, hlength, hdigits⟩
          cases hrest : s.drop marker.length <;> simp_all
        refine ⟨_, _, _, hmention, (hmention.boundary_digits_iff _).mpr hafter, ?_⟩
        simp [List.append_assoc]
      · cases h
    · cases h
  · rintro ⟨word, blanks, after, hmention, hboundary, rfl⟩
    have hafter := (hmention.boundary_digits_iff after).mp hboundary
    have hstop : (digits ++ after).dropWhile isBlank = digits ++ after := by
      have hlength := hmention.length
      cases digits with
      | nil => cases hlength
      | cons d digits =>
          have hd := hmention.isDecimalDigit d (List.mem_cons_self ..)
          simp [Text.isBlank_of_isDecimalDigit hd]
    have hskip : (blanks ++ (digits ++ after)).dropWhile isBlank = digits ++ after := by
      rw [List.dropWhile_append_of_pos hmention.isBlank, hstop]
    have hhead : (blanks ++ (digits ++ after)).head?.any isBlank = true := by
      have hne := hmention.blanks_ne_nil
      cases blanks with
      | nil => cases hne rfl
      | cons c blanks => simpa using hmention.isBlank c (List.mem_cons_self ..)
    have htake : (word ++ (blanks ++ (digits ++ after))).take marker.length = word := by
      rw [← hmention.length_word, List.take_left]
    have hdrop : (word ++ (blanks ++ (digits ++ after))).drop marker.length = blanks ++ (digits ++ after) := by
      rw [← hmention.length_word, List.drop_left]
    have hfour : (digits ++ after).take 4 = digits := by rw [← hmention.length, List.take_left]
    have hrest : (digits ++ after).drop 4 = after := by rw [← hmention.length, List.drop_left]
    simp only [mention?, List.append_assoc, htake, hmention.word, hdrop, hskip, hhead, hfour, hrest,
      hmention.length, List.all_eq_true.mpr hmention.isDecimalDigit, hafter, decide_true, Bool.not_false,
      Bool.and_self, if_true]

/-! ### What the scan finds -/

/-- Behind `before` a word goes on; with nothing there, `inWord` tells. -/
def wordBefore (inWord : Bool) (before : List Char) : Bool := (before.getLast?.map isWordChar).getD inWord

theorem wordBefore_cons (inWord : Bool) (c : Char) (before : List Char) :
    wordBefore inWord (c :: before) = wordBefore (isWordChar c) before := by
  cases before with
  | nil => simp [wordBefore]
  | cons d before =>
      rw [wordBefore, wordBefore, List.getLast?_cons_cons]
      cases hlast : (d :: before).getLast? with
      | none => cases List.getLast?_eq_none_iff.mp hlast
      | some e => rw [Option.map_some, Option.getD_some, Option.getD_some]

/-- A mention of the digits begins behind `before`, where no word goes on. -/
def MentionAt (inWord : Bool) (s before digits : List Char) : Prop :=
  wordBefore inWord before = false ∧ ∃ t, s = before ++ t ∧ mention? t = some digits

theorem mentionAt_nil_iff : MentionAt inWord s [] digits ↔ inWord = false ∧ mention? s = some digits := by
  simp [MentionAt, wordBefore]

theorem mentionAt_cons_iff :
    MentionAt inWord (c :: s) (c :: before) digits ↔ MentionAt (isWordChar c) s before digits := by
  rw [MentionAt, MentionAt, wordBefore_cons]
  simp

/-- Where the scan finds nothing in front, every mention begins behind the first character. -/
theorem exists_mentionAt_of_none (hnone : (if inWord then none else mention? (c :: s)) = none)
    (h : MentionAt inWord (c :: s) before digits) :
    ∃ rest, before = c :: rest ∧ MentionAt (isWordChar c) s rest digits := by
  cases before with
  | nil =>
      obtain ⟨rfl, hfound⟩ := mentionAt_nil_iff.mp h
      rw [if_neg Bool.false_ne_true, hfound] at hnone
      cases hnone
  | cons d before =>
      obtain ⟨-, t, ht, -⟩ := id h
      obtain ⟨rfl, -⟩ := List.cons_eq_cons.mp ht
      exact ⟨before, rfl, mentionAt_cons_iff.mp h⟩

theorem not_mentionAt_of_firstFrom (h : firstFrom inWord s = none) : ¬ MentionAt inWord s before digits := by
  induction s generalizing inWord before with
  | nil =>
      rintro ⟨-, t, hnil, hfound⟩
      obtain ⟨rfl, rfl⟩ := List.nil_eq_append_iff.mp hnil
      cases hfound
  | cons c s ih =>
      intro hmention
      rw [firstFrom] at h
      split at h
      · cases h
      · rename_i hnone
        obtain ⟨rest, -, hrest⟩ := exists_mentionAt_of_none hnone hmention
        exact ih h hrest

/-- What the scan finds is the mention that begins first. -/
theorem mentionAt_of_firstFrom (h : firstFrom inWord s = some digits) :
    ∃ before, MentionAt inWord s before digits ∧
      ∀ before' digits', MentionAt inWord s before' digits' → before.length ≤ before'.length := by
  induction s generalizing inWord with
  | nil => cases h
  | cons c s ih =>
      rw [firstFrom] at h
      split at h
      · rename_i hfound
        cases h
        refine ⟨[], mentionAt_nil_iff.mpr ?_, fun _ _ _ => Nat.zero_le _⟩
        cases inWord with
        | true => cases hfound
        | false => exact ⟨rfl, hfound⟩
      · rename_i hnone
        obtain ⟨before, hmention, hfirst⟩ := ih h
        refine ⟨c :: before, mentionAt_cons_iff.mpr hmention, fun before' digits' h' => ?_⟩
        obtain ⟨rest, rfl, hrest⟩ := exists_mentionAt_of_none hnone h'
        exact Nat.succ_le_succ (hfirst _ _ hrest)

/-! ### The leftmost mention -/

/-- Behind `before` a mention stands in the text, with the boundaries of words about it; `after` follows. -/
def Occurs (s before digits after : List Char) : Prop :=
  ∃ word blanks, IsMention word blanks digits ∧ Boundary before word ∧ Boundary digits after ∧
    s = before ++ (word ++ blanks ++ digits ++ after)

theorem exists_occurs_iff : (∃ after, Occurs s before digits after) ↔ MentionAt false s before digits := by
  have hbefore : wordBefore false before = before.getLast?.any isWordChar := by
    rw [wordBefore]
    cases before.getLast? <;> rfl
  simp only [MentionAt, mention?_eq_some_iff, hbefore]
  constructor
  · rintro ⟨after, word, blanks, hmention, hword, hdigits, hs⟩
    exact ⟨(hmention.boundary_word_iff before).mp hword, _, hs, word, blanks, after, hmention, hdigits, rfl⟩
  · rintro ⟨hword, t, hs, word, blanks, after, hmention, hdigits, rfl⟩
    exact ⟨after, word, blanks, hmention, (hmention.boundary_word_iff before).mpr hword, hdigits, hs⟩

theorem Occurs.found (h : Occurs s before digits after) :
    wordBefore false (s.take before.length) = false ∧ mention? (s.drop before.length) = some digits := by
  obtain ⟨hword, t, rfl, hfound⟩ := exists_occurs_iff.mp ⟨after, h⟩
  rw [List.take_left, List.drop_left]
  exact ⟨hword, hfound⟩

/-- The digits are those of ASCII. -/
def InAscii (digits : List Char) : Prop := ∀ d ∈ digits, isDigit d = true

/-- Of the mentions in ASCII digits, the one that begins furthest left. -/
structure Leftmost (s before digits after : List Char) : Prop where
  occurs : Occurs s before digits after
  inAscii : InAscii digits
  length_le : ∀ before' digits' after', Occurs s before' digits' after' → InAscii digits' →
    before.length ≤ before'.length

theorem exists_leftmost (h : Occurs s before digits after) (hascii : InAscii digits) :
    ∃ before digits after, Leftmost s before digits after := by
  obtain ⟨front, ⟨digits, after, h, hascii⟩, hmin⟩ := (measure (List.length (α := Char))).wf.has_min
    {front | ∃ digits after, Occurs s front digits after ∧ InAscii digits} ⟨before, digits, after, h, hascii⟩
  refine ⟨front, digits, after, h, hascii, fun before' digits' after' h' hascii' => ?_⟩
  exact Nat.le_of_not_lt (hmin before' ⟨digits', after', h', hascii'⟩)

theorem MentionAt.unique {before' digits' : List Char} (h : MentionAt inWord s before digits)
    (h' : MentionAt inWord s before' digits') (hlength : before.length = before'.length) : digits = digits' := by
  obtain ⟨-, t, ht, hfound⟩ := h
  obtain ⟨-, t', ht', hfound'⟩ := h'
  obtain ⟨rfl, rfl⟩ := List.append_inj (ht.symm.trans ht') hlength
  exact Option.some.inj (hfound.symm.trans hfound')

/-- The number of a message is that of its first mention, if it is in ASCII digits. -/
theorem first?_of_firstFrom {message : String} (h : firstFrom false message.toList = some digits) :
    (InAscii digits → first? message = some (digitsValue digits)) ∧
      (¬ InAscii digits → first? message = none) := by
  have hall : digits.all isDigit = true ↔ InAscii digits := List.all_eq_true
  rw [first?, h, Option.bind_some]
  exact ⟨fun hascii => if_pos (hall.mpr hascii), fun hascii => if_neg (mt hall.mp hascii)⟩

/-- **A number in the text is found, unless one in other digits comes first.** Of the mentions in ASCII digits, the
leftmost counts, whatever text precedes it, when no mention at all begins before it; when one does, which is then
in the digits of another script, no number is found. And the number that is found has four digits and stands
in a mention in the message. -/
theorem first?_leftmost (message : String) :
    ((∃ before digits after, Occurs message.toList before digits after ∧ InAscii digits) →
      ∃ before digits after, Leftmost message.toList before digits after) ∧
    (∀ before digits after, Leftmost message.toList before digits after →
      ((∀ before' digits' after', Occurs message.toList before' digits' after' →
          before.length ≤ before'.length) → first? message = some (digitsValue digits)) ∧
      ((∃ before' digits' after', Occurs message.toList before' digits' after' ∧
          before'.length < before.length) → first? message = none)) ∧
    ∀ n, first? message = some n → n ≤ 9999 ∧
      ∃ before digits after, Occurs message.toList before digits after ∧ InAscii digits ∧
        digitsValue digits = n := by
  refine ⟨fun ⟨_, _, _, h, hascii⟩ => exists_leftmost h hascii, fun before digits after h => ?_, fun n hn => ?_⟩
  · have hmention := exists_occurs_iff.mp ⟨after, h.occurs⟩
    obtain ⟨found, hfound⟩ : ∃ found, firstFrom false message.toList = some found := by
      cases hscan : firstFrom false message.toList with
      | none => exact absurd hmention (not_mentionAt_of_firstFrom hscan)
      | some found => exact ⟨found, rfl⟩
    obtain ⟨front, hfront, hfirst⟩ := mentionAt_of_firstFrom hfound
    obtain ⟨rest, hoccurs⟩ := exists_occurs_iff.mpr hfront
    constructor
    · intro hleast
      have hlength := Nat.le_antisymm (hfirst _ _ hmention) (hleast _ _ _ hoccurs)
      obtain rfl := hfront.unique hmention hlength
      exact (first?_of_firstFrom hfound).1 h.inAscii
    · rintro ⟨before', digits', after', h', hlt⟩
      have hle := hfirst _ _ (exists_occurs_iff.mp ⟨after', h'⟩)
      refine (first?_of_firstFrom hfound).2 fun hascii => ?_
      have hge := h.length_le _ _ _ hoccurs hascii
      omega
  · cases hscan : firstFrom false message.toList with
    | none =>
        rw [first?, hscan] at hn
        cases hn
    | some found =>
        obtain ⟨front, hfront, -⟩ := mentionAt_of_firstFrom hscan
        obtain ⟨rest, hoccurs⟩ := exists_occurs_iff.mpr hfront
        by_cases hascii : InAscii found
        · rw [(first?_of_firstFrom hscan).1 hascii] at hn
          cases hn
          obtain ⟨word, blanks, hmention, -⟩ := id hoccurs
          have hlt := Text.digitsValue_lt hascii
          rw [hmention.length] at hlt
          exact ⟨Nat.le_of_lt_succ hlt, front, found, rest, hoccurs, hascii, rfl⟩
        · rw [(first?_of_firstFrom hscan).2 hascii] at hn
          cases hn

section scripts

theorem IsMention.boundary_space (h : IsMention word blanks digits) (hlast : before.getLast? = some ' ') :
    Boundary before word := by
  rw [h.boundary_word_iff, hlast, Option.any_some, isWordChar_space]

theorem IsMention.boundary_head (h : IsMention word blanks digits) (hhead : after.head? = some c)
    (hc : isWordChar c = false) : Boundary digits after := by
  rw [h.boundary_digits_iff, hhead, Option.any_some, hc]

theorem isMention_ascii {word digits : List Char} (hword : word.map Char.toLower = marker)
    (hlength : digits.length = 4) (hascii : InAscii digits) : IsMention word [' '] digits where
  word := hword
  blanks_ne_nil := List.cons_ne_nil _ _
  isBlank _ hc := List.mem_singleton.mp hc ▸ SqlState.isBlank_space
  length := hlength
  isDecimalDigit d hd := isDecimalDigit_of_isDigit (hascii d hd)

/-- A message with a number behind the end of a longer word, and text in another script before the mention. -/
def duplicated : String := "terror 1205, Ошибка: ERROR 1062 (23000)"

theorem first?_of_duplicated :
    Leftmost duplicated.toList "terror 1205, Ошибка: ".toList "1062".toList " (23000)".toList ∧
      first? duplicated = some 1062 := by
  have hascii : InAscii "1062".toList := List.all_eq_true.mp (by decide)
  have hmention : IsMention "ERROR".toList [' '] "1062".toList := isMention_ascii (by decide) (by decide) hascii
  have hoccurs : Occurs duplicated.toList "terror 1205, Ошибка: ".toList "1062".toList " (23000)".toList :=
    ⟨_, _, hmention, hmention.boundary_space (by decide),
      hmention.boundary_head (by decide) isWordChar_space, by decide⟩
  have hnone : ∀ k < 21, k ≠ 1 → mention? (duplicated.toList.drop k) = none := by decide
  have htake : duplicated.toList.take 1 = ['t'] := by decide
  have hletter : isWordChar 't' = true := Text.isWordChar_of_toLower (by decide) (by decide)
  have hleast : ∀ before' digits' after', Occurs duplicated.toList before' digits' after' →
      21 ≤ before'.length := by
    intro before' digits' after' h'
    obtain ⟨hstart, hfound⟩ := h'.found
    by_contra hlt
    by_cases hone : before'.length = 1
    · rw [hone, htake, wordBefore, List.getLast?_singleton, Option.map_some, Option.getD_some, hletter] at hstart
      cases hstart
    · rw [hnone _ (Nat.lt_of_not_le hlt) hone] at hfound
      cases hfound
  have hleftmost : Leftmost duplicated.toList "terror 1205, Ошибка: ".toList "1062".toList " (23000)".toList :=
    ⟨hoccurs, hascii, fun before' digits' after' h' _ => hleast _ _ _ h'⟩
  exact ⟨hleftmost, ((first?_leftmost duplicated).2.1 _ _ _ hleftmost).1 hleast⟩

/-- The same number twice, at first in Arabic digits. -/
def arabic : String := "Error ١٠٦٢: Error 1062"

/-- The mention in Arabic digits is the first, and its number is not read, so the number behind it is lost. -/
theorem first?_of_arabic :
    Leftmost arabic.toList "Error ١٠٦٢: ".toList "1062".toList [] ∧ first? arabic = none := by
  have hascii : InAscii "1062".toList := List.all_eq_true.mp (by decide)
  have hmention : IsMention "Error".toList [' '] "1062".toList := isMention_ascii (by decide) (by decide) hascii
  have hoccurs : Occurs arabic.toList "Error ١٠٦٢: ".toList "1062".toList [] :=
    ⟨_, _, hmention, hmention.boundary_space (by decide),
      (hmention.boundary_digits_iff _).mpr rfl, by decide⟩
  have hdigits : ∀ d ∈ "١٠٦٢".toList, isDecimalDigit d = true := by
    have hrange : ("١٠٦٢".toList.all fun d => 0x660 ≤ d.toNat && d.toNat ≤ 0x669) = true := by decide
    intro d hd
    have hd := List.all_eq_true.mp hrange d hd
    exact Text.inRanges_iff.mpr ⟨(0x660, 0x669), by decide +kernel, by simpa using hd⟩
  have harabic : IsMention "Error".toList [' '] "١٠٦٢".toList :=
    ⟨by decide, List.cons_ne_nil _ _, hmention.isBlank, by decide, hdigits⟩
  have hfront : mention? arabic.toList = some "١٠٦٢".toList :=
    mention?_eq_some_iff.mpr
      ⟨_, _, ": Error 1062".toList, harabic, harabic.boundary_head (by decide) isWordChar_colon, by decide⟩
  have hother : ¬ InAscii "١٠٦٢".toList := fun h => absurd (List.all_eq_true.mpr h) (by decide)
  have hnone : ∀ k < 12, k ≠ 0 → mention? (arabic.toList.drop k) = none := by decide
  refine ⟨⟨hoccurs, hascii, fun before' digits' after' h' hascii' => ?_⟩,
    (first?_of_firstFrom (firstFrom_of_mention? hfront)).2 hother⟩
  obtain ⟨-, hfound⟩ := h'.found
  by_contra hlt
  by_cases hzero : before'.length = 0
  · rw [hzero, List.drop_zero, hfront] at hfound
    exact hother (Option.some.inj hfound ▸ hascii')
  · rw [hnone _ (Nat.lt_of_not_le hlt) hzero] at hfound
    cases hfound

end scripts

end DbAccess.ErrorNumber
