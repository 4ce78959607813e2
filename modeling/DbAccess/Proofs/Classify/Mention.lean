import DbAccess.Classify.ErrorNumber
import DbAccess.Classify.SqlState
import DbAccess.Error.Message
import DbAccess.Proofs.Text.Digits
/-!
# Codes read back from a message

An error that has lost its fields is classified by what its message mentions. The text of an error with a
SQLSTATE ends in that state, in brackets: no mention reaches over a bracket (`SqlState.mentions_append`), so the
state is the last that the text mentions, whatever stands before it. A MySQL message begins with its number, and
a mention at the front is the first (`ErrorNumber.first?_of_mention?`). Either way the message says what the
field said, which is `classify_of_text`.
-/

namespace DbAccess

/-! ### SQLSTATE -/

namespace SqlState

open Text (isBlank)

/-- Five characters that a code can be made of. -/
structure IsCode (code : List Char) : Prop where
  length : code.length = 5
  isCodeChar : ∀ c ∈ code, isCodeChar c = true

/-- A character that no mention contains. -/
structure Separates (b : Char) : Prop where
  notMem_marker : b ∉ marker
  isBlank : isBlank b = false
  isCodeChar : isCodeChar b = false

theorem isBlank_space : isBlank ' ' = true := by decide +kernel

theorem isBlank_of_visible {c : Char} (hlo : 32 < c.toNat) (hhi : c.toNat < 127) : isBlank c = false := by
  simp only [Text.isBlank, Text.inRanges, Text.blankRanges, List.any_toArray, List.any_cons, List.any_nil,
    Bool.or_false, Bool.or_eq_false_iff, Bool.and_eq_false_imp, decide_eq_true_eq, decide_eq_false_iff_not,
    Nat.not_le]
  omega

theorem isBlank_of_isCodeChar {c : Char} (h : isCodeChar c = true) : isBlank c = false := by
  simp only [isCodeChar, Bool.or_eq_true, Bool.and_eq_true, decide_eq_true_eq, Char.le_def,
    UInt32.le_iff_toNat_le] at h
  obtain ⟨hlo, hhi⟩ | ⟨hlo, hhi⟩ := h
  · exact isBlank_of_visible (Nat.lt_of_lt_of_le (by decide) hlo) (Nat.lt_of_le_of_lt hhi (by decide))
  · exact isBlank_of_visible (Nat.lt_of_lt_of_le (by decide) hlo) (Nat.lt_of_le_of_lt hhi (by decide))

theorem mention?_eq_some_iff {s code tail : List Char} :
    mention? s = some (code, tail) ↔ ∃ blanks, blanks ≠ [] ∧ (∀ c ∈ blanks, isBlank c = true) ∧
      IsCode code ∧ s = marker ++ blanks ++ code ++ tail := by
  constructor
  · intro h
    simp only [mention?] at h
    split at h
    · rename_i hmarker
      split at h
      · rename_i hcode
        simp only [Bool.and_eq_true, decide_eq_true_eq, List.all_eq_true] at hcode
        obtain ⟨⟨hblank, hlength⟩, hchars⟩ := hcode
        obtain ⟨rest, rfl⟩ := List.isPrefixOf_iff_prefix.mp hmarker
        simp only [List.drop_left, Option.some.injEq, Prod.mk.injEq] at h hblank hlength hchars
        obtain ⟨rfl, rfl⟩ := h
        refine ⟨rest.takeWhile isBlank, ?_, fun c hc => ?_, ⟨hlength, hchars⟩, ?_⟩
        · cases rest <;> simp_all
        · exact List.all_eq_true.mp List.all_takeWhile c hc
        · simp [List.append_assoc]
      · cases h
    · cases h
  · rintro ⟨blanks, hne, hblanks, hcode, rfl⟩
    have hstop : (code ++ tail).dropWhile isBlank = code ++ tail := by
      cases code with
      | nil => cases hcode.length
      | cons c code => simp [isBlank_of_isCodeChar (hcode.isCodeChar c (by simp))]
    have hskip : (blanks ++ (code ++ tail)).dropWhile isBlank = code ++ tail := by
      rw [List.dropWhile_append_of_pos hblanks, hstop]
    have hhead : (blanks ++ (code ++ tail)).head?.any isBlank = true := by
      cases blanks with
      | nil => cases hne rfl
      | cons c blanks => simpa using hblanks c (by simp)
    have htake : (code ++ tail).take 5 = code := by rw [← hcode.length, List.take_left]
    have hdrop : (code ++ tail).drop 5 = tail := by rw [← hcode.length, List.drop_left]
    have hprefix : marker.isPrefixOf (marker ++ (blanks ++ (code ++ tail))) = true :=
      List.isPrefixOf_iff_prefix.mpr (List.prefix_append _ _)
    simp only [mention?, List.append_assoc, hprefix, List.drop_left, hskip, hhead, htake, hdrop,
      hcode.length, List.all_eq_true.mpr hcode.isCodeChar, decide_true, Bool.and_self, if_true]

theorem mention?_append {b : Char} (hb : Separates b) (s rest : List Char) :
    mention? (s ++ b :: rest) = (mention? s).map fun m => (m.1, m.2 ++ b :: rest) := by
  apply Option.ext
  rintro ⟨code, tail⟩
  simp only [Option.map_eq_some_iff, Prod.exists, Prod.mk.injEq]
  constructor
  · intro h
    obtain ⟨blanks, hne, hblanks, hcode, heq⟩ := mention?_eq_some_iff.mp h
    have hmem : b ∉ marker ++ blanks ++ code := by
      simp only [List.mem_append, not_or]
      refine ⟨⟨hb.notMem_marker, fun hmem => ?_⟩, fun hmem => ?_⟩
      · simpa [hb.isBlank] using hblanks b hmem
      · simpa [hb.isCodeChar] using hcode.isCodeChar b hmem
    -- The mention ends before the separating character, since it does not contain it.
    obtain ⟨more, hs, htail⟩ | ⟨more, hs, hrest⟩ := List.append_eq_append_iff.mp heq
    · cases more with
      | nil =>
          refine ⟨code, [], mention?_eq_some_iff.mpr ⟨blanks, hne, hblanks, hcode, ?_⟩, rfl, ?_⟩
          · simpa using hs.symm
          · simpa using htail
      | cons c more =>
          obtain ⟨rfl, -⟩ := List.cons_eq_cons.mp htail
          rw [hs] at hmem
          simp at hmem
    · exact ⟨code, more, mention?_eq_some_iff.mpr ⟨blanks, hne, hblanks, hcode, hs⟩, rfl, hrest.symm⟩
  · rintro ⟨code', tail', h, rfl, rfl⟩
    obtain ⟨blanks, hne, hblanks, hcode, rfl⟩ := mention?_eq_some_iff.mp h
    exact mention?_eq_some_iff.mpr ⟨blanks, hne, hblanks, hcode, by simp⟩

theorem mentions_of_some {s code tail : List Char} (h : mention? s = some (code, tail)) :
    mentions s = code :: mentions tail := by
  cases s with
  | nil => cases h
  | cons c s =>
      rw [mentions]
      split
      · rename_i hfound
        rw [h] at hfound
        cases hfound
        rfl
      · rename_i hnone
        rw [h] at hnone
        cases hnone

theorem mentions_of_none {c : Char} {s : List Char} (h : mention? (c :: s) = none) :
    mentions (c :: s) = mentions s := by
  rw [mentions]
  split
  · rename_i hfound
    rw [h] at hfound
    cases hfound
  · rfl

/-- What a text mentions before a separating character and what it mentions behind it are independent. -/
theorem mentions_append {b : Char} (hb : Separates b) (s rest : List Char) :
    mentions (s ++ b :: rest) = mentions s ++ mentions rest := by
  fun_induction mentions s with
  | case1 =>
      have hnone : mention? (b :: rest) = none := mention?_append hb [] rest
      exact mentions_of_none hnone
  | case2 c s code tail hfound ih =>
      have hsome := mention?_append hb (c :: s) rest
      rw [hfound] at hsome
      rw [mentions_of_some hsome, ih, List.cons_append]
  | case3 c s hnone ih =>
      have hnone' := mention?_append hb (c :: s) rest
      rw [hnone] at hnone'
      rw [← ih]
      exact mentions_of_none hnone'

theorem separates_opening : Separates '(' := ⟨by decide, by decide +kernel, by decide⟩

theorem separates_closing : Separates ')' := ⟨by decide, by decide +kernel, by decide⟩

theorem mentions_bracketed {code : List Char} (h : IsCode code) :
    mentions (marker ++ ' ' :: code ++ [')']) = [code] := by
  have hfound : mention? (marker ++ ' ' :: code) = some (code, []) := by
    refine mention?_eq_some_iff.mpr ⟨[' '], by simp, fun c hc => ?_, h, by simp⟩
    rw [List.mem_singleton.mp hc]
    exact isBlank_space
  have hbare : mentions [] = [] := by rw [mentions]
  rw [mentions_append separates_closing, mentions_of_some hfound, hbare]
  rfl

theorem last?_text {e : BackendError} {state : String} (hstate : e.sqlState = some state)
    (hcode : IsCode state.toList) : last? e.text = some state := by
  have htext : e.text.toList =
      (e.message.toList ++ [' ']) ++ '(' :: (marker ++ ' ' :: state.toList ++ [')']) := by
    have hopen : " (SQLSTATE ".toList = ' ' :: '(' :: (marker ++ [' ']) := by decide
    have hclose : ")".toList = [')'] := by decide
    simp only [BackendError.text, hstate, String.toList_append, hopen, hclose, List.append_assoc,
      List.cons_append, List.nil_append]
  rw [last?, htext, mentions_append separates_opening, mentions_bracketed hcode]
  simp

end SqlState

/-! ### MySQL error numbers -/

namespace ErrorNumber

open Text (isBlank isDecimalDigit isDigit isWordChar)

/-- Four ASCII digits that stand for a number. -/
structure IsNumeral (digits : String) (n : Nat) : Prop where
  length : digits.toList.length = 4
  isDigit : ∀ c ∈ digits.toList, isDigit c = true
  value : Text.digitsValue digits.toList = n

theorem isNumeral_toString {n : Nat} (hlo : 1000 ≤ n) (hhi : n ≤ 9999) : IsNumeral (toString n) n where
  length := Text.length_toString_eq (k := 3) hlo (Nat.lt_succ_of_le hhi)
  isDigit _ h := Text.isDigit_of_mem_toString h
  value := Text.digitsValue_toString n

theorem toNat_of_isDigit {c : Char} (h : isDigit c = true) : 48 ≤ c.toNat ∧ c.toNat ≤ 57 := by
  simp only [isDigit, Bool.and_eq_true, decide_eq_true_eq, Char.le_def, UInt32.le_iff_toNat_le] at h
  exact h

theorem isBlank_of_isDigit {c : Char} (h : isDigit c = true) : isBlank c = false := by
  obtain ⟨hlo, hhi⟩ := toNat_of_isDigit h
  exact SqlState.isBlank_of_visible (by omega) (by omega)

theorem isDecimalDigit_of_isDigit {c : Char} (h : isDigit c = true) : isDecimalDigit c = true := by
  have hrange := toNat_of_isDigit h
  have hfirst : (0x30, 0x39) ∈ Text.digitRanges := by simp [Text.digitRanges]
  exact Array.any_eq_true'.mpr ⟨_, hfirst, by simpa using hrange⟩

/-- The marker in some letter case, a blank and four digits that no word character follows are a mention. -/
theorem mention?_of {word digits : List Char} {c : Char} (after : List Char)
    (hword : word.map Char.toLower = marker) (hlength : digits.length = 4)
    (hdigits : ∀ d ∈ digits, isDigit d = true) (hc : isWordChar c = false) :
    mention? (word ++ ' ' :: (digits ++ c :: after)) = some digits := by
  have hlen : word.length = marker.length := by rw [← hword, List.length_map]
  have htake : (word ++ ' ' :: (digits ++ c :: after)).take marker.length = word := by
    rw [← hlen, List.take_left]
  have hdrop : (word ++ ' ' :: (digits ++ c :: after)).drop marker.length =
      ' ' :: (digits ++ c :: after) := by
    rw [← hlen, List.drop_left]
  have hskip : (' ' :: (digits ++ c :: after)).dropWhile isBlank = digits ++ c :: after := by
    rw [List.dropWhile_cons_of_pos SqlState.isBlank_space]
    cases digits with
    | nil => cases hlength
    | cons d digits => simp [isBlank_of_isDigit (hdigits d (by simp))]
  have hhead : (' ' :: (digits ++ c :: after)).head?.any isBlank = true := SqlState.isBlank_space
  have hfour : (digits ++ c :: after).take 4 = digits := by rw [← hlength, List.take_left]
  have hrest : ((digits ++ c :: after).drop 4).head?.any isWordChar = false := by
    rw [← hlength, List.drop_left, List.head?_cons, Option.any_some, hc]
  have hall : digits.all isDecimalDigit = true :=
    List.all_eq_true.mpr fun d hd => isDecimalDigit_of_isDigit (hdigits d hd)
  simp only [mention?, htake, hword, hdrop, hskip, hhead, hfour, hrest, hlength, hall, decide_true,
    Bool.not_false, Bool.and_self, if_true]

theorem firstFrom_of_mention? {s digits : List Char} (h : mention? s = some digits) :
    firstFrom false s = some digits := by
  cases s with
  | nil => cases h
  | cons c rest => simp [firstFrom, h]

theorem isWordChar_colon : isWordChar ':' = false := by
  rw [isWordChar, Text.inRanges, ← Array.any_toList]
  decide +kernel

theorem isWordChar_space : isWordChar ' ' = false := by
  rw [isWordChar, Text.inRanges, ← Array.any_toList]
  decide +kernel

/-- The texts with which MySQL and its client introduce an error. -/
def wordings (digits state msg : String) : List String :=
  ["Error " ++ digits ++ ": " ++ msg, "ERROR " ++ digits ++ " (" ++ state ++ "): " ++ msg]

theorem first?_wordings {digits : String} {n : Nat} (h : IsNumeral digits n) (state msg : String) :
    ∀ text ∈ wordings digits state msg, first? text = some n := by
  have hfront : ∀ (word after : List Char) (c : Char) (text : String),
      word.map Char.toLower = marker → isWordChar c = false →
      text.toList = word ++ ' ' :: (digits.toList ++ c :: after) → first? text = some n := by
    intro word after c text hword hc htext
    have hfound := firstFrom_of_mention? (mention?_of after hword h.length h.isDigit hc)
    rw [first?, htext, hfound, Option.bind_some, if_pos (List.all_eq_true.mpr h.isDigit), h.value]
  intro text htext
  simp only [wordings, List.mem_cons, List.not_mem_nil, or_false] at htext
  obtain rfl | rfl := htext
  · exact hfront "Error".toList (' ' :: msg.toList) ':' _ (by decide) isWordChar_colon (by simp)
  · exact hfront "ERROR".toList ('(' :: (state.toList ++ ')' :: ':' :: ' ' :: msg.toList)) ' ' _
      (by decide) isWordChar_space (by simp)

end ErrorNumber

/-- **The text says what the field says.** The text of any error with a SQLSTATE mentions that state last,
whatever its message mentions; and a MySQL text that begins with a number of four digits mentions that number
first, whatever follows. So an error that carries nothing but such a text is classified as one that has the
field. The numbers from 1000 to 9999 are four digits as they are shown. -/
theorem classify_of_text :
    (∀ (e : BackendError) (state : String), e.sqlState = some state → SqlState.IsCode state.toList →
      SqlState.last? e.text = some state ∧
      ∀ bare : BackendError, bare.sqlState = none → bare.message = e.text →
        SqlState.classify bare = SqlState.classify e) ∧
    (∀ (digits : String) (n : Nat) (state msg : String), ErrorNumber.IsNumeral digits n →
      ∀ text ∈ ErrorNumber.wordings digits state msg,
        ErrorNumber.first? text = some n ∧
        ∀ bare e : BackendError, bare.vendorCode = none → bare.message = text →
          e.vendorCode = some (n : Int) → ErrorNumber.classify bare = ErrorNumber.classify e) ∧
    ∀ n : Nat, 1000 ≤ n → n ≤ 9999 → ErrorNumber.IsNumeral (toString n) n := by
  refine ⟨fun e state hstate hcode => ?_, fun digits n state msg hnumeral text htext => ?_,
    fun n hlo hhi => ErrorNumber.isNumeral_toString hlo hhi⟩
  · have hlast := SqlState.last?_text hstate hcode
    refine ⟨hlast, fun bare hbare hmsg => ?_⟩
    simp only [SqlState.classify, hbare, hmsg, hlast, hstate, Option.bind_some]
  · have hfirst := ErrorNumber.first?_wordings hnumeral state msg text htext
    refine ⟨hfirst, fun bare e hbare hmsg he => ?_⟩
    simp only [ErrorNumber.classify, ErrorNumber.ofMessage?, hbare, hmsg, hfirst, he, Option.bind_some]

section misleading

/-- A deadlock whose message mentions a duplicate key, and ends as if another mention began. -/
def deadlocked : BackendError :=
  ⟨"ERROR 1062: SQLSTATE 23505, SQLSTATE ", none, some "40P01", none, []⟩

/-- A message with a number in front and other numbers and states behind it. -/
def lockWait : String := "ERROR 1205 (HY000): Error 1062: SQLSTATE 23505"

/-- Neither text misleads: the genuine code counts. -/
theorem classify_misleading :
    let byState : BackendError := ⟨deadlocked.text, none, none, none, []⟩
    let byNumber : BackendError := ⟨lockWait, some .mysql, none, none, []⟩
    SqlState.IsCode "40P01".toList ∧ SqlState.classify byState = some .deadlock ∧
      ErrorNumber.IsNumeral "1205" 1205 ∧
      lockWait ∈ ErrorNumber.wordings "1205" "HY000" "Error 1062: SQLSTATE 23505" ∧
      ErrorNumber.classify byNumber = some .timeout ∧ ErrorNumber.IsNumeral (toString 1205) 1205 := by
  intro byState byNumber
  obtain ⟨hstates, hnumbers, hshown⟩ := classify_of_text
  have hcode : SqlState.IsCode "40P01".toList := ⟨by decide, List.all_eq_true.mp (by decide)⟩
  have hnumeral : ErrorNumber.IsNumeral "1205" 1205 :=
    ⟨by decide, List.all_eq_true.mp (by decide), by decide⟩
  have htext : lockWait ∈ ErrorNumber.wordings "1205" "HY000" "Error 1062: SQLSTATE 23505" := by decide
  have hstate := (hstates deadlocked "40P01" rfl hcode).2 byState rfl rfl
  have hnumber := (hnumbers "1205" 1205 "HY000" "Error 1062: SQLSTATE 23505" hnumeral lockWait htext).2
    byNumber ⟨"", none, none, some 1205, []⟩ rfl rfl rfl
  exact ⟨hcode, hstate.trans (by decide), hnumeral, htext, hnumber.trans (by decide),
    hshown 1205 (by decide) (by decide)⟩

end misleading

end DbAccess
