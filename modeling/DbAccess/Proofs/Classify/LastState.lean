import DbAccess.Proofs.Classify.Mention
import Mathlib.Data.List.Basic
import Mathlib.Order.WellFounded
/-!
# Which state a message mentions last

The scan for states goes on behind each mention that it finds, and the letters of the marker may themselves
be part of a code. So an occurrence that is found can run into the marker of one that begins later, which is
then not found: `SQLSTATE SQLSTATE 23505` mentions `SQLST`. The occurrences that are found are those that
stand (`Stands`): none that stands runs into them. The last of these is what the scan answers
(`standsLast_of_getLast?`), and it is the rightmost occurrence exactly if that one stands (`last?_rightmost`), which
is so unless the text before it ends in the midst of a mention (`stands_of_not_unfinished`).
-/

namespace DbAccess.SqlState

open Text (isBlank)

variable {s p t before before' code code' after after' : List Char}

/-! ### Occurrences -/

/-- Behind `before`, the marker, white space and the code stand in the text; `after` is what follows. -/
def Occurs (s before code after : List Char) : Prop :=
  ∃ blanks, blanks ≠ [] ∧ (∀ c ∈ blanks, isBlank c = true) ∧ IsCode code ∧
    s = before ++ (marker ++ blanks ++ code ++ after)

theorem occurs_iff : Occurs s before code after ↔ ∃ t, s = before ++ t ∧ mention? t = some (code, after) := by
  simp only [mention?_eq_some_iff]
  constructor
  · rintro ⟨blanks, hne, hblanks, hcode, hs⟩
    exact ⟨_, hs, blanks, hne, hblanks, hcode, rfl⟩
  · rintro ⟨t, hs, blanks, hne, hblanks, hcode, rfl⟩
    exact ⟨blanks, hne, hblanks, hcode, hs⟩

theorem occurs_nil_iff : Occurs s [] code after ↔ mention? s = some (code, after) := by
  simp [occurs_iff]

theorem occurs_append_iff : Occurs (p ++ t) (p ++ before) code after ↔ Occurs t before code after := by
  simp only [Occurs, List.append_assoc, List.append_cancel_left_eq]

theorem Occurs.exists_append (h : Occurs (p ++ t) before code after) (hle : p.length ≤ before.length) :
    ∃ rest, before = p ++ rest ∧ Occurs t rest code after := by
  obtain ⟨blanks, -, -, -, hs⟩ := id h
  obtain ⟨rest, rfl⟩ := List.prefix_of_prefix_length_le (List.prefix_append p t) ⟨_, hs.symm⟩ hle
  exact ⟨rest, rfl, occurs_append_iff.mp h⟩

theorem Occurs.prefix (h : Occurs s before code after) : before <+: s := by
  obtain ⟨blanks, -, -, -, rfl⟩ := h
  exact List.prefix_append _ _

theorem Occurs.unique (h : Occurs s before code after) (h' : Occurs s before' code' after')
    (hlength : before.length = before'.length) : before = before' ∧ code = code' ∧ after = after' := by
  obtain rfl := (List.prefix_of_prefix_length_le h.prefix h'.prefix (Nat.le_of_eq hlength)).eq_of_length hlength
  obtain ⟨t, rfl, hfound⟩ := occurs_iff.mp h
  obtain ⟨t', ht', hfound'⟩ := occurs_iff.mp h'
  rw [← List.append_cancel_left ht', hfound, Option.some.injEq, Prod.mk.injEq] at hfound'
  exact ⟨rfl, hfound'⟩

/-- Of the text, an occurrence takes up the marker, a blank and a code at least. -/
theorem Occurs.length_le (h : Occurs s before code after) :
    before.length + 14 + after.length ≤ s.length := by
  obtain ⟨blanks, hne, -, hcode, rfl⟩ := h
  have hblank := List.length_pos_iff.mpr hne
  have hmarker : marker.length = 8 := rfl
  simp only [List.length_append, hcode.length, hmarker]
  omega

/-! ### Occurrences that stand -/

/-- The place behind `before` lies in the midst of the occurrence between `before'` and `after'`. -/
def RunsInto (s before' after' before : List Char) : Prop :=
  before'.length < before.length ∧ before.length + after'.length < s.length

/-- No occurrence that stands runs into what is behind `before`. -/
def Stands (s before : List Char) : Prop :=
  ∀ before' code' after', Occurs s before' code' after' → RunsInto s before' after' before →
    ¬ Stands s before'
termination_by before.length
decreasing_by
  rename_i hruns
  exact hruns.1

theorem stands_nil (s : List Char) : Stands s [] := by
  rw [Stands]
  rintro before' code' after' - ⟨hlt, -⟩
  exact absurd hlt (Nat.not_lt_zero _)

/-- No occurrence that stands reaches over the cut between the two texts. -/
def Cuts (p t : List Char) : Prop :=
  ∀ before code after, Occurs (p ++ t) before code after → Stands (p ++ t) before →
    before.length < p.length → t.length ≤ after.length

/-- Behind a cut that nothing reaches over, what stands in the rest stands in the whole. -/
theorem Cuts.stands_append_iff (h : Cuts p t) (before : List Char) :
    Stands (p ++ t) (p ++ before) ↔ Stands t before := by
  induction hn : before.length using Nat.strongRecOn generalizing before with
  | _ n ih =>
      subst hn
      rw [Stands, Stands]
      constructor
      · intro hwhole before' code' after' hoccurs ⟨hlt, hruns⟩
        rw [← ih _ hlt before' rfl]
        refine hwhole _ _ _ (occurs_append_iff.mpr hoccurs) ⟨?_, ?_⟩
        · simpa using hlt
        · simp only [List.length_append]
          omega
      · intro hrest before' code' after' hoccurs ⟨hlt, hruns⟩ hstands
        simp only [List.length_append] at hlt hruns
        by_cases hle : p.length ≤ before'.length
        · obtain ⟨rest, rfl, hoccurs'⟩ := hoccurs.exists_append hle
          rw [List.length_append] at hlt
          have hlt' : rest.length < before.length := by omega
          exact hrest _ _ _ hoccurs' ⟨hlt', by omega⟩ ((ih _ hlt' rest rfl).mp hstands)
        · have hreach := h _ _ _ hoccurs hstands (Nat.lt_of_not_le hle)
          omega

/-! ### What the scan finds -/

theorem eq_nil_of_stands (h : mention? (p ++ t) = some (code, t)) (hstands : Stands (p ++ t) before)
    (hlt : before.length < p.length) : before = [] := by
  by_contra hne
  rw [Stands] at hstands
  refine hstands [] code t (occurs_nil_iff.mpr h) ⟨List.length_pos_iff.mpr hne, ?_⟩ (stands_nil _)
  rw [List.length_append]
  omega

theorem cuts_of_some (h : mention? (p ++ t) = some (code, t)) : Cuts p t := by
  intro before' code' after' hoccurs hstands hlt
  obtain rfl := eq_nil_of_stands h hstands hlt
  rw [occurs_nil_iff, h] at hoccurs
  cases hoccurs
  exact Nat.le_refl _

theorem cuts_of_none {c : Char} (h : mention? (c :: s) = none) : Cuts [c] s := by
  intro before' code' after' hoccurs _ hlt
  obtain rfl := List.length_eq_zero_iff.mp (Nat.lt_one_iff.mp hlt)
  rw [List.singleton_append, occurs_nil_iff, h] at hoccurs
  cases hoccurs

/-- Where nothing is found in front, everything that occurs does so behind the first character. -/
theorem exists_occurs_of_none {c : Char} (h : mention? (c :: s) = none)
    (hoccurs : Occurs (c :: s) before code after) : ∃ rest, before = c :: rest ∧ Occurs s rest code after := by
  cases before with
  | nil =>
      rw [occurs_nil_iff, h] at hoccurs
      cases hoccurs
  | cons d before =>
      rw [← List.singleton_append] at hoccurs
      exact hoccurs.exists_append (Nat.succ_pos _)

/-- The scan finds nothing in a text in which nothing occurs, and in no other. -/
theorem mentions_eq_nil_iff : mentions s = [] ↔ ∀ before code after, ¬ Occurs s before code after := by
  fun_induction mentions s with
  | case1 =>
      refine iff_of_true rfl fun before code after hoccurs => ?_
      have hlength := hoccurs.length_le
      simp at hlength
  | case2 c s code tail hfound _ =>
      exact iff_of_false (List.cons_ne_nil _ _) fun hnone => hnone [] code tail (occurs_nil_iff.mpr hfound)
  | case3 c s hnone ih =>
      rw [ih]
      constructor
      · intro hrest before code after hoccurs
        obtain ⟨rest, -, hoccurs'⟩ := exists_occurs_of_none hnone hoccurs
        exact hrest _ _ _ hoccurs'
      · intro hwhole before code after hoccurs
        exact hwhole (c :: before) code after (occurs_append_iff (p := [c]).mpr hoccurs)

/-- The occurrence stands, and none that begins behind it does. -/
structure StandsLast (s before code after : List Char) : Prop where
  occurs : Occurs s before code after
  stands : Stands s before
  length_le : ∀ before' code' after', Occurs s before' code' after' → Stands s before' →
    before'.length ≤ before.length

/-- Behind a cut, the last occurrence that stands in the rest is the last in the whole. -/
theorem StandsLast.append (h : StandsLast t before code after) (hcut : Cuts p t) :
    StandsLast (p ++ t) (p ++ before) code after where
  occurs := occurs_append_iff.mpr h.occurs
  stands := (hcut.stands_append_iff before).mpr h.stands
  length_le before' code' after' hoccurs hstands := by
    rw [List.length_append]
    by_cases hle : p.length ≤ before'.length
    · obtain ⟨rest, rfl, hoccurs'⟩ := hoccurs.exists_append hle
      have hrest := h.length_le _ _ _ hoccurs' ((hcut.stands_append_iff rest).mp hstands)
      rw [List.length_append]
      omega
    · omega

/-- The last mention that is found is the last occurrence that stands. -/
theorem standsLast_of_getLast? (h : (mentions s).getLast? = some code) :
    ∃ before after, StandsLast s before code after := by
  fun_induction mentions s with
  | case1 => cases h
  | case2 c s code' tail hfound ih =>
      have hfront : Occurs (c :: s) [] code' tail := occurs_nil_iff.mpr hfound
      obtain ⟨p, hp⟩ : ∃ p, c :: s = p ++ tail := by
        obtain ⟨blanks, -, -, -, hs⟩ := hfront
        exact ⟨[] ++ (marker ++ blanks ++ code'), by simpa using hs⟩
      rw [hp] at hfound hfront ⊢
      cases hmentions : mentions tail with
      | nil =>
          -- What stands further right would occur in the rest.
          rw [hmentions] at h
          cases h
          refine ⟨[], tail, hfront, stands_nil _, fun before' code' after' hoccurs hstands => ?_⟩
          by_cases hle : p.length ≤ before'.length
          · obtain ⟨rest, -, hoccurs'⟩ := hoccurs.exists_append hle
            exact absurd hoccurs' (mentions_eq_nil_iff.mp hmentions _ _ _)
          · obtain rfl := eq_nil_of_stands hfound hstands (Nat.lt_of_not_le hle)
            exact Nat.le_refl _
      | cons code'' found =>
          rw [hmentions, List.getLast?_cons_cons, ← hmentions] at h
          obtain ⟨before, after, hlast⟩ := ih h
          exact ⟨_, _, hlast.append (cuts_of_some hfound)⟩
  | case3 c s hnone ih =>
      obtain ⟨before, after, hlast⟩ := ih h
      exact ⟨_, _, hlast.append (cuts_of_none hnone)⟩

/-! ### What runs into an occurrence -/

/-- The text ends in the midst of a mention: with the marker, white space and less than a code. -/
def Unfinished (before : List Char) : Prop :=
  ∃ lead blanks part, before = lead ++ marker ++ blanks ++ part ∧ blanks ≠ [] ∧
    (∀ c ∈ blanks, isBlank c = true) ∧ part.length < 5 ∧ ∀ c ∈ part, isCodeChar c = true

theorem not_unfinished_of_separates {b : Char} (hb : Separates b) (lead : List Char) :
    ¬ Unfinished (lead ++ [b]) := by
  rintro ⟨lead', blanks, part, heq, hne, hblanks, -, hpart⟩
  have hlast : (blanks ++ part).getLast? = some b := by
    rw [← List.getLast?_append_of_ne_nil (lead' ++ marker) (by simp [hne]), ← List.append_assoc, ← heq,
      List.getLast?_concat]
  obtain hmem | hmem := List.mem_append.mp (List.mem_of_getLast? hlast)
  · exact absurd (hblanks b hmem) (by simp [hb.isBlank])
  · exact absurd (hpart b hmem) (by simp [hb.isCodeChar])

theorem not_prefix_of_marker_eq {x y rest : List Char} (h : marker = x ++ y) (hx : x ≠ []) (hy : y ≠ []) :
    ¬ marker <+: y ++ rest := by
  intro hbegin
  have hborder : ∀ k < marker.length, 0 < k → ¬ marker.drop k <+: marker := by decide
  have hlength : x.length + y.length = marker.length := by rw [h, List.length_append]
  have hxpos := List.length_pos_iff.mpr hx
  have hypos := List.length_pos_iff.mpr hy
  have hshort : y <+: marker :=
    List.prefix_of_prefix_length_le (List.prefix_append y rest) hbegin (by omega)
  have hdrop : marker.drop x.length = y := by rw [h, List.drop_left]
  exact hborder x.length (by omega) hxpos (hdrop ▸ hshort)

theorem marker_append_ne {blanks x y : List Char} (hne : blanks ≠ [])
    (hblanks : ∀ c ∈ blanks, isBlank c = true) : marker ++ x ≠ blanks ++ y := by
  intro heq
  cases blanks with
  | nil => exact hne rfl
  | cons c blanks =>
      have hc : 'S' = c := (List.cons_eq_cons.mp heq).1
      have hvisible : isBlank 'S' = false := isBlank_of_visible (by decide) (by decide)
      rw [← hc] at hblanks
      exact Bool.false_ne_true (hvisible.symm.trans (hblanks 'S' (List.mem_cons_self ..)))

theorem unfinished_of_runsInto (h : Occurs s before code after) (h' : Occurs s before' code' after')
    (hruns : RunsInto s before' after' before) : Unfinished before := by
  obtain ⟨hlt, hreach⟩ := hruns
  obtain ⟨more, rfl⟩ := List.prefix_of_prefix_length_le h'.prefix h.prefix (Nat.le_of_lt hlt)
  have hmore : more ≠ [] := by
    rintro rfl
    simp at hlt
  obtain ⟨rest, hs⟩ : ∃ rest, s = before' ++ (more ++ (marker ++ rest)) := by
    obtain ⟨blanks, -, -, -, hs⟩ := h
    exact ⟨blanks ++ code ++ after, by simpa using hs⟩
  obtain ⟨blanks, hne, hblanks, hcode, hs'⟩ := h'
  have hmarker : marker ++ (blanks ++ (code' ++ after')) = more ++ (marker ++ rest) := by
    rw [hs] at hs'
    simpa using hs'.symm
  -- The marker begins in the marker of the other occurrence, in its white space, or in its code.
  obtain ⟨more', rfl, hblank⟩ | ⟨tail, hsplit, hbehind⟩ := List.append_eq_append_iff.mp hmarker
  · obtain ⟨part, rfl, hpart⟩ | ⟨tail, rfl, hbehind⟩ := List.append_eq_append_iff.mp hblank
    · have hshort : part.length < code'.length := by
        have hlength := congrArg List.length hs'
        simp only [List.length_append] at hlength hreach
        omega
      have hbegin : part <+: code' :=
        List.prefix_of_prefix_length_le ⟨_, hpart.symm⟩ (List.prefix_append _ _) (Nat.le_of_lt hshort)
      refine ⟨before', blanks, part, by simp, hne, hblanks, hcode.length ▸ hshort, fun c hc => ?_⟩
      exact hcode.isCodeChar c (hbegin.subset hc)
    · cases tail with
      | nil =>
          rw [List.append_nil] at hne hblanks
          exact ⟨before', more', [], by simp, hne, hblanks, by decide, fun c hc => by cases hc⟩
      | cons c tail =>
          exact absurd hbehind (marker_append_ne (List.cons_ne_nil _ _)
            fun d hd => hblanks d (List.mem_append_right _ hd))
  · cases tail with
    | nil =>
        rw [List.nil_append] at hbehind
        exact absurd hbehind (marker_append_ne hne hblanks)
    | cons c tail =>
        exact absurd ⟨rest, hbehind⟩ (not_prefix_of_marker_eq hsplit hmore (List.cons_ne_nil _ _))

theorem stands_of_not_unfinished (h : Occurs s before code after) (hfinished : ¬ Unfinished before) :
    Stands s before := by
  rw [Stands]
  intro before' code' after' h' hruns _
  exact hfinished (unfinished_of_runsInto h h' hruns)

/-! ### The rightmost occurrence -/

/-- The occurrence that begins furthest right. -/
structure Rightmost (s before code after : List Char) : Prop where
  occurs : Occurs s before code after
  length_le : ∀ before' code' after', Occurs s before' code' after' → before'.length ≤ before.length

theorem Occurs.rightmost (h : Occurs s before code after) (hroom : s.length < before.length + 15) :
    Rightmost s before code after where
  occurs := h
  length_le before' code' after' h' := by
    have hlength := h'.length_le
    omega

theorem exists_rightmost (h : Occurs s before code after) :
    ∃ before code after, Rightmost s before code after := by
  obtain ⟨front, ⟨code, after, h⟩, hmin⟩ := (measure fun front : List Char => s.length - front.length).wf.has_min
    {front | ∃ code after, Occurs s front code after} ⟨before, code, after, h⟩
  refine ⟨front, code, after, h, fun before' code' after' h' => ?_⟩
  have hnot : ¬ s.length - before'.length < s.length - front.length := hmin before' ⟨code', after', h'⟩
  have hlength := h.length_le
  have hlength' := h'.length_le
  omega

theorem exists_standsLast (h : Occurs s before code after) :
    ∃ before code after, StandsLast s before code after ∧ (mentions s).getLast? = some code := by
  cases hlast : (mentions s).getLast? with
  | none => exact absurd h (mentions_eq_nil_iff.mp (List.getLast?_eq_none_iff.mp hlast) _ _ _)
  | some code' =>
      obtain ⟨before', after', hstands⟩ := standsLast_of_getLast? hlast
      exact ⟨before', code', after', hstands, rfl⟩

theorem Rightmost.code_eq (h : Rightmost s before code after) (hstands : Stands s before)
    (hlast : StandsLast s before' code' after') : code' = code := by
  have hle := h.length_le _ _ _ hlast.occurs
  have hge := hlast.length_le _ _ _ h.occurs hstands
  exact (hlast.occurs.unique h.occurs (Nat.le_antisymm hle hge)).2.1

/-- When the rightmost occurrence does not stand, the last that does runs into it. -/
theorem Rightmost.runsInto (h : Rightmost s before code after) (hfalls : ¬ Stands s before)
    (hlast : StandsLast s before' code' after') : RunsInto s before' after' before := by
  have hle := h.length_le _ _ _ hlast.occurs
  rw [Stands] at hfalls
  push Not at hfalls
  obtain ⟨before₁, code₁, after₁, hoccurs, ⟨hlt, hreach⟩, hstands⟩ := hfalls
  have hge := hlast.length_le _ _ _ hoccurs hstands
  -- Two that stand and lie over one place are the same, or else the former runs into the latter.
  obtain heq | hne := Nat.eq_or_lt_of_le hge
  · obtain ⟨rfl, rfl, rfl⟩ := hoccurs.unique hlast.occurs heq
    exact ⟨hlt, hreach⟩
  · have hlater := hlast.stands
    rw [Stands] at hlater
    exact absurd hstands (hlater _ _ _ hoccurs ⟨hne, by omega⟩)

/-- **The last state wins, unless another mention runs into it.** A message mentions no state exactly if none
occurs in it. Where some occur, the code of the rightmost one is the one that is found if this occurrence
stands, whatever precedes or follows it; if it does not, the code of one that runs into it is found instead.
The rightmost occurrence stands unless the text before it ends in the midst of a mention. -/
theorem last?_rightmost (message : String) :
    (last? message = none ↔ ∀ before code after, ¬ Occurs message.toList before code after) ∧
    ((∃ before code after, Occurs message.toList before code after) →
      ∃ before code after, Rightmost message.toList before code after) ∧
    ∀ before code after, Rightmost message.toList before code after →
      (Stands message.toList before → last? message = some (String.ofList code)) ∧
      (¬ Stands message.toList before → ∃ before' code' after', Occurs message.toList before' code' after' ∧
        RunsInto message.toList before' after' before ∧ last? message = some (String.ofList code')) ∧
      (¬ Unfinished before → last? message = some (String.ofList code)) := by
  have hlast? : last? message = (mentions message.toList).getLast?.map String.ofList := rfl
  refine ⟨?_, fun ⟨before, code, after, h⟩ => exists_rightmost h, fun before code after h => ?_⟩
  · rw [hlast?, Option.map_eq_none_iff, List.getLast?_eq_none_iff, mentions_eq_nil_iff]
  · obtain ⟨before', code', after', hlast, hfound⟩ := exists_standsLast h.occurs
    have hcode : Stands message.toList before → last? message = some (String.ofList code) := by
      intro hstands
      rw [hlast?, hfound, Option.map_some, h.code_eq hstands hlast]
    refine ⟨hcode, fun hfalls => ?_, fun hfinished => ?_⟩
    · exact ⟨_, _, _, hlast.occurs, h.runsInto hfalls hlast, by rw [hlast?, hfound, Option.map_some]⟩
    · exact hcode (stands_of_not_unfinished h.occurs hfinished)

section retrying

/-- A message that speaks of two states. -/
def retried : String := "failed with SQLSTATE 23505, then after retrying:SQLSTATE 23514"

theorem last?_of_retried :
    Rightmost retried.toList "failed with SQLSTATE 23505, then after retrying:".toList "23514".toList [] ∧
      ¬ Unfinished "failed with SQLSTATE 23505, then after retrying:".toList ∧
      last? retried = some "23514" := by
  have hoccurs : Occurs retried.toList "failed with SQLSTATE 23505, then after retrying:".toList
      "23514".toList [] := by
    refine ⟨[' '], by decide, ?_, ⟨by decide, List.all_eq_true.mp (by decide)⟩, by decide⟩
    exact fun c hc => List.mem_singleton.mp hc ▸ isBlank_space
  have hrightmost := hoccurs.rightmost (by decide)
  have hcolon : Separates ':' := ⟨by decide, by decide +kernel, by decide⟩
  have hfinished : ¬ Unfinished "failed with SQLSTATE 23505, then after retrying:".toList :=
    not_unfinished_of_separates hcolon "failed with SQLSTATE 23505, then after retrying".toList
  exact ⟨hrightmost, hfinished, ((last?_rightmost retried).2.2 _ _ _ hrightmost).2.2 hfinished⟩

/-- The code of the first mention is the beginning of the second, which is lost: its state occurs furthest
right, and is not the one that is found. -/
theorem last?_of_doubled_marker :
    Rightmost "SQLSTATE SQLSTATE 23505".toList "SQLSTATE ".toList "23505".toList [] ∧
      last? "SQLSTATE SQLSTATE 23505" = some "SQLST" := by
  have hoccurs : Occurs "SQLSTATE SQLSTATE 23505".toList "SQLSTATE ".toList "23505".toList [] := by
    refine ⟨[' '], by decide, ?_, ⟨by decide, List.all_eq_true.mp (by decide)⟩, by decide⟩
    exact fun c hc => List.mem_singleton.mp hc ▸ isBlank_space
  have hfound : mention? "SQLSTATE SQLSTATE 23505".toList = some ("SQLST".toList, "ATE 23505".toList) := by
    decide +kernel
  have hrest : mentions "ATE 23505".toList = [] := by
    refine mentions_eq_nil_iff.mpr fun before code after h => ?_
    have hlength : _ ≤ 9 := h.length_le
    omega
  refine ⟨hoccurs.rightmost (by decide), ?_⟩
  rw [last?, mentions_of_some hfound, hrest]
  rfl

end retrying

end DbAccess.SqlState
