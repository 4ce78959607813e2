import Mathlib.Data.List.Infix
/-!
# Texts that end at marks

When texts are written one behind the other with marks between them, a text can be told from what is written
if the mark that ends it stands nowhere in it, and the mark begins nowhere in itself (`append_mark_inj`). Pairs
that are written as assignments behind separators can be told if no value looks as if a separator and an
assignment began in it (`assignments_inj`).
-/

namespace DbAccess.Text

variable {α : Type} {mark a b s t : List α}

/-! ### Marks -/

/-- A mark whose first character does not come again in it. -/
def IsMark : List α → Prop
  | [] => False
  | c :: rest => c ∉ rest

instance [DecidableEq α] (mark : List α) : Decidable (IsMark mark) :=
  match mark with
  | [] => inferInstanceAs (Decidable False)
  | c :: rest => inferInstanceAs (Decidable (c ∉ rest))

/-- A mark that stands after another text and before it as well stands in that text. -/
theorem IsMark.prefix_of_append (hmark : IsMark mark) (hne : t ≠ []) (h : mark ++ a = t ++ (mark ++ b)) :
    mark <+: t := by
  obtain ⟨c, rest, rfl⟩ : ∃ c rest, mark = c :: rest := by
    cases mark with
    | nil => exact hmark.elim
    | cons c rest => exact ⟨c, rest, rfl⟩
  have hc : c ∉ rest := hmark
  obtain ⟨x, t, rfl⟩ := List.exists_cons_of_ne_nil hne
  rw [List.cons_append, List.cons_append, List.cons.injEq] at h
  obtain ⟨rfl, h⟩ := h
  obtain ⟨u, rfl, -⟩ | ⟨u, rfl, hu⟩ := List.append_eq_append_iff.mp h
  · exact ⟨u, rfl⟩
  · cases u with
    | nil => exact ⟨[], by simp⟩
    | cons y u =>
        -- The mark would begin a second time in itself.
        rw [List.cons_append, List.cons_append, List.cons.injEq] at hu
        obtain ⟨rfl, -⟩ := hu
        exact absurd (List.mem_append_right t (List.mem_cons_self ..)) hc

/-- A text in which a mark does not stand ends where the mark begins. -/
theorem append_mark_inj (hmark : IsMark mark) (ha : ¬ mark <:+: a) (hb : ¬ mark <:+: b)
    (h : a ++ (mark ++ s) = b ++ (mark ++ t)) : a = b ∧ s = t := by
  obtain ⟨u, rfl, hu⟩ | ⟨u, rfl, hu⟩ := List.append_eq_append_iff.mp h
  · cases u with
    | nil => exact ⟨(List.append_nil a).symm, List.append_cancel_left hu⟩
    | cons x u =>
        have hstands := (hmark.prefix_of_append (List.cons_ne_nil x u) hu).isInfix
        exact absurd (hstands.trans (List.suffix_append a _).isInfix) hb
  · cases u with
    | nil => exact ⟨List.append_nil b, (List.append_cancel_left hu).symm⟩
    | cons x u =>
        have hstands := (hmark.prefix_of_append (List.cons_ne_nil x u) hu).isInfix
        exact absurd (hstands.trans (List.suffix_append b _).isInfix) ha

/-- A text after which a mark of one character does not come again ends where that stands last. -/
theorem append_last_inj {c : α} (hs : c ∉ s) (ht : c ∉ t) (h : a ++ c :: s = b ++ c :: t) : a = b ∧ s = t := by
  have hrev : s.reverse ++ ([c] ++ a.reverse) = t.reverse ++ ([c] ++ b.reverse) := by
    simpa using congrArg List.reverse h
  have hnot : ∀ {l : List α}, c ∉ l → ¬ [c] <:+: l.reverse := fun hl => by
    simpa [List.singleton_infix_iff] using hl
  have hmark : IsMark [c] := List.not_mem_nil
  obtain ⟨hrest, hall⟩ := append_mark_inj hmark (hnot hs) (hnot ht) hrev
  exact ⟨List.reverse_inj.mp hall, List.reverse_inj.mp hrest⟩

/-- A mark that ends with what does not stand in a text does not reach into that text. -/
theorem infix_of_infix_append {z : α} (hz : z ∉ b) (h : (mark ++ [z]) <:+: a ++ b) : (mark ++ [z]) <:+: a := by
  obtain ⟨s, t, h⟩ := h
  obtain ⟨u, rfl, -⟩ | ⟨u, hu, rfl⟩ := List.append_eq_append_iff.mp h
  · exact ⟨s, u, rfl⟩
  · cases List.eq_nil_or_concat u with
    | inl hnil =>
        subst hnil
        exact ⟨s, [], by simpa using hu⟩
    | inr hlast =>
        obtain ⟨u, y, rfl⟩ := hlast
        have hy : z = y := by
          have := congrArg List.getLast? hu
          simpa [← List.append_assoc] using this
        subst hy
        exact absurd (by simp) hz

/-! ### Assignments -/

/-- A text in which behind a separator an equals sign follows, as if something were assigned. -/
def Assigns (separator : Char) (text : List Char) : Prop := [separator, '='].Sublist text

instance (separator : Char) (text : List Char) : Decidable (Assigns separator text) :=
  inferInstanceAs (Decidable (List.Sublist _ _))

theorem assigns_append (separator : Char) {before behind : List Char} (h : '=' ∈ behind) :
    Assigns separator (before ++ separator :: behind) :=
  ((List.singleton_sublist.mpr h).cons_cons separator).trans (List.sublist_append_right before _)

/-- A pair whose texts do not look like the beginning of another one behind a separator. -/
structure PlainPair (separator : Char) (p : String × String) : Prop where
  separator_key : separator ∉ p.1.toList
  equals_key : '=' ∉ p.1.toList
  value : ¬ Assigns separator p.2.toList

instance (separator : Char) (p : String × String) : Decidable (PlainPair separator p) :=
  decidable_of_iff (separator ∉ p.1.toList ∧ '=' ∉ p.1.toList ∧ ¬ Assigns separator p.2.toList)
    ⟨fun ⟨h, h', h''⟩ => ⟨h, h', h''⟩, fun ⟨h, h', h''⟩ => ⟨h, h', h''⟩⟩

/-- Pairs as assignments, a separator before each. -/
def assignments (separator : Char) (ps : List (String × String)) : List Char :=
  ps.flatMap fun p => separator :: (p.1.toList ++ '=' :: p.2.toList)

theorem assignments_cons (separator : Char) (p : String × String) (ps : List (String × String)) :
    assignments separator (p :: ps) =
      separator :: (p.1.toList ++ '=' :: (p.2.toList ++ assignments separator ps)) := by
  simp [assignments]

theorem append_equals_inj {k k' s t : List Char} (hk : '=' ∉ k) (hk' : '=' ∉ k')
    (h : k ++ '=' :: s = k' ++ '=' :: t) : k = k' ∧ s = t := by
  have hmark : IsMark ['='] := List.not_mem_nil
  rw [← List.singleton_infix_iff] at hk hk'
  exact append_mark_inj hmark hk hk' h

section inj

variable {separator : Char} {k k' v v' s t : List Char}

/-- A value that does not look as if something were assigned in it does not reach over the next assignment. -/
theorem eq_nil_of_not_assigns (hne : separator ≠ '=') (hsep : separator ∉ k) (hk : '=' ∉ k) (hk' : '=' ∉ k')
    {u : List Char} (hu : ¬ Assigns separator (v ++ u))
    (h : separator :: (k ++ '=' :: s) = u ++ separator :: (k' ++ '=' :: t)) : u = [] := by
  cases u with
  | nil => rfl
  | cons c u =>
      rw [List.cons_append, List.cons.injEq] at h
      obtain ⟨rfl, h⟩ := h
      have hassigned : '=' ∉ u := fun hmem => hu (assigns_append _ hmem)
      have hnot : '=' ∉ u ++ separator :: k' := by simp [hassigned, hk', hne.symm]
      obtain ⟨hkey, -⟩ := append_equals_inj hk hnot (by simpa using h)
      exact absurd (hkey ▸ List.mem_append_right u (List.mem_cons_self ..)) hsep

theorem append_assignment_inj (hne : separator ≠ '=') (hv : ¬ Assigns separator v)
    (hv' : ¬ Assigns separator v') (hsep : separator ∉ k) (hsep' : separator ∉ k') (hk : '=' ∉ k) (hk' : '=' ∉ k')
    (h : v ++ separator :: (k ++ '=' :: s) = v' ++ separator :: (k' ++ '=' :: t)) :
    v = v' ∧ k = k' ∧ s = t := by
  have hval : v = v' := by
    obtain ⟨u, rfl, hu⟩ | ⟨u, rfl, hu⟩ := List.append_eq_append_iff.mp h
    · rw [eq_nil_of_not_assigns hne hsep hk hk' hv' hu, List.append_nil]
    · rw [eq_nil_of_not_assigns hne hsep' hk' hk hv hu, List.append_nil]
  subst hval
  have hrest := List.append_cancel_left h
  rw [List.cons.injEq] at hrest
  exact ⟨rfl, append_equals_inj hk hk' hrest.2⟩

/-- Plain pairs behind a plain value can be told from what is written. -/
theorem assignments_inj (hne : separator ≠ '=') {ps qs : List (String × String)}
    (hps : ∀ p ∈ ps, PlainPair separator p) (hqs : ∀ q ∈ qs, PlainPair separator q)
    (hv : ¬ Assigns separator v) (hv' : ¬ Assigns separator v')
    (h : v ++ assignments separator ps = v' ++ assignments separator qs) : v = v' ∧ ps = qs := by
  have hreach : ∀ {w : List Char} {p : String × String} {rs : List (String × String)},
      Assigns separator (w ++ assignments separator (p :: rs)) := fun {w p rs} => by
    rw [assignments_cons]
    exact assigns_append separator (by simp)
  induction ps generalizing v v' qs with
  | nil =>
      cases qs with
      | nil => exact ⟨by simpa [assignments] using h, rfl⟩
      | cons q qs =>
          have hall : v = v' ++ assignments separator (q :: qs) := by simpa [assignments] using h
          exact absurd (hall ▸ hreach) hv
  | cons p ps ih =>
      cases qs with
      | nil =>
          have hall : v' = v ++ assignments separator (p :: ps) := by simpa [assignments] using h.symm
          exact absurd (hall ▸ hreach) hv'
      | cons q qs =>
          have hp := hps p (List.mem_cons_self ..)
          have hq := hqs q (List.mem_cons_self ..)
          rw [assignments_cons, assignments_cons] at h
          obtain ⟨hval, hkey, hrest⟩ := append_assignment_inj hne hv hv' hp.separator_key hq.separator_key
            hp.equals_key hq.equals_key h
          obtain ⟨hvalue, htail⟩ := ih (fun r hr => hps r (List.mem_cons_of_mem p hr))
            (fun r hr => hqs r (List.mem_cons_of_mem q hr)) hp.value hq.value hrest
          have hpair : p = q := Prod.ext (String.toList_inj.mp hkey) (String.toList_inj.mp hvalue)
          exact ⟨hval, by rw [hpair, htail]⟩

end inj

end DbAccess.Text
