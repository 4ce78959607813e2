import DbAccess.Proofs.Json.Literal
import Mathlib.Data.List.Nodup
/-!
# Reading records back

A `Member` is a named value with the text that it is written as. An object of members is read back as these
members (`parse?_objectText`), and a reader of records finds the fields of a record in it that has exactly
these fields (`readFields_object`).
-/

namespace DbAccess.Json

/-! ### Objects -/

/-- A member of an object: its name, its written value, and the value. -/
structure Member where
  name : String
  text : String
  value : Tree
  writes : Writes text value

namespace Member

/-- A member that is a text. -/
def ofText (name s : String) : Member := ⟨name, _, _, writes_quote s⟩

/-- A member that is a natural. -/
def ofNat (name : String) (n : Nat) : Member := ⟨name, _, _, writes_toString n⟩

/-- A member that is nothing. -/
def ofNull (name : String) : Member := ⟨name, _, _, writes_null⟩

/-- The member for the printer. -/
def entry (m : Member) : String × String := (m.name, m.text)

/-- The member as it is read. -/
def tree (m : Member) : List Piece × Tree := (m.name.toList.map Piece.ofChar, m.value)

/-- The characters of the member. -/
def chars (m : Member) : List Char := (memberText m.name m.text).toList

end Member

/-- The members of an object, with commas between them. -/
def membersText (ms : List Member) : List Char := List.intercalate [','] (ms.map Member.chars)

theorem toList_objectText (ms : List Member) :
    (objectText (ms.map Member.entry)).toList = '\x7b' :: (membersText ms ++ ['\x7d']) := by
  have hchars : String.toList ∘ (fun m : String × String => memberText m.1 m.2) ∘ Member.entry =
      Member.chars := rfl
  simp [objectText, bracket, membersText, String.toList_intercalate, hchars]

@[simp] theorem membersText_singleton (m : Member) : membersText [m] = m.chars := by simp [membersText]

@[simp] theorem membersText_cons_cons (m m' : Member) (ms : List Member) :
    membersText (m :: m' :: ms) = m.chars ++ ',' :: membersText (m' :: ms) := by
  simp [membersText, List.intercalate_cons_cons]

theorem Member.chars_eq (m : Member) :
    m.chars = '"' :: (m.name.toList.flatMap escape ++ '"' :: ':' :: m.text.toList) := by
  simp [chars, memberText, quote]

theorem members?_member (fuel : Nat) (m : Member) {t : List Char} (ht : Closes t) :
    members? (fuel + 2) (m.chars ++ t) =
      match skipSpace t with
      | ',' :: s => (members? (fuel + 1) s).map fun r => (m.tree :: r.1, r.2)
      | '\x7d' :: s => some ([m.tree], s)
      | _ => none := by
  have hvalue := m.writes fuel t ht
  have hlen : m.name.toList.length <
      (m.name.toList.flatMap escape ++ '"' :: ':' :: (m.text.toList ++ t)).length + 1 := by
    have hle := length_le_escapes m.name.toList
    rw [List.length_append]
    omega
  have hkey := pieces?_escapes hlen (':' :: (m.text.toList ++ t))
  have hchars : m.chars ++ t =
      '"' :: (m.name.toList.flatMap escape ++ '"' :: ':' :: (m.text.toList ++ t)) := by
    simp [m.chars_eq]
  have hquote : ∀ s, skipSpace ('"' :: s) = '"' :: s := fun _ => rfl
  have hcolon : ∀ s, skipSpace (':' :: s) = ':' :: s := fun _ => rfl
  rw [hchars, members?, hquote]
  simp only [hkey, hcolon, hvalue, Option.bind_eq_bind, Option.bind_some, Member.tree,
    Option.map_eq_bind]
  rfl

theorem members?_membersText {ms : List Member} (hne : ms ≠ []) {fuel : Nat} (hfuel : ms.length ≤ fuel)
    (t : List Char) :
    members? (fuel + 1) (membersText ms ++ '\x7d' :: t) = some (ms.map Member.tree, t) := by
  have hcloses : ∀ {c : Char} (s : List Char), c = ',' ∨ c = '\x7d' → Closes (c :: s) := by
    rintro c s (rfl | rfl) _ ⟨⟩
    · exact .inl rfl
    · exact .inr (.inr rfl)
  induction ms generalizing fuel with
  | nil => exact absurd rfl hne
  | cons m ms ih =>
      cases fuel with
      | zero => cases hfuel
      | succ fuel =>
        cases ms with
        | nil =>
            rw [membersText_singleton, members?_member fuel m (hcloses _ (.inr rfl))]
            rfl
        | cons m' ms =>
            have hrest := ih (List.cons_ne_nil m' ms) (Nat.le_of_succ_le_succ hfuel)
            have hspace : ∀ s, skipSpace (',' :: s) = ',' :: s := fun _ => rfl
            rw [membersText_cons_cons, List.append_assoc, List.cons_append,
              members?_member fuel m (hcloses _ (.inl rfl)), hspace]
            simp only [hrest]
            rfl

theorem length_le_membersText (ms : List Member) : ms.length ≤ (membersText ms).length := by
  induction ms with
  | nil => exact Nat.zero_le _
  | cons m ms ih =>
      cases ms with
      | nil => simp [m.chars_eq]
      | cons m' ms =>
          simp only [membersText_cons_cons, List.length_append, List.length_cons] at ih ⊢
          omega

theorem membersText_eq_quote {ms : List Member} (hne : ms ≠ []) : ∃ t, membersText ms = '"' :: t := by
  cases ms with
  | nil => exact absurd rfl hne
  | cons m ms =>
      cases ms with
      | nil => exact ⟨_, by rw [membersText_singleton, m.chars_eq]⟩
      | cons m' ms => exact ⟨_, by rw [membersText_cons_cons, m.chars_eq, List.cons_append]⟩

/-- **An object that is written is read back.** -/
theorem parse?_objectText {ms : List Member} (hne : ms ≠ []) :
    Tree.parse? (objectText (ms.map Member.entry)) = some (.object (ms.map Member.tree)) := by
  have hvalue : ∀ fuel t, value? (fuel + 1) ('\x7b' :: '"' :: t) =
      (members? fuel ('"' :: t)).map fun r => (.object r.1, r.2) := fun _ _ => rfl
  have hlen := length_le_membersText ms
  obtain ⟨t, ht⟩ := membersText_eq_quote hne
  rw [Tree.parse?, toList_objectText]
  obtain ⟨fuel, hfuel⟩ : ∃ fuel,
      2 * ('\x7b' :: (membersText ms ++ ['\x7d'])).length + 2 = fuel + 2 ∧ ms.length ≤ fuel := by
    refine ⟨_, rfl, ?_⟩
    rw [List.length_cons, List.length_append]
    omega
  have hmembers := members?_membersText hne hfuel.2 []
  simp only [hfuel.1]
  rw [ht, List.cons_append] at hmembers ⊢
  rw [hvalue, hmembers]
  rfl

/-! ### Records -/

theorem mapM_tree (ms : List Member) :
    (ms.map Member.tree).mapM (fun m => (text? m.1).map fun key => (key, m.2)) =
      some (ms.map fun m => (m.name, m.value)) := by
  induction ms with
  | nil => rfl
  | cons m ms ih =>
      have hname : text? m.tree.1 = some m.name := text?_ofChar m.name
      rw [List.map_cons, List.mapM_cons, hname, ih]
      rfl

theorem lookup_of_nodup {α : Type} {l : List (String × α)} (h : (l.map (·.1)).Nodup) {p : String × α}
    (hp : p ∈ l) : l.lookup p.1 = some p.2 := by
  induction l with
  | nil => cases hp
  | cons q l ih =>
      rw [List.map_cons, List.nodup_cons] at h
      obtain rfl | hp := List.mem_cons.mp hp
      · rw [List.lookup_cons, beq_self_eq_true]
      · have hne : p.1 ≠ q.1 := fun heq => h.1 (heq ▸ List.mem_map_of_mem hp)
        rw [List.lookup_cons, beq_eq_false_iff_ne.mpr hne]
        exact ih h.2 hp

/-- **A record that is written is read back**, when it has exactly the fields that are looked for. -/
theorem readFields_object {ms : List Member} (h : (ms.map Member.name).Nodup) :
    readFields (ms.map Member.name) (.object (ms.map Member.tree)) =
      some ⟨false, ms.map fun m => some m.value⟩ := by
  have hkeys : (ms.map fun m => (m.name, m.value)).map (·.1) = ms.map Member.name := by
    rw [List.map_map]
    rfl
  rw [← hkeys] at h
  have honce : ((ms.map Member.name).any fun n =>
      1 < (ms.map fun m => (m.name, m.value)).countP fun m => m.1 = n) = false := by
    rw [List.any_eq_false]
    intro n _ htwice
    have hcount := List.nodup_iff_count_le_one.mp h n
    rw [List.count, List.countP_map] at hcount
    exact absurd (of_decide_eq_true htwice) (Nat.not_lt.mpr hcount)
  have hfound : (ms.map Member.name).map (fun n => (ms.map fun m => (m.name, m.value)).lookup n) =
      ms.map fun m => some m.value := by
    rw [List.map_map]
    refine List.map_congr_left fun m hm => ?_
    exact lookup_of_nodup h (List.mem_map_of_mem hm)
  simp only [readFields, mapM_tree, Option.bind_eq_bind, Option.bind_some]
  rw [honce, hfound]
  rfl

end DbAccess.Json
