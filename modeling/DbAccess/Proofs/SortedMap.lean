import DbAccess.SortedMap
/-!
# Maps in order

A key of an ascending map occurs once, so what stands beside it is what is found under it
(`lookup_eq_some_iff`). Of any map at all, what was put under a key is found there and nothing else is found
elsewhere (`lookup_insert`).
-/

namespace DbAccess.SortedMap

variable {α : Type}

/-! ### Looking up -/

theorem lookup_eq_none {k : String} {m : List (String × α)} (h : ∀ p ∈ m, k < p.1) :
    m.lookup k = none := by
  rw [List.lookup_eq_none_iff]
  intro p hp
  have hne : k ≠ p.1 := fun heq => String.lt_irrefl _ (heq ▸ h p hp)
  exact bne_iff_ne.mpr hne

/-- What stands beside a key is what is found under it. -/
theorem Ascending.lookup_eq_some_iff {m : List (String × α)} (h : Ascending m) {k : String} {a : α} :
    m.lookup k = some a ↔ (k, a) ∈ m := by
  induction m with
  | nil => simp
  | cons p m ih =>
      by_cases hk : k = p.1
      · subst hk
        have hnone : (p.1, a) ∉ m := fun hp => by
          have hlt : p.1 < (p.1, a).1 := h.head_lt hp
          exact String.lt_irrefl p.1 hlt
        rw [List.lookup_cons, beq_self_eq_true, List.mem_cons]
        constructor
        · intro ha
          exact .inl (by rw [← Option.some.inj ha])
        · rintro (heq | hp)
          · exact congrArg some (congrArg Prod.snd heq).symm
          · exact absurd hp hnone
      · have hne : (k, a) ≠ p := fun heq => hk (congrArg Prod.fst heq)
        rw [List.lookup_cons, beq_eq_false_iff_ne.mpr hk, List.mem_cons, ih h.tail]
        exact ⟨.inr, fun hp => hp.resolve_left hne⟩

theorem lookup_cons_of_ne {k : String} {p : String × α} (h : k ≠ p.1) (m : List (String × α)) :
    (p :: m).lookup k = m.lookup k := by
  rw [List.lookup_cons, beq_eq_false_iff_ne.mpr h]

/-- What is put under a key is found there, and nothing changes under another one. -/
theorem lookup_insert (key : String) (a : α) (m : List (String × α)) (k : String) :
    (insert key a m).lookup k = if k = key then some a else m.lookup k := by
  induction m with
  | nil =>
      by_cases hk : k = key
      · simp [insert, hk]
      · simp [insert, lookup_cons_of_ne (p := (key, a)) hk, hk]
  | cons p m ih =>
      rw [insert]
      by_cases hk : k = key
      · subst hk
        split
        case isTrue => simp
        case isFalse hne =>
          split
          · simp
          · rw [lookup_cons_of_ne hne, ih, if_pos rfl, if_pos rfl]
      · rw [if_neg hk] at ih ⊢
        split
        case isTrue heq =>
          have hp : k ≠ p.1 := heq ▸ hk
          rw [lookup_cons_of_ne (p := (key, a)) hk, lookup_cons_of_ne hp]
        case isFalse =>
          split
          · exact lookup_cons_of_ne (p := (key, a)) hk _
          · rw [List.lookup_cons, List.lookup_cons, ih]

theorem mem_keys_iff {k : String} {m : List (String × α)} : k ∈ keys m ↔ ∃ a, m.lookup k = some a := by
  induction m with
  | nil => simp [keys]
  | cons p m ih =>
      by_cases hk : k = p.1
      · subst hk
        exact ⟨fun _ => ⟨p.2, List.lookup_cons_self⟩, fun _ => List.mem_cons_self ..⟩
      · have hkeys : k ∈ keys (p :: m) ↔ k ∈ keys m := by simp [keys, hk]
        rw [hkeys, ih, lookup_cons_of_ne hk]

end DbAccess.SortedMap
