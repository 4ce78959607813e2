import DbAccess.Context.Basic
import Mathlib.Tactic.ByContra
import Mathlib.Tactic.Tauto
/-!
# What a cancellation reaches

`Signals.Reached` is what a cancellation comes to along the lists of known signals, as long as
somebody holds the signals on the way. `isCancelled_cancelAll` says that it is exactly what is
cancelled, in whatever order the lists are worked off. The lists themselves only lose entries then,
and none where the signal is not cancelled.
-/

namespace DbAccess.Signals

variable (alive : SignalId → Bool) (signals : Signals)

/-! ### One signal -/

theorem lt_of_isCancelled {s : SignalId} (h : signals.isCancelled s = true) : s < signals.length := by
  unfold isCancelled at h
  by_contra hs
  rw [List.getElem?_eq_none (Nat.le_of_not_lt hs)] at h
  cases h

theorem children_of_length_le {s : SignalId} (h : signals.length ≤ s) : signals.children s = [] := by
  unfold children
  rw [List.getElem?_eq_none h]
  rfl

@[simp] theorem length_spend (s : SignalId) : (signals.spend s).length = signals.length := by
  simp [spend]

theorem isCancelled_spend (s x : SignalId) :
    (signals.spend s).isCancelled x = true ↔
      signals.isCancelled x = true ∨ (x = s ∧ x < signals.length) := by
  unfold spend isCancelled
  rw [List.getElem?_modify]
  by_cases hx : x < signals.length
  · rw [List.getElem?_eq_getElem hx]
    by_cases hs : s = x
    · simp [hs, hx, Signal.spent]
    · simp [hs, hx, Ne.symm hs]
  · rw [List.getElem?_eq_none (Nat.le_of_not_lt hx)]
    simp [hx]

theorem children_spend (s x : SignalId) :
    (signals.spend s).children x = if x = s then [] else signals.children x := by
  unfold spend children
  rw [List.getElem?_modify]
  by_cases hs : s = x
  · cases signals[x]? <;> simp [hs, Signal.spent]
  · simp [hs, Ne.symm hs]

@[simp] theorem length_relist (s : SignalId) (f : List SignalId → List SignalId) :
    (signals.relist s f).length = signals.length := by
  simp [relist]

theorem isCancelled_relist (s x : SignalId) (f : List SignalId → List SignalId) :
    (signals.relist s f).isCancelled x = signals.isCancelled x := by
  unfold relist isCancelled
  rw [List.getElem?_modify]
  cases signals[x]? with
  | none => rfl
  | some sig => by_cases hs : s = x <;> simp [hs]

theorem children_relist (s x : SignalId) (f : List SignalId → List SignalId) :
    (signals.relist s f).children x =
      if x = s ∧ x < signals.length then f (signals.children x) else signals.children x := by
  unfold relist children
  rw [List.getElem?_modify]
  by_cases hx : x < signals.length
  · rw [List.getElem?_eq_getElem hx]
    by_cases hs : s = x
    · simp [hs, hx]
    · simp [hs, Ne.symm hs]
  · rw [List.getElem?_eq_none (Nat.le_of_not_lt hx)]
    simp [hx]

/-! ### Along the lists -/

/-- The pending signals that are alive, what those know that is alive, and so on. -/
inductive Reached (pending : List SignalId) : SignalId → Prop
  | pending {s : SignalId} : s ∈ pending → alive s = true → Reached pending s
  | known {p s : SignalId} :
      Reached pending p → s ∈ signals.children p → alive s = true → Reached pending s

variable {alive signals} {s x : SignalId} {pending rest : List SignalId}

theorem Reached.mono (h : Reached alive signals pending x) (hsub : pending ⊆ rest) :
    Reached alive signals rest x := by
  induction h with
  | pending hs ha => exact .pending (hsub hs) ha
  | known _ hs ha ih => exact .known ih hs ha

theorem not_reached_nil : ¬ Reached alive signals [] x := by
  intro h
  induction h with
  | pending hs _ => cases hs
  | known _ _ _ ih => exact ih

theorem reached_cons_of_dead (h : alive s = false) :
    Reached alive signals (s :: rest) x ↔ Reached alive signals rest x := by
  constructor
  · intro hx
    induction hx with
    | pending hs ha =>
        rcases List.mem_cons.mp hs with rfl | hs
        · rw [h] at ha
          cases ha
        · exact .pending hs ha
    | known _ hs ha ih => exact .known ih hs ha
  · intro hx
    exact hx.mono (List.subset_cons_self s rest)

/-- What is reached through a signal is reached without it once that one is spent: a way that passes
through it can be begun behind the last time that it does. -/
theorem reached_cons_of_alive (h : alive s = true) :
    Reached alive signals (s :: rest) x ↔
      x = s ∨ Reached alive (signals.spend s) (signals.children s ++ rest) x := by
  constructor
  · intro hx
    induction hx with
    | pending hs ha =>
        rcases List.mem_cons.mp hs with rfl | hs
        · exact .inl rfl
        · exact .inr (.pending (List.mem_append_right _ hs) ha)
    | @known p y _ hy ha ih =>
        by_cases hp : p = s
        · rw [hp] at hy
          exact .inr (.pending (List.mem_append_left _ hy) ha)
        · refine .inr (.known (ih.resolve_left hp) ?_ ha)
          rw [children_spend, if_neg hp]
          exact hy
  · have hs : Reached alive signals (s :: rest) s := .pending List.mem_cons_self h
    rintro (rfl | hx)
    · exact hs
    · induction hx with
      | pending hy ha =>
          rcases List.mem_append.mp hy with hy | hy
          · exact .known hs hy ha
          · exact .pending (List.mem_cons_of_mem s hy) ha
      | @known p y _ hy ha ih =>
          rw [children_spend] at hy
          split at hy
          · cases hy
          · exact .known ih hy ha

@[simp] theorem length_cancelAll (pending : List SignalId) :
    (signals.cancelAll alive pending).length = signals.length := by
  fun_induction cancelAll alive signals pending with
  | case1 => rfl
  | case2 signals s rest _ ih => rw [ih, length_spend]
  | case3 signals s rest _ ih => exact ih

/-- **A cancellation cancels what it reaches**, and nothing else. -/
theorem isCancelled_cancelAll (pending : List SignalId) (x : SignalId) :
    (signals.cancelAll alive pending).isCancelled x = true ↔
      signals.isCancelled x = true ∨ (x < signals.length ∧ Reached alive signals pending x) := by
  fun_induction cancelAll alive signals pending with
  | case1 signals => simp [not_reached_nil]
  | case2 signals s rest hs ih =>
      rw [ih, isCancelled_spend, length_spend, reached_cons_of_alive hs]
      tauto
  | case3 signals s rest hs ih =>
      rw [ih, reached_cons_of_dead (by simpa using hs)]

theorem children_cancelAll_subset (pending : List SignalId) (x : SignalId) :
    (signals.cancelAll alive pending).children x ⊆ signals.children x := by
  fun_induction cancelAll alive signals pending with
  | case1 signals => exact List.Subset.refl _
  | case2 signals s rest _ ih =>
      refine List.Subset.trans ih ?_
      rw [children_spend]
      split
      · exact List.nil_subset _
      · exact List.Subset.refl _
  | case3 signals s rest _ ih => exact ih

theorem children_cancelAll_of_not_cancelled (pending : List SignalId)
    (h : ¬ (signals.cancelAll alive pending).isCancelled x = true) :
    (signals.cancelAll alive pending).children x = signals.children x := by
  fun_induction cancelAll alive signals pending with
  | case1 signals => rfl
  | case2 signals s rest _ ih =>
      rw [ih h, children_spend]
      rw [isCancelled_cancelAll, isCancelled_spend] at h
      split
      · rename_i hxs
        have hlen : signals.length ≤ x := by
          by_contra hlt
          exact h (.inl (.inr ⟨hxs, Nat.lt_of_not_le hlt⟩))
        exact (signals.children_of_length_le hlen).symm
      · rfl
  | case3 signals s rest _ ih => exact ih h

theorem cancel_of_alive (h : alive s = true) : signals.cancel alive s = signals.cancelAll alive [s] := by
  rw [cancelAll, if_pos h, List.append_nil]
  rfl

/-! ### A new signal -/

theorem isCancelled_new (x : SignalId) :
    (signals ++ [Signal.new] : Signals).isCancelled x = signals.isCancelled x := by
  unfold isCancelled
  rw [List.getElem?_append]
  split
  · rfl
  · rw [List.getElem?_eq_none (l := signals) (by omega)]
    cases x - signals.length <;> rfl

theorem children_new (x : SignalId) :
    (signals ++ [Signal.new] : Signals).children x = signals.children x := by
  unfold children
  rw [List.getElem?_append]
  split
  · rfl
  · rw [List.getElem?_eq_none (l := signals) (by omega)]
    cases x - signals.length <;> rfl

theorem make_some (p : SignalId) :
    (signals.make alive (some p)).2 =
      if signals.isCancelled p then (signals ++ [.new] : Signals).spend signals.length
      else (signals ++ [.new] : Signals).relist p fun known => known.filter alive ++ [signals.length] := by
  simp only [make, adopt, isCancelled_new, cancel]
  rw [children_new, signals.children_of_length_le (Nat.le_refl _), cancelAll]

@[simp] theorem length_make (parent : Option SignalId) :
    (signals.make alive parent).2.length = signals.length + 1 := by
  cases parent with
  | none => simp [make]
  | some p =>
      rw [make_some]
      split <;> simp

theorem isCancelled_make (parent : Option SignalId) (x : SignalId) :
    (signals.make alive parent).2.isCancelled x = true ↔
      signals.isCancelled x = true ∨
        (x = signals.length ∧ ∃ p, parent = some p ∧ signals.isCancelled p = true) := by
  cases parent with
  | none => simp [make, isCancelled_new]
  | some p =>
      rw [make_some]
      split
      · rename_i hp
        rw [isCancelled_spend, isCancelled_new, List.length_append, List.length_singleton]
        constructor
        · rintro (hx | ⟨rfl, -⟩)
          · exact .inl hx
          · exact .inr ⟨rfl, p, rfl, hp⟩
        · rintro (hx | ⟨rfl, -⟩)
          · exact .inl hx
          · exact .inr ⟨rfl, Nat.lt_succ_self _⟩
      · rename_i hp
        rw [isCancelled_relist, isCancelled_new]
        simp [hp]

theorem mem_children_of_make {parent : Option SignalId}
    (h : s ∈ (signals.make alive parent).2.children x) :
    s ∈ signals.children x ∨ (s = signals.length ∧ parent = some x) := by
  cases parent with
  | none =>
      rw [← children_new]
      exact .inl h
  | some p =>
      rw [make_some] at h
      split at h
      · rw [children_spend, children_new] at h
        split at h
        · cases h
        · exact .inl h
      · rw [children_relist, children_new] at h
        split at h
        · rename_i hx
          rcases List.mem_append.mp h with h | h
          · exact .inl (List.mem_filter.mp h).1
          · exact .inr ⟨List.mem_singleton.mp h, congrArg some hx.1.symm⟩
        · exact .inl h

theorem mem_children_make {parent : Option SignalId} (h : s ∈ signals.children x) (ha : alive s = true) :
    s ∈ (signals.make alive parent).2.children x := by
  have hx : x ≠ signals.length := by
    rintro rfl
    rw [signals.children_of_length_le (Nat.le_refl _)] at h
    cases h
  cases parent with
  | none =>
      rw [← children_new] at h
      exact h
  | some p =>
      rw [make_some]
      split
      · rw [children_spend, if_neg hx, children_new]
        exact h
      · rw [children_relist, children_new]
        split
        · exact List.mem_append_left _ (List.mem_filter.mpr ⟨h, ha⟩)
        · exact h

theorem mem_children_make_self {p : SignalId} (hp : p < signals.length)
    (h : ¬ signals.isCancelled p = true) :
    signals.length ∈ (signals.make alive (some p)).2.children p := by
  have hlen : p < (signals ++ [Signal.new]).length := by
    rw [List.length_append]
    exact Nat.lt_add_right 1 hp
  rw [make_some, if_neg h, children_relist, if_pos ⟨rfl, hlen⟩]
  exact List.mem_append_right _ List.mem_cons_self

end DbAccess.Signals
