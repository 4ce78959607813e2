import DbAccess.Proofs.Context.Effect
import DbAccess.Proofs.Context.Signals
import Mathlib.Order.Nat
/-!
# Which contexts a cancellation reaches

A run of a program leaves a history: every operation with the scope that it was carried out in.
`MadeUnder` reads off which signal was made under which, and `Told` what a cancellation is bound to
come to: a signal is told when the one above it is, and at the time of the cancellation it was held by
somebody or not yet made.

`Linked` is the invariant between a history and a scope. The lists of known signals hold no more than
`MadeUnder` says, and of what is alive no less, as long as the signal is not cancelled; one that is
has passed it on. `err_eq_cancelled_iff` follows for every program: a context is cancelled exactly
when its signal was told. A signal that nobody held at the time hides from a cancellation what was
derived from it (`not_cancelled_of_forgotten`).
-/

namespace DbAccess

/-- An operation, and the scope in which it is carried out. -/
structure ContextCall where
  scope : Scope
  op : ContextOp

namespace ContextCall

/-- What the call does to the signals. -/
def effect (e : ContextCall) : SignalEffect := e.scope.effect e.op

/-- The number of the next signal to be made. -/
def next (e : ContextCall) : SignalId := e.scope.env.signals.length

end ContextCall

/-- The calls of a program. -/
def Scope.history (s : Scope) : List ContextOp → List ContextCall
  | [] => []
  | op :: ops => ⟨s.tick, op⟩ :: history (s.step op).2 ops

/-- A signal was made under another. -/
def MadeUnder (h : List ContextCall) (x p : SignalId) : Prop :=
  ∃ e ∈ h, e.effect = .makes (some p) ∧ x = e.next

/-- What a cancellation in a scope comes to: the signal itself, and what is made under it, as far as
it is held in the scope or is made later. -/
inductive Told (h : List ContextCall) (s : Scope) (root : SignalId) : SignalId → Prop
  | root : Told h s root root
  | child {p x : SignalId} :
      Told h s root p → MadeUnder h x p → s.isAlive x = true ∨ s.env.signals.length ≤ x → Told h s root x

/-- Some cancellation comes to the signal. -/
def WasTold (h : List ContextCall) (x : SignalId) : Prop :=
  ∃ e ∈ h, ∃ root, e.effect = .cancels root ∧ Told h e.scope root x

variable {h : List ContextCall} {e : ContextCall} {s s' : Scope} {x p root : SignalId}

/-! ### Longer histories -/

theorem madeUnder_append :
    MadeUnder (h ++ [e]) x p ↔ MadeUnder h x p ∨ (e.effect = .makes (some p) ∧ x = e.next) := by
  simp only [MadeUnder, List.mem_append, List.mem_singleton, or_and_right, exists_or, exists_eq_left]

theorem told_congr {h' : List ContextCall} (hm : ∀ x p, MadeUnder h x p ↔ MadeUnder h' x p) :
    Told h s root x ↔ Told h' s root x := by
  constructor
  · intro ht
    induction ht with
    | root => exact .root
    | child _ hx ha ih => exact .child ih ((hm _ _).mp hx) ha
  · intro ht
    induction ht with
    | root => exact .root
    | child _ hx ha ih => exact .child ih ((hm _ _).mpr hx) ha

theorem madeUnder_append_of_not_makes (he : ∀ p, e.effect ≠ .makes (some p)) (x p : SignalId) :
    MadeUnder (h ++ [e]) x p ↔ MadeUnder h x p := by
  rw [madeUnder_append]
  exact or_iff_left fun hx => he p hx.1

theorem wasTold_append :
    WasTold (h ++ [e]) x ↔
      (∃ c ∈ h, ∃ root, c.effect = .cancels root ∧ Told (h ++ [e]) c.scope root x) ∨
        ∃ root, e.effect = .cancels root ∧ Told (h ++ [e]) e.scope root x := by
  simp only [WasTold, List.mem_append, List.mem_singleton, or_and_right, exists_or, exists_eq_left]

theorem wasTold_append_of_not_makes (he : ∀ p, e.effect ≠ .makes (some p)) :
    WasTold (h ++ [e]) x ↔ WasTold h x ∨ ∃ root, e.effect = .cancels root ∧ Told h e.scope root x := by
  simp only [wasTold_append, told_congr (madeUnder_append_of_not_makes he)]
  rfl

theorem wasTold_append_of_makes {parent : Option SignalId} (he : e.effect = .makes parent) :
    WasTold (h ++ [e]) x ↔ ∃ c ∈ h, ∃ root, c.effect = .cancels root ∧ Told (h ++ [e]) c.scope root x := by
  rw [wasTold_append]
  refine or_iff_left ?_
  rintro ⟨root, hroot, _⟩
  exact nomatch he.symm.trans hroot

/-! ### The invariant -/

/-- A scope that a history leads to. -/
structure Linked (h : List ContextCall) (s : Scope) : Prop where
  alive_lt : ∀ x, s.isAlive x = true → x < s.env.signals.length
  made_lt : ∀ x p, MadeUnder h x p → p < x ∧ x < s.env.signals.length
  next_le : ∀ e ∈ h, e.next ≤ s.env.signals.length
  root_lt : ∀ e ∈ h, ∀ root, e.effect = .cancels root → root < s.env.signals.length
  /-- What a signal knows was made under it. -/
  known : ∀ x p, x ∈ s.env.signals.children p → MadeUnder h x p
  /-- A signal knows what was made under it and is alive, unless it is cancelled. -/
  knows : ∀ x p, s.isAlive x = true → MadeUnder h x p → ¬ s.env.signals.isCancelled p = true →
    x ∈ s.env.signals.children p
  /-- A cancelled signal has passed that on to what was made under it and is alive. -/
  passed : ∀ x p, s.isAlive x = true → MadeUnder h x p → s.env.signals.isCancelled p = true →
    s.env.signals.isCancelled x = true
  /-- What is alive is cancelled when it was told. -/
  cancelled_iff : ∀ x, s.isAlive x = true → (s.env.signals.isCancelled x = true ↔ WasTold h x)

theorem linked_fresh (t : Instant) : Linked [] (.fresh t) where
  alive_lt x hx := by cases hx
  made_lt x p hx := by obtain ⟨e, he, _⟩ := hx; cases he
  next_le e he := by cases he
  root_lt e he := by cases he
  known x p hx := by cases hx
  knows x p hx := by cases hx
  passed x p hx := by cases hx
  cancelled_iff x hx := by cases hx

namespace Linked

theorem tick (hl : Linked h s) : Linked h s.tick := ⟨hl.1, hl.2, hl.3, hl.4, hl.5, hl.6, hl.7, hl.8⟩

theorem told_of_reached (hl : Linked h s)
    (hx : Signals.Reached s.isAlive s.env.signals [root] x) : Told h s root x := by
  induction hx with
  | pending hx _ =>
      rw [List.mem_singleton.mp hx]
      exact .root
  | known _ hx ha ih => exact .child ih (hl.known _ _ hx) (.inl ha)

theorem reached_of_told (hl : Linked h s) (hroot : s.isAlive root = true) (hx : Told h s root x) :
    s.isAlive x = true ∧
      (s.env.signals.isCancelled x = true ∨ Signals.Reached s.isAlive s.env.signals [root] x) := by
  induction hx with
  | root => exact ⟨hroot, .inr (.pending List.mem_cons_self hroot)⟩
  | @child p x _ hx ha ih =>
      have ha : s.isAlive x = true := ha.resolve_right (Nat.not_le_of_lt (hl.made_lt x p hx).2)
      refine ⟨ha, ?_⟩
      by_cases hp : s.env.signals.isCancelled p = true
      · exact .inl (hl.passed x p ha hx hp)
      · exact .inr (.known (ih.2.resolve_left hp) (hl.knows x p ha hx hp) ha)

theorem next_le_append (hl : Linked h s) (op : ContextOp)
    (hlen : s.env.signals.length ≤ s'.env.signals.length) :
    ∀ e ∈ h ++ [⟨s, op⟩], e.next ≤ s'.env.signals.length := by
  intro e he
  rcases List.mem_append.mp he with he | he
  · exact (hl.next_le e he).trans hlen
  · rw [List.mem_singleton.mp he]
    exact hlen

theorem root_lt_append (hl : Linked h s) (op : ContextOp)
    (hlen : s.env.signals.length ≤ s'.env.signals.length) :
    ∀ e ∈ h ++ [⟨s, op⟩], ∀ root, e.effect = .cancels root → root < s'.env.signals.length := by
  intro e he root hroot
  rcases List.mem_append.mp he with he | he
  · exact (hl.root_lt e he root hroot).trans_le hlen
  · rw [List.mem_singleton.mp he] at hroot
    exact (hl.alive_lt root (Scope.isAlive_of_cancels hroot)).trans_le hlen

theorem of_nothing (hl : Linked h s) {op : ContextOp} (he : s.effect op = .nothing)
    (hs : s'.env.signals = s.env.signals) (ha : ∀ x, s'.isAlive x = true → s.isAlive x = true) :
    Linked (h ++ [⟨s, op⟩]) s' := by
  have hlen : s'.env.signals.length = s.env.signals.length := congrArg List.length hs
  have hmakes : ∀ p, ContextCall.effect ⟨s, op⟩ ≠ .makes (some p) := fun p hp => nomatch he.symm.trans hp
  have hm := madeUnder_append_of_not_makes (h := h) hmakes
  constructor
  · intro x hx
    rw [hlen]
    exact hl.alive_lt x (ha x hx)
  · intro x p hx
    rw [hlen]
    exact hl.made_lt x p ((hm x p).mp hx)
  · exact hl.next_le_append op hlen.ge
  · exact hl.root_lt_append op hlen.ge
  · intro x p hx
    rw [hs] at hx
    exact (hm x p).mpr (hl.known x p hx)
  · intro x p hx hxp hp
    rw [hs] at hp ⊢
    exact hl.knows x p (ha x hx) ((hm x p).mp hxp) hp
  · intro x p hx hxp hp
    rw [hs] at hp ⊢
    exact hl.passed x p (ha x hx) ((hm x p).mp hxp) hp
  · intro x hx
    rw [hs, hl.cancelled_iff x (ha x hx), wasTold_append_of_not_makes hmakes]
    refine (or_iff_left ?_).symm
    rintro ⟨root, hroot, _⟩
    exact nomatch he.symm.trans hroot

theorem of_cancels (hl : Linked h s) {op : ContextOp} (he : s.effect op = .cancels root)
    (hs : s'.env.signals = s.env.signals.cancel s.isAlive root)
    (ha : ∀ x, s'.isAlive x = true → s.isAlive x = true) : Linked (h ++ [⟨s, op⟩]) s' := by
  have hroot := Scope.isAlive_of_cancels he
  rw [Signals.cancel_of_alive hroot] at hs
  have hlen : s'.env.signals.length = s.env.signals.length := by rw [hs, Signals.length_cancelAll]
  have hc : ∀ x, s'.env.signals.isCancelled x = true ↔ s.env.signals.isCancelled x = true ∨
      (x < s.env.signals.length ∧ Signals.Reached s.isAlive s.env.signals [root] x) := by
    rw [hs]
    exact Signals.isCancelled_cancelAll [root]
  have hmakes : ∀ p, ContextCall.effect ⟨s, op⟩ ≠ .makes (some p) := fun p hp => nomatch he.symm.trans hp
  have hm := madeUnder_append_of_not_makes (h := h) hmakes
  constructor
  · intro x hx
    rw [hlen]
    exact hl.alive_lt x (ha x hx)
  · intro x p hx
    rw [hlen]
    exact hl.made_lt x p ((hm x p).mp hx)
  · exact hl.next_le_append op hlen.ge
  · exact hl.root_lt_append op hlen.ge
  · intro x p hx
    rw [hs] at hx
    exact (hm x p).mpr (hl.known x p (Signals.children_cancelAll_subset [root] p hx))
  · intro x p hx hxp hp
    have hp' : ¬ s.env.signals.isCancelled p = true := fun hp' => hp ((hc p).mpr (.inl hp'))
    rw [hs] at hp ⊢
    rw [Signals.children_cancelAll_of_not_cancelled [root] hp]
    exact hl.knows x p (ha x hx) ((hm x p).mp hxp) hp'
  · intro x p hx hxp hp
    have hxp := (hm x p).mp hxp
    refine (hc x).mpr ?_
    by_cases hp' : s.env.signals.isCancelled p = true
    · exact .inl (hl.passed x p (ha x hx) hxp hp')
    · have hreached := (((hc p).mp hp).resolve_left hp').2
      exact .inr ⟨(hl.made_lt x p hxp).2, .known hreached (hl.knows x p (ha x hx) hxp hp') (ha x hx)⟩
  · intro x hx
    have hold := hl.cancelled_iff x (ha x hx)
    rw [hc, wasTold_append_of_not_makes hmakes, ← hold]
    constructor
    · rintro (hx | ⟨_, hx⟩)
      · exact .inl hx
      · exact .inr ⟨root, he, hl.told_of_reached hx⟩
    · rintro (hx | ⟨y, hy, ht⟩)
      · exact .inl hx
      · injection he.symm.trans hy with hy
        rw [← hy] at ht
        obtain ⟨hxa, hx | hx⟩ := hl.reached_of_told hroot ht
        · exact .inl hx
        · exact .inr ⟨hl.alive_lt x hxa, hx⟩

theorem told_append (hl : Linked h s) {op : ContextOp} {root₀ : SignalId} {s₀ : Scope}
    (hx : x < s.env.signals.length) :
    Told (h ++ [⟨s, op⟩]) s₀ root₀ x ↔ Told h s₀ root₀ x := by
  constructor
  · intro ht
    induction ht with
    | root => exact .root
    | @child p x _ hxp ha ih =>
        have hxp := (madeUnder_append.mp hxp).resolve_right fun hn => Nat.lt_irrefl _ (hn.2 ▸ hx)
        exact .child (ih ((hl.made_lt x p hxp).1.trans hx)) hxp ha
  · intro ht
    induction ht with
    | root => exact .root
    | @child p x _ hxp ha ih =>
        exact .child (ih ((hl.made_lt x p hxp).1.trans hx)) (madeUnder_append.mpr (.inl hxp)) ha

theorem of_makes (hl : Linked h s) {op : ContextOp} {parent : Option SignalId}
    (he : s.effect op = .makes parent) (hs : s'.env.signals = (s.env.signals.make s.isAlive parent).2)
    (ha : ∀ x, s'.isAlive x = true → s.isAlive x = true ∨ x = s.env.signals.length) :
    Linked (h ++ [⟨s, op⟩]) s' := by
  have hlen : s'.env.signals.length = s.env.signals.length + 1 := by rw [hs, Signals.length_make]
  have hc : ∀ x, s'.env.signals.isCancelled x = true ↔ s.env.signals.isCancelled x = true ∨
      (x = s.env.signals.length ∧ ∃ p, parent = some p ∧ s.env.signals.isCancelled p = true) := by
    rw [hs]
    exact Signals.isCancelled_make parent
  have htold : ∀ x, WasTold (h ++ [⟨s, op⟩]) x ↔ ∃ c ∈ h, ∃ root, c.effect = .cancels root ∧
      Told (h ++ [⟨s, op⟩]) c.scope root x := fun x => wasTold_append_of_makes (e := ⟨s, op⟩) he
  have hparent : ∀ p, parent = some p → s.isAlive p = true := by
    rintro p rfl
    exact Scope.isAlive_of_makes he
  have hm : ∀ x p, MadeUnder (h ++ [⟨s, op⟩]) x p ↔
      MadeUnder h x p ∨ (parent = some p ∧ x = s.env.signals.length) := by
    intro x p
    rw [madeUnder_append, ContextCall.effect, he, SignalEffect.makes.injEq]
    rfl
  -- what was made before is alive still only if it was before
  have hold : ∀ x p, s'.isAlive x = true → MadeUnder h x p → s.isAlive x = true := by
    intro x p hx hxp
    exact (ha x hx).resolve_right (hl.made_lt x p hxp).2.ne
  have hp_old : ∀ x p, MadeUnder (h ++ [⟨s, op⟩]) x p → p < s.env.signals.length := by
    intro x p hxp
    rcases (hm x p).mp hxp with hxp | ⟨hp, _⟩
    · exact (hl.made_lt x p hxp).1.trans (hl.made_lt x p hxp).2
    · exact hl.alive_lt p (hparent p hp)
  constructor
  · intro x hx
    rw [hlen]
    rcases ha x hx with hx | rfl
    · exact Nat.lt_succ_of_lt (hl.alive_lt x hx)
    · exact Nat.lt_succ_self _
  · intro x p hx
    rw [hlen]
    rcases (hm x p).mp hx with hx | ⟨hp, rfl⟩
    · exact ⟨(hl.made_lt x p hx).1, Nat.lt_succ_of_lt (hl.made_lt x p hx).2⟩
    · exact ⟨hl.alive_lt p (hparent p hp), Nat.lt_succ_self _⟩
  · exact hl.next_le_append op (hlen ▸ Nat.le_succ _)
  · exact hl.root_lt_append op (hlen ▸ Nat.le_succ _)
  · intro x p hx
    rw [hs] at hx
    rcases Signals.mem_children_of_make hx with hx | ⟨rfl, hp⟩
    · exact (hm x p).mpr (.inl (hl.known x p hx))
    · exact (hm _ p).mpr (.inr ⟨hp, rfl⟩)
  · intro x p hx hxp hp
    have hp' : ¬ s.env.signals.isCancelled p = true := fun hp' => hp ((hc p).mpr (.inl hp'))
    rw [hs]
    rcases (hm x p).mp hxp with hxp | ⟨rfl, rfl⟩
    · have hxa := hold x p hx hxp
      exact Signals.mem_children_make (hl.knows x p hxa hxp hp') hxa
    · exact Signals.mem_children_make_self (hp_old _ p hxp) hp'
  · intro x p hx hxp hp
    have hp' : s.env.signals.isCancelled p = true :=
      ((hc p).mp hp).resolve_right fun hn => (hp_old x p hxp).ne hn.1
    refine (hc x).mpr ?_
    rcases (hm x p).mp hxp with hxp | ⟨hparent, rfl⟩
    · exact .inl (hl.passed x p (hold x p hx hxp) hxp hp')
    · exact .inr ⟨rfl, p, hparent, hp'⟩
  · intro x hx
    rcases ha x hx with hx | rfl
    · have hlt := hl.alive_lt x hx
      have hcancelled : s'.env.signals.isCancelled x = true ↔ s.env.signals.isCancelled x = true :=
        (hc x).trans (or_iff_left fun hn => hlt.ne hn.1)
      rw [hcancelled, hl.cancelled_iff x hx, htold]
      simp only [hl.told_append hlt]
      rfl
    · rw [hc, htold]
      constructor
      · rintro (hx | ⟨-, p, hp, hcancelled⟩)
        · exact absurd (Signals.lt_of_isCancelled _ hx) (Nat.lt_irrefl _)
        · have hlt := hl.alive_lt p (hparent p hp)
          obtain ⟨c, hc, root, hroot, ht⟩ := (hl.cancelled_iff p (hparent p hp)).mp hcancelled
          have hmade := (hm _ p).mpr (.inr ⟨hp, rfl⟩)
          refine ⟨c, hc, root, hroot, .child ((hl.told_append hlt).mpr ht) hmade ?_⟩
          exact .inr (hl.next_le c hc)
      · rintro ⟨c, hc, root, hroot, ht⟩
        cases ht with
        | root => exact absurd (hl.root_lt c hc _ hroot) (Nat.lt_irrefl _)
        | @child p _ ht hxp _ =>
            have hlt := hp_old _ p hxp
            obtain ⟨hp, -⟩ :=
              ((hm _ p).mp hxp).resolve_left fun hn => Nat.lt_irrefl _ (hl.made_lt _ p hn).2
            refine .inr ⟨rfl, p, hp, (hl.cancelled_iff p (hparent p hp)).mpr ?_⟩
            exact ⟨c, hc, root, hroot, (hl.told_append hlt).mp ht⟩

theorem perform (hl : Linked h s) (op : ContextOp) : Linked (h ++ [⟨s, op⟩]) (s.perform op).2 := by
  have hs := s.signals_perform op
  have ha : ∀ x, (s.perform op).2.isAlive x = true → s.isAlive x = true ∨ _ :=
    fun x => Scope.isAlive_of_perform
  cases he : s.effect op with
  | nothing =>
      rw [he] at hs
      refine hl.of_nothing he hs fun x hx => (ha x hx).resolve_right fun hn => ?_
      rw [he] at hn
      exact nomatch hn.1.choose_spec
  | cancels root =>
      rw [he] at hs
      refine hl.of_cancels he hs fun x hx => (ha x hx).resolve_right fun hn => ?_
      rw [he] at hn
      exact nomatch hn.1.choose_spec
  | makes parent =>
      rw [he] at hs
      exact hl.of_makes he hs fun x hx => (ha x hx).imp_right (·.2)

theorem run (hl : Linked h s) (ops : List ContextOp) :
    Linked (h ++ s.history ops) (s.run ops).2 := by
  induction ops generalizing h s with
  | nil =>
      rw [Scope.history, List.append_nil]
      exact hl
  | cons op ops ih =>
      have hstep := ih (hl.tick.perform op)
      rw [List.append_assoc] at hstep
      exact hstep

end Linked

/-! ### Contexts -/

theorem Context.err_eq_some_cancelled_iff (c : Context) (env : Env) :
    c.err env = some .cancelled ↔ ∃ x, c.signal = some x ∧ env.signals.isCancelled x = true := by
  unfold err isCancelled
  cases c.signal with
  | none =>
      simp only [Option.any_none, Bool.false_eq_true, if_false]
      split <;> simp
  | some x =>
      cases hx : env.signals.isCancelled x with
      | true => simp [Env.isCancelled, hx]
      | false =>
          simp only [Option.any_some, Env.isCancelled, hx, Bool.false_eq_true, if_false]
          split <;> simp [hx]

/-- **What is cancelled.** A context that a program has left is cancelled exactly when its signal was
told: when a cancellation was made of it or of one that it was made under, through signals each of
which was then held by somebody or not yet made. -/
theorem err_eq_cancelled_iff (t : Instant) (ops : List ContextOp) {name : String} {c : Context}
    (hc : ((Scope.fresh t).run ops).2.context? name = some c) :
    c.err ((Scope.fresh t).run ops).2.env = some .cancelled ↔
      ∃ x, c.signal = some x ∧ WasTold ((Scope.fresh t).history ops) x := by
  have hl := (linked_fresh t).run ops
  rw [c.err_eq_some_cancelled_iff]
  refine exists_congr fun x => and_congr_right fun hx => ?_
  exact hl.cancelled_iff x (Scope.isAlive_of_context hc hx)

/-- A program that derives a context from one that it derived, forgets the context between them, and
cancels the first after it has done more. -/
def derivedTwice (more : List ContextOp) : List ContextOp :=
  [.cancelable "first" "bg", .cancelable "middle" "first", .cancelable "last" "middle",
    .dropContext "middle"] ++ more ++ [.cancel "first"]

/-- A handle that is left between two contexts is enough for a cancellation to get from one to the
other. -/
theorem err_eq_cancelled_of_handle :
    let s := ((Scope.fresh 0).run (derivedTwice [])).2
    s.context? "last" = some ⟨none, some 2⟩ ∧ (⟨none, some 2⟩ : Context).err s.env = some .cancelled := by
  have hlast : ((Scope.fresh 0).run (derivedTwice [])).2.context? "last" = some ⟨none, some 2⟩ := rfl
  have hmiddle : MadeUnder ((Scope.fresh 0).history (derivedTwice [])) 1 0 :=
    ⟨_, .tail _ (.head _), rfl, rfl⟩
  have hunder : MadeUnder ((Scope.fresh 0).history (derivedTwice [])) 2 1 :=
    ⟨_, .tail _ (.tail _ (.head _)), rfl, rfl⟩
  have hcancel : (⟨_, .cancel "first"⟩ : ContextCall) ∈ (Scope.fresh 0).history (derivedTwice []) :=
    .tail _ (.tail _ (.tail _ (.tail _ (.head _))))
  refine ⟨hlast, (err_eq_cancelled_iff 0 (derivedTwice []) hlast).mpr ⟨2, rfl, ?_⟩⟩
  exact ⟨_, hcancel, 0, rfl, .child (.child .root hmiddle (.inl rfl)) hunder (.inl rfl)⟩

/-- When the handle between them is forgotten too, the last context is not cancelled with the first
one, which it was derived from. -/
theorem not_cancelled_of_forgotten :
    let s := ((Scope.fresh 0).run (derivedTwice [.dropHandle "middle"])).2
    let h := (Scope.fresh 0).history (derivedTwice [.dropHandle "middle"])
    (∃ e ∈ h, e.effect = .cancels 0) ∧ MadeUnder h 1 0 ∧ MadeUnder h 2 1 ∧
      s.context? "last" = some ⟨none, some 2⟩ ∧ (⟨none, some 2⟩ : Context).err s.env = none := by
  unfold MadeUnder
  decide +kernel

end DbAccess
