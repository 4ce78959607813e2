import DbAccess.Context.Basic
/-!
# What a deadline comes from

Contexts are derived from the background one step by step, each at a moment of its own. `introduced` are the deadlines
that the steps of a chain introduce, one by one. The deadline of a context is the earliest of those
(`deadline_deriveAll`): it never gets later along a chain, and a default is introduced by nobody who comes after
another deadline (`deadline_is_earliest`).
-/

namespace DbAccess

/-- A way to derive a context. -/
inductive Derivation where
  | deadline (t : Instant)
  | timeout (d : Span)
  | orTimeout (d : Option Span)
  /-- Makes a signal, where some signals are held by somebody. -/
  | cancelable (alive : SignalId → Bool)
  | clone

/-- The deadline that a derivation introduces at an instant, after another one or not. -/
def Derivation.introduces? (now : Instant) (after : Bool) : Derivation → Option Instant
  | deadline t => some t
  | timeout d => laterBy? now d
  | orTimeout d => if after then none else (d.filter fun d => !d.isZero).bind (laterBy? now)
  | cancelable _ | clone => none

/-- The deadlines that derivations introduce, each at its moment, after another deadline or not. -/
def introduced (after : Bool) : List (Env × Derivation) → List Instant
  | [] => []
  | (env, how) :: steps =>
    let t? := how.introduces? env.now after
    t?.toList ++ introduced (after || t?.isSome) steps

namespace Context

/-- Derives a context at a moment. -/
def derive (c : Context) (env : Env) : Derivation → Context
  | .deadline t => c.withDeadline t
  | .timeout d => c.withTimeout env d
  | .orTimeout d => c.orTimeout env d
  | .cancelable alive => (c.withCancel env alive).1
  | .clone => c

/-- Derives a context step by step, each step at its moment. -/
def deriveAll (c : Context) (steps : List (Env × Derivation)) : Context :=
  steps.foldl (fun c step => c.derive step.1 step.2) c

variable (c : Context) (env : Env)

/-! ### One step -/

theorem deadline_withDeadline (t : Instant) :
    (c.withDeadline t).deadline = (c.deadline.toList ++ [t]).min? := by
  unfold withDeadline
  cases c.deadline with
  | none => rfl
  | some d =>
      by_cases hle : d ≤ t
      · simp [hle]
      · simp [hle, Nat.le_of_not_le hle]

theorem deadline_withTimeout (d : Span) :
    (c.withTimeout env d).deadline = (c.deadline.toList ++ (laterBy? env.now d).toList).min? := by
  unfold withTimeout
  cases laterBy? env.now d with
  | some t => exact c.deadline_withDeadline t
  | none => cases c.deadline <;> rfl

theorem orTimeout_of_deadline {t : Instant} (h : c.deadline = some t) (d : Option Span) : c.orTimeout env d = c := by
  simp only [orTimeout, h]

/-- Where there is no deadline, a default counts unless it is a span of no time. -/
theorem orTimeout_of_no_deadline (h : c.deadline = none) (d : Option Span) :
    c.orTimeout env d = (d.filter fun d => !d.isZero).elim c (c.withTimeout env) := by
  cases d with
  | none => simp only [orTimeout, h, Option.filter_none, Option.elim_none]
  | some d => cases hzero : d.isZero <;> simp [orTimeout, h, hzero, Option.filter_some]

theorem deadline_orTimeout (d : Option Span) :
    (c.orTimeout env d).deadline =
      (c.deadline.toList ++ ((Derivation.orTimeout d).introduces? env.now c.deadline.isSome).toList).min? := by
  cases h : c.deadline with
  | some t =>
      rw [orTimeout_of_deadline c env h, h]
      rfl
  | none =>
      rw [c.orTimeout_of_no_deadline env h]
      cases hd : d.filter fun d => !d.isZero with
      | none => simp [Derivation.introduces?, h, hd]
      | some d => simp [Derivation.introduces?, h, hd, deadline_withTimeout]

/-- A step keeps the earlier of the deadline that there was and the one that it introduces. -/
theorem deadline_derive (how : Derivation) :
    (c.derive env how).deadline =
      (c.deadline.toList ++ (how.introduces? env.now c.deadline.isSome).toList).min? := by
  cases how with
  | deadline t => exact c.deadline_withDeadline t
  | timeout d => exact c.deadline_withTimeout env d
  | orTimeout d => exact c.deadline_orTimeout env d
  | cancelable alive =>
      show c.deadline = _
      cases c.deadline <;> rfl
  | clone =>
      show c.deadline = _
      cases c.deadline <;> rfl

/-! ### Chains -/

theorem min?_min?_append (early late : List Instant) :
    (early.min?.toList ++ late).min? = (early ++ late).min? := by
  cases early with
  | nil => rfl
  | cons t early =>
      simp only [List.min?_cons', Option.toList_some, List.cons_append, List.nil_append, List.foldl_append]

theorem isSome_deadline_derive (how : Derivation) :
    (c.derive env how).deadline.isSome =
      (c.deadline.isSome || (how.introduces? env.now c.deadline.isSome).isSome) := by
  rw [deadline_derive, Bool.eq_iff_iff, List.isSome_min?_iff]
  cases c.deadline <;> cases how.introduces? env.now _ <;> simp

/-- **The deadline is the earliest** of the one that there was and those that the steps introduce. -/
theorem deadline_deriveAll (steps : List (Env × Derivation)) :
    (c.deriveAll steps).deadline = (c.deadline.toList ++ introduced c.deadline.isSome steps).min? := by
  induction steps generalizing c with
  | nil =>
      show c.deadline = _
      cases c.deadline <;> rfl
  | cons step steps ih =>
      obtain ⟨env, how⟩ := step
      have hrest := ih (c.derive env how)
      rw [isSome_deadline_derive, deadline_derive, min?_min?_append, List.append_assoc] at hrest
      exact hrest

variable {c env}

theorem deadline_deriveAll_le {t : Instant} (h : c.deadline = some t) (steps : List (Env × Derivation)) :
    ∃ t', (c.deriveAll steps).deadline = some t' ∧ t' ≤ t := by
  have hmin := c.deadline_deriveAll steps
  rw [h, Option.toList_some, List.singleton_append, List.min?_cons'] at hmin
  exact ⟨_, hmin, (List.min?_eq_some_iff.mp List.min?_cons').2 t List.mem_cons_self⟩

/-! ### Defaults -/

theorem laterBy?_eq_none_of_le {now now' : Instant} {d : Span} (hle : now ≤ now') (h : laterBy? now d = none) :
    laterBy? now' d = none := by
  simp only [laterBy?, ite_eq_right_iff, reduceCtorEq, imp_false] at h ⊢
  intro hclock
  exact h (Nat.le_trans (Nat.add_le_add_right hle d.ns) hclock)

theorem introduces?_eq_none_of_le {now now' : Instant} (hle : now ≤ now') {d : Option Span}
    (h : (Derivation.orTimeout d).introduces? now false = none) :
    (Derivation.orTimeout d).introduces? now' false = none := by
  simp only [Derivation.introduces?, Bool.false_eq_true, if_false] at h ⊢
  cases hd : d.filter fun d => !d.isZero with
  | none => rfl
  | some d =>
      rw [hd] at h
      exact laterBy?_eq_none_of_le hle h

theorem orTimeout_of_introduces?_none {d : Option Span} (hnone : c.deadline = none)
    (h : (Derivation.orTimeout d).introduces? env.now false = none) : c.orTimeout env d = c := by
  rw [c.orTimeout_of_no_deadline env hnone]
  cases hd : d.filter fun d => !d.isZero with
  | none => rfl
  | some d =>
      have hlater : laterBy? env.now d = none := by simpa [Derivation.introduces?, hd] using h
      rw [Option.elim_some, withTimeout, hlater]

theorem orTimeout_orTimeout (c : Context) {env env' : Env} (hle : env.now ≤ env'.now) (d : Option Span) :
    (c.orTimeout env d).orTimeout env' d = c.orTimeout env d := by
  cases hd : (c.orTimeout env d).deadline with
  | some t => exact orTimeout_of_deadline _ env' hd d
  | none =>
      rw [deadline_orTimeout, List.min?_eq_none_iff, List.append_eq_nil_iff, Option.toList_eq_nil_iff,
        Option.toList_eq_nil_iff] at hd
      obtain ⟨hnone, hnothing⟩ := hd
      rw [hnone, Option.isSome_none] at hnothing
      rw [orTimeout_of_introduces?_none hnone hnothing]
      exact orTimeout_of_introduces?_none hnone (introduces?_eq_none_of_le hle hnothing)

/-- The time that is left is the difference to the clock, and none when the deadline has passed. -/
theorem ns_remaining {t : Instant} (h : c.deadline = some t) (hclock : t ≤ lastInstant) (env : Env) :
    ∃ r, c.remaining env = some r ∧ r.ns = t - env.now := by
  have hlimit : lastInstant < spanLimit := by decide
  have hlt : t - env.now < spanLimit :=
    Nat.lt_of_le_of_lt (Nat.sub_le t env.now) (Nat.lt_of_le_of_lt hclock hlimit)
  refine ⟨⟨t - env.now, hlt⟩, ?_, rfl⟩
  rw [remaining, h, Option.map_some, Span.ofNanos, dif_pos hlt]

/-- **Deadlines are earliest ones.** A context that was derived from the background, in whatever steps and at whatever
moments, has the earliest of the deadlines that the steps introduced, and none if none was introduced. A further step
never makes it later; a default leaves it alone where there is one, and is the same given twice. The time that is left
is the difference to the clock. -/
theorem deadline_is_earliest (steps : List (Env × Derivation)) :
    let c := background.deriveAll steps
    c.deadline = (introduced false steps).min? ∧
    (c.deadline = none ↔ introduced false steps = []) ∧
    (∀ t, c.deadline = some t → ∀ later, ∃ t', (c.deriveAll later).deadline = some t' ∧ t' ≤ t) ∧
    (∀ t, c.deadline = some t → ∀ env d, c.orTimeout env d = c) ∧
    (∀ env env' d, env.now ≤ env'.now → (c.orTimeout env d).orTimeout env' d = c.orTimeout env d) ∧
    (∀ env, c.remaining env = none ↔ c.deadline = none) ∧
    ∀ t, c.deadline = some t → t ≤ lastInstant → ∀ env, ∃ r, c.remaining env = some r ∧ r.ns = t - env.now := by
  intro c
  have hmin : c.deadline = (introduced false steps).min? := background.deadline_deriveAll steps
  refine ⟨hmin, ?_, ?_, ?_, ?_, ?_, ?_⟩
  · rw [hmin, List.min?_eq_none_iff]
  · intro t ht later
    exact deadline_deriveAll_le ht later
  · intro t ht env d
    exact c.orTimeout_of_deadline env ht d
  · intro env env' d hle
    exact c.orTimeout_orTimeout hle d
  · intro env
    exact Option.map_eq_none_iff
  · intro t ht hclock env
    exact ns_remaining ht hclock env

/-- A request that may take five seconds, and from the next second on only two more. A span beyond the clock and a
default say nothing about it, and no step gives it more. -/
theorem deadline_of_hurried :
    let begun : Env := ⟨nanosPerHour, []⟩
    let later : Env := begun.advance nanosPerSecond
    let steps : List (Env × Derivation) :=
      [(begun, .cancelable fun _ => false), (begun, .timeout .longest), (begun, .timeout (.ofSeconds 5)),
        (begun, .orTimeout (some (.ofSeconds 1))), (later, .timeout (.ofSeconds 2)), (later, .clone)]
    let c := background.deriveAll steps
    let t := begun.now + 3 * nanosPerSecond
    introduced false steps = [begun.now + 5 * nanosPerSecond, t] ∧ c.deadline = some t ∧
      (∃ t', (c.deriveAll [(later, .timeout (.ofSeconds 9)), (later, .timeout .longest)]).deadline = some t' ∧
        t' ≤ t) ∧
      c.orTimeout later (some (.ofSeconds 1)) = c ∧
      (c.orTimeout begun none).orTimeout later none = c.orTimeout begun none ∧
      ∃ r, c.remaining later = some r ∧ r.ns = 2 * nanosPerSecond := by
  intro begun later steps c t
  obtain ⟨hmin, -, hnever, hdefault, htwice, -, hleft⟩ := deadline_is_earliest steps
  have hintroduced : introduced false steps = [begun.now + 5 * nanosPerSecond, t] := by decide
  have hdeadline : c.deadline = some t := by
    rw [hmin, hintroduced]
    decide
  have hwhile : begun.now ≤ later.now := by decide
  have hclock : t ≤ lastInstant := by decide
  have hdifference : t - later.now = 2 * nanosPerSecond := by decide
  obtain ⟨r, hr, hns⟩ := hleft t hdeadline hclock later
  exact ⟨hintroduced, hdeadline, hnever t hdeadline _, hdefault t hdeadline later _, htwice begun later none hwhile,
    r, hr, hns.trans hdifference⟩

end Context

end DbAccess
