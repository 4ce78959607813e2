import DbAccess.Context.Sleep
import DbAccess.Proofs.Context.Signals
/-!
# How a sleep ends

A sleeper is told why its sleep was ended, and that is so: the context has ended for this reason when the
sleeper goes on (`endedBy_sleep`, `SleptDuring.endedBy`). A sleep that nothing ends is longer than the clock
goes, under a context without a deadline whose signal is not cancelled (`endless_sleep`,
`SleptDuring.endless`).
-/

namespace DbAccess

/-- One world may come after the other: the clock is not set back, and what is cancelled stays so. -/
def Env.Precedes (env env' : Env) : Prop :=
  env.now ≤ env'.now ∧ ∀ s, env.isCancelled s = true → env'.isCancelled s = true

namespace Env

theorem precedes_refl (env : Env) : env.Precedes env := ⟨Nat.le_refl _, fun _ h => h⟩

theorem precedes_advanceTo (env : Env) (t : Instant) : env.Precedes (env.advanceTo t) :=
  ⟨Nat.le_max_left _ _, fun _ h => h⟩

theorem precedes_cancel (env : Env) (alive : SignalId → Bool) (root : SignalId) :
    env.Precedes (env.cancel alive root) := by
  refine ⟨Nat.le_refl _, fun s hs => ?_⟩
  have hspent : (env.signals.spend root).isCancelled s = true :=
    (Signals.isCancelled_spend env.signals root s).mpr (.inl hs)
  exact (Signals.isCancelled_cancelAll _ s).mpr (.inl hspent)

theorem Precedes.trans {env env' env'' : Env} (h : env.Precedes env') (h' : env'.Precedes env'') :
    env.Precedes env'' :=
  ⟨Nat.le_trans h.1 h'.1, fun s hs => h'.2 s (h.2 s hs)⟩

end Env

namespace Context

variable (c : Context)

/-- The context has ended for the reason. -/
def EndedBy (env : Env) : ContextError → Prop
  | .cancelled => c.isCancelled env = true
  | .deadlineExceeded => c.isExpired env = true

variable {c} {env env' : Env} {now : Instant} {d : Span} {e : ContextError}

theorem EndedBy.later (h : c.EndedBy env e) (hlater : env.Precedes env') : c.EndedBy env' e := by
  obtain ⟨deadline, signal⟩ := c
  cases e with
  | cancelled =>
      cases signal with
      | none => cases h
      | some s => exact hlater.2 s h
  | deadlineExceeded =>
      cases deadline with
      | none => cases h
      | some t =>
          have ht : t ≤ env.now := of_decide_eq_true h
          exact decide_eq_true (Nat.le_trans ht hlater.1)

theorem endedBy_of_err (h : c.err env = some e) : c.EndedBy env e := by
  unfold err at h
  cases hcancelled : c.isCancelled env with
  | true =>
      rw [if_pos hcancelled] at h
      cases h
      exact hcancelled
  | false =>
      cases hexpired : c.isExpired env with
      | true =>
          simp only [hcancelled, hexpired, Bool.false_eq_true, if_false, if_true] at h
          cases h
          exact hexpired
      | false => simp [hcancelled, hexpired] at h

/-! ### Plans -/

theorem until_of_hitsDeadline (h : (c.sleepPlan now d).hitsDeadline = true) :
    ∃ t, (c.sleepPlan now d).until? = some t ∧ c.deadline = some t := by
  unfold sleepPlan at h ⊢
  cases hw : laterBy? now d with
  | none =>
      cases hd : c.deadline with
      | none => simp [hw, hd] at h
      | some t => exact ⟨t, rfl, rfl⟩
  | some wake =>
      cases hd : c.deadline with
      | none => simp [hw, hd] at h
      | some t =>
          simp only [hw, hd] at h ⊢
          by_cases ht : t ≤ wake
          · exact ⟨t, by rw [if_pos ht], rfl⟩
          · simp [ht] at h

/-- A sleep that is planned to no end is too long for the clock, and there is no deadline. -/
theorem beyond_of_until_eq_none (h : (c.sleepPlan now d).until? = none) :
    laterBy? now d = none ∧ c.deadline = none := by
  unfold sleepPlan at h
  cases hw : laterBy? now d with
  | none =>
      cases hd : c.deadline with
      | none => exact ⟨rfl, rfl⟩
      | some t => simp [hw, hd] at h
  | some wake =>
      cases hd : c.deadline with
      | none => simp [hw, hd] at h
      | some t =>
          simp only [hw, hd] at h
          split at h <;> cases h

theorem result_eq_ended {p : SleepPlan} (h : p.result = .ended e) :
    p.hitsDeadline = true ∧ e = .deadlineExceeded := by
  unfold SleepPlan.result at h
  cases hits : p.hitsDeadline with
  | true =>
      rw [if_pos hits] at h
      cases h
      exact ⟨rfl, rfl⟩
  | false => simp [hits] at h

theorem result_ne_forever (p : SleepPlan) : p.result ≠ .forever := by
  unfold SleepPlan.result
  split <;> nofun

theorem endedBy_of_result (h : (c.sleepPlan now d).result = .ended e) {t : Instant}
    (huntil : (c.sleepPlan now d).until? = some t) (ht : t ≤ env.now) : c.EndedBy env e := by
  obtain ⟨hits, rfl⟩ := result_eq_ended h
  obtain ⟨t', huntil', hdeadline⟩ := until_of_hitsDeadline hits
  have heq : t = t' := Option.some.inj (huntil.symm.trans huntil')
  rw [EndedBy, isExpired, hdeadline]
  exact decide_eq_true (heq ▸ ht)

theorem endedBy_sleepOut (h : (c.sleepOut (c.sleepPlan now d) env).1 = .ended e) :
    c.EndedBy (c.sleepOut (c.sleepPlan now d) env).2 e := by
  unfold sleepOut at h ⊢
  cases huntil : (c.sleepPlan now d).until? with
  | some t =>
      simp only [huntil] at h
      exact endedBy_of_result h huntil (Nat.le_max_right _ _)
  | none =>
      simp only [huntil] at h
      split at h <;> cases h

theorem until_of_sleepOut_forever {p : SleepPlan} (h : (c.sleepOut p env).1 = .forever) :
    p.until? = none ∧ c.signal.isSome = true := by
  unfold sleepOut at h
  cases huntil : p.until? with
  | some t =>
      simp only [huntil] at h
      exact absurd h (result_ne_forever p)
  | none =>
      cases hsignal : c.signal.isSome with
      | true => exact ⟨rfl, rfl⟩
      | false => simp [huntil, hsignal] at h

/-! ### Sleeps -/

/-- A sleep is ended for the reason that is reported. -/
theorem endedBy_sleep (h : (c.sleep env d).1 = .ended e) : c.EndedBy (c.sleep env d).2 e := by
  rw [sleep_eq] at h ⊢
  cases herr : c.err env with
  | some cause =>
      simp only [herr] at h
      cases h
      exact endedBy_of_err herr
  | none =>
      simp only [herr] at h
      exact endedBy_sleepOut h

/-- A sleep that nothing ends: it is too long for the clock, and its context has no deadline, and a signal
that is not cancelled. -/
structure Endless (c : Context) (now : Instant) (d : Span) (env : Env) : Prop where
  beyond : laterBy? now d = none
  deadline : c.deadline = none
  signal : c.signal.isSome = true
  waiting : c.isCancelled env = false

theorem endless_of_sleepOut (h : (c.sleepOut (c.sleepPlan now d) env).1 = .forever)
    (hwaiting : c.isCancelled env = false) :
    c.Endless now d (c.sleepOut (c.sleepPlan now d) env).2 := by
  obtain ⟨huntil, hsignal⟩ := until_of_sleepOut_forever h
  obtain ⟨hbeyond, hdeadline⟩ := beyond_of_until_eq_none huntil
  refine ⟨hbeyond, hdeadline, hsignal, ?_⟩
  unfold sleepOut
  simp only [huntil]
  exact hwaiting

namespace Endless

variable {env' : Env}

theorem until_eq_none (h : c.Endless now d env') : (c.sleepPlan now d).until? = none := by
  rw [sleepPlan, h.beyond, h.deadline]

theorem sleepOut_eq (h : c.Endless now d env') (env : Env) : c.sleepOut (c.sleepPlan now d) env = (.forever, env) := by
  simp only [sleepOut, h.until_eq_none, h.signal, if_true]

theorem err_eq_none (h : c.Endless now d env') (hlater : env.Precedes env') : c.err env = none := by
  cases herr : c.err env with
  | none => rfl
  | some e =>
      have hended : c.EndedBy env' e := (endedBy_of_err herr).later hlater
      cases e with
      | cancelled => exact nomatch hended.symm.trans h.waiting
      | deadlineExceeded =>
          rw [EndedBy, isExpired, h.deadline] at hended
          cases hended

end Endless

theorem sleep_eq_forever_iff : (c.sleep env d).1 = .forever ↔ c.Endless env.now d (c.sleep env d).2 := by
  rw [sleep_eq]
  cases herr : c.err env with
  | some cause =>
      refine ⟨nofun, fun h => ?_⟩
      exact nomatch herr.symm.trans (h.err_eq_none env.precedes_refl)
  | none => exact ⟨fun h => endless_of_sleepOut h (isCancelled_of_err herr), fun h => by rw [h.sleepOut_eq]⟩

/-- What a sleep can be during which something happens elsewhere. -/
inductive SleptDuring (c : Context) (env : Env) (d : Span) (happens : Env → Env) :
    SleepResult × Env → Prop
  /-- The context has ended before. -/
  | refused {e : ContextError} (h : c.err env = some e) :
    SleptDuring c env d happens (.ended e, happens env)
  /-- The sleep is over before. -/
  | before (h : (c.sleepOut (c.sleepPlan env.now d) env).1 ≠ .forever) :
    SleptDuring c env d happens ((c.sleepOut (c.sleepPlan env.now d) env).1,
      happens (c.sleepOut (c.sleepPlan env.now d) env).2)
  /-- There is nothing to wait for. -/
  | idle (h : c.signal.isNone = true) : SleptDuring c env d happens (.rested, happens env)
  /-- The sleeper is woken up by a cancellation. -/
  | woken (h : c.isCancelled (happens env) = true) :
    SleptDuring c env d happens (.ended .cancelled, happens env)
  /-- The sleep is over when it is over elsewhere. -/
  | meanwhile {t : Instant} (h : (c.sleepPlan env.now d).until? = some t) (ht : t ≤ (happens env).now) :
    SleptDuring c env d happens ((c.sleepPlan env.now d).result, happens env)
  /-- The sleep goes on. -/
  | after (h : c.isCancelled (happens env) = false) :
    SleptDuring c env d happens (c.sleepOut (c.sleepPlan env.now d) (happens env))

theorem sleptDuring (c : Context) (env : Env) (d : Span) (t : Instant) (act : Env → Env) :
    c.SleptDuring env d (fun env => act (env.advanceTo t)) (c.sleepDuring env d t act) := by
  rw [sleepDuring_eq]
  cases herr : c.err env with
  | some e => exact .refused herr
  | none =>
      simp only
      by_cases hover : (c.sleepPlan env.now d).until?.any fun wake => wake ≤ t
      · rw [if_pos hover]
        refine .before fun hforever => ?_
        obtain ⟨huntil, -⟩ := until_of_sleepOut_forever hforever
        rw [huntil] at hover
        cases hover
      · rw [if_neg hover]
        split
        · rename_i hidle
          exact .idle (Bool.and_eq_true_iff.mp hidle).1
        · simp only [SleepPlan.check]
          cases hcancelled : c.isCancelled (act (env.advanceTo t)) with
          | true => exact .woken hcancelled
          | false =>
              cases huntil : (c.sleepPlan env.now d).until? with
              | none => exact .after hcancelled
              | some wake =>
                  by_cases hwake : wake ≤ (act (env.advanceTo t)).now
                  · simp only [hwake, if_true]
                    exact .meanwhile huntil hwake
                  · simp only [hwake, if_false]
                    exact .after hcancelled

variable {happens : Env → Env} {r : SleepResult × Env}

/-- A sleep is ended for the reason that is reported, whatever happens elsewhere meanwhile. -/
theorem SleptDuring.endedBy (h : c.SleptDuring env d happens r)
    (hlater : ∀ env : Env, env.Precedes (happens env)) (hended : r.1 = .ended e) : c.EndedBy r.2 e := by
  cases h with
  | refused herr =>
      cases hended
      exact (endedBy_of_err herr).later (hlater env)
  | before _ => exact (endedBy_sleepOut hended).later (hlater _)
  | idle _ => cases hended
  | woken hcancelled =>
      cases hended
      exact hcancelled
  | meanwhile huntil ht => exact endedBy_of_result hended huntil ht
  | after _ => exact endedBy_sleepOut hended

/-- A sleep is not ended exactly if it is endless, whatever happens elsewhere meanwhile. -/
theorem SleptDuring.eq_forever_iff (h : c.SleptDuring env d happens r)
    (hlater : ∀ env : Env, env.Precedes (happens env)) : r.1 = .forever ↔ c.Endless env.now d r.2 := by
  cases h with
  | refused herr =>
      refine ⟨nofun, fun h => ?_⟩
      exact nomatch herr.symm.trans (h.err_eq_none (hlater env))
  | before hnot => exact ⟨fun h => absurd h hnot, fun h => by rw [h.sleepOut_eq]⟩
  | idle hsignal =>
      refine ⟨nofun, fun h => ?_⟩
      have hnone := h.signal
      rw [Option.isNone_iff_eq_none.mp hsignal] at hnone
      cases hnone
  | woken hcancelled => exact ⟨nofun, fun h => nomatch hcancelled.symm.trans h.waiting⟩
  | meanwhile huntil _ =>
      exact ⟨fun h => absurd h (result_ne_forever _), fun h => nomatch huntil.symm.trans h.until_eq_none⟩
  | after hwaiting => exact ⟨fun h => endless_of_sleepOut h hwaiting, fun h => by rw [h.sleepOut_eq]⟩

end Context

end DbAccess
