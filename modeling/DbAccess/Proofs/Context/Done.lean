import DbAccess.Proofs.Context.Sleep
/-!
# What is done stays done

A context has ended when its signal is cancelled or its deadline has passed (`Context.isDone_iff_endedBy`), and what
looks at it through a watcher sees the same (`Context.isDone_watcher`). As the clock is not set back and no
cancellation undone, a context that has ended does not begin again, and one that was cancelled stays cancelled
(`Context.err_of_later`). Sleeping takes its time and undoes nothing (`Context.precedes_sleep`,
`Context.precedes_sleepDuring`).
-/

namespace DbAccess

namespace Context

variable {c : Context} {env env' : Env} {e : ContextError}

theorem isDone_eq (c : Context) (env : Env) : c.isDone env = (c.isCancelled env || c.isExpired env) := by
  unfold isDone err
  cases c.isCancelled env with
  | true => rfl
  | false => cases c.isExpired env <;> rfl

/-- A watcher sees what becomes of its context. -/
theorem isDone_watcher (c : Context) (env : Env) : c.watcher.isDone env = c.isDone env := (c.isDone_eq env).symm

theorem isDone_iff_endedBy : c.isDone env = true ↔ ∃ e, c.EndedBy env e := by
  rw [isDone_eq, Bool.or_eq_true]
  constructor
  · rintro (h | h)
    · exact ⟨.cancelled, h⟩
    · exact ⟨.deadlineExceeded, h⟩
  · rintro ⟨e, h⟩
    cases e with
    | cancelled => exact .inl h
    | deadlineExceeded => exact .inr h

theorem isDone_of_later (h : c.isDone env = true) (hlater : env.Precedes env') : c.isDone env' = true := by
  obtain ⟨e, he⟩ := isDone_iff_endedBy.mp h
  exact isDone_iff_endedBy.mpr ⟨e, he.later hlater⟩

theorem isDone_of_err (h : c.err env = some e) : c.isDone env = true := by rw [isDone, h, Option.isSome_some]

theorem canEnd_of_isDone (h : c.isDone env = true) : c.canEnd = true := by
  obtain ⟨deadline, signal⟩ := c
  cases deadline with
  | some t => rfl
  | none =>
      cases signal with
      | some s => rfl
      | none => cases h

theorem eq_cancelled_iff (h : c.err env = some e) : e = .cancelled ↔ c.isCancelled env = true := by
  have hended := endedBy_of_err h
  constructor
  · rintro rfl
    exact hended
  · intro hcancelled
    rw [err, if_pos hcancelled] at h
    exact (Option.some.inj h).symm

theorem err_of_isCancelled (h : c.isCancelled env = true) : c.err env = some .cancelled := by
  rw [err, if_pos h]

/-- Whatever ended a context, it is cancelled from the moment on at which its signal is. -/
theorem err_of_later (h : c.err env = some e) (hlater : env.Precedes env') :
    (c.err env').isSome = true ∧ (e = .cancelled → c.err env' = some .cancelled) := by
  refine ⟨isDone_of_later (isDone_of_err h) hlater, ?_⟩
  intro he
  have hended : c.EndedBy env' e := (endedBy_of_err h).later hlater
  rw [he] at hended
  exact err_of_isCancelled hended

theorem err_of_not_canEnd (h : c.canEnd = false) (env : Env) : c.err env = none := by
  cases herr : c.err env with
  | none => rfl
  | some e =>
      have hcan := canEnd_of_isDone (isDone_of_err herr)
      rw [h] at hcan
      cases hcan

/-! ### Sleeping -/

variable (c) (env) (d : Span)

theorem precedes_sleepOut (p : SleepPlan) : env.Precedes (c.sleepOut p env).2 := by
  unfold sleepOut
  cases p.until? with
  | some t => exact env.precedes_advanceTo t
  | none => exact env.precedes_refl

theorem precedes_sleep : env.Precedes (c.sleep env d).2 := by
  rw [sleep_eq]
  cases c.err env with
  | some e => exact env.precedes_refl
  | none => exact c.precedes_sleepOut env _

variable {c env d}

theorem SleptDuring.precedes {happens : Env → Env} {r : SleepResult × Env} (h : c.SleptDuring env d happens r)
    (hlater : ∀ env : Env, env.Precedes (happens env)) : env.Precedes r.2 := by
  cases h with
  | refused _ => exact hlater env
  | before _ => exact (c.precedes_sleepOut env _).trans (hlater _)
  | idle => exact hlater env
  | woken _ => exact hlater env
  | meanwhile _ _ => exact hlater env
  | after _ => exact (hlater env).trans (c.precedes_sleepOut _ _)

theorem precedes_sleepDuring (c : Context) (env : Env) (d : Span) (t : Instant) {act : Env → Env}
    (hact : ∀ env : Env, env.Precedes (act env)) : env.Precedes (c.sleepDuring env d t act).2 :=
  (c.sleptDuring env d t act).precedes fun env => (env.precedes_advanceTo t).trans (hact _)

end Context

end DbAccess
