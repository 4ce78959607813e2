import DbAccess.Context.Scope
/-!
# What operations do to signals

Of what a program does with contexts only three things matter to the signals: it cancels one, it makes
one, or it does nothing but forget some. `Scope.effect` says which, and `signals_perform` that there
is nothing else to it. No operation gets hold of a signal that nobody held (`isAlive_of_perform`).
-/

namespace DbAccess

/-- What an operation does to the signals. -/
inductive SignalEffect where
  | nothing
  | cancels (root : SignalId)
  | makes (parent : Option SignalId)
deriving DecidableEq, Repr

namespace Context

variable (c : Context) (env : Env)

/-! ### Derivations keep the signal -/

@[simp] theorem signal_withDeadline (t : Instant) : (c.withDeadline t).signal = c.signal := rfl

@[simp] theorem signal_withTimeout (d : Span) : (c.withTimeout env d).signal = c.signal := by
  unfold withTimeout
  split <;> rfl

@[simp] theorem signal_orTimeout (d : Option Span) : (c.orTimeout env d).signal = c.signal := by
  unfold orTimeout
  split
  · split
    · rfl
    · exact c.signal_withTimeout env _
  · rfl

/-! ### Sleeping leaves the signals alone -/

@[simp] theorem signals_sleepOut (p : SleepPlan) : (c.sleepOut p env).2.signals = env.signals := by
  unfold sleepOut
  split <;> rfl

@[simp] theorem signals_sleep (d : Span) : (c.sleep env d).2.signals = env.signals := by
  rw [sleep_eq]
  split
  · rfl
  · exact c.signals_sleepOut env _

theorem signals_sleepDuring (d : Span) (t : Instant) {act : Env → Env} (f : Signals → Signals)
    (h : ∀ env, (act env).signals = f env.signals) :
    (c.sleepDuring env d t act).2.signals = f env.signals := by
  simp only [sleepDuring_eq]
  split
  · exact h _
  · split
    · rw [h]
      exact congrArg f (c.signals_sleepOut env _)
    · split
      · exact h _
      · split
        · exact h _
        · rw [signals_sleepOut]
          exact h _

end Context

namespace Scope

/-- What an operation does to the signals when it is carried out here. -/
def effect (s : Scope) : ContextOp → SignalEffect
  | .cancelable _ source =>
    match s.context? source with
    | some c => .makes c.signal
    | none => .nothing
  | .cancel handle =>
    match s.handles.lookup handle with
    | some root => .cancels root
    | none => .nothing
  | .sleepCancel name handle _ =>
    match s.context? name, s.handles.lookup handle with
    | some _, some root => .cancels root
    | _, _ => .nothing
  | _ => .nothing

variable (s : Scope)

@[simp] theorem signals_derive (name source : String) (f : Context → Context) :
    (s.derive name source f).env = s.env := by
  unfold derive
  split <;> rfl

theorem signals_cancelIn (handle : String) (env : Env) :
    (s.cancelIn handle env).signals =
      match s.handles.lookup handle with
      | some root => env.signals.cancel s.isAlive root
      | none => env.signals := by
  unfold cancelIn
  cases s.handles.lookup handle <;> rfl

/-- The signals after an operation. -/
theorem signals_perform (op : ContextOp) :
    (s.perform op).2.env.signals =
      match s.effect op with
      | .nothing => s.env.signals
      | .cancels root => s.env.signals.cancel s.isAlive root
      | .makes parent => (s.env.signals.make s.isAlive parent).2 := by
  cases op with
  | cancelable name source =>
      simp only [perform, effect]
      cases s.context? source <;> rfl
  | cancel handle =>
      simp only [perform, effect, signals_cancelIn]
      cases s.handles.lookup handle <;> rfl
  | sleepCancel name handle d =>
      simp only [perform, effect, sleepUnder]
      cases s.context? name with
      | none => rfl
      | some c =>
          cases hl : s.handles.lookup handle with
          | none =>
              refine c.signals_sleepDuring s.env d _ id fun env => ?_
              rw [signals_cancelIn, hl]
              rfl
          | some root =>
              refine c.signals_sleepDuring s.env d _ (Signals.cancel s.isAlive · root) fun env => ?_
              rw [signals_cancelIn, hl]
  | sleep name d =>
      simp only [perform, effect, sleepUnder]
      cases s.context? name with
      | none => rfl
      | some c => exact c.signals_sleep s.env d
  | watch name source =>
      simp only [perform, effect]
      cases s.context? source <;> rfl
  | _ => simp [perform, effect]

/-! ### Who holds what -/

theorem isAlive_iff (x : SignalId) :
    s.isAlive x = true ↔
      (∃ e ∈ s.contexts, e.2.signal = some x) ∨ (∃ e ∈ s.handles, e.2 = x) ∨
        ∃ c ∈ s.inUse, c.signal = some x := by
  simp only [isAlive, Bool.or_eq_true, List.any_eq_true, decide_eq_true_eq, or_assoc]

theorem mem_of_lookup {α : Type} {l : List (String × α)} {name : String} {a : α}
    (h : l.lookup name = some a) : (name, a) ∈ l := by
  obtain ⟨l₁, l₂, rfl, _⟩ := List.lookup_eq_some_iff.mp h
  exact List.mem_append_right l₁ List.mem_cons_self

theorem mem_of_mem_put {α : Type} {l : List (String × α)} {name : String} {a : α} {e : String × α}
    (h : e ∈ put l name a) : e.2 = a ∨ e ∈ l := by
  rcases List.mem_cons.mp h with rfl | h
  · exact .inl rfl
  · exact .inr (List.mem_filter.mp h).1

theorem mem_of_mem_forget {α : Type} {l : List (String × α)} {name : String} {e : String × α}
    (h : e ∈ forget l name) : e ∈ l := (List.mem_filter.mp h).1

variable {s}

theorem isAlive_of_context {name : String} {c : Context} {x : SignalId} (h : s.context? name = some c)
    (hx : c.signal = some x) : s.isAlive x = true :=
  (s.isAlive_iff x).mpr (.inl ⟨_, mem_of_lookup h, hx⟩)

theorem isAlive_of_handle {name : String} {x : SignalId} (h : s.handles.lookup name = some x) :
    s.isAlive x = true :=
  (s.isAlive_iff x).mpr (.inr (.inl ⟨_, mem_of_lookup h, rfl⟩))

theorem isAlive_of_bind {name : String} {c : Context} {x : SignalId}
    (h : (s.bind name c).isAlive x = true) : s.isAlive x = true ∨ c.signal = some x := by
  rw [isAlive_iff] at h ⊢
  rcases h with ⟨e, he, hx⟩ | h
  · rcases mem_of_mem_put he with rfl | he
    · exact .inr hx
    · exact .inl (.inl ⟨e, he, hx⟩)
  · exact .inl (.inr h)

theorem isAlive_of_derive {name source : String} {f : Context → Context} {x : SignalId}
    (hf : ∀ c, (f c).signal = c.signal) (h : (s.derive name source f).isAlive x = true) :
    s.isAlive x = true := by
  unfold derive at h
  split at h
  · rename_i c hc
    rcases isAlive_of_bind h with h | h
    · exact h
    · rw [hf] at h
      exact isAlive_of_context hc h
  · exact h

/-- What is held after an operation was held before, or is the signal that the operation made. -/
theorem isAlive_of_perform {op : ContextOp} {x : SignalId} (h : (s.perform op).2.isAlive x = true) :
    s.isAlive x = true ∨ (∃ parent, s.effect op = .makes parent) ∧ x = s.env.signals.length := by
  cases op with
  | timeout name source d => exact .inl (isAlive_of_derive (fun c => c.signal_withTimeout _ _) h)
  | orTimeout name source d => exact .inl (isAlive_of_derive (fun c => c.signal_orTimeout _ _) h)
  | deadline name source t => exact .inl (isAlive_of_derive (fun c => c.signal_withDeadline t) h)
  | deadlineOf name source other =>
      refine .inl (isAlive_of_derive (fun c => ?_) h)
      cases s.deadline? other <;> rfl
  | clone name source => exact .inl (isAlive_of_derive (fun c => rfl) h)
  | cancelable name source =>
      simp only [perform, effect] at h ⊢
      cases hc : s.context? source with
      | none =>
          rw [hc] at h
          exact .inl h
      | some c =>
          rw [hc] at h
          rcases (isAlive_iff _ x).mp h with ⟨e, he, hx⟩ | ⟨e, he, hx⟩ | h
          · rcases mem_of_mem_put he with heq | he
            · rw [heq] at hx
              exact .inr ⟨⟨_, rfl⟩, (Option.some.inj hx).symm⟩
            · exact .inl ((isAlive_iff s x).mpr (.inl ⟨e, he, hx⟩))
          · rcases mem_of_mem_put he with heq | he
            · exact .inr ⟨⟨_, rfl⟩, hx.symm.trans heq⟩
            · exact .inl ((isAlive_iff s x).mpr (.inr (.inl ⟨e, he, hx⟩)))
          · exact .inl ((isAlive_iff s x).mpr (.inr (.inr h)))
  | dropContext name =>
      rw [isAlive_iff] at h ⊢
      rcases h with ⟨e, he, hx⟩ | h
      · exact .inl (.inl ⟨e, mem_of_mem_forget he, hx⟩)
      · exact .inl (.inr h)
  | dropHandle name =>
      rw [isAlive_iff] at h ⊢
      rcases h with h | ⟨e, he, hx⟩ | h
      · exact .inl (.inl h)
      · exact .inl (.inr (.inl ⟨e, mem_of_mem_forget he, hx⟩))
      · exact .inl (.inr (.inr h))
  | watch name source =>
      simp only [perform] at h
      split at h <;> exact .inl h
  | sleep name d =>
      simp only [perform, sleepUnder] at h
      split at h <;> exact .inl h
  | sleepCancel name handle d =>
      simp only [perform, sleepUnder] at h
      split at h <;> exact .inl h
  | _ => exact .inl h

theorem isAlive_of_cancels {op : ContextOp} {root : SignalId} (h : s.effect op = .cancels root) :
    s.isAlive root = true := by
  cases op with
  | cancelable name source =>
      simp only [effect] at h
      split at h <;> cases h
  | cancel handle =>
      simp only [effect] at h
      split at h
      · rename_i hl
        cases h
        exact isAlive_of_handle hl
      · cases h
  | sleepCancel name handle d =>
      simp only [effect] at h
      split at h
      · rename_i hl
        cases h
        exact isAlive_of_handle hl
      · cases h
  | _ => cases h

theorem isAlive_of_makes {op : ContextOp} {parent : SignalId} (h : s.effect op = .makes (some parent)) :
    s.isAlive parent = true := by
  cases op with
  | cancelable name source =>
      simp only [effect] at h
      split at h
      · rename_i c hc
        injection h with h
        exact isAlive_of_context hc h
      · cases h
  | cancel handle =>
      simp only [effect] at h
      split at h <;> cases h
  | sleepCancel name handle d =>
      simp only [effect] at h
      split at h <;> cases h
  | _ => cases h

end Scope

end DbAccess
