import DbAccess.Session.Transaction
/-!
# Running a computation step by step

`SessionM.run` is the run of a computation in a world. The lemmas here say what each primitive does
there: a sequence is opened by `run_bind`, after which `SessionRun.andThen` goes on with the run of
its first part. `SessionRun.calls` are the driver calls of a run, in order; `calls_after` takes them
apart along a sequence.
-/

namespace DbAccess

variable {δ σ ν α β : Type}

/-- The driver call of an event, when it is one. -/
def Event.call? : Event ν → Option DriverCall
  | .call c _ _ => some c
  | _ => none

/-- The computation never ends. -/
def Outcome.isStuck : Outcome α → Bool
  | .stuck => true
  | _ => false

/-- The value that a computation ends with, if it does. -/
def Outcome.value? : Outcome α → Option α
  | .value a => some a
  | _ => none

/-- What a computation panics with, if it does. -/
def Outcome.panic? : Outcome α → Option String
  | .panicked text => some text
  | _ => none

theorem Outcome.value?_eq_some {o : Outcome α} {a : α} : o.value? = some a ↔ o = .value a := by
  cases o <;> simp [value?]

theorem Outcome.panic?_eq_some {o : Outcome α} {text : String} :
    o.panic? = some text ↔ o = .panicked text := by
  cases o <;> simp [panic?]

/-- Changes the value of an outcome. -/
def Outcome.map (f : α → β) : Outcome α → Outcome β
  | .value a => .value (f a)
  | .failed e => .failed e
  | .panicked text => .panicked text
  | .stuck => .stuck

theorem Outcome.map_eq_value {f : α → β} {o : Outcome α} {b : β} :
    o.map f = .value b ↔ ∃ a, o = .value a ∧ f a = b := by
  cases o <;> simp [map]

/-- The run of a computation in a world. -/
def SessionM.run (x : SessionM δ σ ν α) (w : World δ σ) : SessionRun δ σ ν α := x w

namespace SessionRun

/-- The driver calls of a run, in order. -/
def calls (r : SessionRun δ σ ν α) : List DriverCall := r.trace.filterMap Event.call?

/-- The run with events that occurred before it. -/
def after (r : SessionRun δ σ ν α) (t : List (Event ν)) : SessionRun δ σ ν α :=
  ⟨r.outcome, r.world, t ++ r.trace⟩

/-- Changes the value of a run. -/
def map (f : α → β) (r : SessionRun δ σ ν α) : SessionRun δ σ ν β :=
  ⟨r.outcome.map f, r.world, r.trace⟩

/-- The run of a sequence, from the run of its first part. -/
def andThen (r : SessionRun δ σ ν α) (f : α → SessionM δ σ ν β) : SessionRun δ σ ν β :=
  match r.outcome with
  | .value a => ((f a).run r.world).after r.trace
  | .failed e => ⟨.failed e, r.world, r.trace⟩
  | .panicked text => ⟨.panicked text, r.world, r.trace⟩
  | .stuck => ⟨.stuck, r.world, r.trace⟩

@[simp] theorem after_nil (r : SessionRun δ σ ν α) : r.after [] = r := rfl

@[simp] theorem after_after (r : SessionRun δ σ ν α) (t u : List (Event ν)) :
    (r.after u).after t = r.after (t ++ u) := by simp [after]

@[simp] theorem outcome_after (r : SessionRun δ σ ν α) (t : List (Event ν)) :
    (r.after t).outcome = r.outcome := rfl

@[simp] theorem world_after (r : SessionRun δ σ ν α) (t : List (Event ν)) :
    (r.after t).world = r.world := rfl

@[simp] theorem trace_after (r : SessionRun δ σ ν α) (t : List (Event ν)) :
    (r.after t).trace = t ++ r.trace := rfl

@[simp] theorem calls_mk (o : Outcome α) (w : World δ σ) (t : List (Event ν)) :
    calls ⟨o, w, t⟩ = t.filterMap Event.call? := rfl

@[simp] theorem calls_after (r : SessionRun δ σ ν α) (t : List (Event ν)) :
    (r.after t).calls = t.filterMap Event.call? ++ r.calls := by simp [calls, after]

@[simp] theorem outcome_map (f : α → β) (r : SessionRun δ σ ν α) :
    (r.map f).outcome = r.outcome.map f := rfl

@[simp] theorem world_map (f : α → β) (r : SessionRun δ σ ν α) : (r.map f).world = r.world := rfl

@[simp] theorem calls_map (f : α → β) (r : SessionRun δ σ ν α) : (r.map f).calls = r.calls := rfl

@[simp] theorem andThen_value (a : α) (w : World δ σ) (t : List (Event ν))
    (f : α → SessionM δ σ ν β) : andThen ⟨.value a, w, t⟩ f = ((f a).run w).after t := rfl

@[simp] theorem andThen_failed (e : Error) (w : World δ σ) (t : List (Event ν))
    (f : α → SessionM δ σ ν β) : andThen ⟨.failed e, w, t⟩ f = ⟨.failed e, w, t⟩ := rfl

@[simp] theorem andThen_panicked (text : String) (w : World δ σ) (t : List (Event ν))
    (f : α → SessionM δ σ ν β) : andThen ⟨.panicked text, w, t⟩ f = ⟨.panicked text, w, t⟩ := rfl

@[simp] theorem andThen_stuck (w : World δ σ) (t : List (Event ν)) (f : α → SessionM δ σ ν β) :
    andThen ⟨.stuck, w, t⟩ f = ⟨.stuck, w, t⟩ := rfl

theorem andThen_of_value {r : SessionRun δ σ ν α} {a : α} (h : r.outcome = .value a)
    (f : α → SessionM δ σ ν β) : r.andThen f = ((f a).run r.world).after r.trace := by
  simp [andThen, h]

theorem andThen_of_failed {r : SessionRun δ σ ν α} {e : Error} (h : r.outcome = .failed e)
    (f : α → SessionM δ σ ν β) : r.andThen f = ⟨.failed e, r.world, r.trace⟩ := by
  simp [andThen, h]

theorem andThen_of_stuck {r : SessionRun δ σ ν α} (h : r.outcome = .stuck) (f : α → SessionM δ σ ν β) :
    r.andThen f = ⟨.stuck, r.world, r.trace⟩ := by
  simp [andThen, h]

end SessionRun

namespace SessionM

variable (w : World δ σ)

/-! ### The primitives -/

@[simp] theorem run_bind (x : SessionM δ σ ν α) (f : α → SessionM δ σ ν β) :
    (x >>= f).run w = (x.run w).andThen f := rfl

@[simp] theorem run_pure (a : α) : (pure a : SessionM δ σ ν α).run w = ⟨.value a, w, []⟩ := rfl

@[simp] theorem run_fail (e : Error) : (fail e : SessionM δ σ ν α).run w = ⟨.failed e, w, []⟩ := rfl

@[simp] theorem run_panicWith (text : String) :
    (panicWith text : SessionM δ σ ν α).run w = ⟨.panicked text, w, []⟩ := rfl

@[simp] theorem run_finish (o : Outcome α) : (finish o : SessionM δ σ ν α).run w = ⟨o, w, []⟩ := rfl

@[simp] theorem run_world : (world : SessionM δ σ ν _).run w = ⟨.value w, w, []⟩ := rfl

@[simp] theorem run_env : (env : SessionM δ σ ν _).run w = ⟨.value w.env, w, []⟩ := rfl

@[simp] theorem run_modify (f : World δ σ → World δ σ) :
    (modify f : SessionM δ σ ν Unit).run w = ⟨.value (), f w, []⟩ := rfl

@[simp] theorem run_log (e : LogEvent) :
    (log e : SessionM δ σ ν Unit).run w = ⟨.value (), w, [.log e]⟩ := rfl

@[simp] theorem run_catching (x : SessionM δ σ ν α) :
    (catching x).run w = ⟨.value (x.run w).outcome, (x.run w).world, (x.run w).trace⟩ := rfl

/-- What `attempt` makes of an outcome. -/
def attempted : Outcome α → Outcome (Except Error α)
  | .value a => .value (.ok a)
  | .failed e => .value (.error e)
  | .panicked text => .panicked text
  | .stuck => .stuck

theorem attempted_eq_ok {o : Outcome α} {a : α} : attempted o = .value (.ok a) ↔ o = .value a := by
  cases o <;> simp [attempted]

@[simp] theorem run_attempt (x : SessionM δ σ ν α) :
    (attempt x).run w = ⟨attempted (x.run w).outcome, (x.run w).world, (x.run w).trace⟩ := by
  simp only [run, attempt]
  cases (x w).outcome <;> rfl

/-- A result as an outcome. -/
def resultOutcome : Except Error α → Outcome α
  | .ok a => .value a
  | .error e => .failed e

@[simp] theorem run_ofExcept (r : Except Error α) :
    (ofExcept r : SessionM δ σ ν α).run w = ⟨resultOutcome r, w, []⟩ := by
  cases r <;> rfl

/-- To attempt to go on with a result, where going on does nothing but read it, is to read the result;
of a computation that does not fail itself. -/
theorem run_attempt_bind {x : SessionM δ σ ν (Except Error α)}
    {k : Except Error α → SessionM δ σ ν β} (f : Except Error α → Except Error β)
    (hk : ∀ r w, (attempt (k r)).run w = ⟨.value (f r), w, []⟩)
    (hx : ∀ e, (x.run w).outcome ≠ .failed e) :
    (attempt (x >>= k)).run w = (x.run w).map f := by
  rw [run_attempt, run_bind]
  generalize x.run w = r at hx ⊢
  obtain ⟨o, w', t⟩ := r
  cases o with
  | value a =>
      have h := hk a w'
      rw [run_attempt] at h
      injection h with ho hw ht
      simp [SessionRun.map, Outcome.map, ho, hw, ht]
  | failed e => exact absurd rfl (hx e)
  | panicked text => rfl
  | stuck => rfl

theorem run_discard (x : SessionM δ σ ν α) : (discard x).run w = (x.run w).map fun _ => () := by
  have hd : (discard x).run w = (x.run w).andThen fun _ => pure () := rfl
  rw [hd]
  obtain ⟨o, w', t⟩ := x.run w
  cases o <;> simp [SessionRun.map, SessionRun.after, Outcome.map]

theorem run_attempt_discard (x : SessionM δ σ ν α) :
    (attempt (discard x)).run w = ((attempt x).run w).map (·.map fun _ => ()) := by
  rw [run_attempt, run_attempt, run_discard]
  obtain ⟨o, w', t⟩ := x.run w
  cases o <;> rfl

/-! ### Sequences -/

theorem bind_assoc {γ : Type} (x : SessionM δ σ ν α) (f : α → SessionM δ σ ν β)
    (g : β → SessionM δ σ ν γ) : x >>= f >>= g = x >>= fun a => f a >>= g := by
  funext w
  show ((x.run w).andThen f).andThen g = (x.run w).andThen fun a => f a >>= g
  generalize x.run w = r
  obtain ⟨o, v, t⟩ := r
  cases o with
  | value a =>
      simp only [SessionRun.andThen_value, run_bind]
      generalize (f a).run v = s
      obtain ⟨o, v, u⟩ := s
      cases o <;> simp [SessionRun.after]
  | failed e => rfl
  | panicked text => rfl
  | stuck => rfl

end SessionM

end DbAccess
