import DbAccess.Proofs.Sqlite.Lawful
/-!
# Calls on a connection

What a connection over a lawful engine makes of each call, in the states in which a transaction meets
it: free, with an engine at rest, or held, with an engine that has a transaction open. Every lemma
speaks of both ends of a call, the answer and the refusal; who never answers is passed over.
-/

namespace DbAccess.Sqlite

variable {ε κ δ α β : Type} {E : Engine ε} {R : Reading ε κ}

/-- Where a call leaves the driver: in `ok` when it is answered, and in `error` when it is refused. -/
def Leaves (r : DriverRun δ α) (ok error : δ → Prop) : Prop :=
  match r.reply with
  | .ok _ => ok r.state
  | .error _ => error r.state
  | .never => True

theorem Leaves.imp {r : DriverRun δ α} {ok error ok' error' : δ → Prop} (h : Leaves r ok error)
    (hok : ∀ s, ok s → ok' s) (herror : ∀ s, error s → error' s) : Leaves r ok' error' := by
  obtain ⟨reply, env, state, log⟩ := r
  cases reply with
  | ok a => exact hok state h
  | error e => exact herror state h
  | never => trivial

namespace Connection

variable {P D F : ε → Prop} {c : Connection ε}

/-- The connection is open, and its engine is in a state of a kind. -/
def Serves (c : Connection ε) (P : ε → Prop) : Prop := ∃ b, c.engine = some b ∧ P b.engine

theorem Serves.imp (h : c.Serves P) (hP : ∀ e, P e → D e) : c.Serves D := by
  obtain ⟨b, hb, hp⟩ := h
  exact ⟨b, hb, hP _ hp⟩

/-- The connection is held by a transaction, and its engine is in a state of a kind. -/
structure Held (readOnly : Bool) (P : ε → Prop) (c : Connection ε) : Prop where
  holder : c.holder.map (·.readOnly) = some readOnly
  serves : c.Serves P

/-- The connection is free, and its engine is in a state of a kind. -/
structure Free (P : ε → Prop) (c : Connection ε) : Prop where
  holder : c.holder = none
  serves : c.Serves P

/-! ### Requests -/

/-- A guarded task leaves the engine as it says, or alone when the context has ended. -/
theorem guarded_leaves {task : EngineTask (Workbench ε) α}
    (h : task.Leaves (P ·.engine) (D ·.engine) (F ·.engine)) (hPF : ∀ e, P e → F e) (hc : c.Serves P)
    (ctx : Context) (env : Env) :
    Leaves (c.guarded ctx env task) (fun c' => c'.holder = c.holder ∧ c'.Serves D)
      (fun c' => c'.holder = c.holder ∧ c'.Serves F) := by
  obtain ⟨b, hb, hp⟩ := hc
  unfold guarded
  simp only [hb]
  cases ctx.err env with
  | some done => exact ⟨rfl, b, hb, hPF _ hp⟩
  | none =>
      simp only
      split
      · have ht := h (c.install ctx).handler env b hp
        simp only [runTask, Leaves]
        cases hw : (task (c.install ctx).handler env b).ended with
        | done a =>
            rw [hw] at ht
            exact ⟨rfl, _, rfl, ht⟩
        | failed f =>
            rw [hw] at ht
            exact ⟨rfl, _, rfl, ht⟩
        | never => trivial
      · have ht := h c.handler env b hp
        simp only [runTask, Leaves]
        cases hw : (task c.handler env b).ended with
        | done a =>
            rw [hw] at ht
            exact ⟨trivial, _, rfl, ht⟩
        | failed f =>
            rw [hw] at ht
            exact ⟨trivial, _, rfl, ht⟩
        | never => trivial

/-- A task that is run for its effect succeeds, and its connection stays with its holder. -/
theorem tidy_ensures {sql : String} (h : (E.runText sql).Ensures (P ·.engine) (D ·.engine))
    (hc : c.Serves P) (event : String → LogEvent) (env : Env) :
    (tidy E sql event env c).2.1.holder = c.holder ∧ (tidy E sql event env c).2.1.Serves D := by
  obtain ⟨b, hb, hp⟩ := hc
  unfold tidy
  simp only [hb, runTask]
  exact ⟨trivial, _, rfl, (h c.handler env b hp).2⟩

/-! ### Letting go -/

/-- Whether something may be written is as before a transaction that could only read, and otherwise as
that has left it. -/
def restored (readOnly q : Bool) : Bool := !readOnly && q

theorem restore_ensures (hE : Lawful E R) (readOnly : Bool) {q : Bool} {now : κ}
    (hc : c.Serves (RestsAt E R now q)) (event : String → LogEvent) (env : Env) :
    (restore E readOnly event env c).2.1.holder = c.holder ∧
      (restore E readOnly event env c).2.1.Serves (RestsAt E R now (restored readOnly q)) := by
  unfold restore restored
  cases readOnly with
  | true => exact tidy_ensures (hE.writable now q) hc event env
  | false => exact ⟨rfl, hc⟩

/-- Whoever lets go of a connection goes back to where the transaction was begun. -/
theorem letGo_ensures (hE : Lawful E R) {readOnly q : Bool} {start : κ} (hc : c.Serves (Open R start q))
    (env : Env) :
    Free (RestsAt E R start (restored readOnly q)) (letGo E readOnly env c).2.1 := by
  have hserves : Serves { c with holder := none } (Open R start q) := hc
  have hopen : isOpen E { c with holder := none } = true := by
    obtain ⟨b, hb, hp⟩ := hc
    simp [isOpen, hb, hE.inTransaction _ _ _ hp]
  have hback := tidy_ensures (hE.rollback start q) hserves .cleanupFailed env
  unfold letGo
  simp only [hopen, if_true]
  obtain ⟨hholder, hrests⟩ := restore_ensures hE readOnly hback.2 .resetFailed
    (tidy E "ROLLBACK" .cleanupFailed env { c with holder := none }).1
  exact ⟨hholder.trans hback.1, hrests⟩

theorem finish_leaves (hE : Lawful E R) {readOnly q : Bool} {start now now' : κ} {sql : String}
    (h : (E.runText sql).Leaves (OpenAt R start now q ·.engine) (RestsAt E R now' q ·.engine)
      (Open R start q ·.engine))
    (hc : Held readOnly (OpenAt R start now q) c) (caller : Caller) (env : Env) :
    Leaves (c.finish E caller env sql) (Free (RestsAt E R now' (restored readOnly q)))
      (Free (RestsAt E R start (restored readOnly q))) := by
  have hread : c.holder.any (·.readOnly) = readOnly := by
    have hh := hc.holder
    cases hholder : c.holder with
    | none =>
        rw [hholder] at hh
        cases hh
    | some holder =>
        rw [hholder] at hh
        exact Option.some.inj hh
  have hg := guarded_leaves h (fun e he => he.toOpen) hc.serves caller.ctx env
  unfold finish
  simp only [hread]
  unfold Leaves at hg ⊢
  cases hr : (c.guarded caller.ctx env (E.runText sql)).reply with
  | ok u =>
      rw [hr] at hg
      exact ⟨rfl, (restore_ensures hE _ hg.2 .resetFailed _).2⟩
  | error e =>
      rw [hr] at hg
      exact letGo_ensures hE hg.2 _
  | never => trivial

end Connection

end DbAccess.Sqlite
