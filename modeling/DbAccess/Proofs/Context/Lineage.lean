import DbAccess.Proofs.Context.Deadline
import DbAccess.Proofs.Context.Done
import DbAccess.Proofs.Context.Effect
/-!
# How contexts came about

The lineage of a context are the derivations that led to it, each with the world in which it was made; a clone has the
lineage of its original, and a watcher that of the context from which it was obtained. A `Family` holds the lineages
that a program has given to names, and keeps step with the scope (`Family.knows_run`).

So whatever a program did, its contexts are derived from the background one (`Scope.deadline_of_named`), and what
looks at a context through a clone or through a watcher sees the same (`Scope.watchers_agree`), until the end of a
context comes, which does not go away.
-/

namespace DbAccess

/-- The derivations that led from the background context to another, each with its world. -/
abbrev Lineage := List (Env × Derivation)

namespace Lineage

/-- The context of a lineage. -/
def context (l : Lineage) : Context := Context.background.deriveAll l

theorem context_append (l steps : Lineage) : context (l ++ steps) = l.context.deriveAll steps := List.foldl_append

end Lineage

/-- The lineages of named contexts, and of the contexts that named watchers were obtained from. -/
structure Family where
  contexts : List (String × Lineage)
  watchers : List (String × Lineage)

namespace Scope

/-- What an operation derives here: the new name, that of the source, and the steps in between. A clone takes no
step. -/
def derivation? (s : Scope) : ContextOp → Option (String × String × Lineage)
  | .timeout name source d => some (name, source, [(s.env, .timeout d)])
  | .cancelable name source => some (name, source, [(s.env, .cancelable s.isAlive)])
  | .orTimeout name source d => some (name, source, [(s.env, .orTimeout d)])
  | .deadline name source t => some (name, source, [(s.env, .deadline t)])
  | .deadlineOf name source other =>
    some (name, source, ((s.deadline? other).map fun t => (s.env, Derivation.deadline t)).toList)
  | .clone name source => some (name, source, [])
  | _ => none

/-- Puts under a name what becomes of the entry of another. -/
def transfer {α β : Type} (f : α → β) (l : List (String × β)) (name : String) (source? : Option α) :
    List (String × β) :=
  match source? with
  | some a => put l name (f a)
  | none => l

end Scope

namespace Family

/-- The background context, which nothing led to. -/
def initial : Family := ⟨[("bg", [])], []⟩

/-- The family after an operation in a scope. -/
def after (f : Family) (s : Scope) (op : ContextOp) : Family :=
  { contexts := match s.derivation? op, op with
      | some (name, source, steps), _ => Scope.transfer (· ++ steps) f.contexts name (f.contexts.lookup source)
      | none, .dropContext name => Scope.forget f.contexts name
      | none, _ => f.contexts
    watchers := match op with
      | .watch name source => Scope.transfer id f.watchers name (f.contexts.lookup source)
      | _ => f.watchers }

/-- The family after a program. -/
def run (f : Family) (s : Scope) : List ContextOp → Family
  | [] => f
  | op :: ops => (f.after s.tick op).run (s.step op).2 ops

end Family

namespace Scope

variable (s : Scope)

/-! ### What an operation does to names -/

theorem contexts_derive (name source : String) (f : Context → Context) :
    (s.derive name source f).contexts = transfer f s.contexts name (s.context? source) := by
  unfold derive
  cases s.context? source <;> rfl

theorem watchers_derive (name source : String) (f : Context → Context) :
    (s.derive name source f).watchers = s.watchers := by
  unfold derive
  cases s.context? source <;> rfl

theorem contexts_sleepUnder (name : String) (f : Context → SleepResult × Env) :
    (s.sleepUnder name f).2.contexts = s.contexts := by
  unfold sleepUnder
  cases s.context? name <;> rfl

theorem watchers_sleepUnder (name : String) (f : Context → SleepResult × Env) :
    (s.sleepUnder name f).2.watchers = s.watchers := by
  unfold sleepUnder
  cases s.context? name <;> rfl

theorem contexts_perform (op : ContextOp) :
    (s.perform op).2.contexts =
      match s.derivation? op, op with
      | some (name, source, steps), _ => transfer (·.deriveAll steps) s.contexts name (s.context? source)
      | none, .dropContext name => forget s.contexts name
      | none, _ => s.contexts := by
  cases op with
  | timeout name source d => exact s.contexts_derive name source _
  | orTimeout name source d => exact s.contexts_derive name source _
  | deadline name source t => exact s.contexts_derive name source _
  | clone name source => exact s.contexts_derive name source _
  | deadlineOf name source other =>
      refine (s.contexts_derive name source _).trans ?_
      simp only [derivation?]
      cases s.deadline? other <;> rfl
  | cancelable name source =>
      simp only [perform, derivation?]
      cases s.context? source <;> rfl
  | watch name source =>
      simp only [perform, derivation?]
      cases s.context? source <;> rfl
  | sleep name d => exact s.contexts_sleepUnder name _
  | sleepCancel name handle d => exact s.contexts_sleepUnder name _
  | _ => rfl

theorem watchers_perform (op : ContextOp) :
    (s.perform op).2.watchers =
      match op with
      | .watch name source => transfer Context.watcher s.watchers name (s.context? source)
      | _ => s.watchers := by
  cases op with
  | timeout name source d => exact s.watchers_derive name source _
  | orTimeout name source d => exact s.watchers_derive name source _
  | deadline name source t => exact s.watchers_derive name source _
  | clone name source => exact s.watchers_derive name source _
  | deadlineOf name source other => exact s.watchers_derive name source _
  | cancelable name source =>
      simp only [perform]
      cases s.context? source <;> rfl
  | watch name source =>
      simp only [perform]
      cases s.context? source <;> rfl
  | sleep name d => exact s.watchers_sleepUnder name _
  | sleepCancel name handle d => exact s.watchers_sleepUnder name _
  | _ => rfl

/-! ### Names that are looked up, put and forgotten alike -/

/-- Changes the entries of names. -/
def entries {α β : Type} (g : α → β) (l : List (String × α)) : List (String × β) := l.map fun e => (e.1, g e.2)

variable {α β γ δ : Type} (g : α → β)

theorem lookup_entries (l : List (String × α)) (name : String) :
    (entries g l).lookup name = (l.lookup name).map g := by
  induction l with
  | nil => rfl
  | cons e l ih =>
      obtain ⟨key, a⟩ := e
      simp only [entries, List.map_cons, List.lookup_cons] at ih ⊢
      cases name == key with
      | true => rfl
      | false => exact ih

theorem forget_entries (l : List (String × α)) (name : String) :
    forget (entries g l) name = entries g (forget l name) := List.filter_map

theorem put_entries (l : List (String × α)) (name : String) (a : α) :
    put (entries g l) name (g a) = entries g (put l name a) :=
  congrArg ((name, g a) :: ·) (forget_entries g l name)

/-- Where the entries correspond they do so after a transfer of what corresponds. -/
theorem transfer_entries (k : γ → δ) (f : δ → β) (f' : γ → α) (hf : ∀ a, f (k a) = g (f' a)) (l : List (String × α))
    (name : String) (source? : Option γ) :
    transfer f (entries g l) name (source?.map k) = entries g (transfer f' l name source?) := by
  cases source? with
  | none => rfl
  | some a =>
      show put (entries g l) name (f (k a)) = entries g (put l name (f' a))
      rw [hf, put_entries]

/-! ### Time passes -/

theorem precedes_tick : s.env.Precedes s.tick.env := ⟨Nat.le_add_right _ _, fun _ h => h⟩

theorem precedes_cancelIn (handle : String) (env : Env) : env.Precedes (s.cancelIn handle env) := by
  unfold cancelIn
  cases s.handles.lookup handle with
  | some root => exact env.precedes_cancel s.isAlive root
  | none => exact env.precedes_refl

theorem precedes_make (env : Env) (alive : SignalId → Bool) (parent : Option SignalId) :
    env.Precedes { env with signals := (env.signals.make alive parent).2 } :=
  ⟨Nat.le_refl _, fun x hx => (Signals.isCancelled_make parent x).mpr (.inl hx)⟩

theorem precedes_perform (op : ContextOp) : s.env.Precedes (s.perform op).2.env := by
  cases op with
  | cancelable name source =>
      simp only [perform]
      cases s.context? source with
      | some c => exact precedes_make s.env s.isAlive c.signal
      | none => exact s.env.precedes_refl
  | cancel handle => exact s.precedes_cancelIn handle s.env
  | sleep name d =>
      simp only [perform, sleepUnder]
      cases s.context? name with
      | some c => exact c.precedes_sleep s.env d
      | none => exact s.env.precedes_refl
  | sleepCancel name handle d =>
      simp only [perform, sleepUnder]
      cases s.context? name with
      | some c => exact c.precedes_sleepDuring s.env d _ (s.precedes_cancelIn handle)
      | none => exact s.env.precedes_refl
  | watch name source =>
      simp only [perform]
      cases s.context? source <;> exact s.env.precedes_refl
  | _ => simp only [perform, signals_derive]; exact s.env.precedes_refl

theorem precedes_run (ops : List ContextOp) : s.env.Precedes (s.run ops).2.env := by
  induction ops generalizing s with
  | nil => exact s.env.precedes_refl
  | cons op ops ih => exact (s.precedes_tick.trans (s.tick.precedes_perform op)).trans (ih (s.step op).2)

end Scope

/-! ### Families keep step with scopes -/

namespace Family

variable {f : Family} {s : Scope}

/-- The family knows where the contexts and watchers of a scope come from. -/
structure Knows (f : Family) (s : Scope) : Prop where
  contexts : s.contexts = Scope.entries Lineage.context f.contexts
  watchers : s.watchers = Scope.entries (·.context.watcher) f.watchers
  /-- The worlds of a lineage come one after another, and before that of the scope. -/
  moments : ∀ e ∈ f.contexts, e.2.Pairwise (fun a b => a.1.Precedes b.1) ∧ ∀ step ∈ e.2, step.1.Precedes s.env

theorem knows_fresh (t : Instant) : initial.Knows (.fresh t) where
  contexts := rfl
  watchers := rfl
  moments e he := by
    obtain rfl := List.mem_singleton.mp he
    exact ⟨.nil, nofun⟩

theorem Knows.context? (h : f.Knows s) (name : String) :
    s.context? name = (f.contexts.lookup name).map Lineage.context := by
  rw [Scope.context?, h.contexts, Scope.lookup_entries]

theorem Knows.exists_lineage (h : f.Knows s) {name : String} {c : Context} (hc : s.context? name = some c) :
    ∃ l, f.contexts.lookup name = some l ∧ l.context = c := by
  rw [h.context?] at hc
  exact Option.map_eq_some_iff.mp hc

theorem Knows.exists_watched (h : f.Knows s) {name : String} {w : Watcher} (hw : s.watchers.lookup name = some w) :
    ∃ l, f.watchers.lookup name = some l ∧ l.context.watcher = w := by
  rw [h.watchers, Scope.lookup_entries] at hw
  exact Option.map_eq_some_iff.mp hw

theorem Knows.tick (h : f.Knows s) : f.Knows s.tick where
  contexts := h.contexts
  watchers := h.watchers
  moments e he := ⟨(h.moments e he).1, fun step hstep => ((h.moments e he).2 step hstep).trans s.precedes_tick⟩

/-- An operation takes one step at most, in the world in which it is carried out. -/
theorem steps_of_derivation? {op : ContextOp} {name source : String} {steps : Lineage}
    (h : s.derivation? op = some (name, source, steps)) : steps = [] ∨ ∃ how, steps = [(s.env, how)] := by
  cases op with
  | deadlineOf name source other =>
      cases h
      cases s.deadline? other with
      | none => exact .inl rfl
      | some t => exact .inr ⟨_, rfl⟩
  | clone name source =>
      cases h
      exact .inl rfl
  | _ => cases h <;> exact .inr ⟨_, rfl⟩

/-- A lineage was in the family, or one of the family went on by what the operation derives. -/
theorem mem_contexts_after {op : ContextOp} {e : String × Lineage} (h : e ∈ (f.after s op).contexts) :
    e ∈ f.contexts ∨
      ∃ old ∈ f.contexts, e.2 = old.2 ∨ ∃ how, e.2 = old.2 ++ [(s.env, how)] := by
  unfold after at h
  cases hd : s.derivation? op with
  | none =>
      simp only [hd] at h
      split at h
      · cases ‹none = some _›
      · exact .inl (Scope.mem_of_mem_forget h)
      · exact .inl h
  | some derived =>
      obtain ⟨name, source, steps⟩ := derived
      simp only [hd, Scope.transfer] at h
      cases hl : f.contexts.lookup source with
      | none =>
          simp only [hl] at h
          exact .inl h
      | some line =>
          simp only [hl] at h
          rcases Scope.mem_of_mem_put h with hnew | hold
          · refine .inr ⟨(source, line), Scope.mem_of_lookup hl, ?_⟩
            rcases steps_of_derivation? hd with rfl | ⟨how, rfl⟩
            · exact .inl (hnew.trans (List.append_nil line))
            · exact .inr ⟨how, hnew⟩
          · exact .inl hold

theorem contexts_after (op : ContextOp) :
    (f.after s op).contexts =
      match s.derivation? op, op with
      | some (name, source, steps), _ => Scope.transfer (· ++ steps) f.contexts name (f.contexts.lookup source)
      | none, .dropContext name => Scope.forget f.contexts name
      | none, _ => f.contexts := rfl

theorem watchers_after (op : ContextOp) :
    (f.after s op).watchers =
      match op with
      | .watch name source => Scope.transfer id f.watchers name (f.contexts.lookup source)
      | _ => f.watchers := rfl

theorem Knows.perform (h : f.Knows s) (op : ContextOp) : (f.after s op).Knows (s.perform op).2 where
  contexts := by
    rw [s.contexts_perform, contexts_after]
    cases hd : s.derivation? op with
    | some derived =>
        obtain ⟨name, source, steps⟩ := derived
        simp only [h.context?, h.contexts]
        exact Scope.transfer_entries Lineage.context Lineage.context (·.deriveAll steps) (· ++ steps)
          (fun l => (Lineage.context_append l steps).symm) f.contexts name (f.contexts.lookup source)
    | none =>
        cases op with
        | dropContext name =>
            simp only [h.contexts]
            exact Scope.forget_entries Lineage.context f.contexts name
        | _ => exact h.contexts
  watchers := by
    rw [s.watchers_perform, watchers_after]
    cases op with
    | watch name source =>
        simp only [h.context?, h.watchers]
        exact Scope.transfer_entries (·.context.watcher) Lineage.context Context.watcher id (fun _ => rfl) f.watchers
          name (f.contexts.lookup source)
    | _ => exact h.watchers
  moments e he := by
    have hlater := s.precedes_perform op
    rcases mem_contexts_after he with hold | ⟨old, hmem, hsame | ⟨how, hstep⟩⟩
    · obtain ⟨hpairs, hbefore⟩ := h.moments e hold
      exact ⟨hpairs, fun step hstep => (hbefore step hstep).trans hlater⟩
    · obtain ⟨hpairs, hbefore⟩ := h.moments old hmem
      rw [hsame]
      exact ⟨hpairs, fun step hstep => (hbefore step hstep).trans hlater⟩
    · obtain ⟨hpairs, hbefore⟩ := h.moments old hmem
      rw [hstep]
      constructor
      · refine List.pairwise_append.mpr ⟨hpairs, List.pairwise_singleton _ _, ?_⟩
        intro a ha b hb
        rw [List.mem_singleton.mp hb]
        exact hbefore a ha
      · intro step hmem
        rcases List.mem_append.mp hmem with hmem | hmem
        · exact (hbefore step hmem).trans hlater
        · rw [List.mem_singleton.mp hmem]
          exact hlater

theorem Knows.run (h : f.Knows s) (ops : List ContextOp) : (f.run s ops).Knows (s.run ops).2 := by
  induction ops generalizing f s with
  | nil => exact h
  | cons op ops ih => exact ih (h.tick.perform op)

end Family

namespace Scope

/-- The family that a program leaves. -/
def family (t : Instant) (ops : List ContextOp) : Family := Family.initial.run (.fresh t) ops

theorem knows_family (t : Instant) (ops : List ContextOp) : (family t ops).Knows ((fresh t).run ops).2 :=
  (Family.knows_fresh t).run ops

/-- Whatever context a program has named, its deadline is the earliest of those that were introduced on the way to it,
at moments that did not run backwards. -/
theorem deadline_of_named (t : Instant) (ops : List ContextOp) {name : String} {c : Context}
    (h : ((fresh t).run ops).2.context? name = some c) :
    ∃ l : Lineage, c = l.context ∧ l.Pairwise (fun a b => a.1.now ≤ b.1.now) ∧
      c.deadline = (introduced false l).min? := by
  have hk := knows_family t ops
  obtain ⟨l, hl, rfl⟩ := hk.exists_lineage h
  refine ⟨l, rfl, ?_, Context.background.deadline_deriveAll l⟩
  exact (hk.moments _ (mem_of_lookup hl)).1.imp fun hbefore => hbefore.1

/-- **Watchers agree with their contexts, and the end is final.** Take a context that a program has named. Whatever
other name has a context that came about in the same way, as clones do, and whatever watcher was obtained from such a
context at any time: in every world they are done exactly if the context is. And whatever the program does later, a
context that has ended does not begin again; one that is cancelled stays so, and is called cancelled though its
deadline has passed too; one that cannot end has not ended. -/
theorem watchers_agree (t : Instant) (ops later : List ContextOp) :
    let s := ((fresh t).run ops).2
    let s' := (s.run later).2
    let lines := family t ops
    (∀ a c, s.context? a = some c →
      (∀ b clone, s.context? b = some clone → lines.contexts.lookup b = lines.contexts.lookup a →
        ∀ env, clone.isDone env = c.isDone env) ∧
      ∀ w watcher, s.watchers.lookup w = some watcher → lines.watchers.lookup w = lines.contexts.lookup a →
        ∀ env, watcher.isDone env = c.isDone env) ∧
    ∀ c : Context,
      ((c.err s.env).isSome = true → (c.err s'.env).isSome = true) ∧
      (c.err s.env = some .cancelled → c.err s'.env = some .cancelled) ∧
      (c.isCancelled s.env = true → c.isExpired s.env = true → c.err s.env = some .cancelled) ∧
      (c.canEnd = false → c.err s.env = none) := by
  intro s s' lines
  have hk : lines.Knows s := knows_family t ops
  have hlater : s.env.Precedes s'.env := s.precedes_run later
  refine ⟨fun a c hc => ?_, fun c => ⟨?_, ?_, ?_, ?_⟩⟩
  · obtain ⟨l, hl, rfl⟩ := hk.exists_lineage hc
    constructor
    · intro b clone hclone hsame env
      obtain ⟨l', hl', rfl⟩ := hk.exists_lineage hclone
      obtain rfl : l = l' := Option.some.inj (hl.symm.trans (hsame.symm.trans hl'))
      rfl
    · intro w watcher hwatcher hsame env
      obtain ⟨l', hl', rfl⟩ := hk.exists_watched hwatcher
      obtain rfl : l = l' := Option.some.inj (hl.symm.trans (hsame.symm.trans hl'))
      exact l.context.isDone_watcher env
  · intro hdone
    obtain ⟨e, he⟩ := Option.isSome_iff_exists.mp hdone
    exact (Context.err_of_later he hlater).1
  · intro hcancelled
    exact (Context.err_of_later hcancelled hlater).2 rfl
  · intro hcancelled _
    exact Context.err_of_isCancelled hcancelled
  · intro hcan
    exact Context.err_of_not_canEnd hcan s.env

/-- What somebody works on is watched through a copy, which is dropped before the work is cancelled. -/
def watchedWork : List ContextOp :=
  [.cancelable "work" "bg", .timeout "work" "work" (.ofSeconds 1), .clone "copy" "work", .watch "eye" "copy",
    .clone "other" "work", .dropContext "copy", .sleep "bg" (.ofSeconds 2), .cancel "work"]

/-- The watcher and the clone see the end of the work, by its cancellation although its second is over as well, and
that does not change any more. -/
theorem agree_of_watchedWork :
    let s := ((fresh start).run watchedWork).2
    let s' := (s.run [.dropHandle "work", .sleep "bg" (.ofSeconds 1)]).2
    ∃ work other eye, s.context? "work" = some work ∧ s.context? "other" = some other ∧
      s.watchers.lookup "eye" = some eye ∧
      (∀ env, other.isDone env = work.isDone env) ∧ (∀ env, eye.isDone env = work.isDone env) ∧
      work.isExpired s.env = true ∧ work.err s.env = some .cancelled ∧ (work.err s'.env).isSome = true ∧
      work.err s'.env = some .cancelled ∧ Context.background.err s.env = none := by
  obtain ⟨hagree, hfinal⟩ := watchers_agree start watchedWork [.dropHandle "work", .sleep "bg" (.ofSeconds 1)]
  let work : Context := ⟨some (start + nanosPerSecond + 2 * nanosPerMicro), some 0⟩
  obtain ⟨hclones, hwatchers⟩ := hagree "work" work (by decide)
  obtain ⟨hdone, hstays, hcancelled, -⟩ := hfinal work
  obtain ⟨-, -, -, hnever⟩ := hfinal .background
  have hend := hcancelled ((Signals.isCancelled_cancelAll [] 0).mpr (.inl rfl)) (by decide)
  exact ⟨work, work, work.watcher, by decide, by decide, by decide, hclones "other" work (by decide) rfl,
    hwatchers "eye" work.watcher (by decide) rfl, by decide, hend, hdone (Option.isSome_of_eq_some hend),
    hstays hend, hnever rfl⟩

end Scope

end DbAccess
