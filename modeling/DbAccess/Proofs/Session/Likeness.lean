import DbAccess.Proofs.Session.Body
/-!
# Computations that go likewise

Two computations on one database can make different calls on its driver and still be told apart by nobody,
when the driver takes the calls of the one as it takes those of the other. A `Likeness` says which states of
the driver amount to the same, and how calls are made comparable. Computations are `SessionM.Likewise` when
they lead from like worlds to like ends: related outcomes, like worlds, and traces that are the same once
calls are made comparable. What has to be known of the driver is that it takes two calls likewise
(`Driver.Likewise`); then two statements of those calls go likewise (`Database.likewise_statementAt`),
whatever the hooks, the mapper and the settings are.
-/

namespace DbAccess

variable {δ σ ν α α' β β' : Type}

/-- The event with its call changed. -/
def Event.mapCall (f : DriverCall → DriverCall) : Event ν → Event ν
  | .call c ctx state => .call (f c) ctx state
  | e => e

theorem Event.mapCall_id : Event.mapCall id = (id : Event ν → Event ν) := by
  funext e
  cases e <;> rfl

/-- Changes the answer of a reply. -/
def Reply.map (f : α → β) : Reply α → Reply β
  | .ok a => .ok (f a)
  | .error e => .error e
  | .never => .never

/-- What may differ between two sides. -/
structure Likeness (δ : Type) where
  /-- The states of the driver amount to the same. -/
  State : δ → δ → Prop
  /-- Which transactions are active on either side, and which one is next. -/
  Standing : List TxId × TxId → List TxId × TxId → Prop
  /-- How the calls of the first side are made comparable with those of the second. -/
  left : DriverCall → DriverCall
  /-- How the calls of the second side are made comparable with those of the first. -/
  right : DriverCall → DriverCall

/-- Outcomes with related values, or else the same. -/
inductive Outcome.Rel (S : α → β → Prop) : Outcome α → Outcome β → Prop where
  | value {a : α} {b : β} (h : S a b) : Rel S (.value a) (.value b)
  | failed (e : Error) : Rel S (.failed e) (.failed e)
  | panicked (text : String) : Rel S (.panicked text) (.panicked text)
  | stuck : Rel S .stuck .stuck

theorem Outcome.Rel.eq {o o' : Outcome α} (h : o.Rel Eq o') : o' = o := by
  cases h with
  | value h => rw [h]
  | _ => rfl

theorem Outcome.Rel.map {S : α → β → Prop} {T : α' → β' → Prop} {f : α → α'} {g : β → β'} {o : Outcome α}
    {o' : Outcome β} (h : o.Rel S o') (hST : ∀ a b, S a b → T (f a) (g b)) :
    (o.map f).Rel T (o'.map g) := by
  cases h with
  | value h => exact .value (hST _ _ h)
  | failed e => exact .failed e
  | panicked text => exact .panicked text
  | stuck => exact .stuck

namespace Likeness

variable (L : Likeness δ)

/-- Worlds that differ in their drivers and transactions only, and in these not too much. -/
structure Worlds (w w' : World δ σ) : Prop where
  env_eq : w'.env = w.env
  hooks_eq : w'.hooks = w.hooks
  thread_eq : w'.thread = w.thread
  state : L.State w.driver w'.driver
  standing : L.Standing (w.active, w.nextTx) (w'.active, w'.nextTx)

/-- Runs that nobody can tell apart who does not look at the calls. -/
structure Runs (S : α → β → Prop) (r : SessionRun δ σ ν α) (r' : SessionRun δ σ ν β) : Prop where
  outcome : r.outcome.Rel S r'.outcome
  worlds : L.Worlds r.world r'.world
  trace_eq : r.trace.map (Event.mapCall L.left) = r'.trace.map (Event.mapCall L.right)

end Likeness

/-- The driver takes the first call as it takes the second one: the answers read the same, and everything else
that comes of them is the same or amounts to it. -/
def Driver.Likewise (d : Driver δ) (L : Likeness δ) {c c' : DriverCall} (read : c.Answer → α)
    (read' : c'.Answer → α) : Prop :=
  ∀ caller env s s', L.State s s' →
    let r := d.run c caller env s
    let r' := d.run c' caller env s'
    r'.reply.map read' = r.reply.map read ∧ r'.env = r.env ∧ L.State r.state r'.state ∧ r'.log = r.log

namespace SessionM

/-- The computations lead from like worlds to like ends. -/
def Likewise (L : Likeness δ) (S : α → β → Prop) (x : SessionM δ σ ν α) (y : SessionM δ σ ν β) : Prop :=
  ∀ w w', L.Worlds w w' → L.Runs S (x.run w) (y.run w')

namespace Likewise

variable {L : Likeness δ} {S : α → β → Prop} {T : α' → β' → Prop}

theorem pure {a : α} {b : β} (h : S a b) :
    Likewise L S (Pure.pure a : SessionM δ σ ν α) (Pure.pure b) :=
  fun _ _ hw => ⟨.value h, hw, rfl⟩

theorem bind {x : SessionM δ σ ν α} {y : SessionM δ σ ν β} {f : α → SessionM δ σ ν α'}
    {g : β → SessionM δ σ ν β'} (hx : Likewise L S x y)
    (hf : ∀ a b, S a b → Likewise L T (f a) (g b)) : Likewise L T (x >>= f) (y >>= g) := by
  intro w w' hw
  obtain ⟨ho, hworlds, htrace⟩ := hx w w' hw
  rw [run_bind, run_bind]
  generalize x.run w = r at ho hworlds htrace ⊢
  generalize y.run w' = r' at ho hworlds htrace ⊢
  obtain ⟨o, v, t⟩ := r
  obtain ⟨o', v', t'⟩ := r'
  cases ho with
  | @value a b hab =>
      obtain ⟨ho', hworlds', htrace'⟩ := hf a b hab v v' hworlds
      refine ⟨ho', hworlds', ?_⟩
      simp only [SessionRun.andThen_value, SessionRun.trace_after, List.map_append, htrace']
      exact congrArg (· ++ _) htrace
  | failed e => exact ⟨.failed e, hworlds, htrace⟩
  | panicked text => exact ⟨.panicked text, hworlds, htrace⟩
  | stuck => exact ⟨.stuck, hworlds, htrace⟩

theorem of_map {x : SessionM δ σ ν α} {y : SessionM δ σ ν β} {x' : SessionM δ σ ν α'}
    {y' : SessionM δ σ ν β'} {f : α → α'} {g : β → β'} (hx : ∀ w, x'.run w = (x.run w).map f)
    (hy : ∀ w, y'.run w = (y.run w).map g) (h : Likewise L S x y) (hST : ∀ a b, S a b → T (f a) (g b)) :
    Likewise L T x' y' := by
  intro w w' hw
  obtain ⟨ho, hworlds, htrace⟩ := h w w' hw
  rw [hx, hy]
  exact ⟨ho.map hST, hworlds, htrace⟩

theorem finish (o : Outcome α) :
    Likewise L Eq (SessionM.finish o : SessionM δ σ ν α) (SessionM.finish o) := by
  refine fun _ _ hw => ⟨?_, hw, rfl⟩
  cases o with
  | value a => exact .value rfl
  | failed e => exact .failed e
  | panicked text => exact .panicked text
  | stuck => exact .stuck

theorem env : Likewise L Eq (SessionM.env : SessionM δ σ ν Env) SessionM.env :=
  fun _ _ hw => ⟨.value hw.env_eq.symm, hw, rfl⟩

theorem change_env (change : Env → Env) :
    Likewise L Eq (SessionM.modify fun w => { w with env := change w.env } : SessionM δ σ ν Unit)
      (SessionM.modify fun w => { w with env := change w.env }) := by
  intro w w' hw
  exact ⟨.value rfl, ⟨congrArg change hw.env_eq, hw.hooks_eq, hw.thread_eq, hw.state, hw.standing⟩, rfl⟩

end Likewise

end SessionM

/-! ### The way of a statement -/

namespace Database

open SessionM

variable (db : Database δ σ ν) {L : Likeness δ}

theorem likewise_effective (ctx : Context) : Likewise L Eq (db.effective ctx) (db.effective ctx) := by
  intro w w' hw
  rw [run_effective, run_effective, effectiveContext, effectiveContext, hw.env_eq]
  exact ⟨.value rfl, ⟨congrArg Env.tick hw.env_eq, hw.hooks_eq, hw.thread_eq, hw.state, hw.standing⟩, rfl⟩

theorem likewise_tell (n : Notice) : Likewise L Eq (db.tell n) (db.tell n) := by
  intro w w' hw
  have htell : db.hooks.tell ⟨w'.env, w'.thread⟩ n w'.hooks = db.hooks.tell ⟨w.env, w.thread⟩ n w.hooks := by
    rw [hw.env_eq, hw.thread_eq, hw.hooks_eq]
  rw [run_tell, run_tell, told, told, heard, heard, htell]
  refine ⟨.value rfl, ⟨rfl, rfl, hw.thread_eq, hw.state, hw.standing⟩, ?_⟩
  simp only [List.map_map]
  rfl

/-- Results that read the same. -/
def ReadsSame {ε : Type} (read : β → α) (read' : β' → α) (r : Except ε β) (r' : Except ε β') : Prop :=
  r.map read = r'.map read'

theorem ReadsSame.mapError {read : β → α} {read' : β' → α} {r : Except RawError β} {r' : Except RawError β'}
    (h : ReadsSame read read' r r') (f : RawError → Error) :
    ReadsSame read read' (r.mapError f) (r'.mapError f) := by
  cases r <;> cases r' <;> simp_all [ReadsSame, Except.map]

theorem ReadsSame.error?_eq {read : β → α} {read' : β' → α} {r : Except Error β} {r' : Except Error β'}
    (h : ReadsSame read read' r r') : error? r' = error? r := by
  cases r <;> cases r' <;> simp_all [ReadsSame, Except.map, error?]

section call

variable {c c' : DriverCall} {read : c.Answer → α} {read' : c'.Answer → α}

theorem rel_replyOutcome {r : Reply β} {r' : Reply β'} {read : β → α} {read' : β' → α}
    (h : r'.map read' = r.map read) : (replyOutcome r).Rel (ReadsSame read read') (replyOutcome r') := by
  cases r <;> cases r' <;> simp only [Reply.map, Reply.ok.injEq, Reply.error.injEq, reduceCtorEq] at h
  case ok.ok => exact .value (congrArg Except.ok h.symm)
  case error.error e e' =>
    subst h
    exact .value rfl
  case never.never => exact .stuck

variable (hcall : L.left c = L.right c') (hdriver : db.driver.Likewise L read read')

include hcall hdriver

theorem likewise_dispatch (ctx : Context) :
    Likewise L (ReadsSame read read') (db.dispatch ctx c) (db.dispatch ctx c') := by
  intro w w' hw
  have hrun' : db.driverRun w' ctx c' = db.driver.run c' ⟨ctx, w.thread⟩ w.env.tick w'.driver := by
    rw [driverRun, hw.env_eq, hw.thread_eq]
  obtain ⟨hreply, henv, hstate, hlog⟩ := hdriver ⟨ctx, w.thread⟩ w.env.tick w.driver w'.driver hw.state
  rw [← hrun'] at hreply henv hstate hlog
  rw [run_dispatch, run_dispatch]
  refine ⟨rel_replyOutcome hreply, ⟨henv, hw.hooks_eq, hw.thread_eq, hstate, hw.standing⟩, ?_⟩
  simp only [driverTrace, List.map_cons, List.map_map, Event.mapCall, hcall, hw.env_eq, hlog]
  rfl

theorem likewise_dispatchLive (ctx : Context) :
    Likewise L (ReadsSame read read') (db.dispatchLive ctx c) (db.dispatchLive ctx c') := by
  refine .bind .env fun env _ henv => ?_
  subst henv
  cases ctx.err env with
  | some e => exact .pure rfl
  | none => exact db.likewise_dispatch hcall hdriver ctx

theorem likewise_statement (ctx : Context) (sql : String) (args : List Value) :
    Likewise L (ReadsSame read read') (db.statement ctx sql args c) (db.statement ctx sql args c') := by
  refine .bind (db.likewise_effective ctx) fun ctx _ hctx => ?_
  subst hctx
  refine .bind (db.likewise_tell _) fun _ _ _ => .bind .env fun start _ hstart => ?_
  subst hstart
  refine .bind (db.likewise_dispatchLive hcall hdriver ctx) fun raw raw' hraw => ?_
  refine .bind .env fun stop _ hstop => ?_
  subst hstop
  have hresult := hraw.mapError db.classify
  dsimp only
  rw [hresult.error?_eq]
  exact .bind (db.likewise_tell _) fun _ _ _ => .pure hresult

/-- Statements go likewise when the driver takes their calls likewise and both are taken. -/
theorem likewise_statementAt {t t' : Target}
    (htakes : ∀ w w' : World δ σ, L.Worlds w w' → takes w' t' = takes w t)
    (ctx : Context) (sql : String) (args : List Value) :
    Likewise L (ReadsSame read read') (db.statementAt t ctx sql args c)
      (db.statementAt t' ctx sql args c') := by
  have haccepts : Likewise L Eq (accepts t : SessionM δ σ ν Bool) (accepts t') := by
    intro w w' hw
    rw [run_accepts, run_accepts, htakes w w' hw]
    exact ⟨.value rfl, hw, rfl⟩
  refine .bind haccepts fun taken _ htaken => ?_
  subst htaken
  cases taken with
  | true => exact db.likewise_statement hcall hdriver ctx sql args
  | false => exact .pure rfl

end call

end Database

end DbAccess
