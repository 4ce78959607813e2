import DbAccess.Proofs.Session.View
/-!
# Programs over a database

A `Program` is a finite tree of what code does with a database: statements, transactions that are begun
and finished by hand, bodies that run in a transaction, batches, pings. After each call it goes on as the
result tells it; between calls clock and signals may change in any way, and the program may look at them
and at which transactions are active.

`Program.run_without_hooks` says that hooks that leave clock and signals alone have no influence on it. The run
of a program without hooks is its run with them, less what the hooks left in the trace; and what the entries
of a chain are told is the same whatever the entries are, so none can keep anything from another one.
-/

namespace DbAccess

variable {δ σ ν σ' ν' α : Type}

/-- What is asked of a database, or of a transaction that was begun on it. -/
inductive DbCall where
  | statement (q : Request)
  | begin (ctx : Context) (opts : TxOptions)
  | transaction (tx : TxId) (c : TxCall)
  /-- The transaction goes out of scope, because of a panic or not. -/
  | abandon (tx : TxId) (unwinding : Bool)
  | ping (ctx : Context)
  | close

namespace DbCall

/-- What a call is answered with when it succeeds. -/
abbrev Answer : DbCall → Type
  | statement q => q.Answer
  | begin .. => TxId
  | transaction _ c => c.Answer
  | abandon .. | ping _ | close => Unit

/-- Makes a call on a database. -/
def run (db : Database δ σ ν) : (c : DbCall) → SessionM δ σ ν (Except Error c.Answer)
  | statement q => q.run db .handle
  | begin ctx opts => SessionM.attempt (db.begin ctx opts)
  | transaction tx c => c.run db tx
  | abandon tx unwinding => SessionM.attempt (db.abandon tx unwinding)
  | ping ctx => SessionM.attempt (db.ping ctx)
  | close => SessionM.attempt db.close

end DbCall

/-- Code that uses a database. -/
inductive Program : Type → Type 1 where
  /-- It ends. -/
  | done {α : Type} (o : Outcome α) : Program α
  /-- It makes a call and goes on with the result. -/
  | call {α : Type} (c : DbCall) (next : Except Error c.Answer → Program α) : Program α
  /-- It runs a body in a transaction and goes on with the result. -/
  | inTransaction {α β : Type} (ctx : Context) (opts : TxOptions) (body : TxId → Program β)
      (next : Except Error β → Program α) : Program α
  /-- It runs a statement for every item in one transaction and goes on with the result. -/
  | batch {α ι : Type} (ctx : Context) (sql : String) (items : List ι)
      (args : ι → Program (List Value)) (next : Except Error UInt64 → Program α) : Program α
  /-- Something happens to the clock and the signals, and the program looks at them and at which
  transactions are active. -/
  | meanwhile {α : Type} (change : Env → Env) (next : Env → (TxId → Bool) → Program α) : Program α

namespace Program

/-- Runs a program on a database. -/
def run (db : Database δ σ ν) : {α : Type} → Program α → SessionM δ σ ν α
  | _, done o => SessionM.finish o
  | _, call c next => do run db (next (← c.run db))
  | _, inTransaction ctx opts body next => do
    run db (next (← SessionM.attempt (db.runInTransaction ctx opts fun tx => run db (body tx))))
  | _, batch ctx sql items args next => do
    run db (next (← SessionM.attempt (db.batchExec ctx sql items fun i => run db (args i))))
  | _, meanwhile change next => do
    SessionM.modify fun w => { w with env := change w.env }
    let w ← SessionM.world
    run db (next w.env w.active.contains)

end Program

open SessionM

/-! ### Programs that go alongside -/

section coupled

variable {δ' : Type} {C : Coupling δ σ ν δ' σ' ν'} {db : Database δ σ ν} {db' : Database δ' σ' ν'}

theorem DbCall.coupled (h : C.Joins db db') (c : DbCall) : Coupled C (c.run db) (c.run db') := by
  cases c with
  | statement q => exact h.request .handle q
  | begin ctx opts => exact .attempt (h.begin ctx opts)
  | transaction tx c => exact h.txCall tx c
  | abandon tx unwinding => exact .attempt (h.abandon tx unwinding)
  | ping ctx => exact .attempt (h.ping ctx)
  | close => exact .attempt h.close

theorem Program.coupled (h : C.Joins db db') (p : Program α) : Coupled C (p.run db) (p.run db') := by
  induction p with
  | done o => exact .finish o
  | call c next ih => exact .bind (c.coupled h) ih
  | inTransaction ctx opts body next ihbody ih =>
      exact .bind (.attempt (h.runInTransaction ctx opts ihbody)) ih
  | batch ctx sql items args next ihargs ih =>
      exact .bind (.attempt (h.batchExec ctx sql items ihargs)) ih
  | meanwhile change next ih =>
      refine .bind (.modify fun t w t' w' hw => C.change_env hw change) fun _ => ?_
      refine .world_bind fun w w' henv hactive _ => ?_
      rw [henv, hactive]
      exact ih w.env w.active.contains

end coupled

/-! ### What is seen of a program's run -/

variable {v : HookView σ ν σ' ν'} (db : Database δ σ ν) {c' : HookChain σ' ν'}

/-- **What is seen of a program's run is its run with the hooks that are seen.** -/
theorem Program.shows (h : v.Maps db.hooks c') (p : Program α) :
    Shows v (p.run db) (p.run (db.withHooks c')) :=
  shows_iff_coupled.mpr (p.coupled (db.joins_withHooks h))

/-! ### Hooks have no influence -/

/-- The event was left by a hook. -/
def Event.isHook : Event ν → Bool
  | .hook _ => true
  | _ => false

theorem Event.filterMap_seen?_blind (s : σ') (t : List (Event ν)) :
    t.filterMap (Event.seen? (.blind s : HookView σ ν σ' ν)) = t.filter fun e => !e.isHook := by
  have hseen : Event.seen? (.blind s : HookView σ ν σ' ν) = Option.guard fun e => !e.isHook := by
    funext e
    cases e <;> rfl
  rw [hseen, List.filterMap_eq_filter]

/-- The database with its hooks watched. -/
def Database.watched (db : Database δ σ ν) : Database δ σ (Visit ⊕ ν) :=
  db.withHooks db.hooks.watched

/-- The visit of an event, when it is one. -/
def Event.visit? : Event (Visit ⊕ ν) → Option Visit
  | .hook e => e.visit?
  | _ => none

/-- The visits of a run, in order: which entry was told what. -/
def SessionRun.visits (r : SessionRun δ σ (Visit ⊕ ν) α) : List Visit := r.trace.filterMap Event.visit?

/-- The visits of a run are what is left of it when nothing else of its hooks is seen. -/
theorem SessionRun.visits_eq (r : SessionRun δ σ (Visit ⊕ ν) α) :
    r.visits = (r.seen .visits).trace.filterMap fun
      | .hook (.note v) => some v
      | _ => none := by
  obtain ⟨o, w, t⟩ := r
  simp only [visits, seen, List.filterMap_filterMap]
  congr 1
  funext e
  cases e with
  | hook e =>
      show e.visit? = ((e.visit?.map HookEvent.note).map Event.hook).bind _
      cases e.visit? <;> rfl
  | _ => rfl

/-- **Hooks have no influence.** Without hooks that leave the clock and the signals alone a program ends the same
way, and leaves the same world and the same trace but for what the hooks left in it: the same calls on the
driver with the same arguments and contexts, and the same transactions. Watching any hooks changes nothing
either; and each entry of the chain is told the same, in the same order, when the entries are replaced by any
others that leave the clock and the signals alone. -/
theorem Program.run_without_hooks (p : Program α) (w : World δ σ) (h : db.hooks.Unobtrusive) :
    let r := (p.run db).run w
    let watched := (p.run db.watched).run w
    (p.run (db.withHooks .empty)).run w =
        ⟨r.outcome, { r.world with hooks := w.hooks }, r.trace.filter fun e => !e.isHook⟩ ∧
    watched.seen .unwatched = r ∧
    ∀ {σ' ν' : Type} (other : HookChain σ' ν') (s : σ'), other.Unobtrusive → other.size = db.hooks.size →
      ((p.run (db.withHooks other).watched).run { w with hooks := s }).visits = watched.visits := by
  refine ⟨?_, ?_, ?_⟩
  · have hempty : (HookView.blind w.hooks : HookView σ ν σ ν).Maps db.hooks .empty :=
      HookView.maps_blind w.hooks h
    have hblind := p.shows db hempty w
    rw [SessionRun.seen, Event.filterMap_seen?_blind] at hblind
    exact hblind
  · exact (p.shows db.watched (HookView.maps_unwatched db.hooks) w).symm
  · intro σ' ν' other s hleaves hsize
    have hmaps := HookView.maps_visits hleaves
    have hother := p.shows (db.withHooks other).watched hmaps { w with hooks := s }
    have hown := p.shows db.watched (HookView.maps_visits h) w
    rw [hsize] at hother
    rw [SessionRun.visits_eq, SessionRun.visits_eq, ← hother, ← hown]
    rfl

section panicking

open Database

/-- A chain of a hook that panics whenever it is told something, and one that does nothing. -/
def panicking : HookChain Unit Unit := ⟨[.panicking (fun _ => true) (.text "broken"), .silent]⟩

/-- A program that makes one statement in a transaction. -/
def deleting : Program Unit :=
  .inTransaction .background .default
    (fun tx => .call (.transaction tx (.statement (.execute .background "DELETE t" []))) fun r =>
      .done (resultOutcome r))
    fun r => .done (resultOutcome (r.map fun _ => ()))

/-- Both hooks are told before and after, and they are told the same when the first one does not panic. -/
theorem visits_of_panicking :
    let db := (broken (.ofFunction id)).withHooks panicking
    let visits := ((deleting.run db.watched).run quiet).visits
    let other : HookChain Unit Unit := ⟨[.silent, .silent]⟩
    visits.map Visit.entry = [0, 1, 0, 1] ∧
      ((deleting.run (db.withHooks other).watched).run { quiet with hooks := () }).visits = visits := by
  intro db visits other
  have hleaves : panicking.Unobtrusive ∧ other.Unobtrusive := by
    simp [HookChain.Unobtrusive, panicking, other, Hook.panicking, Hook.silent, Hook.tell]
  obtain ⟨-, -, hvisits⟩ := Program.run_without_hooks db deleting quiet hleaves.1
  exact ⟨by decide +kernel, hvisits other () hleaves.2 rfl⟩

end panicking

end DbAccess
