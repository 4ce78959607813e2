import DbAccess.Proofs.Hook.View
import DbAccess.Proofs.Session.Coupling
/-!
# What is seen of a session

A view of hooks carries over to worlds, to traces and to runs. `SessionM.Shows` says that one computation
is what is seen of another in every world. That is a coupling, `HookView.coupling`, and two databases that
differ in their hooks only are joined by it when the hooks of one are what is seen of those of the other:
`Database.joins_withHooks`.
-/

namespace DbAccess

variable {δ σ ν σ' ν' α β : Type}

/-- What is seen of a world. -/
def World.seen (v : HookView σ ν σ' ν') (w : World δ σ) : World δ σ' :=
  { w with hooks := v.state w.hooks }

/-- What is seen of an event; only hooks can hide. -/
def Event.seen? (v : HookView σ ν σ' ν') : Event ν → Option (Event ν')
  | .call c ctx state => some (.call c ctx state)
  | .opened factory dsn => some (.opened factory dsn)
  | .hook e => (v.event? e).map .hook
  | .log e => some (.log e)

/-- What is seen of a run. -/
def SessionRun.seen (v : HookView σ ν σ' ν') (r : SessionRun δ σ ν α) : SessionRun δ σ' ν' α :=
  ⟨r.outcome, r.world.seen v, r.trace.filterMap (Event.seen? v)⟩

/-- The database with other hooks. -/
def Database.withHooks (db : Database δ σ ν) (c : HookChain σ' ν') : Database δ σ' ν' :=
  ⟨db.driver, c, db.mapper, db.config⟩

theorem Event.seen?_log (v : HookView σ ν σ' ν') (es : List LogEvent) :
    (es.map Event.log).filterMap (Event.seen? v) = es.map .log := by
  simp [List.filterMap_map, Function.comp_def, Event.seen?]

/-- The second computation is what is seen of the first. -/
def SessionM.Shows (v : HookView σ ν σ' ν') (x : SessionM δ σ ν α) (y : SessionM δ σ' ν' α) : Prop :=
  ∀ w, y.run (w.seen v) = (x.run w).seen v

/-! ### Views as couplings -/

/-- Traces and worlds of which the second are what is seen of the first. -/
def HookView.coupling (v : HookView σ ν σ' ν') : Coupling δ σ ν δ σ' ν' where
  Holds t w t' w' := t' = t.filterMap (Event.seen? v) ∧ w' = w.seen v
  env_eq := by
    rintro t w _ _ ⟨rfl, rfl⟩
    rfl
  active_eq := by
    rintro t w _ _ ⟨rfl, rfl⟩
    rfl
  nextTx_eq := by
    rintro t w _ _ ⟨rfl, rfl⟩
    rfl
  put := by
    rintro t w _ _ env active nextTx ⟨rfl, rfl⟩
    exact ⟨rfl, rfl⟩
  log := by
    rintro t w _ _ e ⟨rfl, rfl⟩
    exact ⟨by simp [Event.seen?], rfl⟩

variable {v : HookView σ ν σ' ν'}

theorem SessionM.shows_iff_coupled {x : SessionM δ σ ν α} {y : SessionM δ σ' ν' α} :
    Shows v x y ↔ Coupled v.coupling x y := by
  constructor
  · rintro h t w _ _ ⟨rfl, rfl⟩
    rw [h w]
    exact ⟨rfl, by simp [SessionRun.seen], rfl⟩
  · intro h w
    obtain ⟨ho, ht, hw⟩ := h [] w [] (w.seen v) ⟨rfl, rfl⟩
    exact SessionRun.ext ho hw ht

/-! ### Databases with other hooks -/

namespace Database

open SessionM

variable (db : Database δ σ ν) {c' : HookChain σ' ν'}

theorem shows_dispatch (ctx : Context) (c : DriverCall) :
    Shows v (db.dispatch ctx c) ((db.withHooks c').dispatch ctx c) := by
  intro w
  have hrun : (db.withHooks c').driverRun (w.seen v) ctx c = db.driverRun w ctx c := rfl
  have htrace : ((db.withHooks c').driverTrace (w.seen v) ctx c : List (Event ν')) =
      (db.driverTrace w ctx c).filterMap (Event.seen? v) := by
    simp only [driverTrace, hrun, List.filterMap_cons, Event.seen?, Event.seen?_log]
    rfl
  rw [run_dispatch, run_dispatch, hrun, htrace]
  rfl

variable (h : v.Maps db.hooks c')

include h

theorem told_withHooks (w : World δ σ) (n : Notice) :
    (db.withHooks c').told (w.seen v) n = (db.told w n).seen v := by
  have ht := h ⟨w.env, w.thread⟩ n w.hooks
  show ({ w.seen v with
    env := (c'.tell ⟨w.env, w.thread⟩ n (v.state w.hooks)).env
    hooks := (c'.tell ⟨w.env, w.thread⟩ n (v.state w.hooks)).state } : World δ σ') = _
  rw [ht]
  rfl

theorem heard_withHooks (w : World δ σ) (n : Notice) :
    ((db.withHooks c').heard (w.seen v) n : List (Event ν')) =
      (db.heard w n).filterMap (Event.seen? v) := by
  have ht := h ⟨w.env, w.thread⟩ n w.hooks
  have hevents : Event.seen? v ∘ Event.hook = fun e => (v.event? e).map .hook := rfl
  show (c'.tell ⟨w.env, w.thread⟩ n (v.state w.hooks)).events.map Event.hook = _
  rw [ht, HookView.seen, heard, List.filterMap_map, hevents, List.map_filterMap]

theorem shows_tell (n : Notice) : Shows v (db.tell n) ((db.withHooks c').tell n) := by
  intro w
  rw [run_tell, run_tell, db.told_withHooks h, db.heard_withHooks h]
  rfl

/-- The database with the hooks that are seen goes alongside. -/
theorem joins_withHooks : v.coupling.Joins db (db.withHooks c') where
  mapper := rfl
  config := rfl
  dispatch ctx c := shows_iff_coupled.mp (db.shows_dispatch ctx c)
  tell n := shows_iff_coupled.mp (db.shows_tell h n)

theorem shows_request (t : Target) (q : Request) :
    Shows v (q.run db t) (q.run (db.withHooks c') t) :=
  shows_iff_coupled.mpr ((db.joins_withHooks h).request t q)

end Database

end DbAccess
