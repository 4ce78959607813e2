import DbAccess.Hook.Basic
import DbAccess.Proofs.Context.Sleep
/-!
# Looking at hooks

A `HookView` is what somebody sees of hooks: something of their state, and something of what they leave
behind. It maps a chain to another one when the second is what is seen of the first, whatever the two are
told (`HookView.Maps`).

A chain that is watched leaves a `Visit` whenever it tells an entry, before the entry acts. Who does not
see the visits sees the chain itself (`maps_unwatched`), and who sees nothing else sees every entry
visited once and in order, whatever the entries do and whichever of them panic, as long as they leave the world
alone (`maps_visits`).
-/

namespace DbAccess

variable {σ ν σ' ν' : Type}

/-- What is seen of hooks. -/
structure HookView (σ ν σ' ν' : Type) where
  state : σ → σ'
  event? : HookEvent ν → Option (HookEvent ν')

namespace HookView

/-- What is seen of a run; the world is there for all to see. -/
def seen (v : HookView σ ν σ' ν') (r : ChainRun σ ν) : ChainRun σ' ν' :=
  ⟨r.env, v.state r.state, r.events.filterMap v.event?⟩

/-- The second chain is what is seen of the first. -/
def Maps (v : HookView σ ν σ' ν') (c : HookChain σ ν) (c' : HookChain σ' ν') : Prop :=
  ∀ site n s, c'.tell site n (v.state s) = v.seen (c.tell site n s)

/-- Sees nothing; the state looks the same at all times. -/
def blind (s : σ') : HookView σ ν σ' ν' := ⟨fun _ => s, fun _ => none⟩

end HookView

/-! ### What a chain does to the world -/

namespace HookChain

variable {c : HookChain σ ν}

/-- The entries of the chain leave clock and signals as they are, also when they panic. -/
def Unobtrusive (c : HookChain σ ν) : Prop :=
  ∀ h ∈ c.hooks, ∀ site n s, (h.tell site n s).env = site.env

/-- The entries of the chain set neither clock nor signals back, also when they panic. -/
def Forward (c : HookChain σ ν) : Prop :=
  ∀ h ∈ c.hooks, ∀ (site : HookSite) n s, site.env.Precedes (h.tell site n s).env

/-- What every entry keeps to, from the world that it finds to the one that it leaves, the chain keeps to. -/
theorem env_tell_of_hooks {R : Env → Env → Prop} (hrefl : ∀ env, R env env)
    (htrans : ∀ {a b c}, R a b → R b c → R a c)
    (hhooks : ∀ h ∈ c.hooks, ∀ (site : HookSite) n s, R site.env (h.tell site n s).env)
    (site : HookSite) (n : Notice) (s : σ) : R site.env (c.tell site n s).env := by
  have hfrom : ∀ (hs : List (Hook σ ν)) (site : HookSite) (i : Nat) (s : σ),
      (∀ h ∈ hs, ∀ (site : HookSite) n s, R site.env (h.tell site n s).env) →
        R site.env (tellFrom site n i hs s).env := by
    intro hs
    induction hs with
    | nil => exact fun site _ _ _ => hrefl site.env
    | cons h hs ih =>
        intro site i s hall
        have hhere := hall h List.mem_cons_self site n s
        have hlater := ih (site.within (h.tell site n s).env) (i + 1) (h.tell site n s).state
          fun g hg => hall g (List.mem_cons_of_mem h hg)
        exact htrans hhere hlater
  exact hfrom c.hooks site 0 s hhooks

theorem env_tell (h : c.Unobtrusive) (site : HookSite) (n : Notice) (s : σ) :
    (c.tell site n s).env = site.env :=
  env_tell_of_hooks (R := fun a b => b = a) (fun _ => rfl) (fun h h' => h'.trans h) h site n s

theorem precedes_tell (h : c.Forward) (site : HookSite) (n : Notice) (s : σ) :
    site.env.Precedes (c.tell site n s).env :=
  env_tell_of_hooks (R := Env.Precedes) Env.precedes_refl Env.Precedes.trans h site n s

end HookChain

/-- Of hooks that are not seen and leave the world alone there might as well be none. -/
theorem HookView.maps_blind (s : σ') {c : HookChain σ ν} (h : c.Unobtrusive) :
    (blind s : HookView σ ν σ' ν').Maps c .empty := by
  intro site n t
  have hnone : (c.tell site n t).events.filterMap (fun _ => (none : Option (HookEvent ν'))) = [] := by simp
  have henv := HookChain.env_tell h site n t
  show (⟨site.env, s, []⟩ : ChainRun σ' ν') = ⟨(c.tell site n t).env, s, _⟩
  rw [henv]
  exact congrArg (ChainRun.mk _ s) hnone.symm

/-! ### Chains that are watched -/

/-- An entry of a chain is told. -/
structure Visit where
  entry : Nat
  notice : Notice
deriving Repr

/-- Changes the note of an event. -/
def HookEvent.map (f : ν → ν') : HookEvent ν → HookEvent ν'
  | .log e => .log e
  | .note m => .note (f m)

/-- The hook as an entry of a chain that is watched. -/
def Hook.watched (entry : Nat) (h : Hook σ ν) : Hook σ (Visit ⊕ ν) :=
  .leaf fun site n s =>
    let r := h.tell site n s
    ⟨r.env, r.state, .note (.inl ⟨entry, n⟩) :: r.events.map (.map .inr), r.panic⟩

namespace HookChain

/-- Watches the entries from an index on. -/
def watchedFrom : Nat → List (Hook σ ν) → List (Hook σ (Visit ⊕ ν))
  | _, [] => []
  | entry, h :: hs => h.watched entry :: watchedFrom (entry + 1) hs

/-- The chain, with a visit whenever it tells an entry. -/
def watched (c : HookChain σ ν) : HookChain σ (Visit ⊕ ν) := ⟨watchedFrom 0 c.hooks⟩

/-- A roll call: a visit to each of so many entries, and nothing else. -/
def rollCall (entries : Nat) : HookChain Unit Visit :=
  ⟨[.observer fun _ n => (List.range entries).map fun i => ⟨i, n⟩]⟩

theorem tell_rollCall (entries : Nat) (site : HookSite) (n : Notice) (s : Unit) :
    (rollCall entries).tell site n s = ⟨site.env, (), (List.range entries).map fun i => .note ⟨i, n⟩⟩ := by
  simp [rollCall, tell, tellFrom, Hook.observer, Hook.tell, panicReport]

end HookChain

/-! ### What is seen of a chain that is watched -/

/-- Whether an event is a visit. -/
def HookEvent.visit? : HookEvent (Visit ⊕ ν) → Option Visit
  | .note (.inl v) => some v
  | _ => none

/-- An event, when it is not a visit. -/
def HookEvent.own? : HookEvent (Visit ⊕ ν) → Option (HookEvent ν)
  | .log e => some (.log e)
  | .note (.inl _) => none
  | .note (.inr m) => some (.note m)

namespace HookView

/-- Sees all but the visits. -/
def unwatched : HookView σ (Visit ⊕ ν) σ ν := ⟨id, HookEvent.own?⟩

/-- Sees nothing but the visits. -/
def visits : HookView σ (Visit ⊕ ν) Unit Visit := ⟨fun _ => (), fun e => e.visit?.map .note⟩

end HookView

namespace HookChain

theorem own_panicReport (moment : HookMoment) (i : Nat) (p : Option PanicPayload) :
    (panicReport moment i p : List (HookEvent (Visit ⊕ ν))).filterMap HookEvent.own? =
      panicReport moment i p := by
  cases p <;> rfl

theorem visits_panicReport (moment : HookMoment) (i : Nat) (p : Option PanicPayload) :
    (panicReport moment i p : List (HookEvent (Visit ⊕ ν))).filterMap HookEvent.visit? = [] := by
  cases p <;> rfl

theorem own_tell_watched (i : Nat) (h : Hook σ ν) (site : HookSite) (n : Notice) (s : σ) :
    ((h.watched i).tell site n s).events.filterMap HookEvent.own? = (h.tell site n s).events := by
  have hown : HookEvent.own? ∘ HookEvent.map .inr = (some : HookEvent ν → Option (HookEvent ν)) := by
    funext e
    cases e <;> rfl
  simp only [Hook.watched, Hook.tell, List.filterMap_cons, HookEvent.own?, List.filterMap_map, hown,
    List.filterMap_some]

theorem visits_tell_watched (i : Nat) (h : Hook σ ν) (site : HookSite) (n : Notice) (s : σ) :
    ((h.watched i).tell site n s).events.filterMap HookEvent.visit? = [⟨i, n⟩] := by
  have hnone : HookEvent.visit? ∘ HookEvent.map .inr = fun _ : HookEvent ν => none := by
    funext e
    cases e <;> rfl
  simp [Hook.watched, Hook.tell, HookEvent.visit?, List.filterMap_map, hnone]

theorem seen_tellFrom_watched (site : HookSite) (n : Notice) (i : Nat) (hs : List (Hook σ ν)) (s : σ) :
    HookView.unwatched.seen (tellFrom site n i (watchedFrom i hs) s) = tellFrom site n i hs s := by
  induction hs generalizing site i s with
  | nil => rfl
  | cons h hs ih =>
      have hown := own_tell_watched i h site n s
      have hlater := ih (site.within (h.tell site n s).env) (i + 1) (h.tell site n s).state
      have henv : ((h.watched i).tell site n s).env = (h.tell site n s).env := rfl
      have hstate : ((h.watched i).tell site n s).state = (h.tell site n s).state := rfl
      have hpanic : ((h.watched i).tell site n s).panic = (h.tell site n s).panic := rfl
      rw [tellFrom, ← hlater, watchedFrom, tellFrom, henv, hstate, hpanic]
      simp only [HookView.seen, HookView.unwatched, List.filterMap_append, hown, own_panicReport]

theorem visits_tellFrom_watched (site : HookSite) (n : Notice) (i : Nat) (hs : List (Hook σ ν))
    (s : σ) :
    (tellFrom site n i (watchedFrom i hs) s).events.filterMap HookEvent.visit? =
      (List.range' i hs.length).map fun j => ⟨j, n⟩ := by
  induction hs generalizing site i s with
  | nil => rfl
  | cons h hs ih =>
      have henv : ((h.watched i).tell site n s).env = (h.tell site n s).env := rfl
      have hs' : ((h.watched i).tell site n s).state = (h.tell site n s).state := rfl
      simp only [watchedFrom, tellFrom, henv, hs', List.filterMap_append, visits_tell_watched,
        visits_panicReport, ih, List.length_cons, List.range'_succ, List.map_cons]
      rfl

theorem visits_tell (c : HookChain σ ν) (site : HookSite) (n : Notice) (s : σ) :
    (c.watched.tell site n s).events.filterMap HookEvent.visit? =
      (List.range c.size).map fun i => ⟨i, n⟩ := by
  rw [List.range_eq_range']
  exact visits_tellFrom_watched site n 0 c.hooks s

theorem Unobtrusive.watched {c : HookChain σ ν} (h : c.Unobtrusive) : c.watched.Unobtrusive := by
  have hfrom : ∀ (hs : List (Hook σ ν)) (i : Nat), (∀ g ∈ hs, ∀ site n s, (g.tell site n s).env = site.env) →
      ∀ g ∈ watchedFrom i hs, ∀ site n s, (g.tell site n s).env = site.env := by
    intro hs
    induction hs with
    | nil => exact fun _ _ g hg => absurd hg List.not_mem_nil
    | cons first hs ih =>
        intro i hall g hg
        obtain rfl | hg := List.mem_cons.mp hg
        · exact hall first (List.mem_cons_self ..)
        · exact ih (i + 1) (fun g hg => hall g (List.mem_cons_of_mem first hg)) g hg
  exact hfrom c.hooks 0 h

end HookChain

namespace HookView

/-- Watching changes nothing. -/
theorem maps_unwatched (c : HookChain σ ν) : unwatched.Maps c.watched c := fun site n s =>
  (HookChain.seen_tellFrom_watched site n 0 c.hooks s).symm

/-- Every entry of a chain that leaves the world alone is visited once and in order, whatever else the entries do. -/
theorem maps_visits {c : HookChain σ ν} (h : c.Unobtrusive) : visits.Maps c.watched (.rollCall c.size) := by
  intro site n s
  have hnotes := congrArg (List.map HookEvent.note) (c.visits_tell site n s)
  have henv := HookChain.env_tell h.watched site n s
  rw [List.map_filterMap, List.map_map] at hnotes
  rw [HookChain.tell_rollCall, seen, henv]
  exact congrArg (ChainRun.mk _ ()) hnotes.symm

end HookView

end DbAccess
