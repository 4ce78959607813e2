import DbAccess.Proofs.Sqlite.Holder
/-!
# One transaction at a time

`Shared.Orderly` is what holds whenever threads share a connection: all threads but the one that has the lock are
outside, and that one serves a call on the handle or has the only transaction, with the note of its owner set or
not as far as it has got. Every step keeps it (`Orderly.step`).

`Shared.no_intruders` reads off what can happen: who is refused, who waits, and that nothing of the handle runs
while a transaction is open.
-/

namespace DbAccess.Sqlite

variable {ε α β : Type} {E : Engine ε}

/-! ### Sleepers -/

section sleepers

variable {c : Context} {env : Env} {now : Instant} {d : Span} {e : ContextError}

theorem wakes?_of_cancelled (p : SleepPlan) (h : c.isCancelled env = true) :
    wakes? c p env = some (.ended .cancelled) := by
  have hsignal : c.signal.isNone = false := by
    rw [Context.isCancelled] at h
    cases hs : c.signal with
    | none => rw [hs] at h; cases h
    | some s => rfl
  rw [wakes?, hsignal, h]
  rfl

theorem wakes?_of_until {p : SleepPlan} {t : Instant} (h : c.isCancelled env = false) (hp : p.until? = some t)
    (ht : t ≤ env.now) : wakes? c p env = some p.result := by
  simp [wakes?, SleepPlan.check, h, hp, ht]

/-- A sleeper that is woken up by the end of its context is told why, and that is so. -/
theorem endedBy_of_wakes? (h : wakes? c (c.sleepPlan now d) env = some (.ended e)) : c.EndedBy env e := by
  cases hcancelled : c.isCancelled env with
  | true =>
      rw [wakes?_of_cancelled _ hcancelled] at h
      cases h
      exact hcancelled
  | false =>
      unfold wakes? SleepPlan.check at h
      rw [hcancelled] at h
      cases huntil : (c.sleepPlan now d).until? with
      | none =>
          rw [huntil] at h
          split at h <;> cases h
      | some t =>
          simp only [huntil, Option.isNone_some, Bool.and_false, Bool.false_eq_true, if_false] at h
          split at h
          · rename_i ht
            exact Context.endedBy_of_result (Option.some.inj h) huntil ht
          · cases h

theorem until_le_deadline (now : Instant) (d : Span) {t : Instant} (h : c.deadline = some t) :
    ∃ wake ≤ t, (c.sleepPlan now d).until? = some wake := by
  unfold Context.sleepPlan
  cases laterBy? now d with
  | none => exact ⟨t, Nat.le_refl t, by rw [h]⟩
  | some wake =>
      by_cases ht : t ≤ wake
      · exact ⟨t, Nat.le_refl t, by simp [h, ht]⟩
      · exact ⟨wake, Nat.le_of_not_le ht, by simp [h, ht]⟩

theorem wakes?_of_err (now : Instant) (d : Span) (h : c.err env = some e) :
    wakes? c (c.sleepPlan now d) env = some .rested ∨
      ∃ e, wakes? c (c.sleepPlan now d) env = some (.ended e) := by
  cases hcancelled : c.isCancelled env with
  | true => exact .inr ⟨.cancelled, wakes?_of_cancelled _ hcancelled⟩
  | false =>
      have hexpired : c.isExpired env = true := by
        have hended := Context.endedBy_of_err h
        cases e with
        | cancelled => exact nomatch (hcancelled.symm.trans hended : false = true)
        | deadlineExceeded => exact hended
      cases hdeadline : c.deadline with
      | none =>
          rw [Context.isExpired, hdeadline] at hexpired
          cases hexpired
      | some t =>
          rw [Context.isExpired, hdeadline] at hexpired
          have ht : t ≤ env.now := of_decide_eq_true hexpired
          obtain ⟨wake, hwake, huntil⟩ := until_le_deadline now d hdeadline
          rw [wakes?_of_until hcancelled huntil (Nat.le_trans hwake ht), SleepPlan.result]
          split
          · exact .inr ⟨.deadlineExceeded, rfl⟩
          · exact .inl rfl

end sleepers

/-! ### Order -/

/-- It is not about the engine: the thread is idle, or waits for the lock. -/
def Doing.isOutside : Doing → Bool
  | idle | trying _ | shutOut _ | sleeping .. => true
  | _ => false

/-- The thread serves a call on the handle. -/
def Doing.isServing : Doing → Bool
  | inside _ | leaving _ => true
  | _ => false

theorem Doing.isServing_of_outside {d : Doing} (h : d.isOutside = true) : d.isServing = false := by
  cases d with
  | idle | trying | shutOut | sleeping => rfl
  | _ => cases h

/-- How far the thread of an open transaction has got, and whether it is noted as its owner meanwhile. It never
sleeps for the connection. -/
def Stage (owner : Option Nat) (h : Holder) : Doing → Prop
  | .idle | .trying _ | .shutOut _ => owner = some h.thread
  | .asking h' _ | .dropping h' _ _ => h' = h ∧ owner = some h.thread
  | .begun _ h' | .disowned h' _ _ | .releasing h' _ => h' = h ∧ owner = none
  | .sleeping .. | .inside _ | .leaving _ => False

theorem Stage.owner {owner : Option Nat} {h : Holder} {d : Doing} (hs : Stage owner h d) :
    owner = some h.thread ∨ owner = none := by
  cases d with
  | idle | trying | shutOut => exact .inl hs
  | asking | dropping => exact .inl hs.2
  | begun | disowned | releasing => exact .inr hs.2
  | sleeping | inside | leaving => exact hs.elim

/-- An answer that is ready is not that of a holder who was refused; a plan of a sleep was made for it. -/
def Doing.Genuine : Doing → Prop
  | begun r _ | leaving (some r) => r.result ≠ .error heldError
  | sleeping a p => ∃ now, p = a.patience.sleepPlan now lockPoll
  | _ => True

namespace Shared

/-- What the thread that has the lock does with it. -/
inductive Busy (owner : Option Nat) (live : List Holder) (t : Nat) (d : Doing) : Prop
  | serving (owner_eq : owner = none) (live_eq : live = []) (doing : d.isServing = true)
  | holding (h : Holder) (live_eq : live = [h]) (thread : h.thread = t) (stage : Stage owner h d)

/-- The threads are in order. -/
structure Orderly (m : Shared ε) : Prop where
  outside : ∀ u, m.lock ≠ some u → (m.doing u).isOutside = true
  free : m.lock = none → m.owner = none ∧ m.live = []
  busy : ∀ t, m.lock = some t → Busy m.owner m.live t (m.doing t)
  genuine : ∀ t, (m.doing t).Genuine

variable {m m' : Shared ε} {t u : Nat} {a : Asked} {h : Holder} {d : Doing}

theorem orderly_ofConnection (c : Connection ε) (env : Env) : (ofConnection c env).Orderly where
  outside _ _ := rfl
  free hnone := by
    have hholder : c.holder = none := Option.map_eq_none_iff.mp hnone
    exact ⟨hnone, congrArg Option.toList hholder⟩
  busy t ht := by
    obtain ⟨h, hholder, hthread⟩ := Option.map_eq_some_iff.mp ht
    refine .holding h (congrArg Option.toList hholder) hthread ?_
    exact congrArg (Option.map (·.thread)) hholder
  genuine _ := trivial

namespace Orderly

theorem lock_of_inside (hm : m.Orderly) (hd : (m.doing t).isOutside = false) : m.lock = some t := by
  by_contra hlock
  rw [hm.outside t hlock] at hd
  cases hd

theorem lock_of_live (hm : m.Orderly) (hh : h ∈ m.live) :
    m.lock = some h.thread ∧ m.live = [h] ∧ Stage m.owner h (m.doing h.thread) := by
  cases hlock : m.lock with
  | none =>
      rw [(hm.free hlock).2] at hh
      cases hh
  | some t =>
      obtain ⟨-, hlive, -⟩ | ⟨h', hlive, rfl, hstage⟩ := hm.busy t hlock
      · rw [hlive] at hh
        cases hh
      · rw [hlive] at hh ⊢
        obtain rfl := List.mem_singleton.mp hh
        exact ⟨rfl, rfl, hstage⟩

theorem of_serving (hm : m.Orderly) (hdoing : m.doing t = d) (hd : d.isServing = true) :
    m.lock = some t ∧ m.owner = none ∧ m.live = [] := by
  subst hdoing
  have hinside : (m.doing t).isOutside = false := by
    cases hout : (m.doing t).isOutside with
    | false => rfl
    | true => exact nomatch hd.symm.trans (Doing.isServing_of_outside hout)
  have hlock := hm.lock_of_inside hinside
  obtain ⟨howner, hlive, -⟩ | ⟨h, -, -, hstage⟩ := hm.busy t hlock
  · exact ⟨hlock, howner, hlive⟩
  · generalize m.doing t = d at hd hstage
    cases d with
    | inside | leaving => exact hstage.elim
    | _ => cases hd

theorem of_staged (hm : m.Orderly) (hdoing : m.doing t = d) (hout : d.isOutside = false)
    (hserving : d.isServing = false) : ∃ h ∈ m.live, h.thread = t ∧ Stage m.owner h d := by
  subst hdoing
  obtain ⟨-, -, hs⟩ | ⟨h, hlive, hthread, hs⟩ := hm.busy t (hm.lock_of_inside hout)
  · rw [hserving] at hs
    cases hs
  · exact ⟨h, by rw [hlive]; exact List.mem_singleton_self h, hthread, hs⟩

theorem stays {d₀ : Doing} (hm : m.Orderly) (hdoing : m.doing t = d₀) (hout : d₀.isOutside = true)
    (hd : d.isOutside = true) (hgenuine : d.Genuine)
    (hstage : ∀ h, h.thread = t → Stage m.owner h d₀ → Stage m.owner h d) : (m.sets t d).Orderly where
  outside u hu := by
    by_cases hut : u = t
    · rw [hut, doing_sets_self]
      exact hd
    · rw [doing_sets_of_ne hut]
      exact hm.outside u hu
  free := hm.free
  busy u hu := by
    by_cases hut : u = t
    · subst hut
      rw [doing_sets_self]
      have hbusy := hm.busy u hu
      rw [hdoing] at hbusy
      obtain ⟨-, -, hserving⟩ | ⟨h, hlive, hthread, hs⟩ := hbusy
      · exact nomatch hserving.symm.trans (Doing.isServing_of_outside hout)
      · exact .holding h hlive hthread (hstage h hthread hs)
    · rw [doing_sets_of_ne hut]
      exact hm.busy u hu
  genuine := forall_doing_of_update hm.genuine rfl hgenuine

theorem locks (hm : m.Orderly) (hlock : m.lock = none ∨ m.lock = some t) (hlock' : m'.lock = some t)
    (hdoing : m'.doing = Function.update m.doing t d) (hgenuine : d.Genuine) (hbusy : Busy m'.owner m'.live t d) :
    m'.Orderly where
  outside u hu := by
    have hut : u ≠ t := fun heq => hu (heq ▸ hlock')
    rw [hdoing, Function.update_of_ne hut]
    refine hm.outside u fun hmu => ?_
    obtain hnone | hsome := hlock
    · exact nomatch hnone.symm.trans hmu
    · exact hut (Option.some.inj (hmu.symm.trans hsome))
  free hnone := nomatch hlock'.symm.trans hnone
  busy u hu := by
    obtain rfl := Option.some.inj (hlock'.symm.trans hu)
    rw [hdoing, Function.update_self]
    exact hbusy
  genuine := forall_doing_of_update hm.genuine hdoing hgenuine

theorem unlocks (hm : m.Orderly) (hlock : m.lock = some t) (hlock' : m'.lock = none) (howner : m'.owner = none)
    (hlive : m'.live = []) (hdoing : m'.doing = Function.update m.doing t .idle) : m'.Orderly where
  outside u _ := by
    by_cases hut : u = t
    · rw [hdoing, hut, Function.update_self]
      rfl
    · rw [hdoing, Function.update_of_ne hut]
      exact hm.outside u fun hmu => hut (Option.some.inj (hmu.symm.trans hlock))
  free _ := ⟨howner, hlive⟩
  busy u hu := nomatch hlock'.symm.trans hu
  genuine := forall_doing_of_update hm.genuine hdoing trivial

theorem proceeds (hm : m.Orderly) (hh : h ∈ m.live) (hlock' : m'.lock = m.lock) (hlive' : m'.live = m.live)
    (hdoing : m'.doing = Function.update m.doing h.thread d) (hgenuine : d.Genuine)
    (hstage : Stage m'.owner h d) : m'.Orderly := by
  obtain ⟨hlock, hlive, -⟩ := hm.lock_of_live hh
  exact hm.locks (.inr hlock) (hlock'.trans hlock) hdoing hgenuine (.holding h (hlive'.trans hlive) rfl hstage)

/-- **Every step keeps the threads in order.** -/
theorem step {act : Act} (hm : m.Orderly) (hstep : Step E m act m') : m'.Orderly := by
  cases hstep with
  | passes later => exact ⟨hm.outside, hm.free, hm.busy, hm.genuine⟩
  | @asks t job ctx idle handle =>
      have hm' : Orderly { m with nextId := m.nextId + job.tickets } := ⟨hm.outside, hm.free, hm.busy, hm.genuine⟩
      exact hm'.stays idle rfl rfl trivial fun h _ hs => hs
  | takes trying free =>
      obtain ⟨howner, hlive⟩ := hm.free free
      exact hm.locks (.inl free) rfl rfl trivial (.serving howner hlive rfl)
  | glances idle free =>
      obtain ⟨howner, hlive⟩ := hm.free free
      exact hm.locks (.inl free) rfl rfl trivial (.serving howner hlive rfl)
  | misses trying taken => exact hm.stays trying rfl rfl trivial fun h _ hs => hs
  | refused shut own => exact hm.stays shut rfl rfl trivial fun h _ hs => hs
  | expires shut other ended => exact hm.stays shut rfl rfl trivial fun h _ hs => hs
  | dozes shut other lasting =>
      exact hm.stays shut rfl rfl ⟨_, rfl⟩ fun h hthread hs => other (hthread ▸ hs)
  | wakes sleeping rested => exact hm.stays sleeping rfl rfl trivial fun h _ hs => hs.elim
  | expiresAsleep sleeping ended => exact hm.stays sleeping rfl rfl trivial fun h _ hs => hs.elim
  | runs inside returned unheld =>
      obtain ⟨hlock, howner, hlive⟩ := hm.of_serving inside rfl
      exact hm.locks (.inr hlock) hlock rfl (result_ne_held returned) (.serving howner hlive rfl)
  | begins inside returned held =>
      obtain ⟨hlock, howner, hlive⟩ := hm.of_serving inside rfl
      exact hm.locks (.inr hlock) hlock rfl (result_ne_held returned)
        (.holding _ (congrArg (_ :: ·) hlive) (begin_of_work held).1 ⟨rfl, howner⟩)
  | leaves leaving =>
      obtain ⟨hlock, howner, hlive⟩ := hm.of_serving leaving rfl
      exact hm.unlocks hlock rfl howner hlive rfl
  | owns begun =>
      obtain ⟨h, hh, rfl, -⟩ := hm.of_staged begun rfl rfl
      exact hm.proceeds hh rfl rfl rfl trivial rfl
  | asksOwn idle live own asked =>
      subst own
      have hs := (hm.lock_of_live live).2.2
      rw [idle] at hs
      exact hm.proceeds live rfl rfl rfl trivial ⟨rfl, hs⟩
  | tells asking stays returned =>
      obtain ⟨h, hh, rfl, -, howner⟩ := hm.of_staged asking rfl rfl
      exact hm.proceeds hh rfl rfl rfl trivial howner
  | finishes asking ending returned =>
      obtain ⟨h, hh, rfl, hs⟩ := hm.of_staged asking rfl rfl
      exact hm.proceeds hh rfl rfl rfl trivial hs
  | drops idle live own =>
      subst own
      have hs := (hm.lock_of_live live).2.2
      rw [idle] at hs
      exact hm.proceeds live rfl rfl rfl trivial ⟨rfl, hs⟩
  | disowns dropping =>
      obtain ⟨h, hh, rfl, heq, -⟩ := hm.of_staged dropping rfl rfl
      exact hm.proceeds hh rfl rfl rfl trivial ⟨heq, rfl⟩
  | @tidies t h finished r disowned =>
      obtain ⟨h, hh, rfl, hs⟩ := hm.of_staged disowned rfl rfl
      cases finished with
      | true => exact hm.proceeds hh rfl rfl rfl trivial hs
      | false => exact hm.proceeds hh rfl rfl rfl trivial hs
  | releases releasing =>
      obtain ⟨h, hh, rfl, rfl, howner⟩ := hm.of_staged releasing rfl rfl
      obtain ⟨hlock, hlive, -⟩ := hm.lock_of_live hh
      refine hm.unlocks hlock rfl howner ?_ rfl
      show m.live.erase _ = []
      rw [hlive, List.erase_cons_head]

end Orderly

/-- **Threads that share a connection stay in order.** -/
theorem Orderly.run {acts : List Act} (hm : m.Orderly) (hrun : Run E m acts m') : m'.Orderly := by
  induction hrun with
  | nil => exact hm
  | cons hstep _ ih => exact ih (hm.step hstep)

/-! ### While a transaction is open -/

/-- The thread has an open transaction. -/
def Owns (m : Shared ε) (t : Nat) : Prop := ∃ h ∈ m.live, h.thread = t

theorem mem_live_of_step {act : Act} (hstep : Step E m act m') (hh : h ∈ m.live)
    (hact : ∀ t r, act ≠ .releases t h r) : h ∈ m'.live := by
  cases hstep with
  | begins => exact List.mem_cons_of_mem _ hh
  | @releases t h' r releasing =>
      have hne : h ≠ h' := fun heq => hact t r (heq ▸ rfl)
      exact (List.mem_erase_of_ne hne).mpr hh
  | @tidies t h' finished r disowned =>
      cases finished with
      | true => exact hh
      | false => exact hh
  | _ => exact hh

/-- What runs on the handle runs while no transaction is open; one is open then only if it was begun so. -/
theorem Orderly.live_of_runs (hm : m.Orderly) (hstep : Step E m (.runs t a) m') :
    m.live = [] ∧ (m'.live = [] ∨ ∃ h opts, m'.live = [h] ∧ h.thread = t ∧ a.job = .call (.begin h.tx opts) ∧
      h.readOnly = opts.readOnly) := by
  cases hstep with
  | runs inside returned unheld =>
      have hlive := (hm.of_serving inside rfl).2.2
      exact ⟨hlive, .inl hlive⟩
  | begins inside returned held =>
      have hlive := (hm.of_serving inside rfl).2.2
      obtain ⟨hthread, opts, hjob, hopts⟩ := begin_of_work held
      exact ⟨hlive, .inr ⟨_, opts, congrArg (_ :: ·) hlive, hthread, hjob, hopts⟩⟩

/-- From its begin until it is let go of, nothing of the handle runs but what the transaction asks. -/
theorem Orderly.not_mem_runs {acts : List Act} (hm : m.Orderly) (hh : h ∈ m.live) (hrun : Run E m acts m')
    (hopen : ∀ t r, Act.releases t h r ∉ acts) : Act.runs t a ∉ acts := by
  induction hrun with
  | nil => exact List.not_mem_nil
  | cons hstep _ ih =>
      rw [List.mem_cons, not_or]
      refine ⟨?_, ih (hm.step hstep) (mem_live_of_step hstep hh ?_) ?_⟩
      · rintro rfl
        rw [(hm.live_of_runs hstep).1] at hh
        cases hh
      · exact fun t r heq => hopen t r (heq ▸ List.mem_cons_self)
      · exact fun t r hmem => hopen t r (List.mem_cons_of_mem _ hmem)

/-! ### Calls on the handle -/

theorem doing_of_step {act : Act} (hstep : Step E m act m') (ht : act.thread? ≠ some t) :
    m'.doing t = m.doing t := by
  cases hstep with
  | passes => rfl
  | @tidies u h finished r disowned =>
      have hne : t ≠ u := fun heq => ht (heq ▸ rfl)
      cases finished with
      | true => exact doing_sets_of_ne hne
      | false => exact doing_sets_of_ne hne
  | _ => exact doing_sets_of_ne fun heq => ht (heq ▸ rfl)

theorem doing_of_alone {acts : List Act} (hrun : Run E m acts m') (halone : Alone t acts) (hu : u ≠ t) :
    m'.doing u = m.doing u := by
  induction hrun with
  | nil => rfl
  | @cons m m' m'' act acts hstep _ ih =>
      have hother : act.thread? ≠ some u := by
        obtain rfl | ht := halone act List.mem_cons_self
        · nofun
        · exact fun heq => hu (Option.some.inj (heq.symm.trans ht))
      rw [ih fun act hmem => halone act (List.mem_cons_of_mem _ hmem), doing_of_step hstep hother]

theorem Orderly.owns_of_step {act : Act} (hm : m.Orderly) (hstep : Step E m act m')
    (ht : act.thread? ≠ some t) : m'.Owns t ↔ m.Owns t := by
  cases hstep with
  | @begins u a res h inside returned held =>
      have hne : h.thread ≠ t := fun heq => ht (congrArg some ((begin_of_work held).1.symm.trans heq))
      simp [Owns, sets, hne]
  | @releases u h r releasing =>
      obtain ⟨h', hh, rfl, rfl, -⟩ := hm.of_staged releasing rfl rfl
      have hne : h.thread ≠ t := fun heq => ht (congrArg some heq)
      simp [Owns, sets, (hm.lock_of_live hh).2.1, hne]
  | @tidies u h finished r disowned => cases finished <;> exact Iff.rfl
  | _ => exact Iff.rfl

/-- The thread waits for the lock to do the job. -/
def Waiting (m : Shared ε) (t : Nat) (a : Asked) : Prop :=
  m.doing t = .trying a ∨ m.doing t = .shutOut a ∨ ∃ p, m.doing t = .sleeping a p

/-- The thread has got the lock for the job, and has not answered yet. -/
def Served (m : Shared ε) (t : Nat) (a : Asked) : Prop :=
  m.doing t = .inside a ∨ ∃ res, m.doing t = .leaving (some ⟨a, res⟩) ∨ ∃ h, m.doing t = .begun ⟨a, res⟩ h

theorem Waiting.unique {b : Asked} (h : m.Waiting t a) (h' : m.Waiting t b) : a = b := by
  obtain h | h | ⟨p, h⟩ := h <;> obtain h' | h' | ⟨p', h'⟩ := h' <;> cases h.symm.trans h' <;> rfl

theorem Served.unique {b : Asked} (h : m.Served t a) (h' : m.Served t b) : a = b := by
  obtain h | ⟨res, h | ⟨h₁, h⟩⟩ := h <;> obtain h' | ⟨res', h' | ⟨h₂, h'⟩⟩ := h' <;>
    cases h.symm.trans h' <;> rfl

/-- The thread answers nothing. -/
def Silent (t : Nat) (acts : List Act) : Prop := ∀ act ∈ acts, act.thread? = some t → act.answer? = none

theorem Silent.head {act : Act} {acts : List Act} (h : Silent t (act :: acts)) (ht : act.thread? = some t) :
    act.answer? = none := h act List.mem_cons_self ht

theorem Silent.tail {act : Act} {acts : List Act} (h : Silent t (act :: acts)) : Silent t acts :=
  fun act' hmem => h act' (List.mem_cons_of_mem _ hmem)

/-- What the next step of a thread that waits can be. -/
inductive Waits (m : Shared ε) (t : Nat) (a : Asked) (m' : Shared ε) : Act → Prop
  | still {act : Act} {d : Doing} (waiting : m'.Waiting t a) (same : m' = m.sets t d) (silent : act.answer? = none) :
      Waits m t a m' act
  | gets (free : m.lock = none) (same : m' = { m with lock := some t }.sets t (.inside a)) (own : ¬ m.Owns t) :
      Waits m t a m' (.takes t a)
  | refused (same : m' = m.sets t .idle) (own : m.Owns t) : Waits m t a m' (.refused t a)
  | expires {e : ContextError} (same : m' = m.sets t .idle) (own : ¬ m.Owns t)
      (ended : a.patience.EndedBy m.env e) : Waits m t a m' (.expires t a e)

/-- What the next step of a thread that is served can be. -/
inductive Serves (E : Engine ε) (m : Shared ε) (t : Nat) (a : Asked) (m' : Shared ε) : Act → Prop
  | works (served : m'.Served t a) (engine : m'.engine = (m.work E t a).state.engine) : Serves E m t a m' (.runs t a)
  | owns {res : Except RawError a.job.Answer} {h : Holder} (begun : m.doing t = .begun ⟨a, res⟩ h) :
      Serves E m t a m' (.owns t ⟨a, res⟩)
  | leaves {res : Except RawError a.job.Answer} (leaving : m.doing t = .leaving (some ⟨a, res⟩))
      (free : m'.lock = none) : Serves E m t a m' (.leaves t (some ⟨a, res⟩))

theorem Served.serves {act : Act} (hs : m.Served t a) (hstep : Step E m act m') (ht : act.thread? = some t) :
    m.Serves E t a m' act := by
  cases hstep with
  | passes => cases ht
  | runs inside returned unheld =>
      obtain rfl := Option.some.inj ht
      obtain rfl := hs.unique (.inl inside)
      exact .works (.inr ⟨_, .inl doing_sets_self⟩) rfl
  | begins inside returned held =>
      obtain rfl := Option.some.inj ht
      obtain rfl := hs.unique (.inl inside)
      exact .works (.inr ⟨_, .inr ⟨_, doing_sets_self⟩⟩) rfl
  | owns begun =>
      obtain rfl := Option.some.inj ht
      obtain h | ⟨res, h | ⟨h', h⟩⟩ := hs
      · exact nomatch h.symm.trans begun
      · exact nomatch h.symm.trans begun
      · obtain ⟨rfl, rfl⟩ := Doing.begun.inj (h.symm.trans begun)
        exact .owns h
  | leaves leaving =>
      obtain rfl := Option.some.inj ht
      obtain h | ⟨res, h | ⟨h', h⟩⟩ := hs
      · exact nomatch h.symm.trans leaving
      · obtain rfl := Doing.leaving.inj (h.symm.trans leaving)
        exact .leaves h rfl
      · exact nomatch h.symm.trans leaving
  | asks hd | asksOwn hd | drops hd | glances hd | takes hd | misses hd | refused hd | expires hd | dozes hd
  | wakes hd | expiresAsleep hd | tells hd | finishes hd | disowns hd | tidies hd | releases hd =>
      obtain rfl := Option.some.inj ht
      rw [Served, hd] at hs
      obtain h | ⟨res, h | ⟨h', h⟩⟩ := hs <;> cases h

namespace Orderly

theorem of_owner (hm : m.Orderly) (howner : m.owner = some t) :
    m.lock = some t ∧ ∃ h, m.live = [h] ∧ h.thread = t := by
  cases hlock : m.lock with
  | none => exact nomatch (hm.free hlock).1.symm.trans howner
  | some u =>
      obtain ⟨hnone, -, -⟩ | ⟨h, hlive, rfl, hs⟩ := hm.busy u hlock
      · exact nomatch hnone.symm.trans howner
      · obtain hsome | hnone := hs.owner
        · exact ⟨hsome.symm.trans howner, h, hlive, Option.some.inj (hsome.symm.trans howner)⟩
        · exact nomatch hnone.symm.trans howner

theorem owner_iff (hm : m.Orderly) (hshut : m.doing t = .shutOut a) : m.owner = some t ↔ m.Owns t := by
  constructor
  · intro howner
    obtain ⟨-, h, hlive, hthread⟩ := hm.of_owner howner
    exact ⟨h, by rw [hlive]; exact List.mem_singleton_self h, hthread⟩
  · rintro ⟨h, hh, rfl⟩
    have hs := (hm.lock_of_live hh).2.2
    rw [hshut] at hs
    exact hs

theorem not_owns_of_sleeping {p : SleepPlan} (hm : m.Orderly) (hsleeping : m.doing t = .sleeping a p) :
    ¬ m.Owns t := by
  rintro ⟨h, hh, rfl⟩
  have hs := (hm.lock_of_live hh).2.2
  rw [hsleeping] at hs
  exact hs

theorem waits {act : Act} (hm : m.Orderly) (hw : m.Waiting t a) (hstep : Step E m act m')
    (ht : act.thread? = some t) : m.Waits t a m' act := by
  cases hstep with
  | passes => cases ht
  | takes trying free =>
      obtain rfl := Option.some.inj ht
      obtain rfl := hw.unique (.inl trying)
      refine .gets free rfl ?_
      rintro ⟨h, hh, -⟩
      rw [(hm.free free).2] at hh
      cases hh
  | misses trying taken =>
      obtain rfl := Option.some.inj ht
      obtain rfl := hw.unique (.inl trying)
      exact .still (.inr (.inl doing_sets_self)) rfl rfl
  | refused shut own =>
      obtain rfl := Option.some.inj ht
      obtain rfl := hw.unique (.inr (.inl shut))
      exact .refused rfl ((hm.owner_iff shut).mp own)
  | expires shut other ended =>
      obtain rfl := Option.some.inj ht
      obtain rfl := hw.unique (.inr (.inl shut))
      exact .expires rfl (fun h => other ((hm.owner_iff shut).mpr h)) (Context.endedBy_of_err ended)
  | dozes shut other lasting =>
      obtain rfl := Option.some.inj ht
      obtain rfl := hw.unique (.inr (.inl shut))
      exact .still (.inr (.inr ⟨_, doing_sets_self⟩)) rfl rfl
  | wakes sleeping rested =>
      obtain rfl := Option.some.inj ht
      obtain rfl := hw.unique (.inr (.inr ⟨_, sleeping⟩))
      exact .still (.inl doing_sets_self) rfl rfl
  | @expiresAsleep t a p e sleeping ended =>
      obtain rfl := Option.some.inj ht
      obtain rfl := hw.unique (.inr (.inr ⟨_, sleeping⟩))
      have hgenuine := hm.genuine t
      rw [sleeping] at hgenuine
      obtain ⟨now, hp⟩ := hgenuine
      rw [hp] at ended
      exact .expires rfl (hm.not_owns_of_sleeping sleeping) (endedBy_of_wakes? ended)
  | asks hd | asksOwn hd | drops hd | glances hd | runs hd | begins hd | owns hd | leaves hd | tells hd
  | finishes hd | disowns hd | tidies hd | releases hd =>
      obtain rfl := Option.some.inj ht
      rw [Waiting, hd] at hw
      obtain h | h | ⟨p, h⟩ := hw <;> cases h

theorem answer_of_served {acts : List Act} {act : Act} {m₂ m₃ : Shared ε} {r : Answered} (hm : m.Orderly)
    (hs : m.Served t a) (hrun : Run E m acts m₂) (hsilent : Silent t acts) (hstep : Step E m₂ act m₃)
    (ht : act.thread? = some t) (hanswer : act.answer? = some r) :
    ∃ res, r = ⟨a, res⟩ ∧ res ≠ .error heldError := by
  induction hrun with
  | nil m =>
      have hgenuine := hm.genuine t
      cases hs.serves hstep ht with
      | works => cases hanswer
      | @owns res h begun =>
          rw [begun] at hgenuine
          exact ⟨res, (Option.some.inj hanswer).symm, hgenuine⟩
      | @leaves res leaving free =>
          rw [leaving] at hgenuine
          exact ⟨res, (Option.some.inj hanswer).symm, hgenuine⟩
  | @cons m m' m'' act' acts hfirst _ ih =>
      refine ih (hm.step hfirst) ?_ hsilent.tail hstep
      by_cases ht' : act'.thread? = some t
      · cases hs.serves hfirst ht' with
        | works served engine => exact served
        | owns | leaves => exact nomatch hsilent.head ht'
      · rw [Served, doing_of_step hfirst ht']
        exact hs

/-- **How a call on the handle is answered.** A thread with an open transaction is refused, and no other; the
others have got the lock meanwhile, or give up since their context has ended. -/
theorem answer_of_waiting {acts : List Act} {act : Act} {m₂ m₃ : Shared ε} {r : Answered} (hm : m.Orderly)
    (hw : m.Waiting t a) (hrun : Run E m acts m₂) (hsilent : Silent t acts) (hstep : Step E m₂ act m₃)
    (ht : act.thread? = some t) (hanswer : act.answer? = some r) :
    ∃ res, r = ⟨a, res⟩ ∧ (res = .error heldError ↔ m.Owns t) ∧
      (res = .error heldError ∨ .takes t a ∈ acts ∨
        ∃ e, res = .error (.context e) ∧ a.patience.EndedBy m₂.env e) := by
  induction hrun with
  | nil m =>
      cases hm.waits hw hstep ht with
      | still _ _ hnone => exact nomatch hnone.symm.trans hanswer
      | gets => cases hanswer
      | refused same own => exact ⟨_, (Option.some.inj hanswer).symm, iff_of_true rfl own, .inl rfl⟩
      | @expires e same own ended =>
          have hne : (.error (.context e) : Except RawError a.job.Answer) ≠ .error heldError :=
            fun heq => nomatch Except.error.inj heq
          exact ⟨_, (Option.some.inj hanswer).symm, iff_of_false hne own, .inr (.inr ⟨e, rfl, ended⟩)⟩
  | @cons m m' m'' act' acts hfirst hrest ih =>
      have hm' := hm.step hfirst
      by_cases ht' : act'.thread? = some t
      · cases hm.waits hw hfirst ht' with
        | still waiting same _ =>
            obtain ⟨res, hr, hiff, hhow⟩ := ih hm' waiting hsilent.tail hstep
            refine ⟨res, hr, hiff.trans (by rw [same]; exact Iff.rfl), ?_⟩
            exact hhow.imp_right fun h => h.imp_left (List.mem_cons_of_mem _)
        | gets free same own =>
            have served : m'.Served t a := .inl (same ▸ doing_sets_self)
            obtain ⟨res, hr, hne⟩ := hm'.answer_of_served served hrest hsilent.tail hstep ht hanswer
            exact ⟨res, hr, iff_of_false hne own, .inr (.inl List.mem_cons_self)⟩
        | refused | expires => exact nomatch hsilent.head ht'
      · have hw' : m'.Waiting t a := by
          rw [Waiting, doing_of_step hfirst ht']
          exact hw
        obtain ⟨res, hr, hiff, hhow⟩ := ih hm' hw' hsilent.tail hstep
        refine ⟨res, hr, hiff.trans (hm.owns_of_step hfirst ht'), ?_⟩
        exact hhow.imp_right fun h => h.imp_left (List.mem_cons_of_mem _)

end Orderly

/-- By its own steps alone a thread that waits can come to where it gets the lock or gives up. -/
def Settles (E : Engine ε) (m : Shared ε) (t : Nat) (a : Asked) : Prop :=
  ∃ acts m₁ act m₂, Run E m acts m₁ ∧ (∀ act ∈ acts, act.thread? = some t) ∧ Step E m₁ act m₂ ∧
    (act = .takes t a ∨ ∃ e, act = .expires t a e)

theorem settles_of_takes (hstep : Step E m (.takes t a) m') : Settles E m t a :=
  ⟨[], m, .takes t a, m', .nil m, List.forall_mem_nil _, hstep, .inl rfl⟩

theorem settles_of_expires {e : ContextError} (hstep : Step E m (.expires t a e) m') : Settles E m t a :=
  ⟨[], m, .expires t a e, m', .nil m, List.forall_mem_nil _, hstep, .inr ⟨e, rfl⟩⟩

theorem Settles.of_step {act : Act} (hstep : Step E m act m') (ht : act.thread? = some t) (h : Settles E m' t a) :
    Settles E m t a := by
  obtain ⟨acts, m₁, act', m₂, hrun, hthread, hlast, hact⟩ := h
  exact ⟨act :: acts, m₁, act', m₂, .cons hstep hrun, List.forall_mem_cons.mpr ⟨ht, hthread⟩, hlast, hact⟩

/-- A thread that tries the lock after its context has ended gets it, or gives up. -/
theorem settles_of_trying {e : ContextError} (htrying : m.doing t = .trying a) (howner : m.owner ≠ some t)
    (hended : a.patience.err m.env = some e) : Settles E m t a := by
  cases hlock : m.lock with
  | none => exact settles_of_takes (.takes htrying hlock)
  | some u =>
      have hgive : Step E (m.sets t (.shutOut a)) (.expires t a e) ((m.sets t (.shutOut a)).sets t .idle) :=
        .expires doing_sets_self howner hended
      exact .of_step (.misses htrying hlock) rfl (settles_of_expires hgive)

/-- **A thread that waits is not kept beyond its context.** By its own steps it gets the lock, or gives up. -/
theorem Orderly.settles {e : ContextError} (hm : m.Orderly) (hw : m.Waiting t a) (hown : ¬ m.Owns t)
    (hended : a.patience.err m.env = some e) : Settles E m t a := by
  have howner : m.owner ≠ some t := by
    intro hsome
    obtain ⟨-, h, hlive, hthread⟩ := hm.of_owner hsome
    exact hown ⟨h, by rw [hlive]; exact List.mem_singleton_self h, hthread⟩
  obtain htrying | hshut | ⟨p, hsleeping⟩ := hw
  · exact settles_of_trying htrying howner hended
  · exact settles_of_expires (.expires hshut howner hended)
  · have hgenuine := hm.genuine t
    rw [hsleeping] at hgenuine
    obtain ⟨now, hp⟩ := hgenuine
    obtain hrested | ⟨e', hover⟩ := hp ▸ wakes?_of_err now lockPoll hended
    · have htrying : (m.sets t (.trying a)).doing t = .trying a := doing_sets_self
      exact .of_step (.wakes hsleeping hrested) rfl (settles_of_trying htrying howner hended)
    · exact settles_of_expires (.expiresAsleep hsleeping hover)

/-! ### No intruders -/

/-- **One connection, no intruders.** However threads take turns on a connection, at most one transaction is open,
and the thread that is noted as the owner has the lock and this transaction. A job of the handle runs on the
engine only while none is open, and only a begin opens one; from then until it is let go of nothing of the
handle runs.

A thread that looks whether it owns the transaction finds out, and its refusal changes nothing for anybody else. A
call on the handle is answered by this refusal if and only if its thread has an open transaction; any other call
that is answered has got the lock meanwhile, or gives up for the reason for which its own context has ended. A
thread that waits under a context that has ended can come by its own steps to where it gets the lock or gives
up. -/
theorem no_intruders (E : Engine ε) (c : Connection ε) (env : Env) {acts : List Act} {m : Shared ε}
    (hrun : Run E (ofConnection c env) acts m) :
    m.live.length ≤ 1 ∧
    (∀ t, m.owner = some t → m.lock = some t ∧ ∃ h, m.live = [h] ∧ h.thread = t) ∧
    (∀ t a m', Step E m (.runs t a) m' → m.live = [] ∧
      (m'.live = [] ∨ ∃ h opts, m'.live = [h] ∧ h.thread = t ∧ a.job = .call (.begin h.tx opts) ∧
        h.readOnly = opts.readOnly)) ∧
    (∀ h ∈ m.live, ∀ later m', Run E m later m' → (∀ t r, Act.releases t h r ∉ later) →
      ∀ t a, Act.runs t a ∉ later) ∧
    (∀ t a, m.doing t = .shutOut a → (m.owner = some t ↔ m.Owns t)) ∧
    (∀ t a m', Step E m (.refused t a) m' → m.Owns t ∧ m' = m.sets t .idle) ∧
    (∀ t a m₁ between m₂ act m₃ r, a.job.tx? = none → Step E m (.asks t a) m₁ → Run E m₁ between m₂ →
      Silent t between → Step E m₂ act m₃ → act.thread? = some t → act.answer? = some r →
        ∃ res, r = ⟨a, res⟩ ∧ (res = .error heldError ↔ m.Owns t) ∧
          (res = .error heldError ∨ Act.takes t a ∈ between ∨
            ∃ e, res = .error (.context e) ∧ a.patience.EndedBy m₂.env e)) ∧
    ∀ t a e, m.Waiting t a → ¬ m.Owns t → a.patience.err m.env = some e → Settles E m t a := by
  have hm : m.Orderly := (orderly_ofConnection c env).run hrun
  refine ⟨?_, fun t => hm.of_owner, fun t a m' => hm.live_of_runs, ?_, fun t a => hm.owner_iff, ?_, ?_, ?_⟩
  · cases hlive : m.live with
    | nil => exact Nat.zero_le 1
    | cons h rest =>
        have hh : h ∈ m.live := by rw [hlive]; exact List.mem_cons_self
        rw [← hlive, (hm.lock_of_live hh).2.1]
        exact Nat.le_refl 1
  · exact fun h hh later m' hlater hopen t a => hm.not_mem_runs hh hlater hopen
  · intro t a m' hstep
    cases hstep with
    | refused shut own => exact ⟨(hm.owner_iff shut).mp own, rfl⟩
  · intro t a m₁ between m₂ act m₃ r hhandle hasks hbetween hsilent hlast ht hanswer
    have hm₁ := hm.step hasks
    have hasked : m₁.Waiting t a ∧ (m₁.Owns t ↔ m.Owns t) := by
      cases hasks with
      | asks idle handle => exact ⟨.inl doing_sets_self, Iff.rfl⟩
      | asksOwn idle live own asked => exact nomatch hhandle.symm.trans asked
    obtain ⟨res, hr, hiff, hhow⟩ := hm₁.answer_of_waiting hasked.1 hbetween hsilent hlast ht hanswer
    exact ⟨res, hr, hiff.trans hasked.2, hhow⟩
  · exact fun t a e hw hown hended => hm.settles hw hown hended

section obliging

/-- An engine that does what it is told, and knows only whether a transaction is open. -/
def obliging : Engine Bool where
  compile _ _ env _ := (.done ⟨[], 0⟩, env)
  run _ sql _ _ env isOpen := ⟨.done [], env, if sql = "BEGIN DEFERRED" then true else isOpen⟩
  changes _ := 0
  totalChanges _ := 0
  inTransaction isOpen := isOpen
  close _ := none

/-- The first thread asks to begin a transaction. -/
def opening : Asked := ⟨.call (.begin 7 .default), .background, 1⟩

/-- Somebody asks whether the engine answers, when it is too late. -/
def latePing : Asked := ⟨.call .ping, ⟨some 0, none⟩, 1⟩

/-- The first thread begins a transaction, and another one asks something of the handle. -/
def openingActs : List Act :=
  [.asks 0 opening, .takes 0 opening, .runs 0 opening, .owns 0 ⟨opening, .ok ()⟩, .asks 1 latePing,
    .misses 1 latePing]

/-- The first thread is refused when it asks the handle, and the other one can give up. -/
theorem no_intruders_of_obliging :
    ∃ m m₁ m₂ m₃, Run obliging (ofConnection (.ofEngine false) ⟨0, []⟩) openingActs m ∧ m.live.length ≤ 1 ∧
      m.owner = some 0 ∧ m.lock = some 0 ∧ Step obliging m (.asks 0 latePing) m₁ ∧
      Run obliging m₁ [.misses 0 latePing] m₂ ∧ Step obliging m₂ (.refused 0 latePing) m₃ ∧ m.Owns 0 ∧
      m₃ = m₂.sets 0 .idle ∧ m.Waiting 1 latePing ∧ ¬ m.Owns 1 ∧
      latePing.patience.err m.env = some .deadlineExceeded ∧ Settles obliging m 1 latePing := by
  have hopening : ∃ m, Run obliging (ofConnection (.ofEngine false) ⟨0, []⟩) openingActs m ∧ m.doing 0 = .idle ∧
      m.doing 1 = .shutOut latePing ∧ m.lock = some 0 ∧ m.owner = some 0 ∧ m.live = [⟨7, 0, false⟩] ∧
      m.nextId = 1 ∧ m.env = ⟨0, []⟩ :=
    ⟨_, .cons (.asks rfl rfl) (.cons (.takes rfl rfl) (.cons (.begins rfl rfl rfl) (.cons (.owns rfl)
      (.cons (.asks rfl rfl) (.cons (.misses rfl rfl) (.nil _)))))), rfl, rfl, rfl, rfl, rfl, rfl, rfl⟩
  obtain ⟨m, hrun, hidle, hshut, hlock, howner, hlive, hnext, henv⟩ := hopening
  have hasked : ∃ m₁, Step obliging m (.asks 0 latePing) m₁ ∧ m₁.doing 0 = .trying latePing ∧
      m₁.lock = some 0 ∧ m₁.owner = some 0 := by
    have h : Step obliging m (.asks 0 ⟨.call .ping, ⟨some 0, none⟩, m.nextId⟩) _ := .asks hidle rfl
    rw [hnext] at h
    exact ⟨_, h, doing_sets_self, hlock, howner⟩
  obtain ⟨m₁, hasks, htrying, hlock₁, howner₁⟩ := hasked
  have hmiss : Step obliging m₁ (.misses 0 latePing) (m₁.sets 0 (.shutOut latePing)) := .misses htrying hlock₁
  have hrefused := Step.refused (E := obliging) (m := m₁.sets 0 (.shutOut latePing)) doing_sets_self howner₁
  obtain ⟨hone, -, -, -, -, -, hcalls, hsettles⟩ := no_intruders obliging _ _ hrun
  have hsilent : Silent 0 [.misses 0 latePing] := by
    intro act hact _
    rw [List.mem_singleton.mp hact]
    rfl
  obtain ⟨res, hres, hiff, -⟩ :=
    hcalls 0 latePing _ _ _ _ _ _ rfl hasks (.cons hmiss (.nil _)) hsilent hrefused rfl rfl
  cases hres
  have hother : ¬ m.Owns 1 := by
    rintro ⟨h, hh, hthread⟩
    rw [hlive, List.mem_singleton] at hh
    rw [hh] at hthread
    cases hthread
  have hended : latePing.patience.err m.env = some .deadlineExceeded := by rw [henv]; rfl
  exact ⟨m, _, _, _, hrun, hone, howner, hlock, hasks, .cons hmiss (.nil _), hrefused, hiff.mp rfl, rfl,
    .inr (.inl hshut), hother, hended, hsettles 1 latePing _ (.inr (.inl hshut)) hother hended⟩

end obliging

end Shared

end DbAccess.Sqlite
