import DbAccess.Proofs.Sqlite.Erratic
import DbAccess.Proofs.Sqlite.Exclusion
/-!
# Connections without a transaction are clean

`Shared.Sound` is what holds of the engine at every step, whatever its statements refuse: while nobody has a
transaction nothing is open and everything may be written, and while somebody has one, what may be open or forbidden
depends on how far its end has got. Every step keeps it (`Shared.Sound.step`), if only writing can be forbidden.

`Shared.clean_without_transaction` reads off the states in which no transaction is left. If it is writing that cannot
be forbidden, a begin that fails leaves a transaction open that belongs to nobody (`Shared.left_open_of_stubborn`).
-/

namespace DbAccess.Sqlite

variable {ε : Type} {E : Engine ε} {S : Sight ε}

/-- What was asked is plain, and asked where it belongs; a transaction that is begun was answered. -/
def Doing.Proper (S : Sight ε) : Doing → Prop
  | trying a | shutOut a | sleeping a _ | inside a => a.job.tx? = none ∧ a.job.Plain S
  | asking h a => a.job.tx? = some h.tx ∧ a.job.Plain S
  | begun r _ => r.result.isOk = true
  | _ => True

/-- The thread has not got its transaction off the engine yet, if it has one. -/
def Doing.isUnfinished : Doing → Bool
  | dropping _ finished _ | disowned _ finished _ => !finished
  | releasing .. => false
  | _ => true

namespace Shared

variable {m m' : Shared ε} {t : Nat} {a : Asked} {h : Holder} {d : Doing}

/-- The engine is in a state of a kind, unless the connection is closed. -/
def Upholds (P : ε → Prop) (m : Shared ε) : Prop := ∀ b, m.engine = some b → P b.engine

/-- The threads are in order, and the engine is within what the open transaction leaves it. -/
structure Sound (E : Engine ε) (S : Sight ε) (m : Shared ε) : Prop where
  orderly : m.Orderly
  proper : ∀ t, (m.doing t).Proper S
  rests : m.live = [] → m.Upholds (Within E S false false)
  bears : ∀ h ∈ m.live, let u := (m.doing h.thread).isUnfinished; m.Upholds (Within E S u (u && h.readOnly))

namespace Sound

theorem proper_of (hm : Sound E S m) (hdoing : m.doing t = d) : d.Proper S := hdoing ▸ hm.proper t

/-- A thread does something else that leaves the engine and its transaction alone. -/
theorem moves {d₀ : Doing} (hm : Sound E S m) (horderly : m'.Orderly) (hwas : m.doing t = d₀)
    (hdoing : m'.doing = Function.update m.doing t d) (hengine : m'.engine = m.engine) (hlive : m'.live = m.live)
    (hunfinished : d.isUnfinished = d₀.isUnfinished) (hproper : d₀.Proper S → d.Proper S) : Sound E S m' where
  orderly := horderly
  proper := forall_doing_of_update hm.proper hdoing (hproper (hm.proper_of hwas))
  rests hnone b hb := hm.rests (hlive.symm.trans hnone) b (hengine.symm.trans hb)
  bears h hh := by
    rw [hlive] at hh
    have hsame : (m'.doing h.thread).isUnfinished = (m.doing h.thread).isUnfinished := by
      rw [hdoing]
      by_cases hut : h.thread = t
      · rw [hut, Function.update_self, hunfinished, hwas]
      · rw [Function.update_of_ne hut]
    rw [hsame]
    exact fun b hb => hm.bears h hh b (hengine.symm.trans hb)

/-- A thread does something with the engine after which no transaction is left. -/
theorem frees (hm : Sound E S m) (horderly : m'.Orderly) (hdoing : m'.doing = Function.update m.doing t d)
    (hproper : d.Proper S) (hlive : m'.live = []) (hrests : m'.Upholds (Within E S false false)) : Sound E S m' where
  orderly := horderly
  proper := forall_doing_of_update hm.proper hdoing hproper
  rests _ := hrests
  bears h hh := by
    rw [hlive] at hh
    cases hh

theorem goesOn (hm : Sound E S m) (horderly : m'.Orderly) (hdoing : m'.doing = Function.update m.doing t d)
    (hproper : d.Proper S) (hlive : m'.live = [h]) (hthread : h.thread = t)
    (hbears : m'.Upholds (Within E S d.isUnfinished (d.isUnfinished && h.readOnly))) : Sound E S m' where
  orderly := horderly
  proper := forall_doing_of_update hm.proper hdoing hproper
  rests hnone := nomatch hlive.symm.trans hnone
  bears h' hh' := by
    rw [hlive] at hh'
    obtain rfl := List.mem_singleton.mp hh'
    rw [hdoing, hthread, Function.update_self]
    exact hbears

theorem of_staged (hm : Sound E S m) (hdoing : m.doing t = d) (hout : d.isOutside = false)
    (hserving : d.isServing = false) : ∃ h, m.live = [h] ∧ h.thread = t ∧ Stage m.owner h d ∧
      m.Upholds (Within E S d.isUnfinished (d.isUnfinished && h.readOnly)) := by
  obtain ⟨h, hh, rfl, hstage⟩ := hm.orderly.of_staged hdoing hout hserving
  have hbears := hm.bears h hh
  rw [hdoing] at hbears
  exact ⟨h, (hm.orderly.lock_of_live hh).2.1, rfl, hstage, hbears⟩

end Sound

theorem work_upholds (hE : Erratic E S) (hon : Forbids E S) (hm : m.Upholds (Within E S false false))
    (hhandle : a.job.tx? = none) (hplain : a.job.Plain S) {res : Except RawError a.job.Answer}
    (hret : Database.returned? (m.work E t a).reply = some res) :
    ((m.work E t a).state.holder = none → (m.work E t a).state.Upholds (Within E S false false)) ∧
      ∀ h, (m.work E t a).state.holder = some h → res.isOk = true ∧
        (m.work E t a).state.Upholds (Within E S true h.readOnly) := by
  obtain ⟨job, ctx, ticket⟩ := a
  have hbare : (m.bare ticket).Upholds (Within E S false false) := hm
  by_cases hbegin : ∃ tx opts, job = .call (.begin tx opts)
  · obtain ⟨tx, opts, rfl⟩ := hbegin
    have hleaves := Connection.begin_upholds hE hon rfl hbare tx opts ⟨ctx, t⟩ m.env
    obtain ⟨hok, hholder, hupholds⟩ | ⟨-, hholder, hupholds⟩ := hleaves.of_returned hret
    · refine ⟨fun hnone => (nomatch hnone.symm.trans hholder), fun h hh => ⟨hok, ?_⟩⟩
      obtain rfl := Option.some.inj (hholder.symm.trans hh)
      exact hupholds
    · exact ⟨fun _ => hupholds, fun h hh => nomatch hholder.symm.trans hh⟩
  · have hother : ∀ tx opts, job ≠ .call (.begin tx opts) := fun tx opts heq => hbegin ⟨tx, opts, heq⟩
    have hstays : job.isEnding = false := by
      cases job with
      | script sql => rfl
      | call d =>
          cases d with
          | commit | rollback => cases hhandle
          | _ => rfl
    have hleaves := Job.run_upholds hE hplain hother hstays rfl hbare ⟨ctx, t⟩ m.env
    refine ⟨fun _ => ?_, fun h hh => ?_⟩
    · obtain ⟨-, hupholds⟩ | ⟨-, hupholds⟩ := hleaves.of_returned hret
      · exact hupholds
      · exact hupholds
    · obtain ⟨-, opts, hjob, -⟩ := begin_of_work hh
      exact absurd hjob (hother h.tx opts)

/-- **Every step keeps what holds of the engine.** -/
theorem Sound.step {act : Act} (hE : Erratic E S) (hon : Forbids E S) (hm : Sound E S m)
    (hplain : ∀ t a, act = .asks t a → a.job.Plain S) (hstep : Step E m act m') : Sound E S m' := by
  have horderly : m'.Orderly := hm.orderly.step hstep
  cases hstep with
  | passes later => exact ⟨horderly, hm.proper, hm.rests, hm.bears⟩
  | asks idle handle => exact hm.moves horderly idle rfl rfl rfl rfl fun _ => ⟨handle, hplain _ _ rfl⟩
  | asksOwn idle live own asked =>
      exact hm.moves horderly idle rfl rfl rfl rfl fun _ => ⟨asked, hplain _ _ rfl⟩
  | takes hd | misses hd | dozes hd | wakes hd => exact hm.moves horderly hd rfl rfl rfl rfl fun hproper => hproper
  | refused hd | expires hd | expiresAsleep hd | owns hd | leaves hd | drops hd | disowns hd | glances hd =>
      exact hm.moves horderly hd rfl rfl rfl rfl fun _ => trivial
  | @runs t a res inside returned unheld =>
      obtain ⟨-, -, hlive⟩ := hm.orderly.of_serving inside rfl
      obtain ⟨hhandle, hjob⟩ := hm.proper_of inside
      have hwork := (work_upholds hE hon (hm.rests hlive) hhandle hjob returned).1 unheld
      exact hm.frees horderly rfl trivial hlive hwork
  | @begins t a res h inside returned held =>
      obtain ⟨-, -, hlive⟩ := hm.orderly.of_serving inside rfl
      obtain ⟨hhandle, hjob⟩ := hm.proper_of inside
      obtain ⟨hok, hwork⟩ := (work_upholds hE hon (hm.rests hlive) hhandle hjob returned).2 h held
      exact hm.goesOn horderly rfl hok (congrArg (h :: ·) hlive) (begin_of_work held).1 hwork
  | @tells t h a res asking stays returned =>
      obtain ⟨_, hlive, hthread, ⟨rfl, -⟩, hbears⟩ := hm.of_staged asking rfl rfl
      obtain ⟨hown, hjob⟩ := hm.proper_of asking
      have hother : ∀ tx opts, a.job ≠ .call (.begin tx opts) := by
        intro tx opts heq
        rw [heq] at hown
        cases hown
      have hbare : (m.bare a.ticket).Upholds (Within E S true h.readOnly) := hbears
      have hleaves := Job.run_upholds hE hjob hother stays rfl hbare ⟨a.ctx, t⟩ m.env
      refine hm.goesOn horderly rfl trivial hlive hthread ?_
      obtain ⟨-, hupholds⟩ | ⟨-, hupholds⟩ := hleaves.of_returned returned
      · exact hupholds
      · exact hupholds
  | @finishes t h a r res asking ending returned =>
      obtain ⟨_, hlive, hthread, ⟨rfl, -⟩, hbears⟩ := hm.of_staged asking rfl rfl
      have hbare : (m.bare m.nextId).Upholds (Within E S true h.readOnly) := hbears
      have hleaves := Job.ending_upholds hE hbare ending
      refine hm.goesOn horderly rfl trivial hlive hthread ?_
      obtain ⟨hok, hupholds⟩ | ⟨hok, hupholds⟩ := hleaves.of_returned returned
      · simp only [Doing.isUnfinished, hok]
        exact hupholds
      · simp only [Doing.isUnfinished, hok]
        exact hupholds
  | @tidies t h finished r disowned =>
      obtain ⟨_, hlive, hthread, ⟨rfl, -⟩, hbears⟩ := hm.of_staged disowned rfl rfl
      cases finished with
      | true => exact hm.goesOn horderly rfl trivial hlive hthread hbears
      | false =>
          have hbare : (m.bare m.nextId).Upholds (Within E S true h.readOnly) := hbears
          exact hm.goesOn horderly rfl trivial hlive hthread (Connection.letGo_upholds hE hbare m.env)
  | @releases t h r releasing =>
      obtain ⟨_, hlive, hthread, ⟨rfl, -⟩, hbears⟩ := hm.of_staged releasing rfl rfl
      have herased : m.live.erase h = [] := by rw [hlive, List.erase_cons_head]
      exact hm.frees horderly rfl trivial herased hbears

/-- **What holds of the engine holds however threads take turns.** -/
theorem Sound.run {acts : List Act} (hE : Erratic E S) (hon : Forbids E S) (hm : Sound E S m)
    (hplain : ∀ t a, .asks t a ∈ acts → a.job.Plain S) (hrun : Run E m acts m') : Sound E S m' := by
  induction hrun with
  | nil => exact hm
  | cons hstep _ ih =>
      refine ih (hm.step hE hon (fun t a heq => hplain t a (heq ▸ List.mem_cons_self)) hstep) fun t a hmem => ?_
      exact hplain t a (List.mem_cons_of_mem _ hmem)

theorem sound_ofConnection {c : Connection ε} (hfree : c.holder = none) (hclean : c.Upholds (Within E S false false))
    (env : Env) : Sound E S (ofConnection c env) where
  orderly := orderly_ofConnection c env
  proper _ := trivial
  rests _ := hclean
  bears h hh := by
    have hlive : (ofConnection c env).live = [] := congrArg Option.toList hfree
    rw [hlive] at hh
    cases hh

/-! ### Rest -/

/-- Whether a transaction is open, and whether nothing may be written, unless the connection is closed. -/
def switches (E : Engine ε) (S : Sight ε) (m : Shared ε) : Option (Bool × Bool) :=
  m.engine.map fun b => (E.inTransaction b.engine, S.queryOnly b.engine)

/-- Nobody has the lock or is noted as an owner, no transaction is open and everything may be written. -/
structure Clean (E : Engine ε) (S : Sight ε) (m : Shared ε) : Prop where
  lock : m.lock = none
  owner : m.owner = none
  switches : ∀ s, m.switches E S = some s → s = (false, false)

theorem Sound.clean_of_free (hm : Sound E S m) (hlock : m.lock = none) : m.Clean E S where
  lock := hlock
  owner := (hm.orderly.free hlock).1
  switches s hs := by
    obtain ⟨b, hb, rfl⟩ := Option.map_eq_some_iff.mp hs
    have hwithin := hm.rests (hm.orderly.free hlock).2 b hb
    rw [hwithin.closed, hwithin.queryOnly]

theorem Orderly.lock_of_quiet (hm : m.Orderly) (hlive : m.live = []) (hout : ∀ t, (m.doing t).isOutside = true) :
    m.lock = none := by
  cases hlock : m.lock with
  | none => rfl
  | some t =>
      obtain ⟨-, -, hserving⟩ | ⟨h, hlive', -, -⟩ := hm.busy t hlock
      · exact nomatch hserving.symm.trans (Doing.isServing_of_outside (hout t))
      · exact nomatch hlive.symm.trans hlive'

/-! ### Begins that fail -/

/-- The states are alike in who has the lock and is noted as the owner, in the transactions that are not let go of,
and in whether a transaction is open and nothing may be written. -/
structure Alike (E : Engine ε) (S : Sight ε) (m m' : Shared ε) : Prop where
  lock : m'.lock = m.lock
  owner : m'.owner = m.owner
  live : m'.live = m.live
  switches : m'.switches E S = m.switches E S

/-- How far a thread has got with a begin that it has asked for while nobody else takes steps. -/
inductive Tries (m₀ : Shared ε) (t : Nat) (a : Asked) (m : Shared ε) : Prop
  | waiting (waiting : m.Waiting t a) (lock : m.lock = m₀.lock) (owner : m.owner = m₀.owner)
      (live : m.live = m₀.live) (engine : m.engine = m₀.engine)
  | served (free : m₀.lock = none) (served : m.Served t a) (engine : m.engine.isSome = m₀.engine.isSome)

variable {m₀ : Shared ε} {tx : TxId} {opts : TxOptions}

theorem isSome_work (hbegin : a.job = .call (.begin tx opts)) :
    (m.work E t a).state.engine.isSome = m.engine.isSome := by
  obtain ⟨job, ctx, ticket⟩ := a
  cases hbegin
  exact Connection.isSome_begin (c := m.bare ticket) rfl tx opts ⟨ctx, t⟩ m.env

theorem Tries.step {act : Act} (hm : m.Orderly) (hbegin : a.job = .call (.begin tx opts)) (h : Tries m₀ t a m)
    (hstep : Step E m act m') (halone : act = .passes ∨ act.thread? = some t)
    (hsilent : act.thread? = some t → act.answer? = none) : Tries m₀ t a m' := by
  obtain rfl | ht := halone
  · cases hstep with
    | passes later =>
        cases h with
        | waiting waiting lock owner live engine => exact .waiting waiting lock owner live engine
        | served free served engine => exact .served free served engine
  · cases h with
    | waiting waiting lock owner live engine =>
        cases hm.waits waiting hstep ht with
        | still waiting' same silent =>
            subst same
            exact .waiting waiting' lock owner live engine
        | gets free same own =>
            subst same
            exact .served (lock.symm.trans free) (.inl doing_sets_self) (congrArg Option.isSome engine)
        | refused | expires => exact nomatch hsilent ht
    | served free served engine =>
        cases served.serves hstep ht with
        | works served' hengine =>
            refine .served free served' ?_
            rw [hengine, isSome_work hbegin, engine]
        | owns | leaves => exact nomatch hsilent ht

theorem Tries.not_asks {b : Asked} (h : Tries m₀ t a m) (hstep : Step E m (.asks t b) m') : False := by
  have hidle : m.doing t = .idle := by
    cases hstep with
    | asks idle handle => exact idle
    | asksOwn idle live own asked => exact idle
  cases h with
  | waiting waiting =>
      rw [Waiting, hidle] at waiting
      obtain h | h | ⟨p, h⟩ := waiting <;> cases h
  | served free served =>
      rw [Served, hidle] at served
      obtain h | ⟨res, h | ⟨h', h⟩⟩ := served <;> cases h

theorem Tries.run {acts : List Act} (hE : Erratic E S) (hon : Forbids E S) (hm : Sound E S m)
    (hbegin : a.job = .call (.begin tx opts)) (h : Tries m₀ t a m) (hrun : Run E m acts m') (halone : Alone t acts)
    (hsilent : Silent t acts) : Sound E S m' ∧ Tries m₀ t a m' := by
  induction hrun with
  | nil => exact ⟨hm, h⟩
  | @cons m m' m'' act acts hstep _ ih =>
      have hact := halone act List.mem_cons_self
      have hplain : ∀ u b, act = .asks u b → b.job.Plain S := by
        rintro u b rfl
        obtain hpasses | ht := hact
        · cases hpasses
        · obtain rfl : u = t := Option.some.inj ht
          exact (h.not_asks hstep).elim
      exact ih (hm.step hE hon hplain hstep) (h.step hm.orderly hbegin hstep hact hsilent.head)
        (fun act hmem => halone act (List.mem_cons_of_mem _ hmem)) hsilent.tail

theorem Clean.alike (h : m.Clean E S) (h' : m'.Clean E S) (hlive : m'.live = m.live)
    (hengine : m'.engine.isSome = m.engine.isSome) : Alike E S m m' where
  lock := h'.lock.trans h.lock.symm
  owner := h'.owner.trans h.owner.symm
  live := hlive
  switches := by
    have hsome : (m'.switches E S).isSome = (m.switches E S).isSome := by
      rw [Shared.switches, Shared.switches, Option.isSome_map, Option.isSome_map, hengine]
    cases hs : m.switches E S with
    | none =>
        rw [hs] at hsome
        exact Option.not_isSome_iff_eq_none.mp (by rw [hsome]; exact Bool.false_ne_true)
    | some s =>
        rw [hs] at hsome
        obtain ⟨s', hs'⟩ := Option.isSome_iff_exists.mp hsome
        have hclean : s = (false, false) := h.switches s hs
        have hclean' : s' = (false, false) := h'.switches s' hs'
        rw [hs', hclean, hclean']

theorem Tries.alike {act : Act} {r : Answered} (hm₀ : Sound E S m₀) (hm : Sound E S m) (hm' : Sound E S m')
    (h : Tries m₀ t a m) (hstep : Step E m act m') (ht : act.thread? = some t) (hanswer : act.answer? = some r)
    (hfailed : r.result.isOk = false) : Alike E S m₀ m' := by
  cases h with
  | waiting waiting lock owner live engine =>
      have hsets : Alike E S m₀ (m.sets t .idle) :=
        ⟨lock, owner, live, congrArg (Option.map _) engine⟩
      cases hm.orderly.waits waiting hstep ht with
      | still waiting' same silent => exact nomatch silent.symm.trans hanswer
      | gets => cases hanswer
      | refused same own => exact same ▸ hsets
      | expires same own ended => exact same ▸ hsets
  | served free served engine =>
      cases served.serves hstep ht with
      | works => cases hanswer
      | owns begun =>
          obtain rfl := Option.some.inj hanswer
          exact nomatch hfailed.symm.trans (hm.proper_of begun)
      | leaves leaving hfree =>
          have hengine : m'.engine = m.engine := by
            cases hstep with
            | leaves => rfl
          refine (hm₀.clean_of_free free).alike (hm'.clean_of_free hfree) ?_ (by rw [hengine, engine])
          rw [(hm'.orderly.free hfree).2, (hm₀.orderly.free free).2]

/-! ### Clean connections -/

/-- **A connection without a transaction is clean, whatever failed before.** The engine may fail or be interrupted in
any statement but the rollback of an open transaction and the two that forbid writing and allow it again. However
threads take turns on a connection that was clean at first, whenever no transaction is left and nobody is served,
the lock is free, nobody is noted as an owner, no transaction is open and everything may be written. A begin that
is answered by an error, while nobody else takes steps, leaves all four as they were. -/
theorem clean_without_transaction (hE : Erratic E S) (hon : Forbids E S) {c : Connection ε}
    (hfree : c.holder = none) (hclean : c.Upholds (Within E S false false)) (env : Env) {acts : List Act}
    (hrun : Run E (ofConnection c env) acts m) (hplain : ∀ t a, .asks t a ∈ acts → a.job.Plain S) :
    (m.live = [] → (∀ t, (m.doing t).isOutside = true) → m.Clean E S) ∧
    ∀ t a tx opts m₁ between m₂ act m₃ r, a.job = .call (.begin tx opts) → Step E m (.asks t a) m₁ →
      Run E m₁ between m₂ → Alone t between → Silent t between → Step E m₂ act m₃ → act.thread? = some t →
      act.answer? = some r → r.result.isOk = false → Alike E S m m₃ := by
  have hm : Sound E S m := (sound_ofConnection hfree hclean env).run hE hon hplain hrun
  refine ⟨fun hlive hout => hm.clean_of_free (hm.orderly.lock_of_quiet hlive hout), ?_⟩
  intro t a tx opts m₁ between m₂ act m₃ r hbegin hasks hbetween halone hsilent hlast ht hanswer hfailed
  have hplain₁ : ∀ u b, Act.asks t a = .asks u b → b.job.Plain S := by
    rintro _ _ ⟨⟩
    rw [hbegin]
    trivial
  have hm₁ : Sound E S m₁ := hm.step hE hon hplain₁ hasks
  have hhandle : a.job.tx? = none := by
    rw [hbegin]
    rfl
  have htries : Tries m t a m₁ := by
    cases hasks with
    | asks idle handle => exact .waiting (.inl doing_sets_self) rfl rfl rfl rfl
    | asksOwn idle live own asked => exact nomatch asked.symm.trans hhandle
  obtain ⟨hm₂, htried⟩ := htries.run hE hon hm₁ hbegin hbetween halone hsilent
  have hplain₂ : ∀ u b, act = .asks u b → b.job.Plain S := by
    rintro u b rfl
    cases hanswer
  exact htried.alike hm hm₂ (hm₂.step hE hon hplain₂ hlast) hlast ht hanswer hfailed

section stubborn

/-- What the engine below does with a text, when a transaction is open or not and something may be written or not:
none when it refuses. -/
def heeds? (forbids : Bool) (sql : String) (e : Bool × Bool) : Option (Bool × Bool) :=
  if sql = "BEGIN DEFERRED" then if e.1 then none else some (true, e.2)
  else if sql = "COMMIT" ∨ sql = "ROLLBACK" then if e.1 then some (false, e.2) else none
  else if sql = "PRAGMA query_only = ON" then if forbids then some (e.1, true) else none
  else if sql = Connection.writableText then some (e.1, false)
  else some e

/-- An engine that knows only whether a transaction is open and whether nothing may be written. It may be one that
refuses to forbid writing. -/
def stubborn (forbids : Bool) : Engine (Bool × Bool) where
  compile _ _ env _ := (.done ⟨[], 0⟩, env)
  run _ sql _ _ env e := match heeds? forbids sql e with
    | some e' => ⟨.done [], env, e'⟩
    | none => ⟨.failed (.code 1 "refused"), env, e⟩
  changes _ := 0
  totalChanges _ := 0
  inTransaction e := e.1
  close _ := none

/-- What there is to see of it. -/
def stubbornSight : Sight (Bool × Bool) where
  queryOnly e := e.2
  isPlain sql := ∀ forbids e, heeds? forbids sql e = some e

variable {forbids : Bool} {sql : String} {P D F : Bool × Bool → Prop}

theorem runText_stubborn (handler : Option Watcher) (env : Env) (b : Workbench (Bool × Bool)) :
    (stubborn forbids).runText sql handler env b = match heeds? forbids sql b.engine with
      | some e => ⟨.done (), env, { b with engine := e }⟩
      | none => ⟨.failed (.code 1 "refused"), env, b⟩ := by
  unfold Engine.runText EngineTask.onWorkbench
  simp only [EngineTask.andThen, Engine.compiling, EngineTask.done, stubborn]
  cases heeds? forbids sql b.engine <;> rfl

theorem stubborn_leaves (h : ∀ e, P e → (∃ e', heeds? forbids sql e = some e' ∧ D e') ∨
    heeds? forbids sql e = none ∧ F e) :
    ((stubborn forbids).runText sql).Leaves (P ·.engine) (D ·.engine) (F ·.engine) := by
  intro handler env b hb
  rw [runText_stubborn]
  obtain ⟨e', hheeds, hd⟩ | ⟨hheeds, hf⟩ := h b.engine hb
  · rw [hheeds]
    exact hd
  · rw [hheeds]
    exact hf

theorem stubborn_ensures (h : ∀ e, P e → ∃ e', heeds? forbids sql e = some e' ∧ D e') :
    ((stubborn forbids).runText sql).Ensures (P ·.engine) (D ·.engine) := by
  intro handler env b hb
  obtain ⟨e', hheeds, hd⟩ := h b.engine hb
  rw [runText_stubborn, hheeds]
  exact ⟨⟨(), rfl⟩, hd⟩

theorem stubborn_finishes {q : Bool} (h : sql = "COMMIT" ∨ sql = "ROLLBACK") :
    ((stubborn forbids).runText sql).Leaves (Within (stubborn forbids) stubbornSight true q ·.engine)
      (Within (stubborn forbids) stubbornSight false q ·.engine)
      (Within (stubborn forbids) stubbornSight true q ·.engine) := by
  refine stubborn_leaves fun e he => ?_
  have hheeds : heeds? forbids sql e = if e.1 then some (false, e.2) else none := by
    obtain rfl | rfl := h <;> rfl
  rw [hheeds]
  cases hopen : e.1 with
  | true => exact .inl ⟨(false, e.2), rfl, within_of_closed rfl he.queryOnly⟩
  | false => exact .inr ⟨rfl, he⟩

theorem erratic_stubborn (forbids : Bool) : Erratic (stubborn forbids) stubbornSight where
  begin q := by
    refine stubborn_leaves fun e he => .inl ⟨(true, e.2), ?_, fun _ => rfl, he.queryOnly⟩
    exact if_neg (ne_true_of_eq_false he.closed)
  statement extent sql args may q hsql := by
    intro handler env e he
    have hrun : (stubborn forbids).run extent sql args handler env e = ⟨.done [], env, e⟩ := by
      simp only [stubborn, hsql forbids e]
    rw [hrun]
    exact he
  commit q := stubborn_finishes (.inl rfl)
  rollback q := stubborn_finishes (.inr rfl)
  rolledBack q := by
    refine stubborn_ensures (P := fun e => e.1 = true ∧ e.2 = q) fun e he => ?_
    exact ⟨(false, e.2), if_pos he.1, within_of_closed rfl he.2⟩
  writable may q := stubborn_ensures fun e he => ⟨(e.1, false), rfl, he.inTransaction, rfl⟩
  ping _ _ := rfl

theorem forbids_stubborn : Forbids (stubborn true) stubbornSight :=
  fun _ => stubborn_ensures fun e he => ⟨(e.1, true), rfl, he.inTransaction, rfl⟩

/-- Somebody asks to begin a transaction that can only read. -/
def readingBegin (ctx : Context) : Asked := ⟨.call (.begin 7 ⟨none, true⟩), ctx, 1⟩

/-- The transaction that was begun so by the first thread. -/
def reading : Holder := ⟨7, 0, true⟩

/-- The first thread begins a transaction that can only read, and lets go of it. -/
def readingActs : List Act :=
  [.asks 0 (readingBegin .background), .takes 0 (readingBegin .background), .runs 0 (readingBegin .background),
    .owns 0 ⟨readingBegin .background, .ok ()⟩, .drops 0 reading, .disowns 0 reading, .tidies 0 reading,
    .releases 0 reading none]

/-- After a transaction that was let go of the connection is clean, and a begin under a context that has ended
changes nothing. -/
theorem clean_of_stubborn :
    ∃ m m₁ m₂ m₃ r, Run (stubborn true) (ofConnection (.ofEngine (false, false)) ⟨0, []⟩) readingActs m ∧
      m.Clean (stubborn true) stubbornSight ∧ Step (stubborn true) m (.asks 1 (readingBegin ⟨some 0, none⟩)) m₁ ∧
      Run (stubborn true) m₁ [.takes 1 (readingBegin ⟨some 0, none⟩), .runs 1 (readingBegin ⟨some 0, none⟩)] m₂ ∧
      Step (stubborn true) m₂ (.leaves 1 (some r)) m₃ ∧ r.result.isOk = false ∧
      Alike (stubborn true) stubbornSight m m₃ := by
  have hruns : ∃ m m₁ m₂ m₃ r, Run (stubborn true) (ofConnection (.ofEngine (false, false)) ⟨0, []⟩) readingActs m ∧
      Step (stubborn true) m (.asks 1 (readingBegin ⟨some 0, none⟩)) m₁ ∧
      Run (stubborn true) m₁ [.takes 1 (readingBegin ⟨some 0, none⟩), .runs 1 (readingBegin ⟨some 0, none⟩)] m₂ ∧
      Step (stubborn true) m₂ (.leaves 1 (some r)) m₃ ∧ r.result.isOk = false ∧ m.live = [] ∧ m.doing 0 = .idle :=
    ⟨_, _, _, _, _, .cons (.asks rfl rfl) (.cons (.takes rfl rfl) (.cons (.begins rfl rfl rfl) (.cons (.owns rfl)
      (.cons (.drops rfl (List.mem_singleton_self reading) rfl) (.cons (.disowns rfl) (.cons (.tidies rfl)
      (.cons (.releases rfl) (.nil _)))))))), .asks rfl rfl,
      .cons (.takes rfl rfl) (.cons (.runs rfl rfl rfl) (.nil _)), .leaves rfl, rfl, rfl, rfl⟩
  obtain ⟨m, m₁, m₂, m₃, r, hrun, hasks, hbetween, hlast, hfailed, hlive, hidle⟩ := hruns
  have hplain : ∀ t a, Act.asks t a ∈ readingActs → a.job.Plain stubbornSight := by
    intro t a ha
    simp only [readingActs, List.mem_cons, Act.asks.injEq, reduceCtorEq, or_false, List.not_mem_nil] at ha
    rw [ha.2]
    trivial
  obtain ⟨hclean, hbegins⟩ := clean_without_transaction (erratic_stubborn true) forbids_stubborn rfl
    (fun b hb => by cases hb; exact within_of_closed rfl rfl) ⟨0, []⟩ hrun hplain
  have hout : ∀ t, (m.doing t).isOutside = true := by
    intro t
    have halone : Alone 0 readingActs := by simp [Alone, readingActs, Act.thread?]
    by_cases ht : t = 0
    · rw [ht, hidle]
      rfl
    · rw [doing_of_alone hrun halone ht]
      rfl
  have halone : Alone 1 [.takes 1 (readingBegin ⟨some 0, none⟩), .runs 1 (readingBegin ⟨some 0, none⟩)] := by
    simp [Alone, Act.thread?]
  have hsilent : Silent 1 [.takes 1 (readingBegin ⟨some 0, none⟩), .runs 1 (readingBegin ⟨some 0, none⟩)] := by
    simp [Silent, Act.answer?]
  exact ⟨m, m₁, m₂, m₃, r, hrun, hclean hlive hout, hasks, hbetween, hlast, hfailed,
    hbegins 1 _ 7 ⟨none, true⟩ m₁ _ m₂ _ m₃ r rfl hasks hbetween halone hsilent hlast rfl rfl hfailed⟩

/-- **When it is writing that cannot be forbidden, a transaction stays open.** The engine keeps to the laws, and a
begin of a transaction that can only read is answered by an error. Then no transaction is left and no thread does
anything, but the engine has a transaction open. -/
theorem left_open_of_stubborn :
    Erratic (stubborn false) stubbornSight ∧ ∃ e m,
      Run (stubborn false) (ofConnection (.ofEngine (false, false)) ⟨0, []⟩)
        [.asks 0 (readingBegin .background), .takes 0 (readingBegin .background),
          .runs 0 (readingBegin .background), .leaves 0 (some ⟨readingBegin .background, .error e⟩)] m ∧
      m.live = [] ∧ (∀ t, m.doing t = .idle) ∧ m.switches (stubborn false) stubbornSight = some (true, false) := by
  have hrun : ∃ e m, Run (stubborn false) (ofConnection (.ofEngine (false, false)) ⟨0, []⟩)
      [.asks 0 (readingBegin .background), .takes 0 (readingBegin .background),
        .runs 0 (readingBegin .background), .leaves 0 (some ⟨readingBegin .background, .error e⟩)] m ∧
      m.live = [] ∧ m.doing 0 = .idle ∧ m.switches (stubborn false) stubbornSight = some (true, false) :=
    ⟨_, _, .cons (.asks rfl rfl) (.cons (.takes rfl rfl) (.cons (.runs rfl rfl rfl) (.cons (.leaves rfl) (.nil _)))),
      rfl, rfl, rfl⟩
  obtain ⟨e, m, hrun, hlive, hidle, hopen⟩ := hrun
  refine ⟨erratic_stubborn false, e, m, hrun, hlive, fun t => ?_, hopen⟩
  by_cases ht : t = 0
  · rw [ht]
    exact hidle
  · exact doing_of_alone hrun (by simp [Alone, Act.thread?]) ht

end stubborn

end Shared

end DbAccess.Sqlite
