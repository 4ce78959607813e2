import DbAccess.Proofs.Hook.Interleaving
/-!
# Spans pair up

A call of a thread that nobody else looks at starts a span before a statement, and after one finishes the span that the
thread has started last, if there is one (`Responds`). Whatever other threads do at the same time, this is what a call
comes to (`responds_of_moves`). Calls around statements that are nested in each other finish every span they start, in
the call after the statement (`Nested.Spans`, `spans_of_nested`). `spans_pair_up` puts these together.
-/

namespace DbAccess

variable {σ ν ς : Type}

namespace Traced

/-! ### Calls of one thread -/

/-- What a call can make of the open spans of its thread, and what it asks of the tracer. -/
inductive Responds (thread : Nat) : List ς → Notice → List ς → List (SpanCall ς) → Prop where
  | before {stack : List ς} {ctx : Context} {sql : String} {args : List Value} (site : HookSite) (span : ς)
      (hsite : site.thread = thread) :
    Responds thread stack (.before ctx sql args) (span :: stack) [.start site ctx sql span]
  | after {rest : List ς} {span : ς} {ctx : Context} {sql : String} {args : List Value} {elapsed : Span}
      {err : Option Error} (site : HookSite) (hsite : site.thread = thread) :
    Responds thread (span :: rest) (.after ctx sql args elapsed err) rest [.finish site span err]
  | idle {ctx : Context} {sql : String} {args : List Value} {elapsed : Span} {err : Option Error} :
    Responds thread [] (.after ctx sql args elapsed err) [] []

variable {thread : Nat} {d d' : Desk ς} {stack : List ς} {n : Notice} {log : List (SpanCall ς)}

theorem unchanged_of_entryMoves {index : Nat} {hs : List (Hook σ ν)}
    (h : Desk.Runs thread d (entryMoves thread n index hs) d' log) : d' = d ∧ log = [] := by
  induction hs generalizing index log with
  | nil =>
      cases h
      exact ⟨rfl, rfl⟩
  | cons hook hs ih =>
      cases h with
      | cons hm hs =>
          cases hm
          exact ih hs

theorem responds_of_tracingMoves (h : Desk.Runs thread ⟨stack, none⟩ (tracingMoves thread n : List (Move σ ν)) d' log) :
    ∃ stack', d' = ⟨stack', none⟩ ∧ Responds thread stack n stack' log := by
  cases n with
  | before ctx sql args =>
      obtain _ | ⟨⟨⟩, _ | ⟨⟨⟩, _ | _⟩⟩ := h
      exact ⟨_, rfl, .before _ _ ‹_›⟩
  | after ctx sql args elapsed err =>
      cases stack with
      | nil =>
          obtain _ | ⟨⟨⟩, _ | ⟨⟨⟩, _ | _⟩⟩ := h
          exact ⟨_, rfl, .idle⟩
      | cons span rest =>
          obtain _ | ⟨⟨⟩, _ | ⟨⟨⟩, _ | _⟩⟩ := h
          exact ⟨_, rfl, .after _ ‹_›⟩

variable {c : Traced σ ν ς}

/-- The moves of a call come to what the call does. -/
theorem responds_of_moves (h : Desk.Runs thread ⟨stack, none⟩ (c.moves thread n) d' log) :
    ∃ stack', d' = ⟨stack', none⟩ ∧ Responds thread stack n stack' log := by
  obtain ⟨_, _, _, hfirst, hlater, rfl⟩ := h.split
  obtain ⟨_, _, _, hearlier, htracing, rfl⟩ := hfirst.split
  obtain ⟨rfl, rfl⟩ := unchanged_of_entryMoves hearlier
  obtain ⟨stack', rfl, hresponds⟩ := responds_of_tracingMoves htracing
  obtain ⟨rfl, rfl⟩ := unchanged_of_entryMoves hlater
  refine ⟨stack', rfl, ?_⟩
  rwa [List.nil_append, List.append_nil]

theorem hand_of_calls {calls : List Notice}
    (h : Desk.Runs thread ⟨stack, none⟩ (calls.flatMap (c.moves thread)) d' log) :
    d'.hand = none := by
  induction calls generalizing stack log with
  | nil =>
      cases h
      rfl
  | cons n calls ih =>
      rw [List.flatMap_cons] at h
      obtain ⟨_, _, _, hhere, hlater, rfl⟩ := h.split
      obtain ⟨stack', rfl, -⟩ := responds_of_moves hhere
      exact ih hlater

/-! ### Statements inside statements -/

/-- A statement as hooks are told about it. -/
structure Observed where
  ctx : Context
  sql : String
  args : List Value
  elapsed : Span
  err : Option Error

namespace Observed

/-- The call before the statement. -/
def before (o : Observed) : Notice := .before o.ctx o.sql o.args

/-- The call after the statement. -/
def after (o : Observed) : Notice := .after o.ctx o.sql o.args o.elapsed o.err

end Observed

/-- Statements one after another, each with those that are made while it runs. -/
inductive Nested where
  | done
  | statement (o : Observed) (inner next : Nested)

namespace Nested

/-- The calls around the statements. -/
def calls : Nested → List Notice
  | done => []
  | statement o inner next => o.before :: (inner.calls ++ o.after :: next.calls)

/-- What is asked of the tracer when every statement finishes its own span: the span that is started for it, after those
of the statements inside and with its own error. -/
inductive Spans (thread : Nat) : Nested → List (SpanCall ς) → Prop where
  | done : Spans thread done []
  | statement {o : Observed} {inner next : Nested} {log later : List (SpanCall ς)} (begins ends : HookSite) (span : ς)
      (hbegins : begins.thread = thread) (hends : ends.thread = thread) (hinner : Spans thread inner log)
      (hnext : Spans thread next later) :
    Spans thread (.statement o inner next)
      (.start begins o.ctx o.sql span :: (log ++ .finish ends span o.err :: later))

end Nested

/-- **Nested statements finish the spans that they start**, and leave the open spans as they were. -/
theorem spans_of_nested {n : Nested}
    (h : Desk.Runs thread ⟨stack, none⟩ (n.calls.flatMap (c.moves thread)) d' log) :
    d' = ⟨stack, none⟩ ∧ n.Spans thread log := by
  induction n generalizing stack d' log with
  | done =>
      cases h
      exact ⟨rfl, .done⟩
  | statement o inner next ihInner ihNext =>
      rw [Nested.calls, List.flatMap_cons, List.flatMap_append, List.flatMap_cons] at h
      obtain ⟨_, _, _, hbefore, hrest, rfl⟩ := h.split
      obtain ⟨_, _, _, hinner, hrest', rfl⟩ := hrest.split
      obtain ⟨_, _, _, hafter, hnext, rfl⟩ := hrest'.split
      obtain ⟨_, rfl, ⟨begins, span, hbegins⟩⟩ := responds_of_moves hbefore
      obtain ⟨rfl, hspans⟩ := ihInner hinner
      obtain ⟨_, rfl, hfinish⟩ := responds_of_moves hafter
      obtain - | ⟨ends, hends⟩ | - := hfinish
      obtain ⟨rfl, hlater⟩ := ihNext hnext
      exact ⟨rfl, .statement begins ends span hbegins hends hspans hlater⟩

/-! ### Any number of threads -/

/-- The moves are those of calls, on each thread one after another; the last of a thread may be under way. -/
def Plays (c : Traced σ ν ς) (ms : List (Move σ ν)) : Prop :=
  ∀ thread, ∃ calls : List Notice, own thread ms <+: calls.flatMap (c.moves thread)

/-- The thread is not in the middle of a call. -/
def Rests (c : Traced σ ν ς) (thread : Nat) (ms : List (Move σ ν)) : Prop :=
  ∃ calls : List Notice, own thread ms = calls.flatMap (c.moves thread)

theorem own_append (thread : Nat) (ms ms' : List (Move σ ν)) :
    own thread (ms ++ ms') = own thread ms ++ own thread ms' :=
  List.filter_append ..

theorem Plays.left {ms ms' : List (Move σ ν)} (h : c.Plays (ms ++ ms')) : c.Plays ms := by
  intro thread
  obtain ⟨calls, hcalls⟩ := h thread
  rw [own_append] at hcalls
  exact ⟨calls, (List.prefix_append _ _).trans hcalls⟩

theorem knows_entryMoves (index : Nat) {hs : List (Hook σ ν)} (hhs : ∀ h ∈ hs, h ∈ c.earlier ++ c.later) :
    ∀ m ∈ entryMoves thread n index hs, c.Knows m := by
  induction hs generalizing index with
  | nil => nofun
  | cons h hs ih =>
      intro m hm
      obtain rfl | hm := List.mem_cons.mp hm
      · exact hhs h List.mem_cons_self
      · exact ih (index + 1) (fun h' hh' => hhs h' (List.mem_cons_of_mem h hh')) m hm

theorem knows_moves : ∀ m ∈ c.moves thread n, c.Knows m := by
  intro m hm
  rw [moves, List.mem_append, List.mem_append] at hm
  obtain (hm | hm) | hm := hm
  · exact knows_entryMoves 0 (fun h hh => List.mem_append_left _ hh) m hm
  · cases n <;> simp only [tracingMoves, List.mem_cons, List.not_mem_nil, or_false] at hm <;>
      obtain rfl | rfl := hm <;> trivial
  · exact knows_entryMoves _ (fun h hh => List.mem_append_right _ hh) m hm

theorem thread?_of_mem_moves : ∀ m ∈ c.moves thread n, m.thread? = some thread := by
  have hentries : ∀ (hs : List (Hook σ ν)) (index : Nat), ∀ m ∈ entryMoves thread n index hs,
      m.thread? = some thread := by
    intro hs
    induction hs with
    | nil => nofun
    | cons h hs ih =>
        intro index m hm
        obtain rfl | hm := List.mem_cons.mp hm
        · rfl
        · exact ih (index + 1) m hm
  intro m hm
  rw [moves, List.mem_append, List.mem_append] at hm
  obtain (hm | hm) | hm := hm
  · exact hentries _ _ m hm
  · cases n <;> simp only [tracingMoves, List.mem_cons, List.not_mem_nil, or_false] at hm <;>
      obtain rfl | rfl := hm <;> rfl
  · exact hentries _ _ m hm

theorem Plays.knows {ms : List (Move σ ν)} (h : c.Plays ms) : ∀ m ∈ ms, c.Knows m := by
  intro m hm
  cases hthread : m.thread? with
  | none => cases m <;> trivial
  | some thread =>
      obtain ⟨calls, hcalls⟩ := h thread
      have hown : m ∈ own thread ms := List.mem_filter.mpr ⟨hm, by simpa using hthread⟩
      obtain ⟨n, -, hmove⟩ := List.mem_flatMap.mp (hcalls.subset hown)
      exact knows_moves m hmove

/-- The beginning: no span is open, and nobody has any in hand. -/
def Scene.initial (env : Env) (s : σ) : Scene σ ς := ⟨env, s, fun _ => none⟩

variable (env : Env) {s : σ} (hs : c.place.get s = []) {ms ms' : List (Move σ ν)}
include hs

theorem desk_initial (thread : Nat) : c.desk (.initial env s) thread = ⟨[], none⟩ := by
  simp [desk, Scene.initial, hs, OpenSpans.stack]

theorem desk_of_rests (hms : c.Plays ms) (h : c.Rests thread ms) :
    c.desk (c.run ms (.initial env s)).1 thread =
      ⟨(c.place.get (c.run ms (.initial env s)).1.state).stack thread, none⟩ := by
  have hruns := desk_run hms.knows (.initial env s) thread
  obtain ⟨calls, hcalls⟩ := h
  rw [desk_initial env hs, hcalls] at hruns
  rw [desk]
  exact congrArg (Desk.mk _) (hand_of_calls hruns)

theorem runs_of_rests (hms : c.Plays (ms ++ ms')) (h : c.Rests thread ms) :
    let r := c.run (ms ++ ms') (.initial env s)
    let r' := c.run ms (.initial env s)
    ∃ log, spansOn thread r.2 = spansOn thread r'.2 ++ log ∧
      Desk.Runs thread ⟨(c.place.get r'.1.state).stack thread, none⟩ (own thread ms') (c.desk r.1 thread) log := by
  have hruns := desk_run (fun m hm => hms.knows m (List.mem_append_right ms hm))
    (c.run ms (.initial env s)).1 thread
  rw [desk_of_rests env hs hms.left h] at hruns
  dsimp only
  rw [run_append, spansOn_append]
  exact ⟨_, rfl, hruns⟩

/-- What nested statements of a thread ask of the tracer, when it has made all calls around them. -/
theorem spans_of_own (hms : ∀ m ∈ ms, c.Knows m) {n : Nested}
    (h : own thread ms = n.calls.flatMap (c.moves thread)) :
    let r := c.run ms (.initial env s)
    n.Spans thread (spansOn thread r.2) ∧ (c.place.get r.1.state).stack thread = [] := by
  have hruns := desk_run hms (.initial env s) thread
  rw [desk_initial env hs, h] at hruns
  obtain ⟨hdesk, hspans⟩ := spans_of_nested hruns
  exact ⟨hspans, congrArg Desk.stack hdesk⟩

/-- While a thread makes calls around nested statements, it has asked of the tracer a part of what they can ask: let the
thread go on by itself until they are done. -/
theorem spans_of_part (hms : c.Plays ms) {n : Nested}
    (h : own thread ms <+: n.calls.flatMap (c.moves thread)) :
    ∃ log, n.Spans thread log ∧ spansOn thread (c.run ms (.initial env s)).2 <+: log := by
  obtain ⟨rest, hrest⟩ := h
  have hmoves : ∀ m ∈ rest, ∃ notice, m ∈ c.moves thread notice := by
    intro m hm
    obtain ⟨notice, -, hmem⟩ := List.mem_flatMap.mp (hrest ▸ List.mem_append_right _ hm)
    exact ⟨notice, hmem⟩
  have hknows : ∀ m ∈ ms ++ rest, c.Knows m := by
    intro m hm
    obtain hm | hm := List.mem_append.mp hm
    · exact hms.knows m hm
    · obtain ⟨notice, hmem⟩ := hmoves m hm
      exact knows_moves m hmem
  have hown : own thread (ms ++ rest) = n.calls.flatMap (c.moves thread) := by
    have hself : own thread rest = rest := List.filter_eq_self.mpr fun m hm => by
      obtain ⟨notice, hmem⟩ := hmoves m hm
      simpa using thread?_of_mem_moves m hmem
    rw [own_append, hself, hrest]
  obtain ⟨hspans, -⟩ := spans_of_own env hs hknows hown
  rw [run_append, spansOn_append] at hspans
  exact ⟨_, hspans, List.prefix_append _ _⟩

omit hs

/-- **Spans pair up across threads**, however their moves lie between each other, and whatever happens to the clock and
the signals in between. With nobody in between, the moves of a call are what the chain does. A thread that makes the
calls around a statement and around those nested in it starts a span for the statement and finishes this span, with the
statement's error and after those of the nested ones, whatever it has done before, and is left with the open spans that
it had. While it makes calls around nested statements, it asks of the tracer what these statements do, in their order
and nothing else, and when it has made them, all of it. When every thread has made such calls, the table of open spans
is empty. A call after a statement, on a thread without open spans, finishes none, whatever has been called before. -/
theorem spans_pair_up (c : Traced σ ν ς) {s : σ} (hs : c.place.get s = []) (env : Env) {ms : List (Move σ ν)}
    (hms : c.Plays ms) :
    let r := c.run ms (.initial env s)
    let openSpans (w : Scene σ ς) (thread : Nat) := (c.place.get w.state).stack thread
    (∀ thread n w, w.hand thread = none →
      let alone := c.run (c.moves thread n) w
      let told := c.chain.tell ⟨w.env, thread⟩ n w.state
      alone.1 = { w with env := told.env, state := told.state } ∧
        alone.2.flatMap Happening.events = told.events) ∧
    (∀ before after thread (o : Observed) (inner : Nested), ms = before ++ after → c.Rests thread before →
      own thread after = (o.before :: (inner.calls ++ [o.after])).flatMap (c.moves thread) →
      let r' := c.run before (.initial env s)
      (∃ begins ends span log, begins.thread = thread ∧ ends.thread = thread ∧ inner.Spans thread log ∧
        spansOn thread r.2 = spansOn thread r'.2 ++
          .start begins o.ctx o.sql span :: (log ++ [.finish ends span o.err])) ∧
      openSpans r.1 thread = openSpans r'.1 thread) ∧
    (∀ thread (n : Nested),
      (own thread ms <+: n.calls.flatMap (c.moves thread) →
        ∃ log, n.Spans thread log ∧ spansOn thread r.2 <+: log) ∧
      (own thread ms = n.calls.flatMap (c.moves thread) → n.Spans thread (spansOn thread r.2))) ∧
    ((∀ thread, ∃ n : Nested, own thread ms = n.calls.flatMap (c.moves thread)) → c.place.get r.1.state = []) ∧
    ∀ before after thread ctx sql args elapsed err, ms = before ++ after → c.Rests thread before →
      own thread after = c.moves thread (.after ctx sql args elapsed err) →
      let r' := c.run before (.initial env s)
      openSpans r'.1 thread = [] →
      spansOn thread r.2 = spansOn thread r'.2 ∧ openSpans r.1 thread = [] := by
  intro r openSpans
  refine ⟨fun thread n w h => c.run_moves thread n h, ?_,
    fun thread n => ⟨spans_of_part env hs hms, fun hown => (spans_of_own env hs hms.knows hown).1⟩, fun hdone => ?_, ?_⟩
  · rintro before after thread o inner rfl hrests hafter r'
    have hstatement : o.before :: (inner.calls ++ [o.after]) = (Nested.statement o inner .done).calls := rfl
    obtain ⟨log, hlog, hruns⟩ := runs_of_rests env hs hms hrests
    rw [hafter, hstatement] at hruns
    obtain ⟨hdesk, hspans⟩ := spans_of_nested hruns
    refine ⟨?_, congrArg Desk.stack hdesk⟩
    obtain _ | ⟨begins, ends, span, hbegins, hends, hinner, ⟨⟩⟩ := hspans
    exact ⟨begins, ends, span, _, hbegins, hends, hinner, hlog⟩
  · refine (tidy_run hms.knows ?_).eq_nil fun thread => ?_
    · rw [Scene.initial, hs]
      nofun
    · obtain ⟨n, hown⟩ := hdone thread
      exact (spans_of_own env hs hms.knows hown).2
  · rintro before after thread ctx sql args elapsed err rfl hrests hafter r' hnone
    obtain ⟨log, hlog, hruns⟩ := runs_of_rests env hs hms hrests
    rw [hafter, show (c.place.get _).stack thread = [] from hnone] at hruns
    obtain ⟨stack', hdesk, ⟨⟩⟩ := responds_of_moves hruns
    exact ⟨hlog.trans (List.append_nil _), congrArg Desk.stack hdesk⟩

section turns

/-- A tracer that numbers the spans that it starts: the state is the number of the next one, beside the open spans. -/
def numbering : Tracer (Nat × OpenSpans Nat) Nat Unit where
  start site _ _ s := ⟨site.env, (s.1 + 1, s.2), [], .ok s.1⟩
  finish site _ _ s := ⟨site.env, s, [], none⟩

/-- A hook that panics at every call stands before a tracing hook with numbered spans. -/
def nervous : Traced (Nat × OpenSpans Nat) Unit Nat where
  tracer := numbering
  place := ⟨(·.2), fun table s => (s.1, table)⟩
  earlier := [.panicking (fun _ => true) .other]
  later := []
  span _ _ _ s := s.1
  span_start _ _ _ _ := rfl
  panic_finish _ _ _ _ := rfl
  get_set _ _ := rfl
  get_tell h hh _ _ _ := by
    obtain rfl := List.mem_singleton.mp hh
    rfl
  get_start _ _ _ _ := rfl
  get_finish _ _ _ _ := rfl

/-- A statement with this error, if any. -/
def observed (err : Option Error) : Observed := ⟨.background, "SELECT 1", [], .ofNanos 0, err⟩

/-- A thread makes a statement inside another one, which fails. Another thread makes two, one after the other. -/
def twoThreads : Nat → Nested
  | 0 => .statement (observed (some .transactionClosed)) (.statement (observed none) .done .done) .done
  | 1 => .statement (observed none) .done (.statement (observed none) .done .done)
  | _ => .done

/-- They take turns at every move, and time passes in between. -/
def turns : List (Move (Nat × OpenSpans Nat) Unit) :=
  let moves (thread : Nat) := (twoThreads thread).calls.flatMap (nervous.moves thread)
  (List.zipWith (fun m m' => [m, .elsewhere Env.tick, m']) (moves 0) (moves 1)).flatten

theorem own_turns : ∀ thread, own thread turns = (twoThreads thread).calls.flatMap (nervous.moves thread)
  | 0 => rfl
  | 1 => rfl
  | _ + 2 => rfl

/-- What is asked of a tracer, without where. -/
def SpanCall.mark : SpanCall Nat → Nat × Option Bool
  | start _ _ _ span => (span, none)
  | finish _ span err => (span, some err.isSome)

/-- All statements look alike, and still each thread finishes its own spans, the inner one first, and none is left. -/
theorem spans_pair_up_of_turns :
    let r := nervous.run turns (.initial ⟨0, []⟩ (0, []))
    nervous.Plays turns ∧
      (twoThreads 0).Spans 0 (spansOn 0 r.2) ∧ (twoThreads 1).Spans 1 (spansOn 1 r.2) ∧
      (spansOn 0 r.2).map SpanCall.mark = [(0, none), (2, none), (2, some false), (0, some true)] ∧
      (spansOn 1 r.2).map SpanCall.mark = [(1, none), (1, some false), (3, none), (3, some false)] ∧
      nervous.place.get r.1.state = [] := by
  intro r
  have hplays : nervous.Plays turns := fun thread => by
    refine ⟨(twoThreads thread).calls, [], ?_⟩
    rw [List.append_nil, own_turns]
  obtain ⟨-, -, hnested, hempty, -⟩ := spans_pair_up nervous (s := (0, [])) rfl ⟨0, []⟩ hplays
  exact ⟨hplays, (hnested 0 (twoThreads 0)).2 (own_turns 0), (hnested 1 (twoThreads 1)).2 (own_turns 1), rfl, rfl,
    hempty fun thread => ⟨twoThreads thread, own_turns thread⟩⟩

end turns

end Traced

end DbAccess
