import DbAccess.Hook.Builtin
import Mathlib.Logic.Function.Basic
/-!
# Threads that tell one chain

Threads that tell a chain at the same time get in between each other's moves. A move is what a thread does without
being interrupted: it tells an entry, or, where the entry is a tracing hook, it starts a span, has the table of open
spans to itself once, or finishes a span. `Traced.moves` are the moves of one call. Made in a row they are what the
chain does (`run_moves`).

A thread looks at its own spans only, and nobody else touches these. Which span the tracer starts may depend on
everything, but what becomes of a span on the `Desk` of its thread depends on the moves of this thread only
(`desk_run`).
-/

namespace DbAccess

variable {σ ν ς : Type}

/-! ### The table of open spans -/

namespace OpenSpans

variable (table : OpenSpans ς) (thread : Nat) (spans : List ς)

theorem lookup_filter_ne {t : Nat} (h : t ≠ thread) :
    (table.filter fun e => e.1 != thread).lookup t = table.lookup t := by
  induction table with
  | nil => rfl
  | cons e table ih =>
      by_cases he : e.1 = thread
      · have hne : (t == e.1) = false := by simpa [he] using h
        rw [List.filter_cons_of_neg (by simp [he]), ih, List.lookup_cons, hne]
      · rw [List.filter_cons_of_pos (by simpa using he), List.lookup_cons, List.lookup_cons, ih]

@[simp] theorem stack_setStack_self : (table.setStack thread spans).stack thread = spans := by
  have hnone : (table.filter fun e => e.1 != thread).lookup thread = none :=
    List.lookup_eq_none_iff.mpr fun e he => by
      have hne := (List.mem_filter.mp he).2
      simpa [bne_comm] using hne
  cases spans <;> simp [setStack, stack, hnone]

theorem stack_setStack_of_ne {t : Nat} (h : t ≠ thread) : (table.setStack thread spans).stack t = table.stack t := by
  have hne : (t == thread) = false := by simpa using h
  cases spans <;> simp [setStack, stack, List.lookup_cons, hne, lookup_filter_ne table thread h]

/-- Only threads that have open spans are in the table. -/
def Tidy : Prop := ∀ e ∈ table, e.2 ≠ []

variable {table thread spans}

theorem Tidy.setStack (h : table.Tidy) : (table.setStack thread spans).Tidy := by
  have hothers : ∀ e ∈ table.filter fun e => e.1 != thread, e.2 ≠ [] := fun e he => h e (List.mem_filter.mp he).1
  cases spans with
  | nil => exact hothers
  | cons span rest =>
      intro e he
      obtain rfl | he := List.mem_cons.mp he
      · exact List.cons_ne_nil span rest
      · exact hothers e he

theorem Tidy.eq_nil (h : table.Tidy) (hnone : ∀ t, table.stack t = []) : table = [] := by
  cases table with
  | nil => rfl
  | cons e rest =>
      have hself : stack (e :: rest) e.1 = e.2 := by
        obtain ⟨t, spans⟩ := e
        simp [stack]
      exact absurd (hself.symm.trans (hnone e.1)) (h e List.mem_cons_self)

end OpenSpans

/-! ### Chains with a tracing hook -/

/-- A chain that a tracing hook is an entry of. Its tracer returns whenever it is asked, and may keep a state of its
own. The other entries do what they like, and panic when they like, but the table of open spans is neither theirs nor
the tracer's. -/
structure Traced (σ ν ς : Type) where
  tracer : Tracer σ ς ν
  place : Place σ (OpenSpans ς)
  earlier : List (Hook σ ν)
  later : List (Hook σ ν)
  /-- The span that the tracer starts. -/
  span : HookSite → Context → String → σ → ς
  span_start : ∀ site ctx sql s, (tracer.start site ctx sql s).span = .ok (span site ctx sql s)
  panic_finish : ∀ site span err s, (tracer.finish site span err s).panic = none
  get_set : ∀ table s, place.get (place.set table s) = table
  get_tell : ∀ h ∈ earlier ++ later, ∀ site n s, place.get (h.tell site n s).state = place.get s
  get_start : ∀ site ctx sql s, place.get (tracer.start site ctx sql s).state = place.get s
  get_finish : ∀ site span err s, place.get (tracer.finish site span err s).state = place.get s

namespace Traced

/-- The chain. -/
def chain (c : Traced σ ν ς) : HookChain σ ν := ⟨c.earlier ++ .tracing c.tracer c.place :: c.later⟩

/-! ### Moves -/

/-- What is done without being interrupted. The table of open spans is locked while a span is put on a stack or taken
from it, but not while one is started or finished. -/
inductive Move (σ ν : Type) where
  /-- Tells an entry other than the tracing hook. -/
  | entry (index : Nat) (h : Hook σ ν) (thread : Nat) (n : Notice)
  | start (thread : Nat) (ctx : Context) (sql : String)
  /-- Puts the span in hand on the thread's stack. -/
  | push (thread : Nat)
  /-- Takes a span from the thread's stack in hand. -/
  | pop (thread : Nat)
  | finish (thread : Nat) (err : Option Error)
  /-- Something happens to the clock and the signals, and none of the threads does it. -/
  | elsewhere (change : Env → Env)

/-- The thread that makes the move. -/
def Move.thread? : Move σ ν → Option Nat
  | entry _ _ thread _ | start thread .. | push thread | pop thread | finish thread _ => some thread
  | elsewhere _ => none

/-- The moves of a call at the tracing hook. -/
def tracingMoves (thread : Nat) : Notice → List (Move σ ν)
  | .before ctx sql _ => [.start thread ctx sql, .push thread]
  | .after _ _ _ _ err => [.pop thread, .finish thread err]

/-- The moves of a call at entries from an index on. -/
def entryMoves (thread : Nat) (n : Notice) : Nat → List (Hook σ ν) → List (Move σ ν)
  | _, [] => []
  | index, h :: hs => .entry index h thread n :: entryMoves thread n (index + 1) hs

/-- The moves of a call. -/
def moves (c : Traced σ ν ς) (thread : Nat) (n : Notice) : List (Move σ ν) :=
  entryMoves thread n 0 c.earlier ++ tracingMoves thread n ++ entryMoves thread n (c.earlier.length + 1) c.later

/-- What is asked of a tracer, and the span that it starts. -/
inductive SpanCall (ς : Type) where
  | start (site : HookSite) (ctx : Context) (sql : String) (span : ς)
  | finish (site : HookSite) (span : ς) (err : Option Error)

/-- The thread that asks it. -/
def SpanCall.thread : SpanCall ς → Nat
  | start site .. | finish site .. => site.thread

/-- Something that happens in a move: the tracer is asked and leaves something, or another entry or the chain itself
does. -/
inductive Happening (ς ν : Type) where
  | span (call : SpanCall ς) (events : List (HookEvent ν))
  | other (e : HookEvent ν)

/-- What somebody who follows the chain sees of it. -/
def Happening.events : Happening ς ν → List (HookEvent ν)
  | span _ events => events
  | other e => [e]

/-- What is asked of the tracer, on one thread. -/
def Happening.spanOn? (thread : Nat) : Happening ς ν → Option (SpanCall ς)
  | span call _ => if call.thread = thread then some call else none
  | other _ => none

/-- What is asked of the tracer on a thread, in order. -/
def spansOn (thread : Nat) (log : List (Happening ς ν)) : List (SpanCall ς) :=
  log.filterMap (Happening.spanOn? thread)

/-- Clock and signals, the state of the hooks, and the span that each thread has in hand. -/
structure Scene (σ ς : Type) where
  env : Env
  state : σ
  hand : Nat → Option ς

/-- The thread has this in hand. -/
def Scene.hold (w : Scene σ ς) (thread : Nat) (span? : Option ς) : Scene σ ς :=
  { w with hand := Function.update w.hand thread span? }

/-- The scene that hooks leave. -/
def Scene.left (w : Scene σ ς) (env : Env) (s : σ) : Scene σ ς := { w with env := env, state := s }

/-- Makes a move. -/
def make (c : Traced σ ν ς) (w : Scene σ ς) : Move σ ν → Scene σ ς × List (Happening ς ν)
  | .entry index h thread n =>
    let r := h.tell ⟨w.env, thread⟩ n w.state
    (w.left r.env r.state, (r.events ++ HookChain.panicReport n.moment index r.panic).map .other)
  | .start thread ctx sql =>
    let site : HookSite := ⟨w.env, thread⟩
    let span := c.span site ctx sql w.state
    let opened := c.tracer.start site ctx sql w.state
    ((w.left opened.env opened.state).hold thread (some span), [.span (.start site ctx sql span) opened.events])
  | .push thread =>
    match w.hand thread with
    | none => (w, [])
    | some span =>
      let table := c.place.get w.state
      let table := table.setStack thread (span :: table.stack thread)
      ((w.left w.env (c.place.set table w.state)).hold thread none, [])
  | .pop thread =>
    let table := c.place.get w.state
    match table.stack thread with
    | [] => (w.hold thread none, [])
    | span :: rest =>
      let table := table.setStack thread rest
      ((w.left w.env (c.place.set table w.state)).hold thread (some span), [])
  | .finish thread err =>
    match w.hand thread with
    | none => (w, [])
    | some span =>
      let site : HookSite := ⟨w.env, thread⟩
      let r := c.tracer.finish site span err w.state
      ((w.left r.env r.state).hold thread none, [.span (.finish site span err) r.events])
  | .elsewhere change => (w.left (change w.env) w.state, [])

/-- Makes moves one after another. -/
def run (c : Traced σ ν ς) : List (Move σ ν) → Scene σ ς → Scene σ ς × List (Happening ς ν)
  | [], w => (w, [])
  | m :: ms, w =>
    let here := c.make w m
    let later := c.run ms here.1
    (later.1, here.2 ++ later.2)

variable (c : Traced σ ν ς)

@[simp] theorem run_nil (w : Scene σ ς) : c.run [] w = (w, []) := rfl

@[simp] theorem run_cons (m : Move σ ν) (ms : List (Move σ ν)) (w : Scene σ ς) :
    c.run (m :: ms) w =
      ((c.run ms (c.make w m).1).1, (c.make w m).2 ++ (c.run ms (c.make w m).1).2) := rfl

theorem run_append (ms ms' : List (Move σ ν)) (w : Scene σ ς) :
    c.run (ms ++ ms') w =
      ((c.run ms' (c.run ms w).1).1, (c.run ms w).2 ++ (c.run ms' (c.run ms w).1).2) := by
  induction ms generalizing w with
  | nil => rfl
  | cons m ms ih => rw [List.cons_append, run_cons, ih, run_cons, List.append_assoc]

/-! ### A call that nobody gets in between of -/

theorem run_entryMoves (thread : Nat) (n : Notice) (index : Nat) (hs : List (Hook σ ν)) (w : Scene σ ς) :
    c.run (entryMoves thread n index hs) w =
      let r := HookChain.tellFrom ⟨w.env, thread⟩ n index hs w.state
      (w.left r.env r.state, r.events.map .other) := by
  induction hs generalizing index w with
  | nil => rfl
  | cons h hs ih =>
      rw [entryMoves, run_cons, ih]
      simp [make, HookChain.tellFrom, Scene.left, HookSite.within]

@[simp] theorem hand_hold_self (w : Scene σ ς) (thread : Nat) (span? : Option ς) :
    (w.hold thread span?).hand thread = span? := Function.update_self ..

theorem hand_hold_of_ne (w : Scene σ ς) {thread t : Nat} (h : t ≠ thread) (span? : Option ς) :
    (w.hold thread span?).hand t = w.hand t := Function.update_of_ne h ..

@[simp] theorem state_hold (w : Scene σ ς) (thread : Nat) (span? : Option ς) :
    (w.hold thread span?).state = w.state := rfl

@[simp] theorem env_hold (w : Scene σ ς) (thread : Nat) (span? : Option ς) :
    (w.hold thread span?).env = w.env := rfl

@[simp] theorem state_left (w : Scene σ ς) (env : Env) (s : σ) : (w.left env s).state = s := rfl

@[simp] theorem env_left (w : Scene σ ς) (env : Env) (s : σ) : (w.left env s).env = env := rfl

@[simp] theorem hand_left (w : Scene σ ς) (env : Env) (s : σ) : (w.left env s).hand = w.hand := rfl

@[simp] theorem left_hold_left (w : Scene σ ς) (thread : Nat) (span? : Option ς) (env env' : Env) (s s' : σ) :
    ((w.left env s).hold thread span?).left env' s' = (w.left env' s').hold thread span? := rfl

@[simp] theorem hold_hold (w : Scene σ ς) (thread : Nat) (span? span?' : Option ς) :
    (w.hold thread span?).hold thread span?' = w.hold thread span?' := by
  simp only [Scene.hold, Function.update_idem]

theorem hold_none {w : Scene σ ς} {thread : Nat} (h : w.hand thread = none) : w.hold thread none = w := by
  rw [Scene.hold, ← h, Function.update_eq_self]

theorem run_tracingMoves (thread : Nat) (n : Notice) {w : Scene σ ς} (h : w.hand thread = none) :
    let here := c.run (tracingMoves thread n) w
    let r := (Hook.tracing c.tracer c.place).tell ⟨w.env, thread⟩ n w.state
    here.1 = w.left r.env r.state ∧ here.2.flatMap Happening.events = r.events ∧ r.panic = none := by
  have hidle (env : Env) (s : σ) : (w.left env s).hold thread none = w.left env s := hold_none h
  cases n with
  | before ctx sql args =>
      have hspan := c.span_start ⟨w.env, thread⟩ ctx sql w.state
      simp [tracingMoves, make, hidle, Hook.tracing, Hook.tell, Happening.events, hspan]
  | after ctx sql args elapsed err =>
      cases hstack : (c.place.get w.state).stack thread with
      | nil =>
          have hsame : w.left w.env w.state = w := rfl
          simp [tracingMoves, make, hstack, hold_none h, h, Hook.tracing, Hook.tell, hsame]
      | cons span rest =>
          simp [tracingMoves, make, hstack, hidle, Hook.tracing, Hook.tell, Happening.events, c.panic_finish]

theorem tellFrom_append (site : HookSite) (n : Notice) (index : Nat) (hs hs' : List (Hook σ ν)) (s : σ) :
    HookChain.tellFrom site n index (hs ++ hs') s =
      let here := HookChain.tellFrom site n index hs s
      let later := HookChain.tellFrom (site.within here.env) n (index + hs.length) hs' here.state
      ⟨later.env, later.state, here.events ++ later.events⟩ := by
  induction hs generalizing index site s with
  | nil => rfl
  | cons h hs ih =>
      rw [List.cons_append, HookChain.tellFrom, ih]
      simp [HookChain.tellFrom, HookSite.within, Nat.add_assoc, Nat.add_comm 1]

theorem flatMap_events_other (es : List (HookEvent ν)) :
    (es.map .other : List (Happening ς ν)).flatMap Happening.events = es := by
  simp [List.flatMap_map, Happening.events]

/-- **A call that nobody gets in between of** is what the chain does: every entry is told once, in order, whichever of
them panic. -/
theorem run_moves (thread : Nat) (n : Notice) {w : Scene σ ς} (h : w.hand thread = none) :
    let here := c.run (c.moves thread n) w
    let r := c.chain.tell ⟨w.env, thread⟩ n w.state
    here.1 = w.left r.env r.state ∧ here.2.flatMap Happening.events = r.events := by
  let r := HookChain.tellFrom ⟨w.env, thread⟩ n 0 c.earlier w.state
  obtain ⟨hscene, hevents, hpanic⟩ := c.run_tracingMoves thread n (w := w.left r.env r.state) h
  dsimp only
  rw [moves, run_append, run_append, c.run_entryMoves thread n 0 c.earlier]
  dsimp only
  rw [hscene, run_entryMoves, chain, HookChain.tell, tellFrom_append]
  dsimp only [r] at hevents hpanic ⊢
  rw [HookChain.tellFrom, List.flatMap_append, List.flatMap_append, flatMap_events_other, flatMap_events_other,
    hevents]
  simp only [env_left, state_left, HookSite.within] at hpanic ⊢
  simp [HookChain.panicReport, hpanic, Scene.left]

/-! ### What is a thread's own -/

/-- What a thread has: its open spans, the last one opened first, and the span in hand. -/
structure Desk (ς : Type) where
  stack : List ς
  hand : Option ς

/-- What a thread has in a scene. -/
def desk (w : Scene σ ς) (thread : Nat) : Desk ς := ⟨(c.place.get w.state).stack thread, w.hand thread⟩

/-- What a move of the thread can make of what the thread has, and what it asks of the tracer. Which span is started is
open. -/
inductive Desk.Makes (thread : Nat) : Desk ς → Move σ ν → Desk ς → List (SpanCall ς) → Prop where
  | entry {d : Desk ς} {index : Nat} {h : Hook σ ν} {n : Notice} : Makes thread d (.entry index h thread n) d []
  | start {d : Desk ς} {ctx : Context} {sql : String} (site : HookSite) (span : ς) (hsite : site.thread = thread) :
    Makes thread d (.start thread ctx sql) ⟨d.stack, some span⟩ [.start site ctx sql span]
  | push {stack : List ς} {span : ς} : Makes thread ⟨stack, some span⟩ (.push thread) ⟨span :: stack, none⟩ []
  | pushNothing {stack : List ς} : Makes thread ⟨stack, none⟩ (.push thread) ⟨stack, none⟩ []
  | pop {rest : List ς} {span : ς} {hand : Option ς} :
    Makes thread ⟨span :: rest, hand⟩ (.pop thread) ⟨rest, some span⟩ []
  | popNothing {hand : Option ς} : Makes thread ⟨[], hand⟩ (.pop thread) ⟨[], none⟩ []
  | finish {stack : List ς} {span : ς} {err : Option Error} (site : HookSite) (hsite : site.thread = thread) :
    Makes thread ⟨stack, some span⟩ (.finish thread err) ⟨stack, none⟩ [.finish site span err]
  | finishNothing {stack : List ς} {err : Option Error} :
    Makes thread ⟨stack, none⟩ (.finish thread err) ⟨stack, none⟩ []

/-- What moves of the thread, one after another, can make of what it has. -/
inductive Desk.Runs (thread : Nat) : Desk ς → List (Move σ ν) → Desk ς → List (SpanCall ς) → Prop where
  | nil {d : Desk ς} : Runs thread d [] d []
  | cons {d d' d'' : Desk ς} {m : Move σ ν} {ms : List (Move σ ν)} {here later : List (SpanCall ς)}
      (h : Makes thread d m d' here) (hs : Runs thread d' ms d'' later) : Runs thread d (m :: ms) d'' (here ++ later)

theorem Desk.Runs.split {thread : Nat} {ms ms' : List (Move σ ν)} {d d'' : Desk ς} {log : List (SpanCall ς)}
    (h : Runs thread d (ms ++ ms') d'' log) :
    ∃ d' here later, Runs thread d ms d' here ∧ Runs thread d' ms' d'' later ∧ log = here ++ later := by
  induction ms generalizing d log with
  | nil => exact ⟨d, [], log, .nil, h, rfl⟩
  | cons m ms ih =>
      cases h with
      | cons hm hs =>
          obtain ⟨d', here, later, hhere, hlater, rfl⟩ := ih hs
          exact ⟨d', _, later, .cons hm hhere, hlater, (List.append_assoc ..).symm⟩

/-- The moves of one thread. -/
def own (thread : Nat) (ms : List (Move σ ν)) : List (Move σ ν) := ms.filter fun m => m.thread? = some thread

/-- The move is one of the chain's: an entry that is told is an entry of it. -/
def Knows : Move σ ν → Prop
  | .entry _ h _ _ => h ∈ c.earlier ++ c.later
  | _ => True

variable {c} {w : Scene σ ς} {m : Move σ ν} {thread : Nat}

@[simp] theorem spansOn_nil (thread : Nat) : spansOn thread ([] : List (Happening ς ν)) = [] := rfl

@[simp] theorem spansOn_append (thread : Nat) (log log' : List (Happening ς ν)) :
    spansOn thread (log ++ log') = spansOn thread log ++ spansOn thread log' :=
  List.filterMap_append

@[simp] theorem spansOn_other (thread : Nat) (es : List (HookEvent ν)) :
    spansOn thread (es.map .other : List (Happening ς ν)) = [] := by
  simp [spansOn, List.filterMap_map, Function.comp_def, Happening.spanOn?]

@[simp] theorem spansOn_span (thread : Nat) (call : SpanCall ς) (events : List (HookEvent ν)) :
    spansOn thread [.span call events] = if call.thread = thread then [call] else [] := by
  by_cases h : call.thread = thread <;> simp [spansOn, Happening.spanOn?, h]

/-- A move does to its own thread's desk one of the things that it can do there. -/
theorem makes_self (hm : c.Knows m) (hthread : m.thread? = some thread) :
    Desk.Makes thread (c.desk w thread) m (c.desk (c.make w m).1 thread) (spansOn thread (c.make w m).2) := by
  cases m with
  | entry index h t n =>
      obtain rfl := Option.some.inj hthread
      have hget := c.get_tell h hm ⟨w.env, t⟩ n w.state
      simpa [make, desk, hget, -List.map_append] using Desk.Makes.entry
  | start t ctx sql =>
      obtain rfl := Option.some.inj hthread
      simpa [make, desk, c.get_start, SpanCall.thread] using
        Desk.Makes.start (d := c.desk w t) (σ := σ) (ν := ν) ⟨w.env, t⟩ (c.span ⟨w.env, t⟩ ctx sql w.state) rfl
  | push t =>
      obtain rfl := Option.some.inj hthread
      cases hhand : w.hand t with
      | none => simpa [make, desk, hhand] using Desk.Makes.pushNothing
      | some span => simpa [make, desk, hhand, c.get_set] using Desk.Makes.push
  | pop t =>
      obtain rfl := Option.some.inj hthread
      cases hstack : (c.place.get w.state).stack t with
      | nil => simpa [make, desk, hstack] using Desk.Makes.popNothing
      | cons span rest => simpa [make, desk, hstack, c.get_set] using Desk.Makes.pop
  | finish t err =>
      obtain rfl := Option.some.inj hthread
      cases hhand : w.hand t with
      | none => simpa [make, desk, hhand] using Desk.Makes.finishNothing
      | some span =>
          simpa [make, desk, hhand, c.get_finish, SpanCall.thread] using Desk.Makes.finish ⟨w.env, t⟩ rfl
  | elsewhere change => cases hthread

theorem desk_make_of_ne (hm : c.Knows m) (h : m.thread? ≠ some thread) :
    c.desk (c.make w m).1 thread = c.desk w thread ∧ spansOn thread (c.make w m).2 = [] := by
  have hne {t : Nat} (h : some t ≠ some thread) : thread ≠ t ∧ t ≠ thread :=
    ⟨fun heq => h (congrArg some heq.symm), fun heq => h (congrArg some heq)⟩
  cases m with
  | entry index hook t n =>
      have hget := c.get_tell hook hm ⟨w.env, t⟩ n w.state
      simp [make, desk, hget, -List.map_append]
  | start t ctx sql =>
      obtain ⟨hne, hne'⟩ := hne h
      simp [make, desk, c.get_start, hand_hold_of_ne _ hne, SpanCall.thread, hne']
  | push t =>
      obtain ⟨hne, hne'⟩ := hne h
      cases hhand : w.hand t with
      | none => simp [make, hhand]
      | some span =>
          simp [make, desk, hhand, c.get_set, hand_hold_of_ne _ hne, OpenSpans.stack_setStack_of_ne _ _ _ hne]
  | pop t =>
      obtain ⟨hne, hne'⟩ := hne h
      cases hstack : (c.place.get w.state).stack t with
      | nil => simp [make, desk, hstack, hand_hold_of_ne _ hne]
      | cons span rest =>
          simp [make, desk, hstack, c.get_set, hand_hold_of_ne _ hne, OpenSpans.stack_setStack_of_ne _ _ _ hne]
  | finish t err =>
      obtain ⟨hne, hne'⟩ := hne h
      cases hhand : w.hand t with
      | none => simp [make, hhand]
      | some span => simp [make, desk, hhand, c.get_finish, hand_hold_of_ne _ hne, SpanCall.thread, hne']
  | elsewhere change => exact ⟨rfl, rfl⟩

/-- **Threads do not interfere.** What a thread has after moves of many threads, and what it has asked of the tracer,
is one of the things that its own moves can make of what it had. -/
theorem desk_run {ms : List (Move σ ν)} (hms : ∀ m ∈ ms, c.Knows m) (w : Scene σ ς) (thread : Nat) :
    Desk.Runs thread (c.desk w thread) (own thread ms) (c.desk (c.run ms w).1 thread)
      (spansOn thread (c.run ms w).2) := by
  induction ms generalizing w with
  | nil => exact .nil
  | cons m ms ih =>
      have hm := hms m List.mem_cons_self
      have hrest := ih (fun m' hm' => hms m' (List.mem_cons_of_mem m hm')) (c.make w m).1
      rw [run_cons, spansOn_append]
      by_cases h : m.thread? = some thread
      · have hown : own thread (m :: ms) = m :: own thread ms := List.filter_cons_of_pos (by simpa using h)
        rw [hown]
        exact .cons (makes_self hm h) hrest
      · have hown : own thread (m :: ms) = own thread ms := List.filter_cons_of_neg (by simpa using h)
        obtain ⟨hdesk, hspans⟩ := desk_make_of_ne (w := w) hm h
        rw [hown, hspans, List.nil_append, ← hdesk]
        exact hrest

theorem tidy_make (hm : c.Knows m) (h : (c.place.get w.state).Tidy) :
    (c.place.get (c.make w m).1.state).Tidy := by
  cases m with
  | entry index hook t n =>
      rw [make, state_left, c.get_tell hook hm]
      exact h
  | start t ctx sql =>
      rw [make, state_hold, state_left, c.get_start]
      exact h
  | push t =>
      cases hhand : w.hand t with
      | none => simpa [make, hhand] using h
      | some span => simpa [make, hhand, c.get_set] using h.setStack
  | pop t =>
      cases hstack : (c.place.get w.state).stack t with
      | nil => simpa [make, hstack] using h
      | cons span rest => simpa [make, hstack, c.get_set] using h.setStack
  | finish t err =>
      cases hhand : w.hand t with
      | none => simpa [make, hhand] using h
      | some span => simpa [make, hhand, c.get_finish] using h
  | elsewhere change => exact h

theorem tidy_run {ms : List (Move σ ν)} (hms : ∀ m ∈ ms, c.Knows m) (h : (c.place.get w.state).Tidy) :
    (c.place.get (c.run ms w).1.state).Tidy := by
  induction ms generalizing w with
  | nil => exact h
  | cons m ms ih =>
      have hm := hms m List.mem_cons_self
      exact ih (fun m' hm' => hms m' (List.mem_cons_of_mem m hm')) (tidy_make hm h)

end Traced

end DbAccess
