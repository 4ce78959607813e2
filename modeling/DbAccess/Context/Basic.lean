import DbAccess.Error.Message
import DbAccess.Span
import DbAccess.Text.Diagnostic
import DbAccess.Width
/-!
# Contexts

A context says how long its holder wants an answer: up to a deadline, and until a signal is cancelled.
A signal made under another one is known to it, and is cancelled with it. Deriving a context never lengthens
it; the earlier deadline stays.
-/

namespace DbAccess

/-- A point in time, in nanoseconds of a clock that never runs backwards. -/
abbrev Instant := Nat

/-- The last instant that the clock can name. -/
def lastInstant : Instant := (limit63 - 1) * nanosPerSecond + (nanosPerSecond - 1)

/-- The instant a span later, when the clock can name it. -/
def laterBy? (t : Instant) (d : Span) : Option Instant :=
  if t + d.ns ≤ lastInstant then some (t + d.ns) else none

/-- The number of a signal. -/
abbrev SignalId := Nat

/-- A signal that can be cancelled. It knows the signals made under it but does not keep them alive: they may be
forgotten by everybody else while they are listed here. -/
structure Signal where
  cancelled : Bool
  children : List SignalId
deriving DecidableEq, Repr

namespace Signal

/-- A signal as it is made. -/
def new : Signal := ⟨false, []⟩

/-- A signal that has been cancelled. It has told those under it, or is about to, and forgets them. -/
def spent : Signal := ⟨true, []⟩

end Signal

/-- All signals made so far, each at the place of its number. -/
abbrev Signals := List Signal

namespace Signals

/-- The signal has been cancelled. -/
def isCancelled (signals : Signals) (s : SignalId) : Bool := (signals[s]?).any (·.cancelled)

/-- The signals that a signal knows under it. -/
def children (signals : Signals) (s : SignalId) : List SignalId :=
  ((signals[s]?).map (·.children)).getD []

/-- Cancels one signal and nothing under it. -/
def spend (signals : Signals) (s : SignalId) : Signals := signals.modify s fun _ => .spent

/-- How many signals are known to others. -/
def links (signals : Signals) : Nat := signals.foldr (fun s n => s.children.length + n) 0

theorem links_spend (signals : Signals) (s : SignalId) :
    (signals.spend s).links + (signals.children s).length = signals.links := by
  induction signals generalizing s with
  | nil => simp [spend, links, children]
  | cons a rest ih =>
      cases s with
      | zero => simp [spend, links, children, Signal.spent, Nat.add_comm]
      | succ s =>
          have h := ih s
          simp only [spend, links, children, List.modify_succ_cons, List.foldr_cons,
            List.getElem?_cons_succ] at h ⊢
          omega

/-- Cancels the pending signals that are alive and what they know, each before those under it. A signal that
nobody holds any longer is passed over, with what it knows. -/
def cancelAll (alive : SignalId → Bool) (signals : Signals) : List SignalId → Signals
  | [] => signals
  | s :: rest =>
    if alive s then (signals.spend s).cancelAll alive (signals.children s ++ rest)
    else signals.cancelAll alive rest
termination_by pending => signals.links + pending.length
decreasing_by
  · have := links_spend signals s
    simp only [List.length_append, List.length_cons]
    omega
  · simp

/-- Cancels a signal and what it knows. -/
def cancel (alive : SignalId → Bool) (signals : Signals) (root : SignalId) : Signals :=
  (signals.spend root).cancelAll alive (signals.children root)

/-- Changes what a signal knows. -/
def relist (signals : Signals) (s : SignalId) (f : List SignalId → List SignalId) : Signals :=
  signals.modify s fun sig => { sig with children := f sig.children }

/-- Lets a signal know one under it, and forget those that nobody holds. One that is cancelled already passes
that on at once instead. -/
def adopt (alive : SignalId → Bool) (signals : Signals) (parent child : SignalId) : Signals :=
  if signals.isCancelled parent then signals.cancel alive child
  else signals.relist parent fun known => known.filter alive ++ [child]

/-- Makes a signal, under another one if there is one. -/
def make (alive : SignalId → Bool) (signals : Signals) (parent : Option SignalId) : SignalId × Signals :=
  let child := signals.length
  let signals : Signals := signals ++ [.new]
  (child, match parent with
    | some p => signals.adopt alive p child
    | none => signals)

end Signals

/-- The clock, and all signals made so far. -/
structure Env where
  now : Instant
  signals : Signals
deriving DecidableEq, Repr

namespace Env

/-- The signal has been cancelled. -/
def isCancelled (env : Env) (s : SignalId) : Bool := env.signals.isCancelled s

/-- The clock at an instant, or where it is when that instant has passed. -/
def advanceTo (env : Env) (t : Instant) : Env := { env with now := max env.now t }

theorem advanceTo_of_le {env : Env} {t : Instant} (h : t ≤ env.now) : env.advanceTo t = env := by
  rw [advanceTo, Nat.max_eq_left h]

/-- The clock a while later. -/
def advance (env : Env) (ns : Nat) : Env := { env with now := env.now + ns }

theorem le_now_advance (env : Env) (ns : Nat) : env.now + ns ≤ (env.advance ns).now := Nat.le_refl _

/-- The time that anything takes, however little is done. -/
def moment : Nat := nanosPerMicro

/-- A moment passes. -/
def tick (env : Env) : Env := env.advance moment

/-- Cancels a signal and what it knows. -/
def cancel (env : Env) (alive : SignalId → Bool) (root : SignalId) : Env :=
  { env with signals := env.signals.cancel alive root }

end Env

/-- How long an answer is wanted. -/
structure Context where
  deadline : Option Instant
  signal : Option SignalId
deriving DecidableEq, Repr

namespace Context

/-- The context that never ends. -/
def background : Context := ⟨none, none⟩

/-- The context ends at the deadline at the latest. -/
def withDeadline (c : Context) (t : Instant) : Context :=
  { c with
    deadline := match c.deadline with
      | some d => if d ≤ t then some d else some t
      | none => some t }

/-- The context ends a span from now at the latest. A span beyond the clock changes nothing. -/
def withTimeout (c : Context) (env : Env) (d : Span) : Context :=
  match laterBy? env.now d with
  | some t => c.withDeadline t
  | none => c

/-- A default: it holds only for contexts without a deadline, and a span of no time is no default. -/
def orTimeout (c : Context) (env : Env) (d : Option Span) : Context :=
  match c.deadline, d with
  | none, some d => if d.isZero then c else c.withTimeout env d
  | _, _ => c

/-- A context with a signal of its own, under the one it had. -/
def withCancel (c : Context) (env : Env) (alive : SignalId → Bool) : Context × SignalId × Env :=
  let (s, signals) := env.signals.make alive c.signal
  ({ c with signal := some s }, s, { env with signals := signals })

/-- The context has come to an end by its signal. -/
def isCancelled (c : Context) (env : Env) : Bool := c.signal.any env.isCancelled

/-- The context has come to an end by its deadline. -/
def isExpired (c : Context) (env : Env) : Bool := c.deadline.any fun t => t ≤ env.now

/-- Why the context has ended; a cancelled signal counts before a deadline. -/
def err (c : Context) (env : Env) : Option ContextError :=
  if c.isCancelled env then some .cancelled
  else if c.isExpired env then some .deadlineExceeded
  else none

theorem isCancelled_of_err {c : Context} {env : Env} (h : c.err env = none) : c.isCancelled env = false := by
  cases hcancelled : c.isCancelled env with
  | false => rfl
  | true => simp [err, hcancelled] at h

/-- The context has ended. -/
def isDone (c : Context) (env : Env) : Bool := (c.err env).isSome

/-- The context may end some day. -/
def canEnd (c : Context) : Bool := c.deadline.isSome || c.signal.isSome

/-- The time up to the deadline, none when it has passed. -/
def remaining (c : Context) (env : Env) : Option Span :=
  c.deadline.map fun t => .ofNanos (t - env.now)

/-- The context in diagnostic text. Deadlines are shown as their instants. -/
def diagnostic (c : Context) (env : Env) : String :=
  Text.recordText "Context"
    [("deadline", Text.optionText (c.deadline.map toString)),
      ("cancellable", Text.boolText c.signal.isSome),
      ("done", Text.optionText ((c.err env).map (·.diagnostic)))]

end Context

/-- A view of a context that outlives it: its deadline, and its signal as a flag to look at. -/
structure Watcher where
  deadline : Option Instant
  signal : Option SignalId
deriving DecidableEq, Repr

/-- The watcher of a context. -/
def Context.watcher (c : Context) : Watcher := ⟨c.deadline, c.signal⟩

/-- The watched context has ended. -/
def Watcher.isDone (w : Watcher) (env : Env) : Bool :=
  w.signal.any env.isCancelled || w.deadline.any fun t => t ≤ env.now

/-- The nanoseconds of an hour. -/
def nanosPerHour : Nat := 3600 * nanosPerSecond

/-- What can be seen of a context at one moment. Hours are begun hours. -/
inductive ContextState where
  | cancelled
  | deadlineExceeded
  | endsWithin (hours : Nat)
  | cancellable
  | background
deriving DecidableEq, Repr

/-- What can be seen of a context. -/
def Context.state (c : Context) (env : Env) : ContextState :=
  match c.err env, c.deadline with
  | some .cancelled, _ => .cancelled
  | some .deadlineExceeded, _ => .deadlineExceeded
  | none, some t => .endsWithin ((t - env.now + (nanosPerHour - 1)) / nanosPerHour)
  | none, none => if c.signal.isSome then .cancellable else .background

/-- The written form of a state. -/
def ContextState.text : ContextState → String
  | cancelled => "cancelled"
  | deadlineExceeded => "deadline_exceeded"
  | endsWithin hours => "deadline:" ++ toString hours ++ "h"
  | cancellable => "cancellable"
  | background => "background"

end DbAccess
