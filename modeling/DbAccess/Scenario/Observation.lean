import DbAccess.Hook.Builtin
/-!
# Observing hooks

A `HookPlan` describes a hook for a scenario, and `HookPlan.build` makes it. Observing hooks leave observations,
and every tracing hook keeps its open spans under a number of its own.
-/

namespace DbAccess.Scenario

/-- What an observing hook leaves. -/
inductive Observation where
  | before (hook sql : String) (args : List Value) (state : ContextState)
  | after (hook sql : String) (args : List Value) (err : Option Error)
  | measured (hook sql : String) (ok : Bool)
  | spanStarted (hook sql : String) (state : ContextState)
  | spanFinished (hook span : String) (err : Option Error)
deriving Repr

/-- A hook of a scenario. -/
inductive HookPlan where
  | recorder (name : String)
  | silent
  | panicking (before after : Bool) (payload : PanicPayload)
  | metrics (name : String)
  /-- Its spans are the texts of the statements. -/
  | tracing (name : String)
  | logging (settings : LogSettings)
  | composite (members : List HookPlan)
deriving Repr

/-- The open spans of all tracing hooks, by their numbers. -/
abbrev Spans := List (Nat × OpenSpans String)

/-- The open spans of one tracing hook. -/
def spansOf (id : Nat) : Place Spans (OpenSpans String) :=
  ⟨fun s => (s.lookup id).getD [], fun t s => (id, t) :: s.filter fun e => e.1 != id⟩

namespace HookPlan

variable {ν : Type}

/-- Observes both moments of a statement. -/
def recording (note : Observation → ν) (name : String) : Hook Spans ν :=
  .observer fun site n =>
    match n with
    | .before ctx sql args => [note (.before name sql args (ctx.state site.env))]
    | .after _ sql args _ err => [note (.after name sql args err)]

/-- Observes the spans of a tracing hook. -/
def tracer (note : Observation → ν) (name : String) : Tracer Spans String ν where
  start site ctx sql s :=
    ⟨site.env, s, [.note (note (.spanStarted name sql (ctx.state site.env)))], .ok sql⟩
  finish site span err s := ⟨site.env, s, [.note (note (.spanFinished name span err))], none⟩

mutual

/-- Makes a hook, given the next free number for tracing hooks, and says which is free then. -/
def build (note : Observation → ν) : HookPlan → Nat → Hook Spans ν × Nat
  | recorder name, id => (recording note name, id)
  | silent, id => (.silent, id)
  | panicking before after payload, id =>
    (.panicking (fun m =>
      match m with
      | .before => before
      | .after => after) payload, id)
  | metrics name, id => (.metrics fun sql _ ok => [note (.measured name sql ok)], id)
  | tracing name, id => (.tracing (tracer note name) (spansOf id), id + 1)
  | logging settings, id => (.logging settings, id)
  | composite members, id =>
    let (hooks, id) := buildFrom note members id
    (.composite hooks, id)

/-- Makes hooks one after another. -/
def buildFrom (note : Observation → ν) : List HookPlan → Nat → List (Hook Spans ν) × Nat
  | [], id => ([], id)
  | p :: ps, id =>
    let (hook, id) := p.build note id
    let (hooks, id) := buildFrom note ps id
    (hook :: hooks, id)

end

/-- Makes the hooks of a chain. -/
def buildAll (note : Observation → ν) (plans : List HookPlan) : List (Hook Spans ν) :=
  (buildFrom note plans 0).1

end HookPlan

end DbAccess.Scenario
