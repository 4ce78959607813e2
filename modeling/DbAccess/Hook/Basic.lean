import DbAccess.Context.Basic
import DbAccess.Log
import DbAccess.Value.Show
/-!
# Hooks

A hook is told about every statement before it is dispatched and after it was answered. What a hook does is
a function of the world around, of what it is told, and of a state that the hooks of a chain share. It takes
its time and may cancel contexts, it writes to the log, leaves notes of a type of its own, and may panic.
Hooks can be grouped into one.
-/

namespace DbAccess

/-- What a hook is told. -/
inductive Notice where
  | before (ctx : Context) (sql : String) (args : List Value)
  | after (ctx : Context) (sql : String) (args : List Value) (elapsed : Span) (err : Option Error)
deriving Repr

/-- The moment of a notice. -/
def Notice.moment : Notice → HookMoment
  | before .. => .before
  | after .. => .after

/-- What a panic carries: a text, or something else. -/
inductive PanicPayload where
  | text (s : String)
  | other
deriving DecidableEq, Repr

/-- How a payload is reported. -/
def PanicPayload.message : PanicPayload → String
  | text s => s
  | other => "<non-string panic payload>"

/-- What a hook leaves behind. -/
inductive HookEvent (ν : Type) where
  | log (e : LogEvent)
  | note (n : ν)
deriving Repr

/-- What came of a hook call, with clock and signals as they are when it returns or panics. -/
structure HookRun (σ ν : Type) where
  env : Env
  state : σ
  events : List (HookEvent ν)
  panic : Option PanicPayload

/-- Where a hook is called: the world around, and the calling thread. -/
structure HookSite where
  env : Env
  thread : Nat

/-- The same thread in another world. -/
def HookSite.within (site : HookSite) (env : Env) : HookSite := { site with env := env }

@[simp] theorem HookSite.env_within (site : HookSite) (env : Env) : (site.within env).env = env := rfl

@[simp] theorem HookSite.within_env (site : HookSite) : site.within site.env = site := rfl

/-- A hook, or hooks that are registered as one. -/
inductive Hook (σ ν : Type) where
  | leaf (act : HookSite → Notice → σ → HookRun σ ν)
  | composite (members : List (Hook σ ν))

namespace Hook

variable {σ ν : Type}

mutual

/-- Tells a hook. The members of a group are told in order, up to the first that panics. -/
def tell (site : HookSite) (n : Notice) : Hook σ ν → σ → HookRun σ ν
  | leaf act, s => act site n s
  | composite members, s => tellAll site n members s

/-- Tells hooks in order, up to the first that panics. -/
def tellAll (site : HookSite) (n : Notice) : List (Hook σ ν) → σ → HookRun σ ν
  | [], s => ⟨site.env, s, [], none⟩
  | h :: hs, s =>
    let here := h.tell site n s
    match here.panic with
    | some p => ⟨here.env, here.state, here.events, some p⟩
    | none =>
      let later := tellAll (site.within here.env) n hs here.state
      ⟨later.env, later.state, here.events ++ later.events, later.panic⟩

end

/-- A hook that does nothing. -/
def silent : Hook σ ν := leaf fun site _ s => ⟨site.env, s, [], none⟩

/-- A hook that leaves notes and keeps no state. -/
def observer (f : HookSite → Notice → List ν) : Hook σ ν :=
  leaf fun site n s => ⟨site.env, s, (f site n).map .note, none⟩

/-- A hook that panics at some moments. -/
def panicking (moments : HookMoment → Bool) (payload : PanicPayload) : Hook σ ν :=
  leaf fun site n s => ⟨site.env, s, [], if moments n.moment then some payload else none⟩

end Hook

/-- What came of telling a chain. -/
structure ChainRun (σ ν : Type) where
  env : Env
  state : σ
  events : List (HookEvent ν)

/-- The hooks of a database, in the order in which they are told. -/
structure HookChain (σ ν : Type) where
  hooks : List (Hook σ ν)

namespace HookChain

variable {σ ν : Type}

/-- No hooks. -/
def empty : HookChain σ ν := ⟨[]⟩

/-- The hooks that are there. -/
def ofOptions (hs : List (Option (Hook σ ν))) : HookChain σ ν := ⟨hs.filterMap id⟩

/-- The number of entries. -/
def size (c : HookChain σ ν) : Nat := c.hooks.length

/-- What an entry that panicked is reported as. -/
def panicReport (moment : HookMoment) (index : Nat) : Option PanicPayload → List (HookEvent ν)
  | some p => [.log (.hookPanicked moment index p.message)]
  | none => []

/-- Tells the entries from an index on. A panic ends only the entry in which it occurs. -/
def tellFrom (site : HookSite) (n : Notice) : Nat → List (Hook σ ν) → σ → ChainRun σ ν
  | _, [], s => ⟨site.env, s, []⟩
  | index, h :: hs, s =>
    let here := h.tell site n s
    let later := tellFrom (site.within here.env) n (index + 1) hs here.state
    ⟨later.env, later.state, here.events ++ panicReport n.moment index here.panic ++ later.events⟩

/-- Tells every entry in order. -/
def tell (c : HookChain σ ν) (site : HookSite) (n : Notice) (s : σ) : ChainRun σ ν :=
  tellFrom site n 0 c.hooks s

/-- The chain in diagnostic text. -/
def diagnostic (c : HookChain σ ν) : String :=
  Text.recordText "HookChain" [("len", toString c.size)]

end HookChain

end DbAccess
