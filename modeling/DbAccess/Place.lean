/-!
# Parts of a state
-/

namespace DbAccess

/-- A part of a state: how to look at it and how to put another one there. -/
structure Place (σ α : Type) where
  get : σ → α
  set : α → σ → σ

end DbAccess
