import DbAccess.Error.Message
import Mathlib.Data.List.Infix
import Mathlib.Logic.Function.Iterate
/-!
# Errors around errors

A failed rollback and a given up retry are put around the error that they are about. `Error.wrapped` puts any number
of them around an error, and every error is a leaf with wrappings around it (`Error.exists_wrapped`).

The errors behind an error are what asking for the source comes to when it is repeated
(`Cause.getElem?_behind`), and each of them is a part of the one before (`Cause.nodup_behind`). Behind an error with
wrappings are the errors inside these, one by one, and then what is behind the leaf (`Error.cause_not_hidden`): the
kind is that of the leaf, and what went wrong with a rollback is not on the way. Whether an error is classified or raw
itself is another question, which no wrapping answers with yes.
-/

namespace DbAccess

/-! ### What is behind -/

namespace Cause

variable {c d : Cause}

theorem iterate_none (k : Nat) : (fun o : Option Cause => o.bind source?)^[k] none = none := by
  induction k with
  | zero => rfl
  | succ k ih => exact ih

/-- What is behind is found by asking for the source again and again. -/
theorem getElem?_behind (c : Cause) (k : Nat) :
    c.behind[k]? = (fun o : Option Cause => o.bind source?)^[k + 1] (some c) := by
  induction k generalizing c with
  | zero =>
      cases h : c.source? with
      | none => rw [behind_of_none h]; exact h.symm
      | some d => rw [behind_of_some h]; exact h.symm
  | succ k ih =>
      rw [Function.iterate_succ_apply, Option.bind_some]
      cases h : c.source? with
      | none => rw [behind_of_none h, iterate_none]; rfl
      | some d => rw [behind_of_some h, List.getElem?_cons_succ, ih]

theorem sizeOf_lt_of_mem_behind (h : d ∈ c.behind) : sizeOf d < sizeOf c := by
  induction c using behind.induct with
  | case1 c hnone =>
      rw [behind_of_none hnone] at h
      cases h
  | case2 c next hnext ih =>
      rw [behind_of_some hnext] at h
      rcases List.mem_cons.mp h with rfl | h
      · exact sizeOf_lt_of_source? hnext
      · exact (ih h).trans (sizeOf_lt_of_source? hnext)

/-- Nothing is behind twice. -/
theorem nodup_behind (c : Cause) : c.behind.Nodup := by
  induction c using behind.induct with
  | case1 c hnone =>
      rw [behind_of_none hnone]
      exact List.nodup_nil
  | case2 c next hnext ih =>
      rw [behind_of_some hnext]
      exact List.nodup_cons.mpr ⟨fun hmem => (sizeOf_lt_of_mem_behind hmem).ne rfl, ih⟩

theorem behind_congr (h : c.source? = d.source?) : c.behind = d.behind := by
  cases hd : d.source? with
  | none => rw [behind_of_none hd, behind_of_none (h.trans hd)]
  | some next => rw [behind_of_some hd, behind_of_some (h.trans hd)]

/-- The errors that a backend names, each with those behind it. -/
def named : List SourceError → List Cause
  | [] => []
  | e :: rest => .foreign e rest :: named rest

theorem behind_foreign (e : SourceError) (rest : List SourceError) : (foreign e rest).behind = named rest := by
  induction rest generalizing e with
  | nil => exact behind_of_none rfl
  | cons e' rest ih => rw [behind_of_some (d := .foreign e' rest) rfl, ih, named]

end Cause

/-! ### What is behind a leaf -/

/-- Where a raw error comes from: the end of a context, or what the backend names. -/
def RawError.origins : RawError → List Cause
  | noRows => []
  | context e => [.context e]
  | backend e => Cause.named e.sources

/-- Where an error comes from that is not about another one: its cause when it is classified, and where that comes
from. -/
def Error.origins : Error → List Cause
  | classified e => .raw e.cause :: e.cause.origins
  | raw e => e.origins
  | _ => []

theorem RawError.behind_eq (e : RawError) : (Cause.raw e).behind = e.origins := by
  cases e with
  | noRows => exact Cause.behind_of_none rfl
  | context e =>
      have hsource : (Cause.raw (.context e)).source? = some (.context e) := rfl
      rw [Cause.behind_of_some hsource, Cause.behind_of_none rfl, origins]
  | backend e =>
      obtain ⟨message, dialect, sqlState, vendorCode, sources⟩ := e
      cases sources with
      | nil => exact Cause.behind_of_none rfl
      | cons first rest => exact (Cause.behind_of_some rfl).trans (congrArg _ (Cause.behind_foreign first rest))

namespace Error

/-- The error is not about another one. -/
def isLeaf : Error → Bool
  | rollback .. | retry .. => false
  | _ => true

theorem behind_of_isLeaf {leaf : Error} (h : leaf.isLeaf = true) : (Cause.error leaf).behind = leaf.origins := by
  cases leaf with
  | classified e => exact (Cause.behind_of_some rfl).trans (congrArg _ e.cause.behind_eq)
  | raw e =>
      have hsource : (Cause.error (raw e)).source? = (Cause.raw e).source? := rfl
      rw [Cause.behind_congr hsource, e.behind_eq, origins]
  | rollback failure undo => cases h
  | retry attempts last => cases h
  | _ => exact Cause.behind_of_none rfl

end Error

/-! ### Wrappings -/

/-- What can be put around an error. -/
inductive Wrapping where
  /-- The rollback after the error failed as well. -/
  | rollback (undo : Error)
  /-- The error was that of the last of so many attempts. -/
  | retry (attempts : Nat)
deriving DecidableEq, Repr

/-- Puts one wrapping around an error. -/
def Wrapping.around : Wrapping → Error → Error
  | rollback undo, e => .rollback e undo
  | retry attempts, e => .retry attempts e

namespace Error

/-- The error with wrappings around it, the first one outermost. -/
def wrapped (leaf : Error) (ws : List Wrapping) : Error := ws.foldr Wrapping.around leaf

/-- Every error is a leaf with wrappings around it. -/
theorem exists_wrapped (e : Error) :
    ∃ (leaf : Error) (ws : List Wrapping), leaf.isLeaf = true ∧ e = leaf.wrapped ws := by
  induction e with
  | rollback failure undo ih _ =>
      obtain ⟨leaf, ws, hleaf, rfl⟩ := ih
      exact ⟨leaf, .rollback undo :: ws, hleaf, rfl⟩
  | retry attempts last ih =>
      obtain ⟨leaf, ws, hleaf, rfl⟩ := ih
      exact ⟨leaf, .retry attempts :: ws, hleaf, rfl⟩
  | _ => exact ⟨_, [], rfl, rfl⟩

variable (leaf : Error) (ws : List Wrapping)

@[simp] theorem kind_wrapped : (leaf.wrapped ws).kind = leaf.kind := by
  induction ws with
  | nil => rfl
  | cons w ws ih => cases w <;> exact ih

theorem source?_wrapped_cons (w : Wrapping) :
    (Cause.error (leaf.wrapped (w :: ws))).source? = some (.error (leaf.wrapped ws)) := by
  cases w <;> rfl

/-- Behind an error with wrappings are the errors inside these, and what is behind the leaf. -/
theorem behind_wrapped :
    (Cause.error (leaf.wrapped ws)).behind =
      (ws.tails.tail.map fun inner => .error (leaf.wrapped inner)) ++ (Cause.error leaf).behind := by
  induction ws with
  | nil => rfl
  | cons w ws ih =>
      have htails : ws.tails = ws :: ws.tails.tail := by cases ws <;> rfl
      rw [Cause.behind_of_some (leaf.source?_wrapped_cons ws w), ih, List.tails_cons, List.tail_cons]
      conv_rhs => rw [htails, List.map_cons, List.cons_append]

theorem isClassified_wrapped (h : ws ≠ []) :
    (leaf.wrapped ws).isClassified = false ∧ (leaf.wrapped ws).isRaw = false := by
  cases ws with
  | nil => exact absurd rfl h
  | cons w ws => cases w <;> exact ⟨rfl, rfl⟩

/-- **Wrappings do not hide the cause.** An error with wrappings around it is of the kind of its leaf, whatever went
wrong with rollbacks. What asking for the source again and again comes to are the errors inside the wrappings down to
the leaf, then the cause of the leaf when it is classified, then the end of a context or what the backend names, each
once and nothing else. Only whether it is classified or raw itself does an error with wrappings not have from its
leaf. -/
theorem cause_not_hidden (hleaf : leaf.isLeaf = true) :
    let e := leaf.wrapped ws
    e.kind = leaf.kind ∧ (∀ k, e.hasKind k = leaf.hasKind k) ∧ e.isTransient = leaf.isTransient ∧
    (ws ≠ [] → e.isClassified = false ∧ e.isRaw = false) ∧
    (∀ k, (Cause.error e).behind[k]? = (fun o : Option Cause => o.bind Cause.source?)^[k + 1] (some (.error e))) ∧
    (Cause.error e).behind =
      (ws.tails.tail.map fun inner => .error (leaf.wrapped inner)) ++ leaf.origins ∧
    (Cause.error e).behind.Nodup ∧
    e.sources = (Cause.error e).behind.map (·.message) := by
  intro e
  have hkind : e.kind = leaf.kind := kind_wrapped leaf ws
  refine ⟨hkind, ?_, ?_, isClassified_wrapped leaf ws, Cause.getElem?_behind _, ?_, Cause.nodup_behind _, rfl⟩
  · intro k
    rw [hasKind, hasKind, hkind]
  · rw [isTransient, isTransient, hkind]
  · rw [behind_wrapped, behind_of_isLeaf hleaf]

/-- A lock that was not given up in time, three times over, with a connection that broke under the last rollback. -/
theorem cause_of_broken_rollback :
    let leaf : Error := .ofKind .deadlock (.backend ⟨"locked", none, none, none, [.ofText "busy"]⟩)
    let undo : Error := .raw (.backend (.ofText "broken pipe"))
    leaf.isLeaf = true ∧ (leaf.wrapped [.retry 3, .rollback undo]).isTransient = true ∧
      (Cause.error (leaf.wrapped [.retry 3, .rollback undo])).behind =
        [.error (.rollback leaf undo), .error leaf,
          .raw (.backend ⟨"locked", none, none, none, [.ofText "busy"]⟩), .foreign (.ofText "busy") []] := by
  intro leaf undo
  obtain ⟨-, -, htransient, -, -, hbehind, -⟩ := cause_not_hidden leaf [.retry 3, .rollback undo] rfl
  exact ⟨rfl, htransient, hbehind⟩

/-- An error that was given up is not classified itself, though its leaf is. -/
theorem isClassified_of_retried :
    let leaf : Error := .ofKind .deadlock .noRows
    leaf.isLeaf = true ∧ leaf.isClassified = true ∧ (leaf.wrapped [.retry 3]).isClassified = false := by
  decide

end Error

end DbAccess
