import DbAccess.Error.Basic
/-!
# What is behind an error

An error may be there because of another one. `source?` is the error right behind an error, and `Cause.behind` lists
all of them, the nearest first, as they are found by asking for the source again and again. Of a failed rollback only
the error that came first is followed.
-/

namespace DbAccess

/-- Whatever can be behind an error, or in front of one. -/
inductive Cause where
  | error (e : Error)
  | raw (e : RawError)
  | context (e : ContextError)
  /-- One of the errors behind a backend's error, with those that are behind it. -/
  | foreign (e : SourceError) (rest : List SourceError)
deriving DecidableEq, Repr

/-- The first of the errors behind a backend's error. -/
def Cause.first? : List SourceError → Option Cause
  | [] => none
  | e :: rest => some (.foreign e rest)

/-- What is right behind a raw error: the end of a context, or what the backend names. -/
def RawError.source? : RawError → Option Cause
  | noRows => none
  | context e => some (.context e)
  | backend e => Cause.first? e.sources

/-- What is right behind an error. A raw error shows what is behind it and is not there itself. -/
def Error.source? : Error → Option Cause
  | classified e => some (.raw e.cause)
  | raw e => e.source?
  | rollback failure _ => some (.error failure)
  | retry _ last => some (.error last)
  | _ => none

namespace Cause

/-- What is right behind it. -/
def source? : Cause → Option Cause
  | error e => e.source?
  | raw e => e.source?
  | context _ => none
  | foreign _ rest => first? rest

theorem sizeOf_lt_of_first? {l : List SourceError} {d : Cause} (h : first? l = some d) :
    sizeOf d < sizeOf l + 1 := by
  cases l with
  | nil => cases h
  | cons e rest =>
      cases h
      simp

theorem sizeOf_lt_of_raw {e : RawError} {d : Cause} (h : e.source? = some d) : sizeOf d < sizeOf e + 1 := by
  cases e with
  | noRows => cases h
  | context e =>
      cases h
      simp
  | backend e =>
      have hlt := sizeOf_lt_of_first? h
      obtain ⟨message, dialect, sqlState, vendorCode, sources⟩ := e
      simp only [RawError.backend.sizeOf_spec, BackendError.mk.sizeOf_spec] at hlt ⊢
      omega

theorem sizeOf_lt_of_source? {c d : Cause} (h : c.source? = some d) : sizeOf d < sizeOf c := by
  cases c with
  | error e =>
      cases e with
      | classified e =>
          cases h
          obtain ⟨kind, cause, message⟩ := e
          simp
          omega
      | raw e =>
          have hlt := sizeOf_lt_of_raw h
          simp only [error.sizeOf_spec, Error.raw.sizeOf_spec]
          omega
      | rollback failure undo =>
          cases h
          simp only [error.sizeOf_spec, Error.rollback.sizeOf_spec]
          omega
      | retry attempts last =>
          cases h
          simp only [error.sizeOf_spec, Error.retry.sizeOf_spec]
          omega
      | _ => cases h
  | raw e =>
      have hlt := sizeOf_lt_of_raw h
      simp only [raw.sizeOf_spec]
      omega
  | context e => cases h
  | foreign e rest =>
      have hlt := sizeOf_lt_of_first? h
      simp only [foreign.sizeOf_spec]
      omega

/-- All that is behind it, the nearest first. -/
def behind (c : Cause) : List Cause :=
  match _h : c.source? with
  | none => []
  | some d => d :: d.behind
termination_by sizeOf c
decreasing_by exact sizeOf_lt_of_source? ‹_›

theorem behind_of_none {c : Cause} (h : c.source? = none) : c.behind = [] := by
  rw [behind]
  split
  · rfl
  · rename_i hd
    cases h.symm.trans hd

theorem behind_of_some {c d : Cause} (h : c.source? = some d) : c.behind = d :: d.behind := by
  rw [behind]
  split
  · rename_i hd
    cases h.symm.trans hd
  · rename_i d' hd
    cases h.symm.trans hd
    rfl

end Cause

end DbAccess
