import DbAccess.Proofs.Retry.Retrial
import DbAccess.Proofs.Session.Entries
/-!
# A retried transaction is committed once

What retrying makes of a transaction, over every driver, every policy and all bodies that leave it to the
bracket to finish the transaction. The attempts up to the one that retrying is over with are the rounds;
`Retrial.GoesOn` says after which of them there is another one, and `Retrial.Ends` how the last of them makes the
whole end. `Retrial.commits_once` puts this beside the ledger of the driver: all rounds but the last came to
nothing, each with its transaction undone before the next was begun, and the last was committed just when the
whole ends with a value.
-/

namespace DbAccess.Retrial

variable {δ σ ν α : Type}

open SessionM

variable (t : Retrial α)

section attempts

variable (db : Database δ σ ν) (w : World δ σ)

/-! ### The attempts -/

/-- The world after an attempt and the wait after it. -/
def rested (k : Nat) (v : World δ σ) : World δ σ :=
  { v with env := (t.wait k t.ctx (t.policy.delayFor k) v.env).2 }

/-- The world after so many attempts and the waits after them. -/
def start : Nat → World δ σ
  | 0 => w
  | n + 1 => t.rested (n + 1) ((t.transaction db (n + 1)).run (start n)).world

/-- An attempt, when retrying comes to it. -/
def round (k : Nat) : SessionRun δ σ ν α := (t.transaction db k).run (t.start db w (k - 1))

/-- How the wait after an attempt ends. -/
def pause (k : Nat) : SleepResult :=
  (t.wait k t.ctx (t.policy.delayFor k) (t.round db w k).world.env).1

/-- What the begin, the body or the commit of an attempt fails with. -/
def cause? (k : Nat) : Option Error :=
  db.cause? t.ctx t.opts (fun tx => (t.body k tx).run db) (t.start db w (k - 1))

/-- After an attempt that ends so, and a wait that ends so, there is another attempt. -/
def GoesOn (o : Outcome α) (s : SleepResult) : Prop :=
  ∃ e, o = .failed e ∧ t.policy.retryIf e = true ∧ s = .rested

/-- How retrying ends that is over with an attempt, by how the attempt and the wait after it end. -/
inductive Ends (k : Nat) (o : Outcome α) (s : SleepResult) : Outcome α → Prop
  /-- With the value. -/
  | succeeded {a : α} (h : o = .value a) : Ends k o s (.value a)
  /-- With the error itself. -/
  | rejected {e : Error} (h : o = .failed e) (hreject : t.policy.retryIf e = false) :
    Ends k o s (.failed e)
  /-- With the last error and the number of attempts. -/
  | exhausted {e : Error} (h : o = .failed e) (haccept : t.policy.retryIf e = true)
      (hlast : k = t.policy.maxAttempts) : Ends k o s (.failed (.retry k e))
  /-- With the reason for which the context has ended. -/
  | interrupted {e : Error} {reason : ContextError} (h : o = .failed e)
      (haccept : t.policy.retryIf e = true) (hmore : k < t.policy.maxAttempts)
      (hwait : s = .ended reason) : Ends k o s (.failed (.ofKind .timeout (.context reason)))
  /-- Not at all, because nothing ends the wait. -/
  | asleep {e : Error} (h : o = .failed e) (haccept : t.policy.retryIf e = true)
      (hmore : k < t.policy.maxAttempts) (hwait : s = .forever) : Ends k o s .stuck
  /-- With a panic of the body. -/
  | panicked {text : String} (h : o = .panicked text) : Ends k o s (.panicked text)
  /-- Not at all, because the attempt does not end. -/
  | stuck (h : o = .stuck) : Ends k o s .stuck

/-- Retrying is over with some attempt after the first so many, and with none before it. The driver is as that
attempt left it. -/
def OverAfter (n : Nat) (r : SessionRun δ σ ν α) : Prop :=
  ∃ k, n < k ∧ k ≤ t.policy.maxAttempts ∧
    (∀ i, n < i → i < k → t.GoesOn (t.round db w i).outcome (t.pause db w i)) ∧
    t.Ends k (t.round db w k).outcome (t.pause db w k) r.outcome ∧
    r.world.driver = (t.round db w k).world.driver

namespace OverAfter

variable {t db w} {n : Nat} {r : SessionRun δ σ ν α}

theorem next (hbound : n < t.policy.maxAttempts)
    (hends : t.Ends (n + 1) (t.round db w (n + 1)).outcome (t.pause db w (n + 1)) r.outcome)
    (hdriver : r.world.driver = (t.round db w (n + 1)).world.driver) : t.OverAfter db w n r :=
  ⟨n + 1, Nat.lt_succ_self n, hbound, by omega, hends, hdriver⟩

theorem later (hgoes : t.GoesOn (t.round db w (n + 1)).outcome (t.pause db w (n + 1)))
    {u : List (Event ν)} (h : t.OverAfter db w (n + 1) r) : t.OverAfter db w n (r.after u) := by
  obtain ⟨k, hlt, hle, hall, hends, hdriver⟩ := h
  refine ⟨k, by omega, hle, fun i hi hik => ?_, hends, hdriver⟩
  by_cases hnext : i = n + 1
  · rw [hnext]
    exact hgoes
  · exact hall i (by omega) hik

end OverAfter

theorem run_sleep (k : Nat) (ctx : Context) (d : Span) (v : World δ σ) :
    (t.sleep k ctx d : SessionM δ σ ν _).run v =
      let x := t.wait k ctx d v.env
      ⟨match x.1 with
        | .rested => .value none
        | .ended e => .value (some e)
        | .forever => .stuck, { v with env := x.2 }, []⟩ := by
  simp only [SessionM.run, sleep]
  cases (t.wait k ctx d v.env).1 <;> rfl

/-- With one more attempt and so many left after it, retrying is over with one of them. The induction is on the
number that is left; only a failure that is worth another attempt and a wait that is slept to its end lead on. -/
theorem overAfter_loop (left n : Nat) (hleft : n + 1 + left = t.policy.maxAttempts) :
    t.OverAfter db w n ((t.loop db left n).run (t.start db w n)) := by
  have hbound : n < t.policy.maxAttempts := by omega
  have hround : (t.transaction db (n + 1)).run (t.start db w n) = t.round db w (n + 1) := rfl
  have hpause : (t.wait (n + 1) t.ctx (t.policy.delayFor (n + 1)) (t.round db w (n + 1)).world.env).1 =
      t.pause db w (n + 1) := rfl
  rw [loop.eq_def, run_bind, run_attempt, hround]
  cases hout : (t.round db w (n + 1)).outcome with
  | value a => exact .next hbound (.succeeded hout) rfl
  | panicked text => exact .next hbound (.panicked hout) rfl
  | stuck => exact .next hbound (.stuck hout) rfl
  | failed e =>
      simp only [attempted, SessionRun.andThen_value]
      cases haccept : t.policy.retryIf e with
      | false => exact .next hbound (.rejected hout haccept) rfl
      | true =>
          simp only [Bool.not_true, Bool.false_eq_true, if_false]
          cases left with
          | zero => exact .next hbound (.exhausted hout haccept hleft) rfl
          | succ left =>
              have hmore : n + 1 < t.policy.maxAttempts := by omega
              simp only [run_bind, run_sleep, hpause]
              cases hwait : t.pause db w (n + 1) with
              | ended reason => exact .next hbound (.interrupted hout haccept hmore hwait) rfl
              | forever => exact .next hbound (.asleep hout haccept hmore hwait) rfl
              | rested =>
                  have hover := overAfter_loop left (n + 1) (by omega)
                  exact .later ⟨e, hout, haccept, hwait⟩ hover
termination_by left

end attempts

/-! ### The ledger -/

section recorded

variable {δ' σ' ν' : Type} {C : Coupling δ σ ν δ' σ' ν'} {db : Database δ σ ν} {db' : Database δ' σ' ν'}

theorem coupled_transaction (h : C.Joins db db') (k : Nat) :
    Coupled C (t.transaction db k) (t.transaction db' k) :=
  h.runInTransaction t.ctx t.opts fun tx => (t.body k tx).coupled h

theorem coupled_sleep (k : Nat) (ctx : Context) (d : Span) :
    Coupled C (t.sleep k ctx d : SessionM δ σ ν _) (t.sleep k ctx d) := by
  intro u w u' w' hw
  have hrested := C.change_env hw fun env => (t.wait k ctx d env).2
  rw [run_sleep, run_sleep, C.env_eq hw]
  rw [C.env_eq hw] at hrested
  refine ⟨rfl, ?_⟩
  simpa only [List.append_nil] using hrested

theorem coupled_loop (h : C.Joins db db') (left n : Nat) :
    Coupled C (t.loop db left n) (t.loop db' left n) := by
  rw [loop.eq_def, loop.eq_def]
  refine .bind (.attempt (t.coupled_transaction h (n + 1))) fun r => ?_
  cases r with
  | ok a => exact .pure a
  | error e =>
      simp only
      split
      · exact .fail e
      · cases left with
        | zero => exact .bind (.log _) fun _ => .fail _
        | succ left =>
            refine .bind (t.coupled_sleep (n + 1) t.ctx _) fun r => ?_
            cases r with
            | some reason => exact .fail _
            | none => exact coupled_loop h left (n + 1)
termination_by left

theorem coupled_run (h : C.Joins db db') : Coupled C (t.run db) (t.run db') := by
  rw [run_eq_loop, run_eq_loop]
  split
  · exact .fail _
  · exact t.coupled_loop h _ 0

end recorded

section ledger

variable (db : Database δ σ ν) (w : World δ σ) (base : List Entry)

theorem start_recorded (n : Nat) :
    ∃ es, t.start db.recorded (w.recording base) n = (t.start db w n).recording es := by
  induction n with
  | zero => exact ⟨base, rfl⟩
  | succ n ih =>
      obtain ⟨es, hstart⟩ := ih
      have hcoupled := fun base => t.coupled_transaction (db.joins_recorded base) (n + 1)
      obtain ⟨more, hrun, -⟩ := run_recorded hcoupled (t.start db w n) es
      refine ⟨es ++ more, ?_⟩
      rw [start, hstart, hrun]
      rfl

theorem round_recorded (k : Nat) :
    ∃ es, t.round db.recorded (w.recording base) k = (t.round db w k).recording es := by
  obtain ⟨es, hstart⟩ := t.start_recorded db w base (k - 1)
  have hcoupled := fun base => t.coupled_transaction (db.joins_recorded base) k
  obtain ⟨more, hrun, -⟩ := run_recorded hcoupled (t.start db w (k - 1)) es
  refine ⟨es ++ more, ?_⟩
  rw [round, hstart, hrun]
  rfl

theorem outcome_recorded (k : Nat) :
    (t.round db.recorded (w.recording base) k).outcome = (t.round db w k).outcome := by
  obtain ⟨es, hround⟩ := t.round_recorded db w base k
  rw [hround]
  rfl

theorem pause_recorded (k : Nat) : t.pause db.recorded (w.recording base) k = t.pause db w k := by
  obtain ⟨es, hround⟩ := t.round_recorded db w base k
  rw [pause, hround]
  rfl

variable (v : World (δ × List Entry) σ) (ht : ∀ k tx, (t.body k tx).Plain)

include ht

theorem ledger_round (k : Nat) :
    ∃ es, (t.round db.recorded v k).world.ledger = (t.start db.recorded v (k - 1)).ledger ++ es ∧
      Entered t.opts es (t.round db.recorded v k).outcome :=
  db.entries_runInTransaction t.ctx t.opts (t.start db.recorded v (k - 1)) (ht k)

theorem ledger_start (n : Nat)
    (h : ∀ i, 0 < i → i ≤ n → t.GoesOn (t.round db.recorded v i).outcome (t.pause db.recorded v i)) :
    ∃ rounds : List (List Entry), rounds.length = n ∧
      (t.start db.recorded v n).ledger = v.ledger ++ rounds.flatten ∧
      ∀ es ∈ rounds, Fruitless t.opts es := by
  induction n with
  | zero => exact ⟨[], rfl, (List.append_nil _).symm, nofun⟩
  | succ n ih =>
      obtain ⟨rounds, hlength, hledger, hrounds⟩ := ih fun i hi hin => h i hi (by omega)
      obtain ⟨es, hround, hes⟩ := t.ledger_round db v ht (n + 1)
      obtain ⟨e, hfailed, -, -⟩ := h (n + 1) (Nat.succ_pos n) (Nat.le_refl _)
      rw [hfailed] at hes
      have hbefore : (t.start db.recorded v (n + 1 - 1)).ledger = v.ledger ++ rounds.flatten := hledger
      refine ⟨rounds ++ [es], by simp [hlength], ?_, fun fs hfs => ?_⟩
      · show (t.round db.recorded v (n + 1)).world.ledger = _
        rw [hround, hbefore]
        simp
      · obtain hfs | hfs := List.mem_append.mp hfs
        · exact hrounds fs hfs
        · rw [List.mem_singleton.mp hfs]
          exact hes

end ledger

/-- The ledger has the entries of so many attempts, one attempt after another: those before the last came to
nothing, and those of the last are what the outcome says. -/
def Accounts (es : List Entry) (k : Nat) (o : Outcome α) : Prop :=
  ∃ (rounds : List (List Entry)) (last : List Entry), es = rounds.flatten ++ last ∧ rounds.length + 1 = k ∧
    (∀ fs ∈ rounds, Fruitless t.opts fs) ∧ Entered t.opts last o

/-- What an attempt that retrying is over with has entered is what the outcome says. -/
theorem Ends.entered {t : Retrial α} {k : Nat} {o o' : Outcome α} {s : SleepResult} {es : List Entry}
    (h : t.Ends k o s o') (hes : Entered t.opts es o) : Entered t.opts es o' := by
  cases h with
  | succeeded h => exact h ▸ hes
  | rejected h _ => exact h ▸ hes
  | exhausted h _ _ =>
      rw [h] at hes
      exact hes
  | interrupted h _ _ _ =>
      rw [h] at hes
      exact hes
  | asleep h _ _ _ =>
      rw [h] at hes
      exact ⟨Fruitless.commits_eq hes, Fruitless.begins_le hes⟩
  | panicked h => exact h ▸ hes
  | stuck h => exact h ▸ hes

namespace Accounts

variable {t} {es : List Entry} {k : Nat} {o : Outcome α}

theorem commits_eq (h : t.Accounts es k o) : Entry.commits es = if o.value?.isSome then 1 else 0 := by
  obtain ⟨rounds, last, rfl, -, hrounds, hlast⟩ := h
  have hnone : Entry.commits rounds.flatten = 0 := by
    refine List.countP_eq_zero.mpr fun s hs => ?_
    obtain ⟨fs, hfs, hmem⟩ := List.mem_flatten.mp hs
    exact List.countP_eq_zero.mp (hrounds fs hfs).commits_eq s hmem
  rw [Entry.commits_append, hnone, Nat.zero_add]
  cases o with
  | value a => exact Fruitful.commits_eq hlast
  | failed e => exact Fruitless.commits_eq hlast
  | panicked text => exact Fruitless.commits_eq hlast
  | stuck => exact hlast.1

theorem begins_le (h : t.Accounts es k o) : Entry.begins es ≤ k := by
  obtain ⟨rounds, last, rfl, rfl, hrounds, hlast⟩ := h
  have hbefore : Entry.begins rounds.flatten ≤ rounds.length := by
    clear hlast
    induction rounds with
    | nil => exact Nat.zero_le 0
    | cons fs rounds ih =>
        have hfirst := (hrounds fs List.mem_cons_self).begins_le
        have hrest := ih fun fs hfs => hrounds fs (List.mem_cons_of_mem _ hfs)
        rw [List.flatten_cons, Entry.begins_append, List.length_cons]
        omega
  have hend : Entry.begins last ≤ 1 := by
    cases o with
    | value a => exact Nat.le_of_eq (Fruitful.begins_eq hlast)
    | failed e => exact Fruitless.begins_le hlast
    | panicked text => exact Fruitless.begins_le hlast
    | stuck => exact hlast.2
  rw [Entry.begins_append]
  omega

end Accounts

theorem accounts_of_over (db : Database δ σ ν) (w : World δ σ) (ht : ∀ k tx, (t.body k tx).Plain)
    {r : SessionRun (δ × List Entry) σ ν α} (h : t.OverAfter db.recorded (w.recording []) 0 r) :
    ∃ k, 1 ≤ k ∧ k ≤ t.policy.maxAttempts ∧
      (∀ i, 1 ≤ i → i < k → t.GoesOn (t.round db w i).outcome (t.pause db w i)) ∧
      t.Ends k (t.round db w k).outcome (t.pause db w k) r.outcome ∧
      t.Accounts r.world.ledger k r.outcome := by
  obtain ⟨k, hfirst, hlast, hgoes, hends, hdriver⟩ := h
  obtain ⟨rounds, hlength, hstart, hrounds⟩ :=
    t.ledger_start db (w.recording []) ht (k - 1) fun i hi hik => hgoes i hi (by omega)
  obtain ⟨es, hround, hes⟩ := t.ledger_round db (w.recording []) ht k
  have hledger : r.world.ledger = rounds.flatten ++ es := by
    have hempty : (w.recording []).ledger ++ rounds.flatten = rounds.flatten := List.nil_append _
    have hsame : r.world.ledger = (t.round db.recorded (w.recording []) k).world.ledger :=
      congrArg Prod.snd hdriver
    rw [hsame, hround, hstart, hempty]
  simp only [outcome_recorded, pause_recorded] at hgoes hends hes
  exact ⟨k, hfirst, hlast, hgoes, hends, rounds, es, hledger, by omega, hrounds, hends.entered hes⟩

/-- **A retried transaction is committed once.** A driver with a ledger answers as it does without one, so the
ledger of a run tells what the driver did in any. It has one successful commit when the run ends with a value, and
none when it ends otherwise; and it has no more begins than the policy has attempts. Unless the policy refuses
every attempt, retrying is over with some attempt, before which all attempts failed with errors that were worth
another one. In the ledger these have come to nothing, each with what it had begun undone before the next one
begins; and the commit, if there is one, is the end of the last attempt. Where deadlocks and timeouts are what is
worth another attempt, that goes by the kind of what the begin, the body or the commit failed with, whatever
became of the rollback. -/
theorem commits_once (db : Database δ σ ν) (w : World δ σ) (ht : ∀ k tx, (t.body k tx).Plain) :
    let r := (t.run db).run w
    ∃ ledger, (t.run db.recorded).run (w.recording []) = r.recording ledger ∧
      ledger.map Entry.call = r.calls ∧
      Entry.commits ledger = (if r.outcome.value?.isSome then 1 else 0) ∧
      Entry.begins ledger ≤ t.policy.maxAttempts ∧
      (t.policy.maxAttempts = 0 → r = ⟨.failed (.config .noAttempts), w, []⟩) ∧
      (t.policy.maxAttempts ≠ 0 → ∃ k, 1 ≤ k ∧ k ≤ t.policy.maxAttempts ∧
        (∀ i, 1 ≤ i → i < k → t.GoesOn (t.round db w i).outcome (t.pause db w i)) ∧
        t.Ends k (t.round db w k).outcome (t.pause db w k) r.outcome ∧
        t.Accounts ledger k r.outcome) ∧
      (t.policy.retryIf = Error.isTransient → ∀ k e, (t.round db w k).outcome = .failed e →
        ∃ cause, t.cause? db w k = some cause ∧
          (t.policy.retryIf e = true ↔ cause.kind = .deadlock ∨ cause.kind = .timeout)) := by
  intro r
  have hcoupled := fun base => t.coupled_run (db.joins_recorded base)
  obtain ⟨ledger, hrun, hcalls⟩ := run_recorded hcoupled w []
  rw [List.nil_append] at hrun
  have hkind : t.policy.retryIf = Error.isTransient → ∀ k e, (t.round db w k).outcome = .failed e →
      ∃ cause, t.cause? db w k = some cause ∧
        (t.policy.retryIf e = true ↔ cause.kind = .deadlock ∨ cause.kind = .timeout) := by
    intro hretry k e hfailed
    obtain ⟨cause, hcause, hsame⟩ := db.kind_of_failed t.ctx t.opts hfailed
    exact ⟨cause, hcause, by simp [hretry, Error.isTransient, hsame]⟩
  by_cases hzero : t.policy.maxAttempts = 0
  · have hr : r = ⟨.failed (.config .noAttempts), w, []⟩ := by
      simp only [r, run_eq_loop, if_pos hzero]
      rfl
    have hempty : ledger = [] := by
      have hnone : ledger.map Entry.call = r.calls := hcalls
      rw [hr] at hnone
      exact List.map_eq_nil_iff.mp hnone
    refine ⟨ledger, hrun, hcalls, ?_, ?_, fun _ => hr, fun hpos => absurd hzero hpos, hkind⟩
    · rw [hempty, hr]
      rfl
    · rw [hempty]
      exact Nat.zero_le _
  · have hover := t.overAfter_loop db.recorded (w.recording []) (t.policy.maxAttempts - 1) 0 (by omega)
    have hloop : (t.loop db.recorded (t.policy.maxAttempts - 1) 0).run (w.recording []) =
        r.recording ledger := by
      rw [← hrun, run_eq_loop, if_neg hzero]
    have hstart : t.start db.recorded (w.recording []) 0 = w.recording [] := rfl
    rw [hstart, hloop] at hover
    obtain ⟨k, hfirst, hlast, hgoes, hends, haccounts⟩ := t.accounts_of_over db w ht hover
    refine ⟨ledger, hrun, hcalls, haccounts.commits_eq, ?_, fun h => absurd h hzero, fun _ => ?_, hkind⟩
    · exact Nat.le_trans haccounts.begins_le hlast
    · exact ⟨k, hfirst, hlast, hgoes, hends, haccounts⟩

section stumbling

/-- What the first attempt of this section fails with. -/
def deadlock : Error := .ofKind .deadlock (.backend (.ofText "deadlock detected"))

/-- A transaction of one statement that is retried; the first attempt meets a deadlock. -/
def stumbling : Retrial Unit where
  ctx := .background
  opts := .default
  policy := .new 3 (.ofMillis 1)
  body k tx :=
    .call (.transaction tx (.statement (.execute .background "UPDATE accounts" []))) fun _ =>
      .done (if k = 1 then .failed deadlock else .value ())
  wait _ _ _ env := (.rested, env)

/-- The rollback after the deadlock fails as well, and still there is a second attempt, which commits. -/
theorem commits_once_of_stumbling :
    let db := Database.broken (.ofFunction id)
    let r := (stumbling.run db).run Database.quiet
    (∀ k tx, (stumbling.body k tx).Plain) ∧ r.outcome.value? = some () ∧
      r.calls.map Scripted.siteOf =
        [.begin, .statement "UPDATE accounts", .rollback, .begin, .statement "UPDATE accounts", .commit] ∧
      (stumbling.round db Database.quiet 1).outcome =
        .failed (.rollback deadlock (.raw Database.diskError)) ∧
      ∃ ledger : List Entry,
        (stumbling.run db.recorded).run (Database.quiet.recording []) = r.recording ledger ∧
        ledger.map Entry.call = r.calls ∧ Entry.commits ledger = 1 ∧ Entry.begins ledger ≤ 3 := by
  intro db r
  have hplain : ∀ k tx, (stumbling.body k tx).Plain := fun k tx => ⟨rfl, fun _ => trivial⟩
  have hvalue : r.outcome.value? = some () := by decide +kernel
  obtain ⟨ledger, hrun, hcalls, hcommits, hbegins, -⟩ := stumbling.commits_once db Database.quiet hplain
  replace hcommits : Entry.commits ledger = if r.outcome.value?.isSome then 1 else 0 := hcommits
  rw [hvalue] at hcommits
  exact ⟨hplain, hvalue, by decide +kernel, rfl, ledger, hrun, hcalls, hcommits, hbegins⟩

end stumbling

end DbAccess.Retrial
