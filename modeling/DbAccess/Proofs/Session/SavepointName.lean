import DbAccess.Proofs.Session.Batch
import DbAccess.Proofs.Sqlite.Savepoint
import Mathlib.Data.String.Basic
/-!
# Names of savepoints

The name of a savepoint becomes part of a statement, so it has to be a plain identifier:
`IsSavepointName` is that grammar. The check counts bytes before it looks at any character, and a text
of the grammar has as many bytes as characters (`utf8ByteSize_of_isNameChar`); so the check accepts the
grammar and nothing else (`savepointFault?_eq_none_iff`), and the fault that it finds is one that the
name has (`Blames`).

`savepoint_guarded` says what an operation on a savepoint comes to, whatever the name is, and
`tokens_sql` that a proper name is one word of the statement.
-/

namespace DbAccess.Database

/-! ### The grammar -/

/-- Letters of ASCII and the underscore. -/
def IsNameStart (c : Char) : Prop := ('A' ≤ c ∧ c ≤ 'Z') ∨ ('a' ≤ c ∧ c ≤ 'z') ∨ c = '_'

/-- Letters and digits of ASCII, and the underscore. -/
def IsNameChar (c : Char) : Prop := IsNameStart c ∨ ('0' ≤ c ∧ c ≤ '9')

/-- The text is a letter or an underscore, and at most 62 letters, digits and underscores. -/
def IsSavepointName (name : String) : Prop :=
  ∃ c rest, name.toList = c :: rest ∧ IsNameStart c ∧ (∀ d ∈ rest, IsNameChar d) ∧ rest.length ≤ 62

theorem isAlpha_iff (c : Char) :
    c.isAlpha = true ↔ ('A' ≤ c ∧ c ≤ 'Z') ∨ ('a' ≤ c ∧ c ≤ 'z') := by
  have hupper : c.isUpper = true ↔ 'A' ≤ c ∧ c ≤ 'Z' := decide_eq_true_iff
  have hlower : c.isLower = true ↔ 'a' ≤ c ∧ c ≤ 'z' :=
    Bool.and_eq_true_iff.trans (and_congr decide_eq_true_iff decide_eq_true_iff)
  rw [← hupper, ← hlower]
  exact Bool.or_eq_true_iff

theorem isSavepointStart_iff (c : Char) : isSavepointStart c = true ↔ IsNameStart c := by
  simp [isSavepointStart, IsNameStart, isAlpha_iff, or_assoc]

theorem isSavepointChar_iff (c : Char) : isSavepointChar c = true ↔ IsNameChar c := by
  have hdigit : Text.isDigit c = true ↔ '0' ≤ c ∧ c ≤ '9' := by simp [Text.isDigit]
  have hchar : isSavepointChar c = (c.isAlpha || Text.isDigit c || decide (c = '_')) := rfl
  rw [hchar, Bool.or_eq_true, Bool.or_eq_true, decide_eq_true_eq, hdigit, isAlpha_iff, IsNameChar, IsNameStart]
  tauto

theorem IsNameStart.isNameChar {c : Char} (h : IsNameStart c) : IsNameChar c := .inl h

theorem utf8Size_of_le {c d : Char} (h : c ≤ d) (hd : d.val ≤ 127) : c.utf8Size = 1 :=
  Char.utf8Size_eq_one_iff.mpr (UInt32.le_trans h hd)

theorem IsNameChar.utf8Size {c : Char} (h : IsNameChar c) : c.utf8Size = 1 := by
  rcases h with (⟨-, h⟩ | ⟨-, h⟩ | rfl) | ⟨-, h⟩
  · exact utf8Size_of_le h (by decide)
  · exact utf8Size_of_le h (by decide)
  · rfl
  · exact utf8Size_of_le h (by decide)

theorem utf8Len_of_isNameChar {cs : List Char} (h : ∀ c ∈ cs, IsNameChar c) :
    String.utf8Len cs = cs.length := by
  induction cs with
  | nil => rfl
  | cons c cs ih =>
      have hcs : String.utf8Len cs = cs.length := ih fun d hd => h d (List.mem_cons_of_mem c hd)
      rw [String.utf8Len_cons, hcs, (h c List.mem_cons_self).utf8Size, List.length_cons]

section check

variable {name : String} {c : Char} {rest : List Char} {fault : InputFault}

/-- A text of the grammar has as many bytes as characters. -/
theorem utf8ByteSize_of_isNameChar (hname : name.toList = c :: rest) (hc : IsNameStart c)
    (hrest : ∀ d ∈ rest, IsNameChar d) : name.utf8ByteSize = rest.length + 1 := by
  have hall : ∀ d ∈ name.toList, IsNameChar d := by
    rw [hname]
    exact List.forall_mem_cons.mpr ⟨hc.isNameChar, hrest⟩
  have hlen := utf8Len_of_isNameChar hall
  rw [← String.utf8ByteSize_ofList, String.ofList_toList, hname, List.length_cons] at hlen
  exact hlen

/-! ### What is wrong with a name -/

/-- The fault is one that the name has. -/
def Blames (name : String) : InputFault → Prop
  | .emptySavepoint => name = ""
  | .longSavepoint bytes => bytes = name.utf8ByteSize ∧ maxSavepointBytes < bytes
  | .badSavepointStart text => text = name ∧ ∃ c rest, name.toList = c :: rest ∧ ¬ IsNameStart c
  | .badSavepointChar d => ∃ c rest, name.toList = c :: rest ∧ d ∈ rest ∧ ¬ IsNameChar d
  | .other _ => False

theorem blames_of_savepointFault? (h : savepointFault? name = some fault) : Blames name fault := by
  rw [savepointFault?] at h
  split at h
  next hname =>
    cases h
    exact String.toList_eq_nil_iff.mp hname
  next c rest hname =>
    split at h
    next hlong =>
      cases h
      exact ⟨rfl, hlong⟩
    split at h
    next hstart =>
      cases h
      refine ⟨rfl, c, rest, hname, fun hc => ?_⟩
      rw [(isSavepointStart_iff c).mpr hc] at hstart
      cases hstart
    obtain ⟨d, hfind, rfl⟩ := Option.map_eq_some_iff.mp h
    refine ⟨c, rest, hname, List.mem_of_find?_eq_some hfind, fun hd => ?_⟩
    have hbad := List.find?_some hfind
    rw [(isSavepointChar_iff d).mpr hd] at hbad
    cases hbad

theorem Blames.not_isSavepointName (h : Blames name fault) : ¬ IsSavepointName name := by
  rintro ⟨c, rest, hname, hc, hrest, hlen⟩
  cases fault with
  | emptySavepoint =>
      rw [show name = "" from h] at hname
      cases hname
  | longSavepoint bytes =>
      obtain ⟨rfl, hlong⟩ := h
      rw [utf8ByteSize_of_isNameChar hname hc hrest, maxSavepointBytes] at hlong
      omega
  | badSavepointStart text =>
      obtain ⟨-, c', rest', hname', hc'⟩ := h
      rw [hname] at hname'
      injection hname' with hcc
      exact hc' (hcc ▸ hc)
  | badSavepointChar d =>
      obtain ⟨c', rest', hname', hmem, hd⟩ := h
      rw [hname] at hname'
      injection hname' with _ hrr
      exact hd (hrest d (hrr ▸ hmem))
  | other text => exact h

theorem isSavepointName_of_savepointFault? (h : savepointFault? name = none) : IsSavepointName name := by
  rw [savepointFault?] at h
  split at h
  next => cases h
  next c rest hname =>
    split at h
    next => cases h
    next hshort =>
      split at h
      next => cases h
      next hstart =>
        have hc : IsNameStart c := (isSavepointStart_iff c).mp (by simpa using hstart)
        have hrest : ∀ d ∈ rest, IsNameChar d := fun d hd =>
          (isSavepointChar_iff d).mp (by simpa using List.find?_eq_none.mp (Option.map_eq_none_iff.mp h) d hd)
        rw [utf8ByteSize_of_isNameChar hname hc hrest, maxSavepointBytes] at hshort
        exact ⟨c, rest, hname, hc, hrest, by omega⟩

/-- **The check accepts the names of the grammar, and no other text.** -/
theorem savepointFault?_eq_none_iff : savepointFault? name = none ↔ IsSavepointName name := by
  refine ⟨isSavepointName_of_savepointFault?, fun h => ?_⟩
  cases hfault : savepointFault? name with
  | none => rfl
  | some fault => exact absurd h (blames_of_savepointFault? hfault).not_isSavepointName

instance : DecidablePred IsSavepointName := fun _ => decidable_of_iff _ savepointFault?_eq_none_iff

end check

/-! ### The statement -/

/-- **The statement tells the operation and the name.** -/
theorem sql_injective {op op' : SavepointOp} {name name' : String} (h : op.sql name = op'.sql name') :
    op = op' ∧ name = name' := by
  rw [Sqlite.sql_eq, Sqlite.sql_eq, ← String.toList_inj] at h
  simp only [String.toList_append, String.toList_ofList] at h
  have hop : op = op' := by cases op <;> cases op' <;> first | rfl | simp [Sqlite.leadOf] at h
  subst hop
  exact ⟨rfl, String.toList_inj.mp (List.append_cancel_left h)⟩

/-- The words of an operation. -/
def SavepointOp.words : SavepointOp → List String
  | create => ["SAVEPOINT"]
  | rollbackTo => ["ROLLBACK", "TO", "SAVEPOINT"]
  | release => ["RELEASE", "SAVEPOINT"]

/-- The statement is the words of the operation and the name, with spaces between them. -/
theorem toList_sql (op : SavepointOp) (name : String) :
    (op.sql name).toList = [' '].intercalate ((op.words ++ [name]).map String.toList) := by
  rw [Sqlite.sql_eq, String.toList_append, String.toList_ofList]
  cases op <;> simp only [SavepointOp.words, List.cons_append, List.nil_append, List.map_cons, List.map_nil,
    List.intercalate_cons_cons, List.intercalate_singleton] <;> rfl

end DbAccess.Database

namespace DbAccess.Sqlite

/-! ### Words that are read -/

/-- The characters are those of one word. -/
def isWord : List Char → Bool
  | [] => false
  | c :: rest => isWordStart c && rest.all isWordPart

theorem isGap_of_isWordStart {c : Char} (h : isWordStart c = true) : isGap c = false := by
  cases hgap : isGap c with
  | false => rfl
  | true =>
      simp only [isGap, Bool.or_eq_true, decide_eq_true_eq] at hgap
      rcases hgap with (((rfl | rfl) | rfl) | rfl) | rfl <;> revert h <;> decide

/-- How a token is written, without its place. -/
def Token.written (t : Token) : Lexeme × String := (t.lexeme, t.text)

theorem tokensFrom_words {ws : List (List Char)} (h : ∀ x ∈ ws, isWord x = true) (fuel start : Nat)
    (hfuel : ([' '].intercalate ws).length ≤ fuel) :
    (tokensFrom fuel start ([' '].intercalate ws)).map Token.written =
      ws.map fun x => (.word, String.ofList x) := by
  induction ws generalizing fuel start with
  | nil => cases fuel <;> rfl
  | cons x ws ih =>
      have hx := h x List.mem_cons_self
      obtain _ | ⟨c, rest⟩ := x
      · cases hx
      obtain ⟨hc, hrest⟩ := (Bool.and_eq_true _ _).mp hx
      have hgap := isGap_of_isWordStart hc
      cases ws with
      | nil =>
          rw [List.intercalate_singleton] at hfuel ⊢
          obtain ⟨fuel, rfl⟩ := Nat.exists_eq_add_of_le' (Nat.le_trans (Nat.succ_le_succ (Nat.zero_le _)) hfuel)
          have hnil : ∀ d ∈ ([] : List Char).head?, isWordPart d = false := nofun
          rw [← List.append_nil rest, tokensFrom_word hc hgap hrest hnil, List.append_nil]
          cases fuel <;> rfl
      | cons y ws =>
          rw [List.intercalate_cons_cons, List.append_assoc, List.singleton_append] at hfuel ⊢
          -- the word and the space behind it take two steps
          obtain ⟨fuel, rfl⟩ : ∃ n, fuel = n + 2 := ⟨fuel - 2, by simp at hfuel; omega⟩
          have hspace : ∀ d ∈ (' ' :: [' '].intercalate (y :: ws)).head?, isWordPart d = false := by
            intro d hd
            cases hd
            decide
          rw [List.cons_append, tokensFrom_word hc hgap hrest hspace, tokensFrom_space, List.map_cons,
            ih (fun z hz => h z (List.mem_cons_of_mem _ hz)) _ _ (by simp at hfuel; omega)]
          rfl

end DbAccess.Sqlite

namespace DbAccess.Database

theorem IsSavepointName.isWord {name : String} (h : IsSavepointName name) :
    Sqlite.isWord name.toList = true := by
  obtain ⟨c, rest, hname, hc, hrest, -⟩ := h
  have hstart {d : Char} (hd : IsNameStart d) : Sqlite.isWordStart d = true := by
    have hs := (isSavepointStart_iff d).mpr hd
    rw [isSavepointStart] at hs
    rw [Sqlite.isWordStart, hs, Bool.true_or]
  rw [hname, Sqlite.isWord, hstart hc, Bool.true_and, List.all_eq_true]
  intro d hd
  rcases hrest d hd with hd | ⟨hlow, hhigh⟩
  · rw [Sqlite.isWordPart, hstart hd, Bool.true_or, Bool.true_or]
  · simp [Sqlite.isWordPart, Text.isDigit, hlow, hhigh]

theorem SavepointOp.isWord_of_mem_words (op : SavepointOp) :
    ∀ word ∈ op.words, Sqlite.isWord word.toList = true := by
  cases op <;> decide

/-- **A proper name adds one word to the statement**, which is the name. -/
theorem tokens_sql (op : SavepointOp) {name : String} (h : IsSavepointName name) :
    (Sqlite.tokens (op.sql name)).map Sqlite.Token.written =
      (op.words ++ [name]).map fun word => (.word, word) := by
  have hwords : ∀ x ∈ (op.words ++ [name]).map String.toList, Sqlite.isWord x = true := by
    rw [List.forall_mem_map, List.forall_mem_append]
    exact ⟨op.isWord_of_mem_words, List.forall_mem_singleton.mpr h.isWord⟩
  have hfuel : ([' '].intercalate ((op.words ++ [name]).map String.toList)).length ≤ (op.sql name).length := by
    rw [← toList_sql, String.length_toList]
  rw [Sqlite.tokens, toList_sql, Sqlite.tokensFrom_words hwords _ _ hfuel, List.map_map]
  simp only [Function.comp_def, String.ofList_toList]

/-! ### What an operation comes to -/

section run

variable {δ σ ν : Type} (db : Database δ σ ν) (w : World δ σ) {tx : TxId} {ctx : Context}
  {op : SavepointOp} {name : String}

open SessionM

theorem run_execute_of_closed {sql : String} {args : List Value} (h : w.active.contains tx = false) :
    (db.execute (.session tx) ctx sql args).run w = ⟨.failed .transactionClosed, w, []⟩ := by
  have ht : takes w (.session tx) = false := h
  rw [execute, run_bind, run_statementAt, ht]
  rfl

theorem run_savepoint_of_fault {fault : InputFault} (h : savepointFault? name = some fault) :
    (db.savepoint tx ctx op name).run w = ⟨.failed (.invalidInput fault), w, []⟩ := by
  rw [savepoint, h]
  rfl

theorem run_savepoint_of_named (h : IsSavepointName name) :
    (db.savepoint tx ctx op name).run w =
      ((db.execute (.session tx) ctx (op.sql name) []).run w).map fun _ => () := by
  rw [savepoint, savepointFault?_eq_none_iff.mpr h]
  exact run_discard w _

/-- With a proper name, an operation on a closed transaction is refused, and nothing happens. -/
theorem run_savepoint_of_closed (hname : IsSavepointName name) (h : w.active.contains tx = false) :
    (db.savepoint tx ctx op name).run w = ⟨.failed .transactionClosed, w, []⟩ := by
  rw [db.run_savepoint_of_named w hname, db.run_execute_of_closed w h]
  rfl

/-- With a proper name, an operation on an active transaction is its statement. -/
theorem run_savepoint_of_active (hname : IsSavepointName name) (h : w.active.contains tx = true) :
    let call := DriverCall.execute (.session tx) (op.sql name) []
    (db.savepoint tx ctx op name).run w =
      ⟨(db.rawOutcome (db.statementRaw? w ctx (op.sql name) [] call)).map fun _ => (),
        ((db.statement ctx (op.sql name) [] call).run w).world,
        ((db.statement ctx (op.sql name) [] call).run w).trace⟩ := by
  have ht : takes w (.session tx) = true := h
  rw [db.run_savepoint_of_named w hname, execute, db.run_statementAt_ofExcept w _ _ _ _ ht]
  rfl

/-- What is refused for its input in every world has no proper name: with one, a transaction that is closed is
refused for that. -/
theorem not_isSavepointName_of_run (w : World δ σ) {fault : InputFault}
    (hr : ∀ w' : World δ σ, (db.savepoint tx ctx op name).run w' = ⟨.failed (.invalidInput fault), w', []⟩) :
    ¬ IsSavepointName name := by
  intro hname
  have hclosed : (db.savepoint tx ctx op name).run { w with active := [] } = ⟨.failed .transactionClosed, _, []⟩ :=
    db.run_savepoint_of_closed _ hname rfl
  rw [hr] at hclosed
  cases hclosed

/-- With a proper name, a refusal of the input that leaves no mark is what the mapper makes of a context that has
ended. -/
theorem classify_of_run {fault : InputFault} (hname : IsSavepointName name)
    (hr : (db.savepoint tx ctx op name).run w = ⟨.failed (.invalidInput fault), w, []⟩) :
    ∃ e, db.statementRefusal? w ctx (op.sql name) [] = some e ∧
      db.classify (.context e) = .invalidInput fault := by
  cases h : w.active.contains tx with
  | false =>
      rw [db.run_savepoint_of_closed w hname h] at hr
      cases hr
  | true =>
      rw [db.run_savepoint_of_active w hname h] at hr
      injection hr with houtcome _ htrace
      have hcalls := db.calls_statement w ctx (op.sql name) [] (.execute (.session tx) (op.sql name) [])
      rw [SessionRun.calls, htrace] at hcalls
      cases hrefusal : db.statementRefusal? w ctx (op.sql name) [] with
      | none =>
          rw [hrefusal] at hcalls
          cases hcalls
      | some e =>
          rw [statementRaw?_eq, hrefusal] at houtcome
          exact ⟨e, rfl, Outcome.failed.inj houtcome⟩

/-- A statement that is not dispatched takes time all the same, unless hooks set the clock back. -/
theorem now_lt_statement_of_refused (hhooks : db.hooks.Forward) {sql : String} {args : List Value}
    {e : ContextError} (h : db.statementRefusal? w ctx sql args = some e) (c : DriverCall) :
    w.env.now < ((db.statement ctx sql args c).run w).world.env.now := by
  have hworld : ∃ n, ((db.statement ctx sql args c).run w).world = db.told (db.briefed w ctx sql args) n := by
    rw [run_statement]
    simp only [run_dispatchLive_briefed, h]
    exact ⟨_, rfl⟩
  obtain ⟨n, hworld⟩ := hworld
  rw [hworld]
  have hbegun : w.env.now < w.tick.env.now := Nat.lt_add_of_pos_right (by decide)
  have hbriefed := (HookChain.precedes_tell hhooks ⟨w.tick.env, w.thread⟩ (db.briefing w ctx sql args) w.hooks).1
  have hconcluded := (HookChain.precedes_tell hhooks ⟨(db.briefed w ctx sql args).env, w.thread⟩ n
    (db.briefed w ctx sql args).hooks).1
  exact Nat.lt_of_lt_of_le hbegun (Nat.le_trans hbriefed hconcluded)

/-- Under hooks that do not set the clock back, no operation with a proper name is refused for its input in no
time. -/
theorem run_ne_of_isSavepointName (hhooks : db.hooks.Forward) (hname : IsSavepointName name) (fault : InputFault) :
    (db.savepoint tx ctx op name).run w ≠ ⟨.failed (.invalidInput fault), w, []⟩ := by
  intro hr
  obtain ⟨e, hrefusal, -⟩ := db.classify_of_run w hname hr
  cases h : w.active.contains tx with
  | false =>
      rw [db.run_savepoint_of_closed w hname h] at hr
      cases hr
  | true =>
      rw [db.run_savepoint_of_active w hname h] at hr
      have hlater := db.now_lt_statement_of_refused w hhooks hrefusal (.execute (.session tx) (op.sql name) [])
      injection hr with _ hworld _
      rw [hworld] at hlater
      exact Nat.lt_irrefl _ hlater

/-- **What an operation on a savepoint comes to, whatever the name is.** It is refused in every world for the same
fault of its input, before anything happens, just when the name is not of the grammar; and then the name has that
fault. One world is enough to tell when no hook sets the clock back. With a proper name a refusal of the input can
only be what the mapper makes of a context that has ended. Such an operation is refused when the transaction is
closed, also before anything happens. Otherwise it leaves the transaction active, and ends as what comes back to the
one call that it makes of the driver, or to none when its context has ended. No other operation and no other name
have the statement of that call. -/
theorem savepoint_guarded (tx : TxId) (ctx : Context) (op : SavepointOp) (name : String) :
    let run := (db.savepoint tx ctx op name).run
    let call := DriverCall.execute (.session tx) (op.sql name) []
    ((∃ fault, ∀ w', run w' = ⟨.failed (.invalidInput fault), w', []⟩) ↔ ¬ IsSavepointName name) ∧
    (db.hooks.Forward →
      ((∃ fault, run w = ⟨.failed (.invalidInput fault), w, []⟩) ↔ ¬ IsSavepointName name)) ∧
    (¬ IsSavepointName name → ∀ fault, run w = ⟨.failed (.invalidInput fault), w, []⟩ → Blames name fault) ∧
    (IsSavepointName name → ∀ fault, run w = ⟨.failed (.invalidInput fault), w, []⟩ →
      ∃ e, db.statementRefusal? w ctx (op.sql name) [] = some e ∧
        db.classify (.context e) = .invalidInput fault) ∧
    (IsSavepointName name → w.active.contains tx = false → run w = ⟨.failed .transactionClosed, w, []⟩) ∧
    (IsSavepointName name → w.active.contains tx = true →
      (run w).world.active = w.active ∧
      (run w).calls = (if (db.statementRefusal? w ctx (op.sql name) []).isSome then [] else [call]) ∧
      (run w).outcome = (db.rawOutcome (db.statementRaw? w ctx (op.sql name) [] call)).map fun _ => ()) ∧
    ∀ op' name', op'.sql name' = op.sql name → op' = op ∧ name' = name := by
  intro run call
  have hrefused (hname : ¬ IsSavepointName name) :
      ∃ fault, Blames name fault ∧ ∀ w', run w' = ⟨.failed (.invalidInput fault), w', []⟩ := by
    obtain ⟨fault, hfault⟩ := Option.ne_none_iff_exists'.mp (mt savepointFault?_eq_none_iff.mp hname)
    exact ⟨fault, blames_of_savepointFault? hfault, fun w' => db.run_savepoint_of_fault w' hfault⟩
  refine ⟨⟨?_, fun hname => ?_⟩, fun hhooks => ⟨?_, fun hname => ?_⟩, fun hname fault hr => ?_,
    fun hname fault hr => db.classify_of_run w hname hr, db.run_savepoint_of_closed w, fun hname h => ?_,
    fun op' name' h => sql_injective h⟩
  · rintro ⟨fault, hr⟩
    exact db.not_isSavepointName_of_run w hr
  · obtain ⟨fault, -, hr⟩ := hrefused hname
    exact ⟨fault, hr⟩
  · rintro ⟨fault, hr⟩ hname
    exact db.run_ne_of_isSavepointName w hhooks hname fault hr
  · obtain ⟨fault, -, hr⟩ := hrefused hname
    exact ⟨fault, hr w⟩
  · obtain ⟨fault', hblames, hr'⟩ := hrefused hname
    rw [hr' w] at hr
    cases hr
    exact hblames
  · rw [show run w = _ from db.run_savepoint_of_active w hname h]
    exact ⟨db.active_statement w ctx _ _ _, db.calls_statement w ctx _ _ _, rfl⟩

end run

section injection

/-- A name that goes on behind a word is refused, also for a transaction that is active. -/
theorem savepoint_of_injection :
    let db := broken .default
    let w := ((db.begin .background .default).run quiet).world
    let undo (tx : TxId) (name : String) := (db.savepoint tx .background .rollbackTo name).run w
    IsSavepointName "sp_1" ∧ w.active.contains 0 = true ∧ w.active.contains 7 = false ∧
      (undo 0 "sp_1").calls = [.execute (.session 0) "ROLLBACK TO SAVEPOINT sp_1" []] ∧
      (undo 0 "sp_1").outcome = .value () ∧
      undo 7 "sp_1" = ⟨.failed .transactionClosed, w, []⟩ ∧
      ¬ IsSavepointName "sp_1; DROP TABLE t" ∧
      ∃ fault, undo 0 "sp_1; DROP TABLE t" = ⟨.failed (.invalidInput fault), w, []⟩ := by
  intro db w undo
  have hname : IsSavepointName "sp_1" := by decide
  have hbad : ¬ IsSavepointName "sp_1; DROP TABLE t" := by decide
  obtain ⟨-, -, -, -, -, hactive, -⟩ := db.savepoint_guarded w 0 .background .rollbackTo "sp_1"
  obtain ⟨-, -, -, -, hclosed, -⟩ := db.savepoint_guarded w 7 .background .rollbackTo "sp_1"
  obtain ⟨hrefused, -⟩ := db.savepoint_guarded w 0 .background .rollbackTo "sp_1; DROP TABLE t"
  obtain ⟨-, hcalls, houtcome⟩ := hactive hname rfl
  obtain ⟨fault, hfault⟩ := hrefused.mpr hbad
  exact ⟨hname, rfl, rfl, hcalls, houtcome, hclosed hname rfl, hbad, fault, hfault w⟩

end injection

end DbAccess.Database
