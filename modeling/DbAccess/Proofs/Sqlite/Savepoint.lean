import DbAccess.Session.Transaction
import DbAccess.Sqlite.Sql.Reader
import DbAccess.Text.Blank
/-!
# How savepoint statements are read

The statement of an operation on a savepoint is built from a name. `read_savepoint` says that whatever
the name is, the statement is read as an operation on some savepoint or not at all. It is the words
before the name that decide: `tokensFrom_word` reads them, and `command_of_savepoint` and its
companions say what may follow them.
-/

namespace DbAccess.Sqlite

/-! ### Words at the front of a text -/

section tokens

variable {fuel start : Nat} {c : Char} {w r : List Char}

theorem dropWhile_of_all {p : Char → Bool} (hw : ∀ d ∈ w, p d = true)
    (hr : ∀ d ∈ r.head?, p d = false) :
    (w ++ r).dropWhile p = r := by
  rw [List.dropWhile_append_of_pos hw]
  cases r with
  | nil => rfl
  | cons d r => rw [List.dropWhile_cons, hr d rfl, if_neg Bool.false_ne_true]

/-- A word at the front of a text is a token. -/
theorem tokensFrom_word (hc : isWordStart c = true) (hgap : isGap c = false)
    (hw : w.all isWordPart = true) (hr : ∀ d ∈ r.head?, isWordPart d = false) :
    tokensFrom (fuel + 1) start (c :: (w ++ r)) =
      ⟨.word, String.ofList (c :: w), start⟩ :: tokensFrom fuel (start + (w.length + 1)) r := by
  have hlen : (w ++ r).length + 1 - r.length = w.length + 1 := by
    rw [List.length_append]
    omega
  have htake : (c :: (w ++ r)).take (w.length + 1) = c :: w := by simp
  simp only [tokensFrom, hgap, Bool.false_eq_true, if_false, readToken, hc, if_true,
    dropWhile_of_all (List.all_eq_true.mp hw) hr, hlen, htake]

theorem tokensFrom_space : tokensFrom (fuel + 1) start (' ' :: r) = tokensFrom fuel (start + 1) r := by
  simp [tokensFrom, isGap]

theorem firstStatement_word {t : Token} {ts : List Token} (h : t.lexeme = .word) :
    firstStatement (t :: ts) = t :: ts.takeWhile fun t => !t.endsStatement := by
  have ht : t.endsStatement = false := by simp [Token.endsStatement, Token.isSymbol, h]
  simp [firstStatement, ht]

end tokens

/-! ### White space at the ends -/

/-- The text without white space at its end. -/
def trimEnd (l : List Char) : List Char := (l.reverse.dropWhile Text.isBlank).reverse

/-- A text whose front has no white space at its ends loses white space behind that only. -/
theorem trimBlank_append {a b : List Char} (hhead : ∀ d ∈ a.head?, Text.isBlank d = false)
    (hlast : ∀ d ∈ a.getLast?, Text.isBlank d = false) (ha : a ≠ []) :
    Text.trimBlank (String.ofList (a ++ b)) = String.ofList (a ++ trimEnd b) := by
  have hfront : (a ++ b).dropWhile Text.isBlank = a ++ b := by
    cases a with
    | nil => exact absurd rfl ha
    | cons d a => rw [List.cons_append, List.dropWhile_cons, hhead d rfl, if_neg Bool.false_ne_true]
  have hback : a.reverse.dropWhile Text.isBlank = a.reverse := by
    cases hrev : a.reverse with
    | nil => rfl
    | cons d rest =>
        have hd : d ∈ a.getLast? := by
          rw [← List.head?_reverse, hrev]
          rfl
        rw [List.dropWhile_cons, hlast d hd, if_neg Bool.false_ne_true]
  unfold Text.trimBlank trimEnd
  rw [String.toList_ofList, hfront, List.reverse_append, List.dropWhile_append]
  split
  · rename_i h
    rw [hback, List.isEmpty_iff.mp h]
    simp
  · rw [List.reverse_append, List.reverse_reverse]

theorem head_trimEnd (l : List Char) : ∀ d ∈ (trimEnd (' ' :: l)).head?, d = ' ' := by
  intro d hd
  have hprefix : trimEnd (' ' :: l) <+: ' ' :: l := by
    rw [← List.reverse_suffix, trimEnd, List.reverse_reverse]
    exact List.dropWhile_suffix _
  obtain ⟨x, hx⟩ := hprefix
  cases ht : trimEnd (' ' :: l) with
  | nil =>
      rw [ht] at hd
      cases hd
  | cons e t =>
      rw [ht] at hd hx
      injection hx with he
      injection hd with hd
      exact hd.symm.trans he

/-! ### Words that decide -/

namespace SqlReader

variable {α β : Type} {t u : Token} {ts rest : List Token} {c : Command}

theorem bind_eq_ok {x : SqlReader α} {f : α → SqlReader β} {b : β} (h : (x >>= f) ts = .ok (b, rest)) :
    ∃ a us, x ts = .ok (a, us) ∧ f a us = .ok (b, rest) := by
  have hb : (x >>= f) ts = (x ts >>= fun r => f r.1 r.2) := rfl
  rw [hb] at h
  cases hx : x ts with
  | error e =>
      rw [hx] at h
      cases h
  | ok r =>
      rw [hx] at h
      exact ⟨r.1, r.2, rfl, h⟩

theorem map_eq_ok {x : SqlReader α} {f : α → β} {b : β} (h : (f <$> x) ts = .ok (b, rest)) :
    ∃ a, b = f a := by
  obtain ⟨a, us, _, h⟩ := bind_eq_ok (x := x) (f := fun a => pure (f a)) h
  injection h with h
  injection h with h
  exact ⟨a, h.symm⟩

theorem optional_bind (k : String) (f : Bool → SqlReader α) :
    (optional k >>= f) (t :: ts) = if t.keyword = k then f true ts else f false (t :: ts) := by
  have ho : optional k (t :: ts) = if t.keyword = k then .ok (true, ts) else .ok (false, t :: ts) := by
    have hx : optional k (t :: ts) = (if decide (t.keyword = k) then skip >>= fun _ => pure true
        else pure false : SqlReader Bool) (t :: ts) := rfl
    rw [hx]
    by_cases h : t.keyword = k
    · rw [if_pos (decide_eq_true h), if_pos h]
      rfl
    · rw [if_neg (by simp [h]), if_neg h]
      rfl
  have hb : (optional k >>= f) (t :: ts) = (optional k (t :: ts) >>= fun r => f r.1 r.2) := rfl
  rw [hb, ho]
  split <;> rfl

theorem command_of_savepoint (h : t.keyword = "SAVEPOINT") (hc : command (t :: ts) = .ok (c, rest)) :
    ∃ n, c = .savepoint n := by
  simp [command, optional_bind, h] at hc
  exact map_eq_ok hc

theorem command_of_release (h : t.keyword = "RELEASE") (hc : command (t :: ts) = .ok (c, rest)) :
    ∃ n, c = .release n := by
  simp [command, optional_bind, h] at hc
  obtain ⟨_, _, _, hc⟩ := bind_eq_ok hc
  exact map_eq_ok hc

theorem command_of_rollbackTo (h : t.keyword = "ROLLBACK") (hu : u.keyword = "TO")
    (hc : command (t :: u :: ts) = .ok (c, rest)) : ∃ n, c = .rollbackTo n := by
  simp [command, optional_bind, h, hu] at hc
  obtain ⟨_, _, _, hc⟩ := bind_eq_ok hc
  exact map_eq_ok hc

theorem command_of_read {sql : String} (hts : firstStatement (tokens sql) = t :: ts)
    (h : Command.read sql = .ok c) : ∃ rest, command (t :: ts) = .ok (c, rest) := by
  unfold Command.read at h
  rw [hts] at h
  cases hw : whole (t :: ts) with
  | error rest =>
      simp only [hw] at h
      cases h
  | ok r =>
      obtain ⟨c', rest⟩ := r
      simp only [hw] at h
      injection h with h
      obtain ⟨c'', us, hcommand, hrest⟩ := bind_eq_ok hw
      obtain ⟨next, us', _, hrest⟩ := bind_eq_ok hrest
      cases next with
      | some u => cases hrest
      | none =>
          injection hrest with hrest
          injection hrest with hrest
          rw [← h, ← hrest]
          exact ⟨us, hcommand⟩

end SqlReader

/-! ### The statements -/

/-- The command is an operation on a savepoint. -/
def isSavepointCommand : Command → Bool
  | .savepoint _ | .rollbackTo _ | .release _ => true
  | _ => false

/-- A statement that begins with a word and is read is a command that begins with that word. -/
theorem command_of_word {d : Char} {w r : List Char} {c : Command} (hd : isWordStart d = true)
    (hgap : isGap d = false) (hw : w.all isWordPart = true) (hr : ∀ d ∈ r.head?, isWordPart d = false)
    (h : Command.read (String.ofList (d :: (w ++ r))) = .ok c) :
    ∃ rest, SqlReader.command (⟨.word, String.ofList (d :: w), 0⟩ ::
      (tokensFrom (w ++ r).length (w.length + 1) r).takeWhile fun t => !t.endsStatement) =
        .ok (c, rest) := by
  have hlen : (String.ofList (d :: (w ++ r))).length = (w ++ r).length + 1 := by
    rw [String.length_ofList, List.length_cons]
  refine SqlReader.command_of_read ?_ h
  rw [tokens, hlen, String.toList_ofList, tokensFrom_word hd hgap hw hr, Nat.zero_add]
  exact firstStatement_word rfl

/-- The words before the name of a savepoint. -/
def leadOf : Database.SavepointOp → List Char
  | .create => ['S', 'A', 'V', 'E', 'P', 'O', 'I', 'N', 'T']
  | .rollbackTo =>
    ['R', 'O', 'L', 'L', 'B', 'A', 'C', 'K', ' ', 'T', 'O', ' ', 'S', 'A', 'V', 'E', 'P', 'O', 'I', 'N', 'T']
  | .release => ['R', 'E', 'L', 'E', 'A', 'S', 'E', ' ', 'S', 'A', 'V', 'E', 'P', 'O', 'I', 'N', 'T']

theorem sql_eq (op : Database.SavepointOp) (name : String) :
    op.sql name = String.ofList (leadOf op ++ [' ']) ++ name := by
  cases op <;> rfl

theorem trimBlank_sql (op : Database.SavepointOp) (name : String) :
    Text.trimBlank (op.sql name) = String.ofList (leadOf op ++ trimEnd (' ' :: name.toList)) := by
  have hsql : op.sql name = String.ofList (leadOf op ++ ' ' :: name.toList) := by
    rw [sql_eq, ← String.toList_inj, String.toList_append, String.toList_ofList, String.toList_ofList,
      List.append_assoc, List.singleton_append]
  rw [hsql]
  refine trimBlank_append ?_ ?_ (by cases op <;> nofun)
  · intro d hd
    have hd : d = 'S' ∨ d = 'R' := by
      cases op <;> simp only [leadOf, List.head?_cons, Option.mem_some] at hd <;> simp [← hd]
    rcases hd with rfl | rfl <;> decide +kernel
  · intro d hd
    have hd : d = 'T' := by
      cases op <;> exact (Option.some.inj hd).symm
    rw [hd]
    decide +kernel

/-- **Whatever the name is**, the statement of an operation on a savepoint is read as one, if it is
read. -/
theorem read_savepoint (op : Database.SavepointOp) (name : String) {c : Command}
    (h : Command.read (Text.trimBlank (op.sql name)) = .ok c) : isSavepointCommand c = true := by
  have hspace : ∀ d ∈ (trimEnd (' ' :: name.toList)).head?, isWordPart d = false := by
    intro d hd
    rw [head_trimEnd _ d hd]
    decide
  rw [trimBlank_sql] at h
  generalize trimEnd (' ' :: name.toList) = x at h hspace
  -- the word before the name ends at the blank that follows it
  have hblank : ∀ {r : List Char}, ∀ d ∈ (' ' :: r).head?, isWordPart d = false := by
    intro r d hd
    rw [← Option.some.inj hd]
    decide
  cases op with
  | create =>
      obtain ⟨rest, hc⟩ := command_of_word (d := 'S') (w := "AVEPOINT".toList) (by decide)
        (by decide) (by decide) hspace h
      obtain ⟨n, rfl⟩ := SqlReader.command_of_savepoint (by decide +kernel) hc
      rfl
  | rollbackTo =>
      obtain ⟨rest, hc⟩ := command_of_word (d := 'R') (w := "OLLBACK".toList) (by decide)
        (by decide) (by decide) (hblank (r := 'T' :: (['O'] ++ ' ' :: (leadOf .create ++ x)))) h
      have hlen : ("OLLBACK".toList ++ ' ' :: 'T' :: (['O'] ++ ' ' :: (leadOf .create ++ x))).length =
          x.length + 18 + 1 + 1 := by
        simp [leadOf]
      rw [hlen, tokensFrom_space, tokensFrom_word (by decide) (by decide) (by decide) hblank,
        List.takeWhile_cons_of_pos (by simp [Token.endsStatement, Token.isSymbol])] at hc
      obtain ⟨n, rfl⟩ := SqlReader.command_of_rollbackTo (by decide +kernel) (by decide +kernel) hc
      rfl
  | release =>
      obtain ⟨rest, hc⟩ := command_of_word (d := 'R') (w := "ELEASE".toList) (by decide)
        (by decide) (by decide) (hblank (r := leadOf .create ++ x)) h
      obtain ⟨n, rfl⟩ := SqlReader.command_of_release (by decide +kernel) hc
      rfl

end DbAccess.Sqlite
