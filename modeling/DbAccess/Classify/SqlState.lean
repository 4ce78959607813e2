import DbAccess.Error.Basic
import DbAccess.Text.Blank
/-!
# SQLSTATE

PostgreSQL names an error by a SQLSTATE of five characters. `SqlState.kind?` knows what a code means,
and `SqlState.last?` finds the last code that a message mentions, reading from the left and going on
behind each code found.
-/

namespace DbAccess.SqlState

open Text (isBlank)

/-- Codes with a meaning of their own. -/
def table : List (String × ErrorKind) :=
  [("23505", .duplicateKey), ("23503", .foreignKeyViolation), ("23514", .checkViolation),
    ("40P01", .deadlock), ("57014", .timeout), ("08000", .connectionFailed),
    ("08001", .connectionFailed), ("08003", .connectionFailed), ("08004", .connectionFailed),
    ("08006", .connectionFailed), ("08007", .connectionFailed), ("08P01", .connectionFailed)]

/-- The meaning of a code. Every code of class `08` is a lost connection. -/
def kind? (code : String) : Option ErrorKind :=
  match table.lookup code with
  | some k => some k
  | none => if "08".toList.isPrefixOf code.toList then some .connectionFailed else none

/-- A character of a code. -/
def isCodeChar (c : Char) : Bool := ('0' ≤ c && c ≤ '9') || ('A' ≤ c && c ≤ 'Z')

/-- The word before a code. -/
def marker : List Char := "SQLSTATE".toList

/-- A mention of a code at the front: the marker, white space, and the five characters of the code.
The result is the code and what follows it. -/
def mention? (s : List Char) : Option (List Char × List Char) :=
  if marker.isPrefixOf s then
    let rest := s.drop marker.length
    let code := (rest.dropWhile isBlank).take 5
    if rest.head?.any isBlank && code.length = 5 && code.all isCodeChar then
      some (code, (rest.dropWhile isBlank).drop 5)
    else none
  else none

theorem length_lt_of_mention? {s code rest : List Char} (h : mention? s = some (code, rest)) :
    rest.length < s.length := by
  simp only [mention?] at h
  split at h
  · split at h
    · rename_i hp hc
      simp only [Option.some.injEq, Prod.mk.injEq] at h
      obtain ⟨hcode, rfl⟩ := h
      simp only [Bool.and_eq_true, decide_eq_true_eq] at hc
      have hlen := hc.1.2
      have hdw := (List.dropWhile_suffix isBlank (l := s.drop marker.length)).sublist.length_le
      simp only [List.length_take, List.length_drop] at *
      omega
    · cases h
  · cases h

/-- The codes that the text mentions, from the left; mentions do not overlap. -/
def mentions (s : List Char) : List (List Char) :=
  match s with
  | [] => []
  | c :: rest =>
    match _h : mention? (c :: rest) with
    | some (code, tail) => code :: mentions tail
    | none => mentions rest
termination_by s.length
decreasing_by
  · exact length_lt_of_mention? _h
  · exact Nat.lt_succ_self rest.length

/-- The last code that the message mentions. -/
def last? (message : String) : Option String :=
  (mentions message.toList).getLast?.map String.ofList

/-- The meaning of a backend error by its SQLSTATE, or by the last one in its message when it has
none. -/
def classify (e : BackendError) : Option ErrorKind :=
  match e.sqlState with
  | some code => kind? code
  | none => (last? e.message).bind kind?

end DbAccess.SqlState
