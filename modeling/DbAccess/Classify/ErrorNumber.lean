import DbAccess.Error.Basic
import DbAccess.Text.Blank
import DbAccess.Text.Digits
import DbAccess.Text.Word
/-!
# MySQL error numbers

MySQL names an error by a number of four digits, which its messages give as `Error 1062`.
`ErrorNumber.first?` finds the first mention of that form.
-/

namespace DbAccess.ErrorNumber

open Text (isBlank isDecimalDigit isWordChar)

/-- Numbers with a meaning of their own. -/
def table : List (Int × ErrorKind) :=
  [(1062, .duplicateKey), (1216, .foreignKeyViolation), (1217, .foreignKeyViolation),
    (1451, .foreignKeyViolation), (1452, .foreignKeyViolation), (3819, .checkViolation),
    (1213, .deadlock), (1205, .timeout), (3024, .timeout), (1045, .connectionFailed),
    (2002, .connectionFailed), (2003, .connectionFailed), (2006, .connectionFailed),
    (2013, .connectionFailed)]

/-- The meaning of a number. -/
def kind? (n : Int) : Option ErrorKind := table.lookup n

/-- The word before a number, in lower case. -/
def marker : List Char := "error".toList

/-- A mention at the front: the marker in any letter case, white space, and four digits of any script
that no word character follows. The result is the digits. -/
def mention? (s : List Char) : Option (List Char) :=
  if (s.take marker.length).map Char.toLower = marker then
    let rest := s.drop marker.length
    let digits := (rest.dropWhile isBlank).take 4
    let after := (rest.dropWhile isBlank).drop 4
    if rest.head?.any isBlank && digits.length = 4 && digits.all isDecimalDigit &&
        !after.head?.any isWordChar then some digits
    else none
  else none

/-- The first mention that does not begin inside a word. The flag tells whether a word character comes
before the text. -/
def firstFrom : Bool → List Char → Option (List Char)
  | _, [] => none
  | inWord, c :: rest =>
    match (if inWord then none else mention? (c :: rest)) with
    | some digits => some digits
    | none => firstFrom (isWordChar c) rest

/-- The first number that the message mentions; it must be written in ASCII digits. -/
def first? (message : String) : Option Nat :=
  (firstFrom false message.toList).bind fun ds =>
    if ds.all Text.isDigit then some (Text.digitsValue ds) else none

/-- The meaning of a message by the number it mentions. -/
def ofMessage? (message : String) : Option ErrorKind := (first? message).bind fun n => kind? n

/-- The meaning of a backend error by its number, or by the one in its message when it has none. -/
def classify (e : BackendError) : Option ErrorKind :=
  match e.vendorCode with
  | some n => kind? n
  | none => ofMessage? e.message

end DbAccess.ErrorNumber
