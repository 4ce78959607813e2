/-!
# Searching texts
-/

namespace DbAccess.Text

/-- The pattern occurs in the list as consecutive elements. -/
def occursIn (pattern : List Char) : List Char → Bool
  | [] => pattern.isEmpty
  | c :: rest => pattern.isPrefixOf (c :: rest) || occursIn pattern rest

/-- The pattern occurs in the text. -/
def contains (text pattern : String) : Bool := occursIn pattern.toList text.toList

/-- The parts of the text before and after the first occurrence of the character. -/
def splitFirst? (c : Char) (s : List Char) : Option (List Char × List Char) :=
  match s.dropWhile (· != c) with
  | [] => none
  | _ :: after => some (s.takeWhile (· != c), after)

end DbAccess.Text
