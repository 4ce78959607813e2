/-!
# Character classes as ranges

A character class is an ascending array of closed ranges of code points. The classes of the Unicode
standard that the library needs are such arrays, in modules named for what the class is used for.
-/

namespace DbAccess.Text

/-- A closed range of code points. -/
abbrev CharRange := Nat × Nat

/-- The code point of `c` lies in one of the ranges. -/
def inRanges (ranges : Array CharRange) (c : Char) : Bool :=
  ranges.any fun r => r.1 ≤ c.toNat && c.toNat ≤ r.2

end DbAccess.Text
