import DbAccess.Text.CharRange
/-!
# White space

`isBlank` is the Unicode property White_Space, which is wider than `Char.isWhitespace`; a text is
blank when nothing else occurs in it.
-/

namespace DbAccess.Text

/-- Code points of the property White_Space. -/
def blankRanges : Array CharRange :=
  #[(0x9, 0xD), (0x20, 0x20), (0x85, 0x85), (0xA0, 0xA0), (0x1680, 0x1680), (0x2000, 0x200A),
    (0x2028, 0x2029), (0x202F, 0x202F), (0x205F, 0x205F), (0x3000, 0x3000)]

/-- White space of any script. -/
def isBlank (c : Char) : Bool := inRanges blankRanges c

/-- Every character of the text is white space. -/
def allBlank (s : String) : Bool := s.toList.all isBlank

/-- The text without white space at its two ends. -/
def trimBlank (s : String) : String :=
  String.ofList ((s.toList.dropWhile isBlank).reverse.dropWhile isBlank).reverse

end DbAccess.Text
