import DbAccess.Text.Printable
/-!
# Quoted text

Texts and characters as they appear inside messages: in quotes, with short escapes for the common
control characters and `\u{…}` for whatever would not show.
-/

namespace DbAccess.Text

/-- Lower-case hexadecimal digits of `n`. -/
def hex (n : Nat) : List Char := Nat.toDigits 16 n

/-- Escape of one character between the quotes `quote`. -/
def escapeChar (quote : Char) (c : Char) : List Char :=
  if c = '\x00' then ['\\', '0']
  else if c = '\t' then ['\\', 't']
  else if c = '\r' then ['\\', 'r']
  else if c = '\n' then ['\\', 'n']
  else if c = '\\' then ['\\', '\\']
  else if c = quote then ['\\', quote]
  else if isExtender c || !isPrintable c then ['\\', 'u', '\x7b'] ++ hex c.toNat ++ ['\x7d']
  else [c]

/-- The text in double quotes. -/
def quote (s : String) : String :=
  String.ofList ('"' :: s.toList.flatMap (escapeChar '"') ++ ['"'])

/-- The single quote. -/
def apostrophe : Char := Char.ofNat 0x27

/-- The character in single quotes. -/
def quoteChar (c : Char) : String :=
  String.ofList (apostrophe :: escapeChar apostrophe c ++ [apostrophe])

end DbAccess.Text
