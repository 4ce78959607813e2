import DbAccess.Text.Digits
/-!
# Words of SQL

A text of SQL is read as tokens. Each token knows where in the text it begins, so a message can point at it,
and a script can be cut behind the mark that ends a statement.
-/

namespace DbAccess.Sqlite

/-- What a token is. -/
inductive Lexeme where
  | word
  | number (n : Nat)
  | quoted (s : String)
  /-- A numbered parameter. -/
  | param (n : Nat)
  | symbol
deriving DecidableEq, Repr

/-- A token: what it is, how it is written, and how many characters stand before it. -/
structure Token where
  lexeme : Lexeme
  text : String
  start : Nat
deriving DecidableEq, Repr

/-- White space between tokens. -/
def isGap (c : Char) : Bool := c = ' ' || c = '\t' || c = '\n' || c = '\x0c' || c = '\r'

/-- What a word begins with. -/
def isWordStart (c : Char) : Bool := c.isAlpha || c = '_' || 0x80 ≤ c.toNat

/-- What a word goes on with. -/
def isWordPart (c : Char) : Bool := isWordStart c || Text.isDigit c || c = '$'

/-- The quotation mark of texts. -/
def quoteMark : Char := Char.ofNat 0x27

/-- The content of a quoted text behind its opening mark, and the rest; a doubled mark stands for one. -/
def readQuoted : List Char → Option (List Char × List Char)
  | [] => none
  | [c] => if c = quoteMark then some ([], []) else none
  | c :: d :: rest =>
    if c = quoteMark then
      if d = quoteMark then (readQuoted rest).map fun r => (c :: r.1, r.2) else some ([], d :: rest)
    else (readQuoted (d :: rest)).map fun r => (c :: r.1, r.2)

/-- The token at the front of a text that begins with no gap, and the rest. -/
def readToken (c : Char) (rest : List Char) : Lexeme × List Char :=
  let digits := rest.takeWhile Text.isDigit
  if isWordStart c then (.word, rest.dropWhile isWordPart)
  else if Text.isDigit c then (.number (Text.digitsValue (c :: digits)), rest.dropWhile Text.isDigit)
  else if c = '?' && !digits.isEmpty then
    (.param (Text.digitsValue digits), rest.dropWhile Text.isDigit)
  else if c = quoteMark then
    match readQuoted rest with
    | some (s, rest) => (.quoted (String.ofList s), rest)
    | none => (.symbol, [])
  else if (c = '>' || c = '<') && rest.head? = some '=' then (.symbol, rest.drop 1)
  else (.symbol, rest)

/-- Reads tokens; the first argument bounds their number. -/
def tokensFrom : Nat → Nat → List Char → List Token
  | 0, _, _ => []
  | _, _, [] => []
  | fuel + 1, start, c :: rest =>
    if isGap c then tokensFrom fuel (start + 1) rest
    else
      let (lexeme, after) := readToken c rest
      let length := rest.length + 1 - after.length
      ⟨lexeme, String.ofList ((c :: rest).take length), start⟩ ::
        tokensFrom fuel (start + length) after

/-- The tokens of a text. -/
def tokens (sql : String) : List Token := tokensFrom sql.length 0 sql.toList

/-- The token is that mark. -/
def Token.isSymbol (t : Token) (mark : String) : Bool := t.lexeme = .symbol && t.text = mark

/-- The word in capitals, which is how keywords are compared. -/
def Token.keyword (t : Token) : String := if t.lexeme = .word then t.text.toUpper else ""

/-- The mark behind a statement. -/
def Token.endsStatement (t : Token) : Bool := t.isSymbol ";"

/-- The tokens of the first statement of a text. -/
def firstStatement (ts : List Token) : List Token :=
  (ts.dropWhile Token.endsStatement).takeWhile fun t => !t.endsStatement

/-- The text behind the mark that ends its first statement. -/
def afterStatement? (sql : String) : Option String :=
  (((tokens sql).dropWhile Token.endsStatement).find? Token.endsStatement).map fun t =>
    String.ofList (sql.toList.drop (t.start + 1))

/-- The texts that are left before each statement of a script; the first argument bounds their number. -/
def remainingTexts : Nat → String → List String
  | 0, _ => []
  | fuel + 1, sql =>
    if (firstStatement (tokens sql)).isEmpty then []
    else match afterStatement? sql with
      | some rest => sql :: remainingTexts fuel rest
      | none => [sql]

/-- A script as the texts that are left before each of its statements. -/
def scriptTexts (sql : String) : List String := remainingTexts (sql.length + 1) sql

/-- Where a token begins, in bytes. -/
def byteOffset (sql : String) (start : Nat) : Nat := (String.ofList (sql.toList.take start)).utf8ByteSize

end DbAccess.Sqlite
