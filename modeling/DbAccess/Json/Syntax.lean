import DbAccess.Text.Digits
/-!
# JSON text

The syntax of JSON apart from its meaning: `Tree.parse?` accepts exactly the grammar and keeps numbers
and strings as they are written and objects with every member in order. What a number or an escape
stands for, how deep a value may nest and which member of a repeated name counts is decided by whoever
reads the tree, so a part that nobody reads is held to the grammar only.
-/

namespace DbAccess.Json

open Text (isDigit hexDigit?)

/-- A part of a string literal: a character, or a `\u` escape with its four hexadecimal digits read. -/
inductive Piece where
  | char (c : Char)
  | unit (n : Nat)
deriving DecidableEq, Repr

/-- A number literal: sign, integer digits, digits after the point, and a signed exponent. -/
structure NumberText where
  neg : Bool
  whole : List Char
  frac : Option (List Char)
  exp : Option (Bool × List Char)
deriving DecidableEq, Repr

/-- A JSON text as written. -/
inductive Tree where
  | null
  | bool (b : Bool)
  | number (n : NumberText)
  | string (s : List Piece)
  | array (items : List Tree)
  | object (members : List (List Piece × Tree))
deriving Repr

/-- White space between tokens. -/
def isSpace (c : Char) : Bool := c = ' ' || c = '\t' || c = '\n' || c = '\r'

/-- The rest of the input after white space. -/
def skipSpace (s : List Char) : List Char := s.dropWhile isSpace

/-- Four hexadecimal digits. -/
def hexUnit? : List Char → Option (Nat × List Char)
  | a :: b :: c :: d :: rest => do
    let a ← hexDigit? a
    let b ← hexDigit? b
    let c ← hexDigit? c
    let d ← hexDigit? d
    some (4096 * a + 256 * b + 16 * c + d, rest)
  | _ => none

/-- The character of a one-letter escape. -/
def shortEscape? (c : Char) : Option Char :=
  match c with
  | '"' => some '"'
  | '\\' => some '\\'
  | '/' => some '/'
  | 'b' => some '\x08'
  | 'f' => some '\x0c'
  | 'n' => some '\n'
  | 'r' => some '\r'
  | 't' => some '\t'
  | _ => none

/-- The inside of a string literal, up to and with its closing quote. -/
def pieces? : Nat → List Char → Option (List Piece × List Char)
  | 0, _ => none
  | _ + 1, [] => none
  | fuel + 1, c :: rest =>
    if c = '"' then some ([], rest)
    else if c = '\\' then
      match rest with
      | [] => none
      | e :: rest =>
        if e = 'u' then do
          let (n, rest) ← hexUnit? rest
          let (ps, rest) ← pieces? fuel rest
          some (.unit n :: ps, rest)
        else do
          let x ← shortEscape? e
          let (ps, rest) ← pieces? fuel rest
          some (.char x :: ps, rest)
    else if c.toNat < 0x20 then none
    else do
      let (ps, rest) ← pieces? fuel rest
      some (.char c :: ps, rest)

/-- The digits at the front, which are not none. -/
def digits? (s : List Char) : Option (List Char × List Char) :=
  let ds := s.takeWhile isDigit
  if ds.isEmpty then none else some (ds, s.dropWhile isDigit)

/-- The integer part of a number: a zero alone, or digits that do not begin with one. -/
def whole? (s : List Char) : Option (List Char × List Char) :=
  (digits? s).bind fun (ds, rest) => if ds.head? = some '0' ∧ ds ≠ ['0'] then none else some (ds, rest)

/-- The fraction, when there is a point. -/
def frac? : List Char → Option (Option (List Char) × List Char)
  | '.' :: rest => (digits? rest).map fun (ds, rest) => (some ds, rest)
  | s => some (none, s)

/-- The exponent, when there is a mark. -/
def exp? : List Char → Option (Option (Bool × List Char) × List Char)
  | c :: rest =>
    if c = 'e' ∨ c = 'E' then
      let (neg, rest) := match rest with
        | '-' :: r => (true, r)
        | '+' :: r => (false, r)
        | r => (false, r)
      (digits? rest).map fun (ds, rest) => (some (neg, ds), rest)
    else some (none, c :: rest)
  | [] => some (none, [])

/-- A number without its sign. -/
def number? (neg : Bool) (s : List Char) : Option (NumberText × List Char) := do
  let (whole, s) ← whole? s
  let (frac, s) ← frac? s
  let (exp, s) ← exp? s
  some (⟨neg, whole, frac, exp⟩, s)

/-- The rest of the input after the keyword. -/
def keyword? (word : String) (s : List Char) : Option (List Char) :=
  if word.toList.isPrefixOf s then some (s.drop word.length) else none

mutual

/-- A value at the front of the input. The first argument bounds the number of nested calls. -/
def value? : Nat → List Char → Option (Tree × List Char)
  | 0, _ => none
  | fuel + 1, s =>
    match skipSpace s with
    | [] => none
    | c :: rest =>
      if c = 'n' then (keyword? "ull" rest).map fun r => (.null, r)
      else if c = 't' then (keyword? "rue" rest).map fun r => (.bool true, r)
      else if c = 'f' then (keyword? "alse" rest).map fun r => (.bool false, r)
      else if c = '"' then (pieces? (rest.length + 1) rest).map fun (ps, r) => (.string ps, r)
      else if c = '[' then
        match skipSpace rest with
        | ']' :: r => some (.array [], r)
        | r => (items? fuel r).map fun (ts, r) => (.array ts, r)
      else if c = '\x7b' then
        match skipSpace rest with
        | '\x7d' :: r => some (.object [], r)
        | r => (members? fuel r).map fun (ms, r) => (.object ms, r)
      else if c = '-' then (number? true rest).map fun (n, r) => (.number n, r)
      else if isDigit c then (number? false (c :: rest)).map fun (n, r) => (.number n, r)
      else none

/-- One or more items and the closing bracket. -/
def items? : Nat → List Char → Option (List Tree × List Char)
  | 0, _ => none
  | fuel + 1, s => do
    let (t, s) ← value? fuel s
    match skipSpace s with
    | ',' :: s =>
      let (ts, s) ← items? fuel s
      some (t :: ts, s)
    | ']' :: s => some ([t], s)
    | _ => none

/-- One or more members and the closing brace. -/
def members? : Nat → List Char → Option (List (List Piece × Tree) × List Char)
  | 0, _ => none
  | fuel + 1, s =>
    match skipSpace s with
    | '"' :: s => do
      let (key, s) ← pieces? (s.length + 1) s
      match skipSpace s with
      | ':' :: s =>
        let (t, s) ← value? fuel s
        match skipSpace s with
        | ',' :: s =>
          let (ms, s) ← members? fuel s
          some ((key, t) :: ms, s)
        | '\x7d' :: s => some ([(key, t)], s)
        | _ => none
      | _ => none
    | _ => none

end

/-- The tree of a whole text, or `none` when the text is not in the grammar. -/
def Tree.parse? (text : String) : Option Tree :=
  let s := text.toList
  (value? (2 * s.length + 2) s).bind fun (t, rest) => if (skipSpace rest).isEmpty then some t else none

/-- A leading surrogate. -/
def isLeadingUnit (n : Nat) : Bool := 0xD800 ≤ n && n ≤ 0xDBFF

/-- A trailing surrogate. -/
def isTrailingUnit (n : Nat) : Bool := 0xDC00 ≤ n && n ≤ 0xDFFF

/-- The text of a string literal; surrogates must come in pairs. -/
def resolve? : List Piece → Option (List Char)
  | [] => some []
  | .char c :: rest => (resolve? rest).map (c :: ·)
  | .unit n :: .unit m :: rest =>
    if isLeadingUnit n then
      if isTrailingUnit m then
        (resolve? rest).map (Char.ofNat (0x10000 + (n - 0xD800) * 0x400 + (m - 0xDC00)) :: ·)
      else none
    else if isTrailingUnit n then none
    else (resolve? (.unit m :: rest)).map (Char.ofNat n :: ·)
  | .unit n :: rest =>
    if isLeadingUnit n || isTrailingUnit n then none else (resolve? rest).map (Char.ofNat n :: ·)

/-- The text of a string literal. -/
def text? (ps : List Piece) : Option String := (resolve? ps).map String.ofList

end DbAccess.Json
