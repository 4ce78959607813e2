import DbAccess.Json.Value
import DbAccess.Text.Quoted
/-!
# Writing JSON

`Json.render` writes a value without white space. Only quotes, backslashes and control characters are
escaped, with short escapes where JSON has them.
-/

namespace DbAccess.Json

/-- The escape of a control character below the space. -/
def controlEscape (c : Char) : List Char :=
  let ds := Text.hex c.toNat
  ['\\', 'u'] ++ List.replicate (4 - ds.length) '0' ++ ds

/-- A character inside a string literal. -/
def escape (c : Char) : List Char :=
  if c = '"' then ['\\', '"']
  else if c = '\\' then ['\\', '\\']
  else if c = '\x08' then ['\\', 'b']
  else if c = '\x0c' then ['\\', 'f']
  else if c = '\n' then ['\\', 'n']
  else if c = '\r' then ['\\', 'r']
  else if c = '\t' then ['\\', 't']
  else if c.toNat < 0x20 then controlEscape c
  else [c]

/-- A string literal. -/
def quote (s : String) : String := String.ofList ('"' :: s.toList.flatMap escape ++ ['"'])

/-- Texts between two marks, with commas between them. -/
def bracket (opening closing : String) (parts : List String) : String :=
  opening ++ String.intercalate "," parts ++ closing

/-- The member `"key":text` of an object. -/
def memberText (key text : String) : String := quote key ++ ":" ++ text

/-- An object whose members are already written. -/
def objectText (members : List (String × String)) : String :=
  bracket "\x7b" "\x7d" (members.map fun m => memberText m.1 m.2)

/-- An array whose items are already written. -/
def arrayText (items : List String) : String := bracket "[" "]" items

/-- A truth value. -/
def boolText (b : Bool) : String := if b then "true" else "false"

mutual

/-- The written form of a value. -/
def render : Json → String
  | .null => "null"
  | .bool b => boolText b
  | .number n => n.render
  | .string s => quote s
  | .array vs => arrayText (renderItems vs)
  | .object ms => objectText (renderMembers ms)

/-- The written forms of the items of an array. -/
def renderItems : List Json → List String
  | [] => []
  | v :: vs => render v :: renderItems vs

/-- The members of an object, each with its written value. -/
def renderMembers : List (String × Json) → List (String × String)
  | [] => []
  | (key, v) :: ms => (key, render v) :: renderMembers ms

end

end DbAccess.Json
