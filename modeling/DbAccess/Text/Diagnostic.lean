import DbAccess.Text.Quoted
/-!
# Diagnostic text

The one-line form in which values are shown to a developer: records with named fields, constructors
with their arguments, lists and options.
-/

namespace DbAccess.Text

/-- Texts with commas between them. -/
def commas (parts : List String) : String := String.intercalate ", " parts

/-- A list in brackets. -/
def listText (items : List String) : String := "[" ++ commas items ++ "]"

/-- A constructor with its arguments. -/
def callText (name : String) (args : List String) : String := name ++ "(" ++ commas args ++ ")"

/-- An optional value. -/
def optionText : Option String → String
  | some s => callText "Some" [s]
  | none => "None"

/-- The named fields of a record. -/
def fieldTexts (fields : List (String × String)) : List String :=
  fields.map fun f => f.1 ++ ": " ++ f.2

/-- A record with all its fields. -/
def recordText (name : String) (fields : List (String × String)) : String :=
  name ++ " \x7b " ++ commas (fieldTexts fields) ++ " \x7d"

/-- A record that shows some of its fields. -/
def openRecordText (name : String) (fields : List (String × String)) : String :=
  name ++ " \x7b " ++ commas (fieldTexts fields ++ [".."]) ++ " \x7d"

/-- A truth value. -/
def boolText (b : Bool) : String := if b then "true" else "false"

end DbAccess.Text
