import DbAccess.Json.Value
/-!
# Reading typed parts

Readers take typed values out of a tree. A record is written as an object, in which unknown members are
ignored and known ones occur once, or as an array of its fields in order. A choice is written as its
name, or as an object that holds its name and its content.
-/

namespace DbAccess.Json

/-- Reads a part of a tree, or refuses it. -/
abbrev Reader (α : Type) := Tree → Option α

/-- A truth value. -/
def readBool : Reader Bool
  | .bool b => some b
  | _ => none

/-- A text. -/
def readText : Reader String
  | .string ps => text? ps
  | _ => none

/-- Any number. -/
def readNumber : Reader Number
  | .number t => Number.read? t
  | _ => none

/-- An integer `n` with `lo ≤ n < hi`; numbers with a fraction or an exponent are refused. -/
def readInt (lo hi : Int) : Reader Int := fun t =>
  match readNumber t with
  | some (.int n) => if lo ≤ n ∧ n < hi then some n else none
  | _ => none

/-- A natural number below the limit. -/
def readNat (limit : Nat) : Reader Nat := fun t => (readInt 0 limit t).map Int.toNat

/-- Nothing for `null`; anything else must be readable. -/
def readOption {α : Type} (r : Reader α) : Reader (Option α)
  | .null => some none
  | t => (r t).map some

/-- A list. -/
def readList {α : Type} (r : Reader α) : Reader (List α)
  | .array ts => ts.mapM r
  | _ => none

/-- The members of an object under their names, as written. -/
def readMembers {α : Type} (r : Reader α) : Reader (List (String × α))
  | .object ms => ms.mapM fun m => do
    let key ← text? m.1
    let a ← r m.2
    some (key, a)
  | _ => none

/-- The fields of a record that were found, in the order of its declaration. -/
structure Fields where
  /-- The record was written as an array. -/
  positional : Bool
  found : List (Option Tree)

/-- Finds the fields of a record with these field names. A repeated field or too many items are
refused. -/
def readFields (names : List String) : Reader Fields
  | .object ms => do
    let named ← ms.mapM fun m => (text? m.1).map fun key => (key, m.2)
    if names.any fun n => 1 < named.countP fun m => m.1 = n then none
    else some ⟨false, names.map fun n => named.lookup n⟩
  | .array ts =>
    if names.length < ts.length then none
    else some ⟨true, ts.map some ++ List.replicate (names.length - ts.length) none⟩
  | _ => none

/-- The tree of a field, when it was found. -/
def Fields.tree? (f : Fields) (index : Nat) : Option Tree := (f.found[index]?).bind id

/-- Reads a field that takes a default when it is missing. -/
def Fields.getD {α : Type} (f : Fields) (index : Nat) (r : Reader α) (default : α) : Option α :=
  match f.tree? index with
  | some t => r t
  | none => some default

/-- Reads a field that must be there. -/
def Fields.get {α : Type} (f : Fields) (index : Nat) (r : Reader α) : Option α :=
  (f.tree? index).bind r

/-- Reads an optional field, which an object may leave out but an array may not. -/
def Fields.getOption {α : Type} (f : Fields) (index : Nat) (r : Reader α) : Option (Option α) :=
  match f.tree? index with
  | some t => readOption r t
  | none => if f.positional then none else some none

/-- The name of a choice, and its content when it has one. -/
def readChoice : Reader (String × Option Tree)
  | .string ps => (text? ps).map fun name => (name, none)
  | .object [(key, t)] => (text? key).map fun name => (name, some t)
  | _ => none

/-- A choice without content, by its name. -/
def readName {α : Type} (ofName? : String → Option α) : Reader α := fun t => do
  let (name, content) ← readChoice t
  match content with
  | none => ofName? name
  | some .null => ofName? name
  | some _ => none

/-- Reads a whole text. -/
def readAll {α : Type} (r : Reader α) (text : String) : Option α := (Tree.parse? text).bind r

end DbAccess.Json
