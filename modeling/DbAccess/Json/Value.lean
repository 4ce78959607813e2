import DbAccess.Json.Number
import DbAccess.SortedMap
/-!
# JSON values

What a JSON text means: strings without surrogate halves, numbers in range, and objects with one member
per name, ascending by name. A repeated name keeps its last value. Values may nest `maxDepth` deep.
-/

/-- A JSON value. -/
inductive DbAccess.Json where
  | null
  | bool (b : Bool)
  | number (n : DbAccess.Json.Number)
  | string (s : String)
  | array (items : List DbAccess.Json)
  | object (members : List (String × DbAccess.Json))
deriving Repr, Inhabited

namespace DbAccess.Json

/-- How many arrays and objects may enclose a value. -/
def maxDepth : Nat := 127

mutual

/-- The value of a tree below `depth` more levels of nesting. -/
def ofTree? (depth : Nat) : Tree → Option Json
  | .null => some .null
  | .bool b => some (.bool b)
  | .number t => (Number.read? t).map .number
  | .string ps => (text? ps).map .string
  | .array ts => if depth = 0 then none else (ofTrees? (depth - 1) ts).map .array
  | .object ms => if depth = 0 then none else (pairs? (depth - 1) ms).map fun l => .object (SortedMap.ofList l)

/-- The values of the items of an array. -/
def ofTrees? (depth : Nat) : List Tree → Option (List Json)
  | [] => some []
  | t :: ts => do
    let v ← ofTree? depth t
    let vs ← ofTrees? depth ts
    some (v :: vs)

/-- The names and values of the members of an object, as written. -/
def pairs? (depth : Nat) : List (List Piece × Tree) → Option (List (String × Json))
  | [] => some []
  | (key, t) :: ms => do
    let key ← text? key
    let v ← ofTree? depth t
    let rest ← pairs? depth ms
    some ((key, v) :: rest)

end

/-- The value that the text writes, or `none` when it writes none. -/
def parse? (text : String) : Option Json := (Tree.parse? text).bind (ofTree? maxDepth)

mutual

/-- Equality of values; zeros are equal whatever their sign. -/
def same : Json → Json → Bool
  | .null, .null => true
  | .bool a, .bool b => a == b
  | .number m, .number n => m.same n
  | .string s, .string t => s == t
  | .array xs, .array ys => sameItems xs ys
  | .object xs, .object ys => sameMembers xs ys
  | _, _ => false

/-- Equality item by item. -/
def sameItems : List Json → List Json → Bool
  | [], [] => true
  | x :: xs, y :: ys => same x y && sameItems xs ys
  | _, _ => false

/-- Equality member by member. -/
def sameMembers : List (String × Json) → List (String × Json) → Bool
  | [], [] => true
  | (j, x) :: xs, (k, y) :: ys => j == k && same x y && sameMembers xs ys
  | _, _ => false

end

end DbAccess.Json
