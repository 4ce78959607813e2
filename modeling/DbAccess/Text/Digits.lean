import DbAccess.Width
/-!
# Digits

ASCII digits and the naturals that runs of them stand for.
-/

namespace DbAccess.Text

/-- An ASCII digit. -/
def isDigit (c : Char) : Bool := '0' ≤ c && c ≤ '9'

/-- The value of a run of ASCII digits. -/
def digitsValue (ds : List Char) : Nat := ds.foldl (fun acc c => 10 * acc + (c.toNat - 48)) 0

/-- The value of a hexadecimal digit. -/
def hexDigit? (c : Char) : Option Nat :=
  if isDigit c then some (c.toNat - 48)
  else if 'a' ≤ c && c ≤ 'f' then some (c.toNat - 87)
  else if 'A' ≤ c && c ≤ 'F' then some (c.toNat - 55)
  else none

/-- An unsigned 64-bit number: an optional plus, at least one digit, and no more than 64 bits. -/
def readUnsigned? (text : String) : Option Nat :=
  let ds := match text.toList with
    | '+' :: rest => rest
    | s => s
  if ds.isEmpty || !ds.all isDigit then none
  else
    let n := digitsValue ds
    if n < limit64 then some n else none

end DbAccess.Text
