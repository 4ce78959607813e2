/-!
# Reading UTF-8

`decodeLossy` reads any byte sequence: each maximal part of an ill-formed sequence becomes one
replacement character, so nothing is refused.
-/

namespace DbAccess.Text

/-- The continuation range that may follow the lead byte, and how many continuation bytes it asks for. -/
def leadClass (b : UInt8) : Option (Nat × Nat × Nat) :=
  let n := b.toNat
  if 0xC2 ≤ n ∧ n ≤ 0xDF then some (1, 0x80, 0xBF)
  else if n = 0xE0 then some (2, 0xA0, 0xBF)
  else if n = 0xED then some (2, 0x80, 0x9F)
  else if 0xE1 ≤ n ∧ n ≤ 0xEF then some (2, 0x80, 0xBF)
  else if n = 0xF0 then some (3, 0x90, 0xBF)
  else if n = 0xF4 then some (3, 0x80, 0x8F)
  else if 0xF1 ≤ n ∧ n ≤ 0xF3 then some (3, 0x80, 0xBF)
  else none

/-- The bits of the lead byte that belong to the code point. -/
def leadBits (b : UInt8) (more : Nat) : Nat :=
  b.toNat % (if more = 1 then 32 else if more = 2 then 16 else 8)

/-- Reads byte by byte. `pending` is the open sequence: bytes still to come, the range of the next
one, and the code point so far. -/
def decodeLossyFrom : Option (Nat × Nat × Nat × Nat) → List UInt8 → List Char
  | none, [] => []
  | some _, [] => ['\uFFFD']
  | some (more, lo, hi, acc), b :: rest =>
    if lo ≤ b.toNat ∧ b.toNat ≤ hi then
      let acc := acc * 64 + b.toNat % 64
      if more ≤ 1 then Char.ofNat acc :: decodeLossyFrom none rest
      else decodeLossyFrom (some (more - 1, 0x80, 0xBF, acc)) rest
    else if b.toNat < 0x80 then '\uFFFD' :: Char.ofNat b.toNat :: decodeLossyFrom none rest
    else match leadClass b with
      | some (n, lo, hi) => '\uFFFD' :: decodeLossyFrom (some (n, lo, hi, leadBits b n)) rest
      | none => '\uFFFD' :: '\uFFFD' :: decodeLossyFrom none rest
  | none, b :: rest =>
    if b.toNat < 0x80 then Char.ofNat b.toNat :: decodeLossyFrom none rest
    else match leadClass b with
      | some (n, lo, hi) => decodeLossyFrom (some (n, lo, hi, leadBits b n)) rest
      | none => '\uFFFD' :: decodeLossyFrom none rest

/-- The text of the bytes, with a replacement character for each ill-formed part. -/
def decodeLossy (bytes : List UInt8) : String := String.ofList (decodeLossyFrom none bytes)

/-- The bytes of the text. -/
def utf8 (s : String) : List UInt8 := s.toUTF8.toList

end DbAccess.Text
