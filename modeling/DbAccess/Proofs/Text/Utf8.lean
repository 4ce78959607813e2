import DbAccess.Text.Utf8
/-!
# Text as bytes and back

The bytes of a text are read as that text (`decodeLossy_utf8`). The lead byte of a character asks for as many bytes
as follow it (`leadClass_two` and its likes), and each of these is in the range that is asked for, because the
number of a character is in its range; so nothing is replaced.
-/

namespace DbAccess.Text

/-! ### The bytes of a text -/

theorem loop_eq_drop (bytes : ByteArray) (i : Nat) (read : List UInt8) :
    ByteArray.toList.loop bytes i read = read.reverse ++ bytes.data.toList.drop i := by
  -- along the bytes that are still to be read
  induction hk : bytes.size - i generalizing i read with
  | zero =>
      have hdone : bytes.data.toList.length ≤ i := Nat.le_of_sub_eq_zero hk
      rw [ByteArray.toList.loop, if_neg (show ¬ i < bytes.size from Nat.not_lt.mpr hdone),
        List.drop_of_length_le hdone, List.append_nil]
  | succ k ih =>
      have hi : i < bytes.data.toList.length := Nat.lt_of_sub_eq_succ hk
      have hget : bytes.get! i = bytes.data.toList[i] := getElem!_pos bytes.data i hi
      rw [ByteArray.toList.loop, if_pos (show i < bytes.size from hi), ih (i + 1) _ (by omega),
        List.reverse_cons, List.append_assoc, List.singleton_append, hget, ← List.drop_eq_getElem_cons hi]

theorem utf8_eq_flatMap (s : String) : utf8 s = s.toList.flatMap String.utf8EncodeChar := by
  have hbytes : s.toUTF8 = s.toList.utf8Encode := by
    rw [String.toUTF8_eq_toByteArray, ← String.toByteArray_ofList, String.ofList_toList]
  rw [utf8, hbytes, List.utf8Encode, ByteArray.toList, loop_eq_drop, List.toList_data_toByteArray]
  rfl

/-! ### The bytes of a character -/

theorem toNat_ofNat {n : Nat} (h : n < 256) : (UInt8.ofNat n).toNat = n := UInt8.toNat_ofNat_of_lt' h

/-- The byte that continues a character with the lowest six of the bits. -/
def continuation (bits : Nat) : UInt8 := .ofNat (bits % 64 + 128)

theorem toNat_continuation (bits : Nat) : (continuation bits).toNat = bits % 64 + 128 :=
  toNat_ofNat (by omega)

theorem decode_last {lo hi acc bits : Nat} (hlo : lo ≤ bits % 64 + 128) (hhi : bits % 64 + 128 ≤ hi)
    (rest : List UInt8) :
    decodeLossyFrom (some (1, lo, hi, acc)) (continuation bits :: rest) =
      Char.ofNat (acc * 64 + bits % 64) :: decodeLossyFrom none rest := by
  have hbits : (bits % 64 + 128) % 64 = bits % 64 := by omega
  rw [decodeLossyFrom, toNat_continuation, if_pos ⟨hlo, hhi⟩, if_pos (Nat.le_refl 1), hbits]

theorem decode_next {more lo hi acc bits : Nat} (hmore : 1 < more) (hlo : lo ≤ bits % 64 + 128)
    (hhi : bits % 64 + 128 ≤ hi) (rest : List UInt8) :
    decodeLossyFrom (some (more, lo, hi, acc)) (continuation bits :: rest) =
      decodeLossyFrom (some (more - 1, 0x80, 0xBF, acc * 64 + bits % 64)) rest := by
  have hbits : (bits % 64 + 128) % 64 = bits % 64 := by omega
  rw [decodeLossyFrom, toNat_continuation, if_pos ⟨hlo, hhi⟩, if_neg (Nat.not_le.mpr hmore), hbits]

theorem decode_ascii {n : Nat} (h : n < 0x80) (rest : List UInt8) :
    decodeLossyFrom none (UInt8.ofNat n :: rest) = Char.ofNat n :: decodeLossyFrom none rest := by
  rw [decodeLossyFrom, toNat_ofNat (by omega), if_pos h]

theorem decode_lead {b : UInt8} {more lo hi acc : Nat} (hclass : leadClass b = some (more, lo, hi))
    (hbits : leadBits b more = acc) (rest : List UInt8) :
    decodeLossyFrom none (b :: rest) = decodeLossyFrom (some (more, lo, hi, acc)) rest := by
  have hb : ¬ b.toNat < 0x80 := by
    intro hlt
    have hnone : leadClass b = none := by
      unfold leadClass
      repeat rw [if_neg (by omega)]
    rw [hnone] at hclass
    cases hclass
  rw [decodeLossyFrom, if_neg hb, hclass, ← hbits]

/-- The lead bytes of two. What they would say of characters below 128 is refused. -/
theorem leadClass_two : ∀ k < 32, 2 ≤ k →
    leadClass (.ofNat (k + 192)) = some (1, 0x80, 0xBF) ∧ leadBits (.ofNat (k + 192)) 1 = k := by
  decide

/-- The lead bytes of three. The byte that follows is not one of a shorter character or of a surrogate. -/
theorem leadClass_three : ∀ k < 16,
    leadClass (.ofNat (k + 224)) =
        some (2, if k = 0 then 0xA0 else 0x80, if k = 13 then 0x9F else 0xBF) ∧
      leadBits (.ofNat (k + 224)) 2 = k := by
  decide

/-- The lead bytes of four. The byte that follows is not one of a shorter character or of one beyond the last. -/
theorem leadClass_four : ∀ k < 5,
    leadClass (.ofNat (k + 240)) =
        some (3, if k = 0 then 0x90 else 0x80, if k = 4 then 0x8F else 0xBF) ∧
      leadBits (.ofNat (k + 240)) 3 = k := by
  decide

section character

variable {n : Nat} (rest : List UInt8)

theorem decode_two (hlo : 0x80 ≤ n) (hhi : n < 0x800) :
    decodeLossyFrom none (.ofNat (n / 64 % 32 + 192) :: continuation n :: rest) =
      Char.ofNat n :: decodeLossyFrom none rest := by
  obtain ⟨hclass, hbits⟩ := leadClass_two (n / 64 % 32) (by omega) (by omega)
  have hn : n / 64 % 32 * 64 + n % 64 = n := by omega
  rw [decode_lead hclass hbits, decode_last (by omega) (by omega), hn]

theorem decode_three (hlo : 0x800 ≤ n) (hhi : n < 0x10000) (hvalid : n < 0xD800 ∨ 0xDFFF < n) :
    decodeLossyFrom none (.ofNat (n / 4096 % 16 + 224) :: continuation (n / 64) :: continuation n :: rest) =
      Char.ofNat n :: decodeLossyFrom none rest := by
  obtain ⟨hclass, hbits⟩ := leadClass_three (n / 4096 % 16) (by omega)
  have hn : (n / 4096 % 16 * 64 + n / 64 % 64) * 64 + n % 64 = n := by omega
  rw [decode_lead hclass hbits, decode_next (by omega) (by split <;> omega) (by split <;> omega),
    decode_last (by omega) (by omega), hn]

theorem decode_four (hlo : 0x10000 ≤ n) (hhi : n < 0x110000) :
    decodeLossyFrom none (.ofNat (n / 262144 % 8 + 240) :: continuation (n / 4096) :: continuation (n / 64) ::
        continuation n :: rest) =
      Char.ofNat n :: decodeLossyFrom none rest := by
  obtain ⟨hclass, hbits⟩ := leadClass_four (n / 262144 % 8) (by omega)
  have hn : ((n / 262144 % 8 * 64 + n / 4096 % 64) * 64 + n / 64 % 64) * 64 + n % 64 = n := by omega
  rw [decode_lead hclass hbits, decode_next (by omega) (by split <;> omega) (by split <;> omega),
    decode_next (by omega) (by omega) (by omega), decode_last (by omega) (by omega), hn]

end character

/-- **The bytes of a character are read as that character.** -/
theorem decode_utf8EncodeChar (c : Char) (rest : List UInt8) :
    decodeLossyFrom none (String.utf8EncodeChar c ++ rest) = c :: decodeLossyFrom none rest := by
  have hvalid : c.val.toNat < 0xD800 ∨ 0xDFFF < c.val.toNat ∧ c.val.toNat < 0x110000 := c.valid
  have hc : Char.ofNat c.val.toNat = c := c.ofNat_toNat
  rw [String.utf8EncodeChar.eq_1]
  split
  · rw [List.singleton_append, decode_ascii (by omega), hc]
  split
  · exact (decode_two rest (by omega) (by omega)).trans (by rw [hc])
  split
  · exact (decode_three rest (by omega) (by omega) (by omega)).trans (by rw [hc])
  · exact (decode_four rest (by omega) (by omega)).trans (by rw [hc])

theorem decode_flatMap (cs : List Char) :
    decodeLossyFrom none (cs.flatMap String.utf8EncodeChar) = cs := by
  induction cs with
  | nil => rfl
  | cons c cs ih => rw [List.flatMap_cons, decode_utf8EncodeChar, ih]

/-- **The bytes of a text are read as that text.** -/
theorem decodeLossy_utf8 (s : String) : decodeLossy (utf8 s) = s := by
  rw [decodeLossy, utf8_eq_flatMap, decode_flatMap, String.ofList_toList]

end DbAccess.Text
