import DbAccess.Json.Printer
import DbAccess.Json.Reader
import DbAccess.Proofs.Text.Digits
/-!
# Reading literals back

`Writes text v` says that a text is read as a value wherever something may follow it that ends a value. It
holds of `null`, of every quoted text (`writes_quote`) and of every natural (`writes_toString`), and what
these values mean is the text (`text?_ofChar`) and the natural (`readNat_ofNat`) that were written.
-/

namespace DbAccess.Json

open Text (isDigit digitsValue)

/-! ### Characters of a literal -/

/-- The characters that are written as a backslash and one letter. -/
def shortEscaped : List Char := ['"', '\\', '\x08', '\x0c', '\n', '\r', '\t']

/-- The part of a literal that a character is written as. -/
def Piece.ofChar (c : Char) : Piece :=
  if c ∉ shortEscaped ∧ c.toNat < 0x20 then .unit c.toNat else .char c

/-- How a character is written, and what it is as a part of a literal. -/
inductive Escaped (c : Char) : List Char → Piece → Prop
  | short {e : Char} (hu : e ≠ 'u') (h : shortEscape? e = some c) : Escaped c ['\\', e] (.char c)
  | control (h : c.toNat < 0x20) : Escaped c (controlEscape c) (.unit c.toNat)
  | plain (hquote : c ≠ '"') (hbackslash : c ≠ '\\') (h : ¬c.toNat < 0x20) : Escaped c [c] (.char c)

theorem escaped (c : Char) : Escaped c (escape c) (Piece.ofChar c) := by
  by_cases hs : c ∈ shortEscaped
  · simp only [shortEscaped, List.mem_cons, List.not_mem_nil, or_false] at hs
    rcases hs with rfl | rfl | rfl | rfl | rfl | rfl | rfl <;> exact .short (by decide) rfl
  · have hs' := hs
    simp only [shortEscaped, List.mem_cons, List.not_mem_nil, or_false, not_or] at hs'
    obtain ⟨h1, h2, h3, h4, h5, h6, h7⟩ := hs'
    simp only [escape, if_neg h1, if_neg h2, if_neg h3, if_neg h4, if_neg h5, if_neg h6, if_neg h7,
      Piece.ofChar, hs, not_false_eq_true, true_and]
    split
    case isTrue h => exact .control h
    case isFalse h => exact .plain h1 h2 h

theorem hexUnit?_append {s r : List Char} {n : Nat} (h : hexUnit? s = some (n, r)) (t : List Char) :
    hexUnit? (s ++ t) = some (n, r ++ t) := by
  match s with
  | a :: b :: c :: d :: s' =>
      simp only [hexUnit?, List.cons_append, Option.bind_eq_bind, Option.bind_eq_some_iff,
        Option.some.injEq, Prod.mk.injEq] at h ⊢
      obtain ⟨a', ha, b', hb, c', hc, d', hd, hn, rfl⟩ := h
      exact ⟨a', ha, b', hb, c', hc, d', hd, hn, rfl⟩

theorem hexUnit?_control : ∀ n < 0x20,
    hexUnit? (List.replicate (4 - (Text.hex n).length) '0' ++ Text.hex n) = some (n, []) := by
  decide

theorem pieces?_escape (fuel : Nat) (c : Char) (t : List Char) :
    pieces? (fuel + 1) (escape c ++ t) =
      (pieces? fuel t).map fun r => (Piece.ofChar c :: r.1, r.2) := by
  have hc := escaped c
  rw [Option.map_eq_bind]
  generalize escape c = s, Piece.ofChar c = p at hc
  cases hc with
  | short hu h =>
      simp only [List.cons_append, List.nil_append, pieces?, Char.reduceEq, reduceIte, hu, h, Option.bind_eq_bind,
        Option.bind_some]
      rfl
  | control h =>
      have hunit := hexUnit?_append (hexUnit?_control c.toNat h) t
      rw [List.append_assoc] at hunit
      simp only [controlEscape, List.cons_append, List.nil_append, List.append_assoc, pieces?, Char.reduceEq, reduceIte,
        hunit, Option.bind_eq_bind, Option.bind_some]
      rfl
  | plain hquote hbackslash h =>
      simp only [List.cons_append, List.nil_append, pieces?, hquote, hbackslash, h, reduceIte, Option.bind_eq_bind]
      rfl

theorem pieces?_escapes {s : List Char} {fuel : Nat} (h : s.length < fuel) (t : List Char) :
    pieces? fuel (s.flatMap escape ++ '"' :: t) = some (s.map Piece.ofChar, t) := by
  induction s generalizing fuel with
  | nil =>
      obtain ⟨fuel, rfl⟩ := Nat.exists_eq_succ_of_ne_zero (Nat.ne_of_gt h)
      rfl
  | cons c s ih =>
      obtain ⟨fuel, rfl⟩ := Nat.exists_eq_succ_of_ne_zero (Nat.ne_of_gt (Nat.zero_lt_of_lt h))
      rw [List.flatMap_cons, List.append_assoc, Nat.succ_eq_add_one, pieces?_escape,
        ih (Nat.lt_of_succ_lt_succ h)]
      rfl

theorem resolve?_unit {n : Nat} (h : n < 0xD800) (ps : List Piece) :
    resolve? (.unit n :: ps) = (resolve? ps).map (Char.ofNat n :: ·) := by
  have hleading : isLeadingUnit n = false := by simp [isLeadingUnit]; omega
  have htrailing : isTrailingUnit n = false := by simp [isTrailingUnit]; omega
  cases ps with
  | nil => simp [resolve?, hleading, htrailing]
  | cons p ps => cases p <;> simp [resolve?, hleading, htrailing]

theorem resolve?_ofChar (s : List Char) : resolve? (s.map Piece.ofChar) = some s := by
  induction s with
  | nil => rfl
  | cons c s ih =>
      have hc := escaped c
      rw [List.map_cons]
      generalize escape c = t, Piece.ofChar c = p at hc
      cases hc with
      | short hu h => simp [resolve?, ih]
      | control h => rw [resolve?_unit (by omega), ih, Char.ofNat_toNat, Option.map_some]
      | plain _ _ _ => simp [resolve?, ih]

theorem text?_ofChar (s : String) : text? (s.toList.map Piece.ofChar) = some s := by
  rw [text?, resolve?_ofChar, Option.map_some, String.ofList_toList]

/-! ### Values without parts -/

/-- What may follow a value: nothing, a comma, or a closing bracket. -/
def Closes (t : List Char) : Prop := ∀ c ∈ t.head?, c = ',' ∨ c = ']' ∨ c = '\x7d'

/-- The text is read as this value, whatever follows it. -/
def Writes (text : String) (v : Tree) : Prop :=
  ∀ (fuel : Nat) (t : List Char), Closes t → value? (fuel + 1) (text.toList ++ t) = some (v, t)

theorem writes_null : Writes "null" .null := by
  intro fuel t _
  rfl

theorem value?_quote (fuel : Nat) (t : List Char) :
    value? (fuel + 1) ('"' :: t) = (pieces? (t.length + 1) t).map fun r => (.string r.1, r.2) := rfl

theorem length_le_escapes (s : List Char) : s.length ≤ (s.flatMap escape).length := by
  induction s with
  | nil => exact Nat.le_refl 0
  | cons c s ih =>
      have hpos : 0 < (escape c).length := by
        have hc := escaped c
        generalize escape c = t, Piece.ofChar c = p at hc
        cases hc <;> simp [controlEscape]
      rw [List.flatMap_cons, List.length_append, List.length_cons]
      omega

theorem writes_quote (s : String) : Writes (quote s) (.string (s.toList.map Piece.ofChar)) := by
  intro fuel t _
  have hlen : s.toList.length < (s.toList.flatMap escape ++ '"' :: t).length + 1 := by
    have hle := length_le_escapes s.toList
    rw [List.length_append]
    omega
  simp only [quote, String.toList_ofList, List.cons_append, List.append_assoc, List.nil_append]
  rw [value?_quote, pieces?_escapes hlen, Option.map_some]

/-- A natural as a literal. -/
def NumberText.ofNat (n : Nat) : NumberText := ⟨false, (toString n).toList, none, none⟩

theorem digits?_append {ds t : List Char} (hne : ds ≠ []) (hds : ∀ c ∈ ds, isDigit c = true)
    (ht : ∀ c ∈ t.head?, isDigit c = false) : digits? (ds ++ t) = some (ds, t) := by
  have htake : t.takeWhile isDigit = [] := by
    cases t with
    | nil => rfl
    | cons c t => simp [ht c rfl]
  have hdrop : t.dropWhile isDigit = t := by
    cases t with
    | nil => rfl
    | cons c t => simp [ht c rfl]
  simp [digits?, List.takeWhile_append_of_pos hds, List.dropWhile_append_of_pos hds, htake, hdrop, hne]

theorem whole?_toString (n : Nat) {t : List Char} (ht : ∀ c ∈ t.head?, isDigit c = false) :
    whole? ((toString n).toList ++ t) = some ((toString n).toList, t) := by
  have hne : (toString n).toList ≠ [] := by
    rw [Text.toList_toString]
    exact Nat.toDigits_ne_nil
  have hproper : ¬((toString n).toList.head? = some '0' ∧ (toString n).toList ≠ ['0']) := by
    rw [Text.toList_toString]
    rintro ⟨hhead, hzero⟩
    obtain rfl | hn := Nat.eq_zero_or_pos n
    · exact hzero rfl
    · exact Text.head?_toDigits hn hhead
  rw [whole?, digits?_append hne (fun c hc => Text.isDigit_of_mem_toString hc) ht, Option.bind_some]
  exact if_neg hproper

theorem isDigit_of_closes {t : List Char} (h : Closes t) : ∀ c ∈ t.head?, isDigit c = false := by
  intro c hc
  obtain rfl | rfl | rfl := h c hc <;> rfl

theorem number?_toString (n : Nat) {t : List Char} (h : Closes t) :
    number? false ((toString n).toList ++ t) = some (.ofNat n, t) := by
  have hwhole := whole?_toString n (isDigit_of_closes h)
  have hfrac : frac? t = some (none, t) := by
    cases t with
    | nil => rfl
    | cons c t => obtain rfl | rfl | rfl := h c rfl <;> rfl
  have hexp : exp? t = some (none, t) := by
    cases t with
    | nil => rfl
    | cons c t => obtain rfl | rfl | rfl := h c rfl <;> rfl
  rw [NumberText.ofNat]
  generalize (toString n).toList = ds at hwhole ⊢
  simp [number?, hwhole, hfrac, hexp]

theorem value?_digit (fuel : Nat) {c : Char} (h : isDigit c = true) (t : List Char) :
    value? (fuel + 1) (c :: t) = (number? false (c :: t)).map fun r => (.number r.1, r.2) := by
  have hne : ∀ d, isDigit d = false → c ≠ d := by
    rintro d hd rfl
    rw [h] at hd
    cases hd
  have hspace : isSpace c = false := by
    simp [isSpace, hne ' ' rfl, hne '\t' rfl, hne '\n' rfl, hne '\r' rfl]
  simp [value?, skipSpace, hspace, h, hne 'n' rfl, hne 't' rfl, hne 'f' rfl, hne '"' rfl, hne '[' rfl,
    hne '\x7b' rfl, hne '-' rfl]

theorem writes_toString (n : Nat) : Writes (toString n) (.number (.ofNat n)) := by
  intro fuel t ht
  have hnumber := number?_toString n ht
  have hdigits : ∀ c ∈ (toString n).toList, isDigit c = true := fun c hc => Text.isDigit_of_mem_toString hc
  have hne : (toString n).toList ≠ [] := by
    rw [Text.toList_toString]
    exact Nat.toDigits_ne_nil
  generalize (toString n).toList = ds at hnumber hdigits hne ⊢
  cases ds with
  | nil => exact absurd rfl hne
  | cons c ds =>
      rw [List.cons_append] at hnumber ⊢
      rw [value?_digit fuel (hdigits c (List.mem_cons_self ..)), hnumber, Option.map_some]

theorem le_foldl_digits (ds : List Char) (acc : Nat) :
    acc ≤ ds.foldl (fun acc c => 10 * acc + (c.toNat - 48)) acc := by
  induction ds generalizing acc with
  | nil => exact Nat.le_refl acc
  | cons c ds ih =>
      have hnext := ih (10 * acc + (c.toNat - 48))
      rw [List.foldl_cons]
      omega

theorem accumulate_of_lt {acc : Nat} {ds : List Char}
    (h : ds.foldl (fun acc c => 10 * acc + (c.toNat - 48)) acc < significandLimit) :
    accumulate acc ds = (ds.foldl (fun acc c => 10 * acc + (c.toNat - 48)) acc, []) := by
  induction ds generalizing acc with
  | nil => rfl
  | cons c ds ih =>
      rw [List.foldl_cons] at h ⊢
      have hle := le_foldl_digits ds (10 * acc + (c.toNat - 48))
      rw [accumulate, if_neg (by omega), ih h]

/-- A natural that fits is read as it was written. -/
theorem readNat_ofNat {n limit : Nat} (h : n < limit) (hlimit : limit ≤ limit64) :
    readNat limit (.number (.ofNat n)) = some n := by
  have hvalue := Text.digitsValue_toString n
  rw [digitsValue] at hvalue
  have hacc : accumulate 0 (toString n).toList = (n, []) := by
    have hlt : n < significandLimit := Nat.lt_of_lt_of_le h hlimit
    rw [accumulate_of_lt (by rwa [hvalue]), hvalue]
  have hread : Number.read? (.ofNat n) = some (.int n) := by
    rw [Number.read?, NumberText.ofNat, hacc]
    rfl
  have hint : (0 : Int) ≤ n ∧ (n : Int) < limit := by omega
  rw [readNat, readInt, readNumber, hread]
  simp only [hint]
  rfl

end DbAccess.Json
