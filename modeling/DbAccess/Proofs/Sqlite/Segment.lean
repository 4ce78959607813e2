import DbAccess.Proofs.Sqlite.Parameter
import Mathlib.Logic.Relation
/-!
# Connection strings, segment by segment

A connection string is a path, and behind its first question mark segments between ampersands, each of which
assigns a value to a key. Reading it fails if there is no path, or if any segment assigns what is no number to the
waiting time; otherwise each option is what the last segment about it says, or what it is by default
(`parse_segments`). So segments about nothing known can be put in anywhere, and neighbours about different
options can change places (`Varies`).
-/

namespace DbAccess.Sqlite

/-! ### The parts of a connection string -/

/-- What stands before the first of the marks. -/
def textBefore (mark : Char) (s : List Char) : List Char := s.takeWhile (· != mark)

/-- What stands behind the first of the marks, if there is one. -/
def textBehind (mark : Char) (s : List Char) : List Char := (s.dropWhile (· != mark)).tail

/-- The path of a connection string. -/
def pathOf (dsn : String) : String := String.ofList (textBefore '?' dsn.toList)

/-- The key of a segment and the value that it is assigned. -/
def assignment (segment : List Char) : String × String :=
  (String.ofList (textBefore '=' segment), String.ofList (textBehind '=' segment))

/-- The assignments of a connection string; empty segments assign nothing. -/
def segmentsOf (dsn : String) : List (String × String) :=
  (((textBehind '?' dsn.toList).splitOn '&').filter (· ≠ [])).map assignment

theorem splitPair_eq (mark : Char) (s : List Char) :
    splitPair mark s = (String.ofList (textBefore mark s), String.ofList (textBehind mark s)) := by
  rw [splitPair, Text.splitFirst?, textBehind]
  cases h : s.dropWhile (· != mark) with
  | nil =>
      have hall : textBefore mark s = s := by
        rw [textBefore, ← List.append_nil (s.takeWhile _), ← h, List.takeWhile_append_dropWhile]
      rw [hall]
      rfl
  | cons c after => rfl

theorem splitAll_eq_splitOn (mark : Char) (s : List Char) : splitAll mark s = s.splitOn mark := by
  induction s with
  | nil => rw [List.splitOn_nil, splitAll]
  | cons c s ih =>
      rw [splitAll, ih, List.splitOn_cons_eq_if_modifyHead]
      by_cases hc : c = mark
      · simp [hc]
      · rw [if_neg hc, if_neg (by simpa using hc)]
        cases h : s.splitOn mark with
        | nil => exact absurd h (List.splitOn_ne_nil mark s)
        | cons part parts => rfl

theorem parameters_eq (query : List Char) :
    parameters (String.ofList query) = ((query.splitOn '&').filter (· ≠ [])).map assignment := by
  have hpair : splitPair '=' = assignment := funext (splitPair_eq '=')
  have hempty : (fun part : List Char => !part.isEmpty) = fun part => decide (part ≠ []) := by
    funext part
    cases part <;> rfl
  rw [parameters, String.toList_ofList, splitAll_eq_splitOn, hpair, hempty]

/-- A connection string is read by taking its segments into account one after another. -/
theorem parse_fst (dsn : String) :
    (Options.parse dsn).1 = if pathOf dsn = "" then .error .emptyPath
      else (({ Options.default with path := pathOf dsn } : Options).applyAll (segmentsOf dsn)).1 := by
  have hparse : Options.parse dsn = if (pathOf dsn).isEmpty then (.error .emptyPath, [])
      else ({ Options.default with path := pathOf dsn } : Options).applyAll (segmentsOf dsn) := by
    rw [Options.parse, splitPair_eq, segmentsOf, ← parameters_eq]
    rfl
  rw [hparse]
  simp only [String.isEmpty_iff]
  split <;> rfl

/-! ### Numbers -/

/-- The text is a decimal number that 64 bits hold: digits, with a plus before them or without. -/
def IsUnsigned (text : String) (n : Nat) : Prop :=
  ∃ digits, (text.toList = digits ∨ text.toList = '+' :: digits) ∧ digits ≠ [] ∧
    (∀ d ∈ digits, Text.isDigit d = true) ∧ Text.digitsValue digits = n ∧ n < limit64

/-- What is read without a plus is a run of digits that stands for no more than 64 bits hold. -/
theorem readDigits_eq_some_iff {digits : List Char} {n : Nat} :
    (if digits.isEmpty || !digits.all Text.isDigit then none
      else if Text.digitsValue digits < limit64 then some (Text.digitsValue digits) else none) = some n ↔
    digits ≠ [] ∧ (∀ d ∈ digits, Text.isDigit d = true) ∧ Text.digitsValue digits = n ∧ n < limit64 := by
  by_cases hbad : (digits.isEmpty || !digits.all Text.isDigit) = true
  · rw [if_pos hbad]
    refine iff_of_false (by simp) fun ⟨hne, hdigits, _⟩ => ?_
    simp [hne, List.all_eq_true.mpr hdigits] at hbad
  · rw [if_neg hbad]
    have hgood : digits ≠ [] ∧ ∀ d ∈ digits, Text.isDigit d = true := by simpa using hbad
    split
    case isTrue hlt =>
      rw [Option.some.injEq]
      constructor
      · rintro rfl
        exact ⟨hgood.1, hgood.2, rfl, hlt⟩
      · exact fun ⟨_, _, hvalue, _⟩ => hvalue
    case isFalse hge =>
      exact iff_of_false (by simp) fun ⟨_, _, hvalue, hlt⟩ => hge (hvalue ▸ hlt)

theorem readUnsigned?_eq_some_iff {text : String} {n : Nat} :
    Text.readUnsigned? text = some n ↔ IsUnsigned text n := by
  rw [Text.readUnsigned?, IsUnsigned]
  split
  case h_1 rest hplus =>
    rw [readDigits_eq_some_iff, hplus]
    constructor
    · exact fun h => ⟨rest, .inr rfl, h⟩
    · rintro ⟨digits, rfl | hdigits, h⟩
      · exact absurd (h.2.1 '+' (List.mem_cons_self ..)) (by decide)
      · rwa [(List.cons_eq_cons.mp hdigits).2]
  case h_2 hother =>
    rw [readDigits_eq_some_iff]
    constructor
    · exact fun h => ⟨_, .inl rfl, h⟩
    · rintro ⟨digits, rfl | hplus, h⟩
      · exact h
      · exact (hother _ hplus).elim

/-! ### The last segment about an option -/

/-- The value of the last segment with one of the keys. -/
def lastValue? (keys : List String) (ps : List (String × String)) : Option String :=
  ((ps.filter fun p => p.1 ∈ keys).getLast?).map (·.2)

/-- The keys of the options: whether to read only, how long to wait, and whether to check foreign keys. -/
def optionKeys : List (List String) := [["mode"], timeoutKeys, foreignKeysKeys]

section lastValue

variable {α : Type} {keys : List String} {g : String → Option α}

theorem findSome?_eq_bind {ps : List (String × String)} (hread : ∀ p ∈ ps, p.1 ∈ keys → (g p.2).isSome) :
    ps.findSome? (fun p => if p.1 ∈ keys then g p.2 else none) =
      (ps.find? fun p => p.1 ∈ keys).bind fun p => g p.2 := by
  induction ps with
  | nil => rfl
  | cons p ps ih =>
      rw [List.findSome?_cons, List.find?_cons]
      by_cases hp : p.1 ∈ keys
      · obtain ⟨a, ha⟩ := Option.isSome_iff_exists.mp (hread p (List.mem_cons_self ..) hp)
        simp [hp, ha]
      · simp [hp, ih fun q hq => hread q (List.mem_cons_of_mem p hq)]

/-- What segments with some keys say last is what the value of the last of them says. -/
theorem last?_eq_bind {ps : List (String × String)} (hread : ∀ p ∈ ps, p.1 ∈ keys → (g p.2).isSome) :
    last? (fun p => if p.1 ∈ keys then g p.2 else none) ps = (lastValue? keys ps).bind g := by
  rw [last?, findSome?_eq_bind fun p hp => hread p (List.mem_reverse.mp hp), lastValue?,
    List.getLast?_eq_head?_reverse, ← List.filter_reverse, List.head?_filter, Option.bind_map]
  rfl

theorem mem_of_lastValue? {ps : List (String × String)} {value : String} (h : lastValue? keys ps = some value) :
    ∃ p ∈ ps, p.1 ∈ keys ∧ p.2 = value := by
  obtain ⟨p, hp, rfl⟩ := Option.map_eq_some_iff.mp h
  obtain ⟨hmem, hkey⟩ := List.mem_filter.mp (List.mem_of_getLast? hp)
  exact ⟨p, hmem, of_decide_eq_true hkey, rfl⟩

end lastValue

/-- What the options are that a path and segments behind it ask for. -/
structure AskedFor (path : String) (ps : List (String × String)) (o : Options) : Prop where
  path : o.path = path
  readOnly : o.readOnly = true ↔ lastValue? ["mode"] ps = some "ro"
  busyTimeout_default : lastValue? timeoutKeys ps = none → o.busyTimeout = .ofSeconds 5
  busyTimeout : ∀ value, lastValue? timeoutKeys ps = some value →
    ∃ ms, IsUnsigned value ms ∧ o.busyTimeout = .ofMillis ms
  foreignKeys : o.foreignKeys = false ↔
    ∃ value ∈ ["0", "off", "false"], lastValue? foreignKeysKeys ps = some value

/-- A segment that should say how long to wait and does not. -/
def BadTimeout (p : String × String) : Prop := p.1 ∈ timeoutKeys ∧ ∀ n, ¬ IsUnsigned p.2 n

/-! ### Segments that make no difference -/

/-- One more segment with another key, or two neighbours about different options the other way round. -/
inductive Varies : List (String × String) → List (String × String) → Prop
  | insert (before : List (String × String)) {p : String × String} (after : List (String × String))
      (h : ∀ keys ∈ optionKeys, p.1 ∉ keys) : Varies (before ++ after) (before ++ p :: after)
  | swap (before : List (String × String)) {p q : String × String} (after : List (String × String))
      (h : ∀ keys ∈ optionKeys, p.1 ∈ keys → q.1 ∉ keys) :
      Varies (before ++ p :: q :: after) (before ++ q :: p :: after)

theorem Varies.filter_eq {ps qs : List (String × String)} (h : Varies ps qs) :
    ∀ keys ∈ optionKeys, (ps.filter fun p => p.1 ∈ keys) = qs.filter fun p => p.1 ∈ keys := by
  intro keys hkeys
  cases h with
  | insert before after h => simp [h keys hkeys]
  | swap before after h =>
      rename_i p q
      by_cases hp : p.1 ∈ keys
      · simp [hp, h keys hkeys hp]
      · simp [List.filter_cons, hp]

theorem Options.applyAll_congr (o : Options) {ps qs : List (String × String)}
    (h : ∀ keys ∈ optionKeys, (ps.filter fun p => p.1 ∈ keys) = qs.filter fun p => p.1 ∈ keys) :
    (o.applyAll ps).1 = (o.applyAll qs).1 := by
  have hmode := h ["mode"] (by simp [optionKeys])
  have htimeout := h timeoutKeys (by simp [optionKeys])
  have hforeign := h foreignKeysKeys (by simp [optionKeys])
  have hmode? : ∀ p : String × String, decide (p.1 ∈ ["mode"]) = false → modeOf? p = none :=
    fun p hp => if_neg (by simpa using hp)
  have htimeout? : ∀ p : String × String, decide (p.1 ∈ timeoutKeys) = false → timeoutOf? p = none :=
    fun p hp => if_neg (of_decide_eq_false hp)
  have hforeign? : ∀ p : String × String, decide (p.1 ∈ foreignKeysKeys) = false → foreignKeysOf? p = none :=
    fun p hp => if_neg (of_decide_eq_false hp)
  have hbad? : ∀ p : String × String, decide (p.1 ∈ timeoutKeys) = false → badTimeoutOf? p = none :=
    fun p hp => if_neg fun hbad => of_decide_eq_false hp hbad.1
  have hbad : badTimeout? ps = badTimeout? qs := by
    rw [badTimeout?, ← findSome?_filter badTimeoutOf? hbad?, htimeout, findSome?_filter badTimeoutOf? hbad?,
      badTimeout?]
  have hafter : o.after ps = o.after qs := by
    rw [after, ← last?_filter modeOf? hmode?, ← last?_filter timeoutOf? htimeout?,
      ← last?_filter foreignKeysOf? hforeign?, hmode, htimeout, hforeign, last?_filter modeOf? hmode?,
      last?_filter timeoutOf? htimeout?, last?_filter foreignKeysOf? hforeign?, after]
  rw [applyAll_fst, applyAll_fst, hbad, hafter]

/-! ### Reading a connection string -/

theorem badTimeout?_ne_none_iff {ps : List (String × String)} :
    badTimeout? ps ≠ none ↔ ∃ p ∈ ps, BadTimeout p := by
  have hread : ∀ text, Text.readUnsigned? text = none ↔ ∀ n, ¬ IsUnsigned text n := by
    intro text
    rw [Option.eq_none_iff_forall_ne_some]
    exact forall_congr' fun n => not_congr readUnsigned?_eq_some_iff
  rw [badTimeout?, ne_eq, List.findSome?_eq_none_iff]
  simp [badTimeoutOf?, BadTimeout, hread]

/-- Without a bad waiting time, the options are what the last segments about them say. -/
theorem askedFor_after (path : String) {ps : List (String × String)} (hgood : ∀ p ∈ ps, ¬ BadTimeout p) :
    AskedFor path ps (({ Options.default with path := path } : Options).after ps) := by
  have hread : ∀ p ∈ ps, p.1 ∈ timeoutKeys → ∃ ms, IsUnsigned p.2 ms := by
    intro p hp hkey
    exact Classical.not_forall_not.mp fun hnone => hgood p hp ⟨hkey, hnone⟩
  have hmode : last? modeOf? ps = (lastValue? ["mode"] ps).bind fun value => some (decide (value = "ro")) := by
    have hone : modeOf? = fun p => if p.1 ∈ ["mode"] then some (decide (p.2 = "ro")) else none := by
      funext p
      simp [modeOf?]
    rw [hone]
    exact last?_eq_bind (g := fun value => some (decide (value = "ro"))) fun _ _ _ => rfl
  have htimeout : last? timeoutOf? ps = (lastValue? timeoutKeys ps).bind readTimeout? := by
    refine last?_eq_bind fun p hp hkey => ?_
    obtain ⟨ms, hms⟩ := hread p hp hkey
    rw [readTimeout?, readUnsigned?_eq_some_iff.mpr hms]
    rfl
  have hforeign : last? foreignKeysOf? ps =
      (lastValue? foreignKeysKeys ps).bind fun value => some (saysOn value) :=
    last?_eq_bind (g := fun value => some (saysOn value)) fun _ _ _ => rfl
  refine ⟨rfl, ?_, fun hnone => ?_, fun value hvalue => ?_, ?_⟩
  · rw [Options.after, hmode]
    cases lastValue? ["mode"] ps <;> simp [Options.default]
  · rw [Options.after, htimeout, hnone]
    rfl
  · obtain ⟨p, hp, hkey, rfl⟩ := mem_of_lastValue? hvalue
    obtain ⟨ms, hms⟩ := hread p hp hkey
    refine ⟨ms, hms, ?_⟩
    rw [Options.after, htimeout, hvalue, Option.bind_some, readTimeout?, readUnsigned?_eq_some_iff.mpr hms,
      Option.map_some, Option.getD_some]
  · rw [Options.after, hforeign]
    cases lastValue? foreignKeysKeys ps with
    | none => simp [Options.default]
    | some value => simp [saysOn, Decidable.or_iff_not_imp_left]

/-- However often segments that make no difference come, go and change places, those about an option stay. -/
theorem filter_eq_of_eqvGen {ps qs : List (String × String)} (h : Relation.EqvGen Varies ps qs) :
    ∀ keys ∈ optionKeys, (ps.filter fun p => p.1 ∈ keys) = qs.filter fun p => p.1 ∈ keys := by
  intro keys hkeys
  induction h with
  | rel ps qs h => exact h.filter_eq keys hkeys
  | refl ps => rfl
  | symm ps qs _ ih => exact ih.symm
  | trans ps qs rs _ _ ih ih' => exact ih.trans ih'

/-- **A connection string is what its segments say.** Reading it fails exactly if it has no path, or some segment
assigns what is no number to the waiting time, even if a later one overrides it. Otherwise the path is what
stands before the question mark, and each option what the last segment about it says, or what it is by
default. Segments with other keys, wherever they are put in or taken out, and the order of neighbours about
different options make no difference. -/
theorem parse_segments :
    (∀ dsn, (∃ fault, (Options.parse dsn).1 = .error fault) ↔
      pathOf dsn = "" ∨ ∃ p ∈ segmentsOf dsn, BadTimeout p) ∧
    (∀ dsn o, (Options.parse dsn).1 = .ok o → AskedFor (pathOf dsn) (segmentsOf dsn) o) ∧
    ∀ dsn dsn', pathOf dsn = pathOf dsn' → Relation.EqvGen Varies (segmentsOf dsn) (segmentsOf dsn') →
      (Options.parse dsn).1 = (Options.parse dsn').1 := by
  have hparse : ∀ dsn, pathOf dsn ≠ "" → (Options.parse dsn).1 =
      (({ Options.default with path := pathOf dsn } : Options).applyAll (segmentsOf dsn)).1 :=
    fun dsn hpath => (parse_fst dsn).trans (if_neg hpath)
  refine ⟨fun dsn => ?_, fun dsn o ho => ?_, fun dsn dsn' hpath hvaries => ?_⟩
  · rw [← badTimeout?_ne_none_iff]
    by_cases hpath : pathOf dsn = ""
    · rw [parse_fst, if_pos hpath]
      exact iff_of_true ⟨_, rfl⟩ (.inl hpath)
    · rw [hparse dsn hpath, Options.applyAll_fst]
      cases badTimeout? (segmentsOf dsn) <;> simp [hpath]
  · by_cases hpath : pathOf dsn = ""
    · rw [parse_fst, if_pos hpath] at ho
      cases ho
    · rw [hparse dsn hpath, Options.applyAll_fst] at ho
      cases hbad : badTimeout? (segmentsOf dsn) with
      | some value =>
          rw [hbad] at ho
          cases ho
      | none =>
          rw [hbad] at ho
          cases ho
          refine askedFor_after _ fun p hp hfault => ?_
          exact badTimeout?_ne_none_iff.mpr ⟨p, hp, hfault⟩ hbad
  · rw [parse_fst, parse_fst, hpath, Options.applyAll_congr _ (filter_eq_of_eqvGen hvaries)]

/-- A value that is overridden must be a number all the same. -/
example : (Options.parse "app.db?busy_timeout=soon&busy_timeout=7").1 = .error (.badBusyTimeout "soon") := rfl

section overridden

/-- Segments that override each other, in between one that is empty and some about nothing known. -/
def overridden : String := "app.db?mode=ro&cache=shared&busy_timeout=9&&x?y&_busy_timeout=+0250&mode"

/-- The same without some that make no difference, and with two neighbours the other way round. -/
def reordered : String := "app.db?busy_timeout=9&mode=ro&x?y&_busy_timeout=+0250&mode"

theorem parse_of_overridden :
    ∃ o, (Options.parse overridden).1 = .ok o ∧ o.path = "app.db" ∧ o.readOnly = false ∧
      o.busyTimeout = .ofMillis 250 ∧ o.foreignKeys = true ∧ (Options.parse reordered).1 = .ok o := by
  obtain ⟨-, hok, hvaries⟩ := parse_segments
  have hsegments : segmentsOf overridden = [("mode", "ro"), ("cache", "shared"), ("busy_timeout", "9"),
      ("x?y", ""), ("_busy_timeout", "+0250"), ("mode", "")] := by decide +kernel
  have hsegments' : segmentsOf reordered = [("busy_timeout", "9"), ("mode", "ro"), ("x?y", ""),
      ("_busy_timeout", "+0250"), ("mode", "")] := by decide +kernel
  have hpath : pathOf overridden = "app.db" := by decide +kernel
  have hpath' : pathOf reordered = "app.db" := by decide +kernel
  have hsame : Relation.EqvGen Varies (segmentsOf overridden) (segmentsOf reordered) := by
    rw [hsegments, hsegments']
    refine .trans _ [("mode", "ro"), ("busy_timeout", "9"), ("x?y", ""), ("_busy_timeout", "+0250"),
      ("mode", "")] _ (.symm _ _ (.rel _ _ (.insert [_] _ ?_))) (.rel _ _ (.swap [] _ ?_))
    · decide
    · decide
  obtain ⟨o, ho⟩ : ∃ o, (Options.parse overridden).1 = .ok o := ⟨_, rfl⟩
  have hasked := hok overridden o ho
  rw [hsegments] at hasked
  refine ⟨o, ho, hasked.path.trans hpath, ?_, ?_, ?_, ?_⟩
  · exact Bool.eq_false_iff.mpr (mt hasked.readOnly.mp (by decide))
  · obtain ⟨ms, hms, hwait⟩ := hasked.busyTimeout "+0250" (by decide)
    have hread : Text.readUnsigned? "+0250" = some 250 := by decide
    rw [hwait, Option.some.inj ((readUnsigned?_eq_some_iff.mpr hms).symm.trans hread)]
  · exact Bool.ne_false_iff.mp (mt hasked.foreignKeys.mp (by decide))
  · exact (hvaries _ _ (hpath.trans hpath'.symm) hsame).symm.trans ho

end overridden

end DbAccess.Sqlite
