import DbAccess.Sqlite.Options
/-!
# Reading parameters

The parameters of texts that are joined by `&` are those of the texts one after another
(`parameters_intercalate`). Taking parameters into account ends at the first waiting time that is no number
(`badTimeout?`); without one, each option is what the last parameter of its names says (`lastValue?`), or
what it was. `applyAll_fst` says both, so that parameters of other names do not count (`applyAll_filter`).
-/

namespace DbAccess.Sqlite

/-! ### Splitting -/

theorem splitAll_ne_nil (sep : Char) (s : List Char) : splitAll sep s ≠ [] := by
  cases s with
  | nil => exact List.cons_ne_nil _ _
  | cons c s =>
      rw [splitAll]
      split
      · exact List.cons_ne_nil _ _
      · split <;> exact List.cons_ne_nil _ _

/-- A separator between two texts parts the parts of the one from those of the other. -/
theorem splitAll_append (sep : Char) (a b : List Char) :
    splitAll sep (a ++ sep :: b) = splitAll sep a ++ splitAll sep b := by
  induction a with
  | nil => simp [splitAll]
  | cons c a ih =>
      rw [List.cons_append, splitAll, splitAll, ih]
      by_cases hc : c = sep
      · rw [if_pos hc, if_pos hc, List.cons_append]
      · rw [if_neg hc, if_neg hc]
        cases h : splitAll sep a with
        | nil => exact absurd h (splitAll_ne_nil sep a)
        | cons part parts => rfl

theorem splitAll_of_not_mem {sep : Char} {s : List Char} (h : sep ∉ s) : splitAll sep s = [s] := by
  induction s with
  | nil => rfl
  | cons c s ih =>
      rw [List.mem_cons, not_or] at h
      rw [splitAll, if_neg (Ne.symm h.1), ih h.2]

theorem splitPair_of_not_mem {sep : Char} {s : List Char} (h : sep ∉ s) :
    splitPair sep s = (String.ofList s, "") := by
  have hall : ∀ c ∈ s, (c != sep) = true := fun c hc => bne_iff_ne.mpr fun heq => h (heq ▸ hc)
  have hdrop : s.dropWhile (· != sep) = [] := by
    rw [← List.append_nil s, List.dropWhile_append_of_pos hall, List.dropWhile_nil]
  rw [splitPair, Text.splitFirst?, hdrop]

theorem splitPair_append {sep : Char} {a : List Char} (h : sep ∉ a) (b : List Char) :
    splitPair sep (a ++ sep :: b) = (String.ofList a, String.ofList b) := by
  have hall : ∀ c ∈ a, (c != sep) = true := fun c hc => bne_iff_ne.mpr fun heq => h (heq ▸ hc)
  rw [splitPair, Text.splitFirst?, List.dropWhile_append_of_pos hall, List.takeWhile_append_of_pos hall]
  simp

theorem parameters_empty : parameters "" = [] := by decide

theorem parameters_append (a b : String) : parameters (a ++ "&" ++ b) = parameters a ++ parameters b := by
  have hlist : (a ++ "&" ++ b).toList = a.toList ++ '&' :: b.toList := by
    simp [String.toList_append]
  rw [parameters, hlist, splitAll_append, List.filter_append, List.map_append]
  rfl

/-- The parameters of joined texts are those of the texts. -/
theorem parameters_intercalate (texts : List String) :
    parameters (String.intercalate "&" texts) = texts.flatMap parameters := by
  induction texts with
  | nil => exact parameters_empty
  | cons t texts ih =>
      cases texts with
      | nil => simp [String.intercalate_singleton]
      | cons u texts =>
          calc parameters (String.intercalate "&" (t :: u :: texts))
            _ = parameters (t ++ "&" ++ String.intercalate "&" (u :: texts)) := by
                rw [String.intercalate_cons_cons]
            _ = parameters t ++ (u :: texts).flatMap parameters := by rw [parameters_append, ih]
            _ = (t :: u :: texts).flatMap parameters := List.flatMap_cons.symm

/-! ### One parameter -/

/-- The names of the parameter that says how long to wait for a lock. -/
def timeoutKeys : List String := ["_busy_timeout", "busy_timeout"]

/-- The names of the parameter that says whether foreign keys are checked. -/
def foreignKeysKeys : List String := ["_foreign_keys", "foreign_keys"]

/-- The names of parameters that count. -/
def knownKeys : List String := "mode" :: (timeoutKeys ++ foreignKeysKeys)

/-- What a value says about whether foreign keys are checked. -/
def saysOn (value : String) : Bool := !(value = "0" || value = "off" || value = "false")

/-- How long a value says to wait. -/
def readTimeout? (value : String) : Option Span := (Text.readUnsigned? value).map .ofMillis

/-- Whether a parameter asks for reading only, if it is about that. -/
def modeOf? (p : String × String) : Option Bool := if p.1 = "mode" then some (p.2 = "ro") else none

/-- How long a parameter wants to wait, if it is about that and says so. -/
def timeoutOf? (p : String × String) : Option Span :=
  if p.1 ∈ timeoutKeys then readTimeout? p.2 else none

/-- Whether a parameter wants foreign keys, if it is about that. -/
def foreignKeysOf? (p : String × String) : Option Bool :=
  if p.1 ∈ foreignKeysKeys then some (saysOn p.2) else none

/-- The value of a parameter that should say how long to wait and does not. -/
def badTimeoutOf? (p : String × String) : Option String :=
  if p.1 ∈ timeoutKeys ∧ Text.readUnsigned? p.2 = none then some p.2 else none

/-! ### Several parameters -/

/-- What the last parameter says that says anything. -/
def last? {α : Type} (f : String × String → Option α) (ps : List (String × String)) : Option α :=
  ps.reverse.findSome? f

/-- The value at which reading ends. -/
def badTimeout? (ps : List (String × String)) : Option String := ps.findSome? badTimeoutOf?

section Last

variable {α : Type} (f : String × String → Option α)

theorem last?_cons (p : String × String) (ps : List (String × String)) :
    last? f (p :: ps) = (last? f ps).or (f p) := by
  simp [last?, List.findSome?_append]

theorem last?_append (ps qs : List (String × String)) :
    last? f (ps ++ qs) = (last? f qs).or (last? f ps) := by
  simp [last?, List.findSome?_append]

theorem findSome?_filter {count : String × String → Bool} (h : ∀ p, count p = false → f p = none)
    (ps : List (String × String)) : (ps.filter count).findSome? f = ps.findSome? f := by
  induction ps with
  | nil => rfl
  | cons p ps ih =>
      rw [List.filter_cons, List.findSome?_cons]
      cases hp : count p with
      | true => rw [if_pos rfl, List.findSome?_cons, ih]
      | false => rw [if_neg Bool.false_ne_true, h p hp, ih]

theorem last?_filter {count : String × String → Bool} (h : ∀ p, count p = false → f p = none)
    (ps : List (String × String)) : last? f (ps.filter count) = last? f ps := by
  rw [last?, ← List.filter_reverse, findSome?_filter f h, last?]

end Last

namespace Options

/-- The options with what parameters say put in. -/
def after (o : Options) (ps : List (String × String)) : Options where
  path := o.path
  readOnly := (last? modeOf? ps).getD o.readOnly
  busyTimeout := (last? timeoutOf? ps).getD o.busyTimeout
  foreignKeys := (last? foreignKeysOf? ps).getD o.foreignKeys

theorem after_append (o : Options) (ps qs : List (String × String)) :
    o.after (ps ++ qs) = (o.after ps).after qs := by
  simp only [after, last?_append, Option.getD_or]

theorem after_timeout (o : Options) {key value : String} {wait : Span} (hkey : key ∈ timeoutKeys)
    (hwait : readTimeout? value = some wait) : o.after [(key, value)] = { o with busyTimeout := wait } := by
  have hmode : key ≠ "mode" := by
    rintro rfl
    exact absurd hkey (by decide)
  have hkeys : key ∉ foreignKeysKeys := by
    intro hkey'
    simp only [timeoutKeys, foreignKeysKeys, List.mem_cons, List.not_mem_nil, or_false] at hkey hkey'
    obtain rfl | rfl := hkey <;> exact absurd hkey' (by decide)
  simp [after, last?, modeOf?, timeoutOf?, foreignKeysOf?, hkey, hwait, hmode, hkeys]

theorem apply_fst (o : Options) (p : String × String) :
    (o.apply p.1 p.2).1 = match badTimeoutOf? p with
      | some value => .error (.badBusyTimeout value)
      | none => .ok (o.after [p]) := by
  obtain ⟨key, value⟩ := p
  dsimp only
  unfold apply
  split
  case h_1 =>
    simp [badTimeoutOf?, timeoutKeys, after, last?, modeOf?, timeoutOf?, foreignKeysOf?, foreignKeysKeys]
  case h_2 | h_3 =>
    cases h : Text.readUnsigned? value with
    | none => simp [badTimeoutOf?, timeoutKeys, h]
    | some ms =>
        have hwait : readTimeout? value = some (.ofMillis ms) := by rw [readTimeout?, h, Option.map_some]
        rw [after_timeout o (by decide) hwait]
        simp [badTimeoutOf?, h]
  case h_4 | h_5 =>
    simp [badTimeoutOf?, timeoutKeys, after, last?, modeOf?, timeoutOf?, foreignKeysOf?, foreignKeysKeys,
      saysOn]
  case h_6 hmode htimeout htimeout' hkeys hkeys' =>
    have hnotMode : key ≠ "mode" := hmode
    have hnotTimeout : key ∉ timeoutKeys := by simpa [timeoutKeys] using ⟨htimeout', htimeout⟩
    have hnotKeys : key ∉ foreignKeysKeys := by simpa [foreignKeysKeys] using ⟨hkeys', hkeys⟩
    simp [badTimeoutOf?, after, last?, modeOf?, timeoutOf?, foreignKeysOf?, hnotMode, hnotTimeout, hnotKeys]

theorem applyAll_cons (o : Options) (p : String × String) (ps : List (String × String)) :
    (o.applyAll (p :: ps)).1 = (o.apply p.1 p.2).1.bind fun o' => (o'.applyAll ps).1 := by
  obtain ⟨key, value⟩ := p
  rw [applyAll]
  cases o.apply key value with
  | mk result events => cases result <;> rfl

/-- Parameters are read, unless one should be a number and is none. -/
theorem applyAll_fst (o : Options) (ps : List (String × String)) :
    (o.applyAll ps).1 = match badTimeout? ps with
      | some value => .error (.badBusyTimeout value)
      | none => .ok (o.after ps) := by
  induction ps generalizing o with
  | nil => rfl
  | cons p ps ih =>
      rw [applyAll_cons, apply_fst, badTimeout?, List.findSome?_cons]
      cases badTimeoutOf? p with
      | some value => rfl
      | none => exact (ih (o.after [p])).trans (by rw [← after_append]; rfl)

/-- Only parameters that count have a part in the result. -/
theorem applyAll_filter (o : Options) (ps : List (String × String)) :
    (o.applyAll (ps.filter (·.1 ∈ knownKeys))).1 = (o.applyAll ps).1 := by
  have hcount : ∀ p : String × String, decide (p.1 ∈ knownKeys) = false →
      p.1 ≠ "mode" ∧ p.1 ∉ timeoutKeys ∧ p.1 ∉ foreignKeysKeys := by
    intro p hp
    simpa [knownKeys, not_or] using hp
  have hbad : badTimeout? (ps.filter (·.1 ∈ knownKeys)) = badTimeout? ps :=
    findSome?_filter _ (fun p hp => if_neg fun h => (hcount p hp).2.1 h.1) ps
  have hafter : o.after (ps.filter (·.1 ∈ knownKeys)) = o.after ps := by
    rw [after, last?_filter modeOf? (fun p hp => if_neg (hcount p hp).1),
      last?_filter timeoutOf? (fun p hp => if_neg (hcount p hp).2.1),
      last?_filter foreignKeysOf? (fun p hp => if_neg (hcount p hp).2.2), after]
  rw [applyAll_fst, applyAll_fst, hbad, hafter]

end Options

end DbAccess.Sqlite
