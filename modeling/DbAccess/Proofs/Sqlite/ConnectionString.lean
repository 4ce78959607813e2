import DbAccess.Dsn
import DbAccess.Proofs.SortedMap
import DbAccess.Proofs.Sqlite.Parameter
/-!
# Connection strings that are written and read back

`ConnectionOptions.sqlite` joins a path and further parameters as they are, and nothing in it escapes the
characters at which `Options.parse` parts the string again. So a path is read back when it has no question
mark, and a parameter when reading its text finds the same parameters that count (`Faithful`), which is so of
every key without `=` and `&` and value without `&` (`faithful_of_plain`). Under these conditions
`parse_sqlite` says what is read. `parse_sqlite_of_smuggled` has a value that smuggles a waiting time in.
-/

namespace DbAccess.Sqlite

open ConnectionOptions (pairText)

/-! ### What is found in a string that was written -/

/-- As far as parameters count, the text of this one has it and no other. -/
def Faithful (p : String × String) : Prop :=
  (parameters (pairText p)).filter (·.1 ∈ knownKeys) = [p].filter (·.1 ∈ knownKeys)

instance (p : String × String) : Decidable (Faithful p) := inferInstanceAs (Decidable (_ = _))

/-- The separators are what can go wrong. -/
theorem faithful_of_plain {p : String × String} (hkey : '=' ∉ p.1.toList) (hkey' : '&' ∉ p.1.toList)
    (hvalue : '&' ∉ p.2.toList) : Faithful p := by
  have htext : (pairText p).toList = p.1.toList ++ '=' :: p.2.toList := by
    simp [pairText, String.toList_append]
  have hone : splitAll '&' (pairText p).toList = [p.1.toList ++ '=' :: p.2.toList] := by
    rw [splitAll_of_not_mem, htext]
    simp [htext, hkey', hvalue]
  have hparam : parameters (pairText p) = [p] := by
    rw [parameters, hone]
    simp [splitPair_append hkey]
  rw [Faithful, hparam]

/-- The path is what stands before the question mark, and each parameter is found in its own text. -/
theorem parse_of_path {o : ConnectionOptions} {dsn : String} (hdsn : o.sqlite = .ok dsn)
    (hpath : '?' ∉ o.database.toList) :
    Options.parse dsn =
      ({ Options.default with path := o.database } : Options).applyAll
        (o.extra.entries.flatMap fun p => parameters (pairText p)) := by
  rw [ConnectionOptions.sqlite] at hdsn
  split at hdsn
  case isTrue => contradiction
  case isFalse hdatabase =>
    split at hdsn
    case isTrue hextra =>
      obtain rfl := Except.ok.inj hdsn
      have hnil : o.extra.entries = [] := List.isEmpty_iff.mp hextra
      rw [Options.parse, splitPair_of_not_mem hpath, hnil]
      simp [hdatabase, parameters_empty]
    case isFalse hextra =>
      obtain rfl := Except.ok.inj hdsn
      have hlist : ∀ query : String,
          (o.database ++ "?" ++ query).toList = o.database.toList ++ '?' :: query.toList := fun query => by
        simp [String.toList_append]
      rw [Options.parse, hlist, splitPair_append hpath, String.ofList_toList, String.ofList_toList]
      simp [hdatabase, parameters_intercalate, List.flatMap_map]

/-! ### Parameters that ascend -/

section Ascending

variable {α : Type} (g : String → Option α) {m : List (String × String)}

theorem last?_of_lookup (k : String) (h : SortedMap.Ascending m) :
    last? (fun p => if p.1 = k then g p.2 else none) m = (m.lookup k).bind g := by
  induction m with
  | nil => rfl
  | cons p m ih =>
      rw [last?_cons, ih h.tail, List.lookup_cons]
      by_cases hp : p.1 = k
      · subst hp
        simp [SortedMap.lookup_eq_none fun _ => h.head_lt]
      · simp [hp, beq_eq_false_iff_ne.mpr (Ne.symm hp)]

theorem last?_of_lookup_pair (k₁ k₂ : String) (hlt : k₁ < k₂) (h : SortedMap.Ascending m) :
    last? (fun p => if p.1 ∈ [k₁, k₂] then g p.2 else none) m =
      ((m.lookup k₂).bind g).or ((m.lookup k₁).bind g) := by
  have hne : k₁ ≠ k₂ := String.ne_of_lt hlt
  induction m with
  | nil => rfl
  | cons p m ih =>
      rw [last?_cons, ih h.tail, List.lookup_cons, List.lookup_cons]
      have hhead : m.lookup p.1 = none := SortedMap.lookup_eq_none fun _ => h.head_lt
      by_cases hp₂ : p.1 = k₂
      · subst hp₂
        have hless : m.lookup k₁ = none :=
          SortedMap.lookup_eq_none fun _ hq => String.lt_trans hlt (h.head_lt hq)
        simp [hhead, hless, beq_eq_false_iff_ne.mpr hne]
      · by_cases hp₁ : p.1 = k₁
        · subst hp₁
          simp [hhead, beq_eq_false_iff_ne.mpr hne.symm]
        · simp [hp₁, hp₂, beq_eq_false_iff_ne.mpr (Ne.symm hp₁), beq_eq_false_iff_ne.mpr (Ne.symm hp₂)]

theorem badTimeout?_eq_none_iff (h : SortedMap.Ascending m) :
    badTimeout? m = none ↔
      ∀ key ∈ timeoutKeys, ∀ value, m.lookup key = some value → (Text.readUnsigned? value).isSome := by
  simp only [badTimeout?, List.findSome?_eq_none_iff, h.lookup_eq_some_iff]
  constructor
  · intro hgood key hkey value hp
    rw [Option.isSome_iff_ne_none]
    exact fun hbad => absurd (hgood (key, value) hp) (by simp [badTimeoutOf?, hkey, hbad])
  · intro hgood p hp
    refine if_neg fun hbad => ?_
    have hread := hgood p.1 hbad.1 p.2 hp
    rw [hbad.2] at hread
    exact Bool.false_ne_true hread

theorem last?_modeOf? (h : SortedMap.Ascending m) :
    last? modeOf? m = (m.lookup "mode").map fun value => decide (value = "ro") := by
  rw [Option.map_eq_bind]
  exact last?_of_lookup (fun value => some (decide (value = "ro"))) "mode" h

theorem last?_timeoutOf? (h : SortedMap.Ascending m) (hgood : badTimeout? m = none) :
    last? timeoutOf? m = ((m.lookup "busy_timeout").or (m.lookup "_busy_timeout")).bind readTimeout? := by
  have hpair : last? timeoutOf? m =
      ((m.lookup "busy_timeout").bind readTimeout?).or ((m.lookup "_busy_timeout").bind readTimeout?) :=
    last?_of_lookup_pair readTimeout? "_busy_timeout" "busy_timeout" (by decide) h
  rw [hpair]
  cases hplain : m.lookup "busy_timeout" with
  | none => rfl
  | some value =>
      have hread := (badTimeout?_eq_none_iff h).mp hgood "busy_timeout" (by decide) value hplain
      obtain ⟨ms, hms⟩ := Option.isSome_iff_exists.mp hread
      simp [readTimeout?, hms]

theorem last?_foreignKeysOf? (h : SortedMap.Ascending m) :
    last? foreignKeysOf? m = ((m.lookup "foreign_keys").or (m.lookup "_foreign_keys")).map saysOn := by
  rw [Option.map_or, Option.map_eq_bind, Option.map_eq_bind]
  exact last?_of_lookup_pair (fun value => some (saysOn value)) "_foreign_keys" "foreign_keys" (by decide) h

end Ascending

/-- The parameters that were written are those that are read, as far as they count. -/
theorem parse_of_faithful {o : ConnectionOptions} {dsn : String} (hdsn : o.sqlite = .ok dsn)
    (hpath : '?' ∉ o.database.toList) (hfaithful : ∀ p ∈ o.extra.entries, Faithful p) :
    (Options.parse dsn).1 = (({ Options.default with path := o.database } : Options).applyAll o.extra.entries).1 := by
  have hfilter : (o.extra.entries.flatMap fun p => parameters (pairText p)).filter (·.1 ∈ knownKeys) =
      o.extra.entries.filter (·.1 ∈ knownKeys) := by
    generalize o.extra.entries = ps at hfaithful
    induction ps with
    | nil => rfl
    | cons p ps ih =>
        rw [List.flatMap_cons, List.filter_append, hfaithful p (List.mem_cons_self ..),
          ih fun q hq => hfaithful q (List.mem_cons_of_mem p hq), ← List.filter_append, List.singleton_append]
  rw [parse_of_path hdsn hpath, ← Options.applyAll_filter, hfilter, Options.applyAll_filter]

/-- A string that was written is read as it was meant: with the path and the parameters of the options. -/
theorem parse_sqlite {o : ConnectionOptions} {dsn : String} (hdsn : o.sqlite = .ok dsn)
    (hpath : '?' ∉ o.database.toList) (hfaithful : ∀ p ∈ o.extra.entries, Faithful p) :
    ((∃ key ∈ timeoutKeys, ∃ value,
        o.extra.entries.lookup key = some value ∧ Text.readUnsigned? value = none) →
      ∃ value, (Options.parse dsn).1 = .error (.badBusyTimeout value)) ∧
    ((∀ key ∈ timeoutKeys, ∀ value,
        o.extra.entries.lookup key = some value → (Text.readUnsigned? value).isSome) →
      ∃ opened, (Options.parse dsn).1 = .ok opened ∧
        opened.path = o.database ∧
        (opened.readOnly = true ↔ o.extra.entries.lookup "mode" = some "ro") ∧
        opened.busyTimeout =
          (((o.extra.entries.lookup "busy_timeout").or (o.extra.entries.lookup "_busy_timeout")).bind readTimeout?).getD
            (.ofSeconds 5) ∧
        (opened.foreignKeys = false ↔
          ∃ value ∈ ["0", "off", "false"],
            (o.extra.entries.lookup "foreign_keys").or (o.extra.entries.lookup "_foreign_keys") = some value)) := by
  have hascending := o.extra.ascending
  rw [parse_of_faithful hdsn hpath hfaithful, Options.applyAll_fst]
  constructor
  · rintro ⟨key, hkey, value, hvalue, hbad⟩
    cases h : badTimeout? o.extra.entries with
    | some value' => exact ⟨value', rfl⟩
    | none =>
        have hread := (badTimeout?_eq_none_iff hascending).mp h key hkey value hvalue
        rw [hbad] at hread
        contradiction
  · intro hgood
    have hnone := (badTimeout?_eq_none_iff hascending).mpr hgood
    rw [hnone]
    refine ⟨_, rfl, rfl, ?_, ?_, ?_⟩
    · rw [Options.after, last?_modeOf? hascending]
      cases o.extra.entries.lookup "mode" <;> simp [Options.default]
    · rw [Options.after, last?_timeoutOf? hascending hnone]
      rfl
    · rw [Options.after, last?_foreignKeysOf? hascending]
      cases (o.extra.entries.lookup "foreign_keys").or (o.extra.entries.lookup "_foreign_keys") with
      | none => simp [Options.default]
      | some value => simp [saysOn, Decidable.or_iff_not_imp_left]

/-- Reading only and with a waiting time under its other name, beside a value that looks like parameters. -/
def awkward : ConnectionOptions :=
  ConnectionOptions.param (.param (.param (.param { ConnectionOptions.empty with database := "/tmp/app.db" }
    "mode" "ro") "foreign_keys" "off") "cache" "a=b?c&d") "_busy_timeout" "7"

theorem parse_sqlite_of_awkward :
    ∃ dsn opened, awkward.sqlite = .ok dsn ∧ (Options.parse dsn).1 = .ok opened ∧
      opened.path = "/tmp/app.db" ∧ opened.readOnly = true ∧ opened.busyTimeout = .ofMillis 7 ∧
      opened.foreignKeys = false := by
  have hdsn : awkward.sqlite =
    .ok "/tmp/app.db?_busy_timeout=7&cache=a=b?c&d&foreign_keys=off&mode=ro" := rfl
  have hgood : ∀ key ∈ timeoutKeys, ∀ value,
      awkward.extra.entries.lookup key = some value → (Text.readUnsigned? value).isSome := by
    intro key hkey value hvalue
    simp only [timeoutKeys, List.mem_cons, List.not_mem_nil, or_false] at hkey
    obtain rfl | rfl := hkey <;> cases hvalue
    decide
  obtain ⟨opened, hparse, hpath, hmode, htimeout, hkeys⟩ :=
    (parse_sqlite hdsn (by decide) (by decide +kernel)).2 hgood
  refine ⟨_, opened, hdsn, hparse, hpath, hmode.mpr rfl, ?_, hkeys.mpr ⟨"off", by decide, rfl⟩⟩
  exact htimeout.trans (by decide +kernel)

/-- A value that has a parameter of its own in it is read as two, and the second one cannot be read. -/
theorem parse_sqlite_of_smuggled :
    let o := ConnectionOptions.param { ConnectionOptions.empty with database := ":memory:" }
      "cache" "shared&busy_timeout=soon"
    o.sqlite = .ok ":memory:?cache=shared&busy_timeout=soon" ∧
      (∀ key ∈ timeoutKeys, o.extra.entries.lookup key = none) ∧
      (Options.parse ":memory:?cache=shared&busy_timeout=soon").1 = .error (.badBusyTimeout "soon") :=
  ⟨rfl, by decide, rfl⟩

end DbAccess.Sqlite
