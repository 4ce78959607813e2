import DbAccess.Proofs.Mapper.Chain
/-!
# What a classification goes by

A classifier is asked about errors of every dialect and knows only those of its own and, by their texts, those
of none. So it does not matter which classifiers of other dialects stand beside that of an error's own one, nor
where (`findSome?_classify`), and the built-in mapper goes by few fields of an error only:
`BackendError.evidence` blanks the others, and `findSome?_builtin_evidence` says that this changes nothing.
-/

namespace DbAccess

/-! ### Errors of a dialect -/

/-- The classifier of a dialect. -/
def Classifier.ofDialect : Dialect → Classifier
  | .postgres => .postgres
  | .mysql => .mysql
  | .sqlite => .sqlite

/-- What the rules of a dialect make of an error, wherever the error comes from. -/
def Dialect.classify : Dialect → BackendError → Option ErrorKind
  | .postgres => SqlState.classify
  | .mysql => ErrorNumber.classify
  | .sqlite => ResultCode.classify

namespace Classifier

theorem mem_builtin_iff {c : Classifier} : c ∈ builtin ↔ ∃ d, c = ofDialect d := by
  constructor
  · intro h
    simp only [builtin, List.mem_cons, List.not_mem_nil, or_false] at h
    obtain rfl | rfl | rfl := h
    · exact ⟨.postgres, rfl⟩
    · exact ⟨.mysql, rfl⟩
    · exact ⟨.sqlite, rfl⟩
  · rintro ⟨d, rfl⟩
    cases d <;> simp [builtin, ofDialect]

/-- A classifier knows its own errors by the rules of its dialect, and none of another dialect. -/
theorem classify_ofDialect {b : BackendError} {d : Dialect} (h : b.dialect = some d) (d' : Dialect) :
    (ofDialect d').classify b = if d' = d then d.classify b else none := by
  cases d <;> cases d' <;> simp [ofDialect, postgres, mysql, sqlite, Dialect.classify, h]

/-- Built-in classifiers among which is that of an error's own dialect go by the rules of that dialect. -/
theorem findSome?_classify {b : BackendError} {d : Dialect} {cs : List Classifier}
    (hd : b.dialect = some d) (hcs : ∀ c ∈ cs, c ∈ builtin) (hown : ofDialect d ∈ cs) :
    cs.findSome? (·.classify b) = d.classify b := by
  have hknows : ∀ c ∈ cs, c.classify b = d.classify b ∨ c.classify b = none := by
    intro c hc
    obtain ⟨d', rfl⟩ := mem_builtin_iff.mp (hcs c hc)
    rw [classify_ofDialect hd]
    split
    · exact .inl rfl
    · exact .inr rfl
  have hself : (ofDialect d).classify b = d.classify b := by rw [classify_ofDialect hd, if_pos rfl]
  cases hk : d.classify b with
  | none =>
      rw [List.findSome?_eq_none_iff]
      intro c hc
      obtain h | h := hknows c hc
      · rw [h, hk]
      · exact h
  | some k =>
      cases hfirst : cs.findSome? (·.classify b) with
      | none =>
          have hnone := List.findSome?_eq_none_iff.mp hfirst _ hown
          rw [hself, hk] at hnone
          cases hnone
      | some k' =>
          obtain ⟨c, hc, hck⟩ := List.exists_of_findSome?_eq_some hfirst
          obtain h | h := hknows c hc
          · rw [← hk, ← h, hck]
          · rw [h] at hck
            cases hck

end Classifier

/-! ### The evidence -/

/-- The code is one of those with a meaning of their own. -/
def ResultCode.isListed (code : Int) : Bool := table.any fun entry => entry.1 = code

/-- The error with those fields blanked that do not count: the errors behind it never do; of an error of
no dialect the vendor's code does not; of a PostgreSQL error neither that nor, beside a SQLSTATE, the message;
of a MySQL error neither the SQLSTATE nor, beside a number, the message; of an SQLite error neither the SQLSTATE
nor, beside a listed code, the message. -/
def BackendError.evidence (b : BackendError) : BackendError :=
  match b.dialect with
  | none => { b with vendorCode := none, sources := [] }
  | some .postgres =>
    { b with
      message := if b.sqlState.isSome then "" else b.message
      vendorCode := none
      sources := [] }
  | some .mysql =>
    { b with
      message := if b.vendorCode.isSome then "" else b.message
      sqlState := none
      sources := [] }
  | some .sqlite =>
    { b with
      message := if b.vendorCode.any ResultCode.isListed then "" else b.message
      sqlState := none
      sources := [] }

theorem BackendError.dialect_evidence (b : BackendError) : b.evidence.dialect = b.dialect := by
  unfold evidence
  split <;> rfl

theorem ResultCode.isSome_kind? {code : Int} (h : isListed code = true) : (kind? code).isSome = true := by
  obtain ⟨entry, hentry, heq⟩ := List.any_eq_true.mp h
  rw [kind?, List.lookup_isSome_iff]
  exact ⟨entry, hentry, by simpa using (of_decide_eq_true heq).symm⟩

theorem Dialect.classify_evidence {b : BackendError} {d : Dialect} (h : b.dialect = some d) :
    d.classify b.evidence = d.classify b := by
  unfold BackendError.evidence
  cases d with
  | postgres =>
      simp only [h, classify, SqlState.classify]
      cases b.sqlState <;> rfl
  | mysql =>
      simp only [h, classify, ErrorNumber.classify]
      cases b.vendorCode <;> rfl
  | sqlite =>
      simp only [h, classify, ResultCode.classify]
      cases hcode : b.vendorCode.any ResultCode.isListed with
      | false => rfl
      | true =>
          obtain ⟨code, hsome, hlisted⟩ := (Option.any_eq_true _ _).mp hcode
          obtain ⟨k, hk⟩ := Option.isSome_iff_exists.mp (ResultCode.isSome_kind? hlisted)
          simp [hsome, hk]

namespace Classifier

theorem classify_evidence (d : Dialect) (b : BackendError) :
    (ofDialect d).classify b.evidence = (ofDialect d).classify b := by
  cases hd : b.dialect with
  | none =>
      have hevidence : b.evidence = { b with vendorCode := none, sources := [] } := by
        simp [BackendError.evidence, hd]
      rw [hevidence]
      cases d <;> simp [ofDialect, postgres, mysql, sqlite, hd, SqlState.classify]
  | some d' =>
      have hd' : b.evidence.dialect = some d' := b.dialect_evidence.trans hd
      rw [classify_ofDialect hd', classify_ofDialect hd, Dialect.classify_evidence hd]

/-- The built-in classifiers go by the evidence. -/
theorem findSome?_builtin_evidence (b : BackendError) :
    builtin.findSome? (·.classify b.evidence) = builtin.findSome? (·.classify b) := by
  have hpostgres := classify_evidence .postgres b
  have hmysql := classify_evidence .mysql b
  have hsqlite := classify_evidence .sqlite b
  simp only [ofDialect] at hpostgres hmysql hsqlite
  simp only [builtin, List.findSome?_cons, List.findSome?_nil, hpostgres, hmysql, hsqlite]

end Classifier

namespace Mapper

/-- **What decides a classification.** An error of a dialect gets the kind by the rules of that dialect alone,
from whatever built-in classifiers, in any order and any number, the dialect's own one is among. And errors
with the same evidence get the same answer from the built-in mapper, however their other fields differ. -/
theorem kind_by_evidence :
    (∀ (d : Dialect) (b : BackendError) (cs : List Classifier), b.dialect = some d →
      (∀ c ∈ cs, c ∈ Classifier.builtin) → Classifier.ofDialect d ∈ cs →
      (ofClassifiers cs).map (.raw (.backend b)) = answer (d.classify b) b) ∧
    ∀ b b' : BackendError, b.evidence = b'.evidence → ∃ kind?,
      default.map (.raw (.backend b)) = answer kind? b ∧
      default.map (.raw (.backend b')) = answer kind? b' := by
  constructor
  · intro d b cs hd hcs hown
    rw [map_backend, Classifier.findSome?_classify hd hcs hown]
  · intro b b' hsame
    have hkind : Classifier.builtin.findSome? (·.classify b') =
        Classifier.builtin.findSome? (·.classify b) := by
      rw [← Classifier.findSome?_builtin_evidence b', ← hsame, Classifier.findSome?_builtin_evidence]
    have hb := map_backend Classifier.builtin b
    have hb' := map_backend Classifier.builtin b'
    rw [hkind] at hb'
    exact ⟨_, hb, hb'⟩

section foreign

/-- An SQLite error with a listed code, and beside it what would be a deadlock for PostgreSQL and a
duplicate key for MySQL. -/
def checkFailed : BackendError :=
  ⟨"Error 1062: SQLSTATE 40P01", some .sqlite, some "40P01", some 275, []⟩

/-- The code counts alone: whoever is asked first, and whatever the rest says. -/
theorem map_checkFailed :
    let cs : List Classifier := [.mysql, .postgres, .sqlite, .mysql]
    let bare : BackendError := ⟨"", some .sqlite, none, some 275, [.ofText "cause"]⟩
    checkFailed.dialect = some .sqlite ∧ (∀ c ∈ cs, c ∈ Classifier.builtin) ∧
      Classifier.ofDialect .sqlite ∈ cs ∧
      (ofClassifiers cs).map (.raw (.backend checkFailed)) = answer (some .checkViolation) checkFailed ∧
      checkFailed.evidence = bare.evidence ∧
      ∃ kind?, default.map (.raw (.backend checkFailed)) = answer kind? checkFailed ∧
        default.map (.raw (.backend bare)) = answer kind? bare := by
  intro cs bare
  obtain ⟨halone, hsame⟩ := kind_by_evidence
  have hbuiltin : ∀ c ∈ cs, c ∈ Classifier.builtin := by
    intro c hc
    simp only [cs, List.mem_cons, List.not_mem_nil, or_false] at hc
    obtain rfl | rfl | rfl | rfl := hc <;> simp [Classifier.builtin]
  have hown : Classifier.ofDialect .sqlite ∈ cs := by simp [cs, Classifier.ofDialect]
  have hevidence : checkFailed.evidence = bare.evidence := by decide
  exact ⟨rfl, hbuiltin, hown, halone .sqlite checkFailed cs rfl hbuiltin hown, hevidence,
    hsame checkFailed bare hevidence⟩

end foreign

end Mapper

end DbAccess
