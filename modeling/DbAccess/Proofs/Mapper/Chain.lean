import DbAccess.Mapper
/-!
# The algebra of mappers

A chain hands a raw error from one mapper to the next until somebody answers with an error that is raw no
longer, and hands an error that is not raw to nobody. `run_chain_of_not_raw` and `chain_append` hold of every
mapper whatever; that mapping twice is mapping once (`map_map`), and that the first mapper with an answer of its
own decides (`map_chain_of_decides`), take mappers that never answer with another raw error. A mapper made of
classifiers is such a mapper (`decides_ofClassifiers`). `mapper_algebra` puts the laws together.
-/

namespace DbAccess.Mapper

/-- The mapper answers to every error with the error itself, or with one that is raw no longer. -/
def Decides (m : Mapper) : Prop := ∀ e, m.map e = e ∨ (m.map e).isRaw = false

/-! ### Chains -/

variable {ms ms' : List Mapper} {f : Mapper} {e : Error}

/-- An error that is not raw comes back as it was, and nobody is asked: nothing is reported, whatever
the mappers would report. -/
theorem run_chain_of_not_raw (h : e.isRaw = false) : (chain ms f).run e = (e, []) := by
  cases ms <;> simp [chain, runChain, h]

/-- A raw error goes to the first mapper, and what that makes of it goes down the chain. -/
theorem run_chain_cons (m : Mapper) (h : e.isRaw = true) :
    (chain (m :: ms) f).run e =
      (((chain ms f).run (m.map e)).1, m.events e ++ ((chain ms f).run (m.map e)).2) := by
  simp [chain, runChain, h, map, events]

theorem run_chain_nil (h : e.isRaw = true) : (chain [] f).run e = f.run e := by
  simp [chain, runChain, h]

theorem ext_run {m m' : Mapper} (h : ∀ e, m.run e = m'.run e) : m = m' :=
  congrArg Mapper.mk (funext h)

/-- **Chains flatten.** -/
theorem chain_append (ms ms' : List Mapper) (f : Mapper) :
    chain (ms ++ ms') f = chain ms (chain ms' f) := by
  have hrun : ∀ e, (chain (ms ++ ms') f).run e = (chain ms (chain ms' f)).run e := by
    intro e
    cases h : e.isRaw with
    | false => rw [run_chain_of_not_raw h, run_chain_of_not_raw h]
    | true =>
        induction ms generalizing e with
        | nil => exact (run_chain_nil h).symm
        | cons m ms ih =>
            rw [List.cons_append, run_chain_cons m h, run_chain_cons m h]
            -- The next error may be raw or not, whatever `m` has made of it.
            cases hm : (m.map e).isRaw with
            | false => rw [run_chain_of_not_raw hm, run_chain_of_not_raw hm]
            | true => rw [ih _ hm]
  exact ext_run hrun

theorem map_chain_of_not_raw (h : e.isRaw = false) : (chain ms f).map e = e :=
  congrArg Prod.fst (run_chain_of_not_raw h)

theorem map_chain_cons (m : Mapper) (h : e.isRaw = true) :
    (chain (m :: ms) f).map e = (chain ms f).map (m.map e) := by
  rw [map, run_chain_cons m h]
  rfl

theorem map_chain_nil (h : e.isRaw = true) : (chain [] f).map e = f.map e :=
  congrArg Prod.fst (run_chain_nil h)

/-! ### Mappers that decide -/

/-- Mapping twice is mapping once, for a mapper that decides and leaves alone what is not raw. -/
theorem map_map {m : Mapper} (hm : m.Decides) (hleaves : ∀ e, e.isRaw = false → m.map e = e)
    (e : Error) : m.map (m.map e) = m.map e := by
  obtain hsame | hsettled := hm e
  · rw [hsame, hsame]
  · exact hleaves _ hsettled

/-- **The first mapper with an answer of its own decides**, the fallback last. -/
theorem map_chain_of_decides (h : ∀ m ∈ ms ++ [f], m.Decides) (hraw : e.isRaw = true) :
    (chain ms f).map e = (((ms ++ [f]).find? fun m => m.map e ≠ e).map (·.map e)).getD e := by
  induction ms with
  | nil =>
      rw [map_chain_nil hraw, List.nil_append]
      by_cases hf : f.map e = e <;> simp [hf]
  | cons m ms ih =>
      rw [map_chain_cons m hraw, List.cons_append]
      have hrest : ∀ m ∈ ms ++ [f], m.Decides := fun m' hm' => h m' (List.mem_cons_of_mem m hm')
      obtain hsame | hsettled := h m List.mem_cons_self e
      · rw [hsame, ih hrest]
        simp [hsame]
      · have hne : m.map e ≠ e := by
          intro heq
          rw [heq, hraw] at hsettled
          cases hsettled
        rw [map_chain_of_not_raw hsettled]
        simp [hne]

theorem decides_chain (h : ∀ m ∈ ms ++ [f], m.Decides) : (chain ms f).Decides := by
  intro e
  cases hraw : e.isRaw with
  | false => exact .inl (map_chain_of_not_raw hraw)
  | true =>
      rw [map_chain_of_decides h hraw]
      cases hfind : (ms ++ [f]).find? fun m => m.map e ≠ e with
      | none => exact .inl rfl
      | some m =>
          have hmem : m ∈ ms ++ [f] := List.mem_of_find?_eq_some hfind
          exact h m hmem e

/-! ### Mappers made of classifiers -/

variable (cs : List Classifier)

/-- A backend's error with what it was recognised as; unrecognised it stays raw. -/
def answer (kind? : Option ErrorKind) (b : BackendError) : Error :=
  match kind? with
  | some k => .classified ⟨k, .backend b, none⟩
  | none => .raw (.backend b)

/-- A backend's error is recognised or not, and if so the classifier is reported. -/
theorem run_backend (b : BackendError) :
    (ofClassifiers cs).run (.raw (.backend b)) =
      match recognise cs b with
      | some (c, k) => (answer (some k) b, [.classified c.name k])
      | none => (answer none b, []) := rfl

theorem recognise_map (b : BackendError) :
    (recognise cs b).map (·.2) = cs.findSome? (·.classify b) := by
  induction cs with
  | nil => rfl
  | cons c cs ih =>
      simp only [recognise, List.findSome?_cons] at ih ⊢
      cases c.classify b with
      | none => exact ih
      | some k => rfl

theorem map_backend (b : BackendError) :
    (ofClassifiers cs).map (.raw (.backend b)) = answer (cs.findSome? (·.classify b)) b := by
  rw [← recognise_map, map, run_backend]
  cases recognise cs b <;> rfl

theorem run_ofClassifiers_of_not_raw (h : e.isRaw = false) : (ofClassifiers cs).run e = (e, []) := by
  cases e with
  | raw r => cases h
  | _ => rfl

theorem map_ofClassifiers_of_not_raw (h : e.isRaw = false) : (ofClassifiers cs).map e = e :=
  congrArg Prod.fst (run_ofClassifiers_of_not_raw cs h)

theorem decides_ofClassifiers : (ofClassifiers cs).Decides := by
  intro e
  cases hraw : e.isRaw with
  | false => exact .inl (map_ofClassifiers_of_not_raw cs hraw)
  | true =>
      cases e with
      | raw r =>
          cases r with
          | noRows => exact .inr rfl
          | context c => exact .inr rfl
          | backend b =>
              rw [map_backend]
              cases cs.findSome? (·.classify b) with
              | none => exact .inl rfl
              | some k => exact .inr rfl
      | _ => cases hraw

/-- To chain mappers made of classifiers is to put the classifiers into one list. -/
theorem chain_ofClassifiers (cs cs' : List Classifier) :
    chain [ofClassifiers cs] (ofClassifiers cs') = ofClassifiers (cs ++ cs') := by
  refine ext_run fun e => ?_
  cases hraw : e.isRaw with
  | false => rw [run_chain_of_not_raw hraw, run_ofClassifiers_of_not_raw _ hraw]
  | true =>
      cases e with
      | raw r =>
          cases r with
          | noRows => rfl
          | context c => rfl
          | backend b =>
              have hboth : recognise (cs ++ cs') b = (recognise cs b).or (recognise cs' b) :=
                List.findSome?_append
              rw [run_chain_cons _ hraw, map, events, run_backend, run_backend, hboth]
              cases recognise cs b with
              | none =>
                  show (_, [] ++ ((chain [] (ofClassifiers cs')).run (.raw (.backend b))).2) = _
                  rw [run_chain_nil hraw, List.nil_append]
                  exact run_backend cs' b
              | some ck => rfl
      | _ => cases hraw

/-- **The algebra of mappers.** A chain of any mappers returns an error that is not raw as it is and asks
nobody, and chains flatten. In a chain of mappers that decide, the first one with an answer of its own has
the word, the fallback last, and mapping twice is mapping once. A mapper made of classifiers leaves alone
what is not raw, takes a missing row for `notFound` and an ended context for a `timeout`, and gives a
backend's error, which it keeps as the only cause, the kind by the first classifier that knows it. It
decides, so mapping twice is mapping once, and in a chain it is as good as its classifiers. -/
theorem mapper_algebra (ms : List Mapper) (f : Mapper) (cs : List Classifier) :
    (∀ e, e.isRaw = false → (chain ms f).run e = (e, [])) ∧
    (∀ ms', chain (ms ++ ms') f = chain ms (chain ms' f)) ∧
    ((∀ m ∈ ms ++ [f], m.Decides) →
      (∀ e, e.isRaw = true →
        (chain ms f).map e = (((ms ++ [f]).find? fun m => m.map e ≠ e).map (·.map e)).getD e) ∧
      ∀ e, (chain ms f).map ((chain ms f).map e) = (chain ms f).map e) ∧
    (∀ e, e.isRaw = false → (ofClassifiers cs).map e = e) ∧
    (ofClassifiers cs).map (.raw .noRows) = .classified ⟨.notFound, .noRows, none⟩ ∧
    (∀ c, (ofClassifiers cs).map (.raw (.context c)) = .classified ⟨.timeout, .context c, none⟩) ∧
    (∀ b, (ofClassifiers cs).map (.raw (.backend b)) = answer (cs.findSome? (·.classify b)) b) ∧
    (ofClassifiers cs).Decides ∧
    (∀ e, (ofClassifiers cs).map ((ofClassifiers cs).map e) = (ofClassifiers cs).map e) ∧
    ∀ cs', chain [ofClassifiers cs] (ofClassifiers cs') = ofClassifiers (cs ++ cs') := by
  have htwice := map_map (decides_ofClassifiers cs) fun e => map_ofClassifiers_of_not_raw cs
  refine ⟨fun e => run_chain_of_not_raw, fun ms' => chain_append ms ms' f, fun h => ?_,
    fun e => map_ofClassifiers_of_not_raw cs, rfl, fun c => rfl, map_backend cs,
    decides_ofClassifiers cs, htwice, chain_ofClassifiers cs⟩
  exact ⟨fun e => map_chain_of_decides h, map_map (decides_chain h) fun e => map_chain_of_not_raw⟩

section quota

/-- A mapper for errors about quotas only. -/
def quota : Mapper := ofClassifiers [.ofPhrase "quota" "quota" .connectionFailed]

/-- A mapper that takes every raw error for a deadlock. -/
def pessimist : Mapper := .ofFunction fun
  | .raw r => .ofKind .deadlock r
  | e => e

theorem decides_pessimist : pessimist.Decides := by
  intro e
  cases e with
  | raw r => exact .inr rfl
  | _ => exact .inl rfl

/-- What the first mapper does not know goes to the second, which has the word before the fallback. -/
theorem map_chain_of_quota :
    let b : BackendError := { BackendError.ofText "duplicate key" with sqlState := some "23505" }
    let m := chain [quota, pessimist] .default
    (∀ m ∈ [quota, pessimist] ++ [.default], m.Decides) ∧ (Error.raw (.backend b)).isRaw = true ∧
      m.map (.raw (.backend b)) = .ofKind .deadlock (.backend b) ∧
      m.map (m.map (.raw (.backend b))) = m.map (.raw (.backend b)) := by
  intro b m
  have hdecides : ∀ m ∈ [quota, pessimist] ++ [.default], m.Decides := by
    intro m hm
    simp only [List.cons_append, List.nil_append, List.mem_cons, List.not_mem_nil, or_false] at hm
    obtain rfl | rfl | rfl := hm
    · exact decides_ofClassifiers _
    · exact decides_pessimist
    · exact decides_ofClassifiers _
  obtain ⟨-, -, hchain, -⟩ := mapper_algebra [quota, pessimist] .default []
  obtain ⟨hfirst, htwice⟩ := hchain hdecides
  refine ⟨hdecides, rfl, ?_, htwice _⟩
  rw [hfirst _ rfl]
  decide +kernel

end quota

end DbAccess.Mapper
