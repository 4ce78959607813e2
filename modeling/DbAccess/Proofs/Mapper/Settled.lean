import DbAccess.Proofs.Mapper.Chain
/-!
# Mappers that leave no error bare

An error is bare when it is a missing row or an ended context that nobody has classified. A mapper made of
classifiers leaves none bare (`settles_ofClassifiers`), and neither does a chain that ends in one, whatever its
members answer with: what they leave or make bare is raw, so it reaches the end (`settles_chain`).
-/

namespace DbAccess

/-- A missing row or an ended context that is not classified. -/
def Error.isBare : Error → Bool
  | .raw .noRows | .raw (.context _) => true
  | _ => false

theorem Error.isBare_of_not_raw {e : Error} (h : e.isRaw = false) : e.isBare = false := by
  cases e with
  | raw r => cases h
  | _ => rfl

namespace Mapper

variable {m f : Mapper}

/-- The mapper answers to no error with a bare one. -/
def Settles (m : Mapper) : Prop := ∀ e, (m.map e).isBare = false

theorem settles_ofClassifiers (cs : List Classifier) : (ofClassifiers cs).Settles := by
  intro e
  cases hraw : e.isRaw with
  | false =>
      rw [map_ofClassifiers_of_not_raw cs hraw]
      exact Error.isBare_of_not_raw hraw
  | true =>
      cases e with
      | raw r =>
          cases r with
          | noRows => rfl
          | context c => rfl
          | backend b =>
              rw [map_backend]
              cases cs.findSome? (·.classify b) <;> rfl
      | _ => cases hraw

/-- **A chain leaves no error bare if its end does not**, whatever its members do. -/
theorem settles_chain (ms : List Mapper) (h : f.Settles) : (chain ms f).Settles := by
  intro e
  induction ms generalizing e with
  | nil =>
      cases hraw : e.isRaw with
      | false =>
          rw [map_chain_of_not_raw hraw]
          exact Error.isBare_of_not_raw hraw
      | true =>
          rw [map_chain_nil hraw]
          exact h e
  | cons m ms ih =>
      cases hraw : e.isRaw with
      | false =>
          rw [map_chain_of_not_raw hraw]
          exact Error.isBare_of_not_raw hraw
      | true =>
          rw [map_chain_cons m hraw]
          exact ih (m.map e)

/-- The mapper is made of classifiers, or is a chain that ends in such a one. -/
def EndsInDefault (m : Mapper) : Prop :=
  ∃ cs, m = ofClassifiers cs ∨ ∃ ms, m = chain ms (ofClassifiers cs)

theorem EndsInDefault.settles (h : m.EndsInDefault) : m.Settles := by
  obtain ⟨cs, rfl | ⟨ms, rfl⟩⟩ := h
  · exact settles_ofClassifiers cs
  · exact settles_chain ms (settles_ofClassifiers cs)

/-- What classifiers make of an error has a context inside only if it is a timeout with nothing else in it. -/
theorem timeout_of_raw?_context {cs : List Classifier} {r : RawError} {k : ContextError}
    (h : ((ofClassifiers cs).map (.raw r)).raw? = some (.context k)) :
    (ofClassifiers cs).map (.raw r) = .ofKind .timeout (.context k) := by
  cases r with
  | noRows => cases h
  | context c =>
      injection h with h
      rw [RawError.context.inj h]
      rfl
  | backend b =>
      rw [map_backend] at h
      cases hb : cs.findSome? (·.classify b) <;> rw [hb] at h <;> cases h

end Mapper

end DbAccess
