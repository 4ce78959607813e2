import DbAccess.Proofs.SortedMap
import DbAccess.Sqlite.Factory
/-!
# Registries over time

A registry changes when a factory is added to it or put in the place of another one. `Registry.accepted` are the
factories that came in so, in order: all that replaced one, and those that were added and not refused.

`Registry.Holds` says that a registry ascends and finds under each name the last factory of that name. One change
keeps that (`Holds.perform`), and so do changes one after another (`Holds.after`). `last_writer_map` reads off
what a registry answers to whatever it is asked, and what becomes of the next change.
-/

namespace DbAccess.Registry

variable {δ : Type}

/-! ### Changes -/

/-- A change to a registry. -/
inductive Change (δ : Type) where
  /-- Adds a factory, in place or to a copy that is kept when it takes the factory. -/
  | register (f : Factory δ)
  | replace (f : Factory δ)

/-- What a change is answered with: whether the factory was added, or which one it has replaced. -/
inductive Answer (δ : Type) where
  | added (r : Except Error Unit)
  | replaced (old : Option (Factory δ))

/-- Makes a change. A factory that is refused changes nothing. -/
def perform (r : Registry δ) : Change δ → Answer δ × Registry δ
  | .register f =>
    match r.register f with
    | .ok r => (.added (.ok ()), r)
    | .error e => (.added (.error e), r)
  | .replace f => (.replaced (r.replace f).1, (r.replace f).2)

/-- The registry after changes. -/
def after (r : Registry δ) : List (Change δ) → Registry δ
  | [] => r
  | c :: cs => (r.perform c).2.after cs

/-- The factory that came in by a change, going by its answer. -/
def Change.accepted? : Change δ → Answer δ → Option (Factory δ)
  | register f, .added (.ok ()) => some f
  | replace f, .replaced _ => some f
  | _, _ => none

/-- The factories that came in by changes, in order. -/
def accepted (r : Registry δ) : List (Change δ) → List (Factory δ)
  | [] => []
  | c :: cs => (c.accepted? (r.perform c).1).toList ++ (r.perform c).2.accepted cs

/-! ### The last of each name -/

/-- The last factory of a name. -/
def latest? (fs : List (Factory δ)) (name : String) : Option (Factory δ) :=
  (fs.filter fun f => f.name = name).getLast?

theorem latest?_concat (fs : List (Factory δ)) (f : Factory δ) (name : String) :
    latest? (fs ++ [f]) name = if name = f.name then some f else latest? fs name := by
  by_cases h : name = f.name
  · simp [latest?, List.filter_append, h]
  · have hne : f.name ≠ name := fun heq => h heq.symm
    simp [latest?, List.filter_append, h, hne]

theorem mem_of_latest? {fs : List (Factory δ)} {name : String} {f : Factory δ}
    (h : latest? fs name = some f) : f ∈ fs ∧ f.name = name := by
  simpa using List.mem_filter.mp (List.mem_of_getLast? h)

theorem exists_latest?_iff {fs : List (Factory δ)} {name : String} :
    (∃ f, latest? fs name = some f) ↔ ∃ f ∈ fs, f.name = name := by
  constructor
  · rintro ⟨f, hf⟩
    exact ⟨f, mem_of_latest? hf⟩
  · rintro ⟨f, hf, hname⟩
    have hmem : f ∈ fs.filter fun f => f.name = name := by simpa using ⟨hf, hname⟩
    exact ⟨_, List.getLast?_eq_some_getLast (List.ne_nil_of_mem hmem)⟩

/-- The registry ascends, and finds under each name the last of the factories that has it. -/
structure Holds (r : Registry δ) (fs : List (Factory δ)) : Prop where
  ascending : SortedMap.Ascending r.factories
  find?_eq : ∀ name, r.find? name = latest? fs name

variable {r : Registry δ} {fs : List (Factory δ)}

theorem holds_empty : Holds (.empty : Registry δ) [] := ⟨List.Pairwise.nil, fun _ => rfl⟩

theorem Holds.replace (h : r.Holds fs) (f : Factory δ) : (r.replace f).2.Holds (fs ++ [f]) where
  ascending := SortedMap.ascending_insert f.name f h.ascending
  find?_eq name := by
    rw [latest?_concat, ← h.find?_eq]
    exact SortedMap.lookup_insert f.name f r.factories name

theorem holds_default (place : Place δ (Sqlite.Connection Sqlite.Memory)) :
    (Registry.default place).Holds [Sqlite.factory place] :=
  holds_empty.replace (Sqlite.factory place)

/-- **A change keeps it.** -/
theorem Holds.perform (h : r.Holds fs) (c : Change δ) :
    (r.perform c).2.Holds (fs ++ (c.accepted? (r.perform c).1).toList) := by
  cases c with
  | register f =>
      simp only [Registry.perform, register]
      cases r.contains f.name with
      | true => simpa [Change.accepted?] using h
      | false => exact h.replace f
  | replace f => exact h.replace f

theorem Holds.after (h : r.Holds fs) (cs : List (Change δ)) :
    (r.after cs).Holds (fs ++ r.accepted cs) := by
  induction cs generalizing r fs with
  | nil => simpa [Registry.after, accepted] using h
  | cons c cs ih =>
      rw [accepted, ← List.append_assoc]
      exact ih (h.perform c)

/-! ### What is answered -/

theorem lookup_eq_ok_iff {name : String} {f : Factory δ} :
    r.lookup name = .ok f ↔ r.find? name = some f := by
  rw [lookup]
  cases r.find? name <;> simp

theorem toOption_lookup (r : Registry δ) (name : String) : (r.lookup name).toOption = r.find? name := by
  rw [lookup]
  cases r.find? name <;> rfl

theorem contains_iff {name : String} : r.contains name = true ↔ ∃ f, r.lookup name = .ok f := by
  simp only [contains, Option.isSome_iff_exists, lookup_eq_ok_iff]

theorem mem_names_iff {name : String} : name ∈ r.names ↔ ∃ f, r.lookup name = .ok f := by
  simp only [names, SortedMap.mem_keys_iff, lookup_eq_ok_iff, find?]

theorem lookup_of_register {r' : Registry δ} {f : Factory δ} (h : r.register f = .ok r') {name : String}
    (hname : r.contains name = true) : r'.lookup name = r.lookup name := by
  rw [register] at h
  split at h
  · cases h
  · rename_i hfree
    cases h
    have hne : name ≠ f.name := fun heq => hfree (heq ▸ hname)
    have hfind : (r.replace f).2.find? name = r.find? name :=
      (SortedMap.lookup_insert f.name f r.factories name).trans (if_neg hne)
    have hsome : ∃ g, r.lookup name = .ok g := contains_iff.mp hname
    obtain ⟨g, hg⟩ := hsome
    rw [hg, lookup_eq_ok_iff, hfind]
    exact lookup_eq_ok_iff.mp hg

/-- Where a registry comes from. -/
inductive Origin (δ : Type) where
  | empty
  /-- The drivers of the library. -/
  | library (place : Place δ (Sqlite.Connection Sqlite.Memory))

namespace Origin

/-- The registry at first. -/
def registry : Origin δ → Registry δ
  | empty => .empty
  | library place => .default place

/-- The factories that are there at first. -/
def factories : Origin δ → List (Factory δ)
  | empty => []
  | library place => [Sqlite.factory place]

theorem holds (o : Origin δ) : o.registry.Holds o.factories := by
  cases o with
  | empty => exact holds_empty
  | library place => exact holds_default place

end Origin

/-- **The last writer has the name.** After any changes a registry finds, under each name, the last factory of
that name that came in, and nothing under any other name. It contains just these names and lists them ascending.
The next addition, be it in place or to a copy, is refused if its name is taken, and then changes nothing; the next
replacement hands back what was found under its name. What the library's registry finds is still found when a
factory was added to it. -/
theorem last_writer_map (o : Origin δ) (cs : List (Change δ)) :
    let r := o.registry.after cs
    let known := o.factories ++ o.registry.accepted cs
    (∀ name, (∃ f, r.lookup name = .ok f) ↔ ∃ f ∈ known, f.name = name) ∧
    (∀ name f, r.lookup name = .ok f → latest? known name = some f ∧ f.name = name) ∧
    (∀ name, r.contains name = true ↔ ∃ f, r.lookup name = .ok f) ∧
    (∀ name, name ∈ r.names ↔ ∃ f, r.lookup name = .ok f) ∧
    r.names.Pairwise (· < ·) ∧
    (∀ f, r.register f =
      if r.contains f.name then .error (.config (.alreadyRegistered f.name)) else .ok (r.replace f).2) ∧
    (∀ f, r.perform (.register f) =
      if r.contains f.name then (.added (.error (.config (.alreadyRegistered f.name))), r)
      else (.added (.ok ()), (r.replace f).2)) ∧
    (∀ f, (r.perform (.replace f)).1 = .replaced (r.lookup f.name).toOption) ∧
    ∀ place f r', (Registry.default place : Registry δ).register f = .ok r' →
      ∀ name ∈ (Registry.default place : Registry δ).names,
        r'.lookup name = (Registry.default place).lookup name := by
  intro r known
  have h : r.Holds known := o.holds.after cs
  have hlatest : ∀ name f, r.lookup name = .ok f ↔ latest? known name = some f := fun name f => by
    rw [lookup_eq_ok_iff, h.find?_eq]
  refine ⟨?_, ?_, fun _ => contains_iff, fun _ => mem_names_iff, ?_, fun _ => rfl, ?_, ?_, ?_⟩
  · intro name
    simp only [hlatest, exists_latest?_iff]
  · intro name f hf
    have hf' := (hlatest name f).mp hf
    exact ⟨hf', (mem_of_latest? hf').2⟩
  · exact List.pairwise_map.mpr h.ascending
  · intro f
    simp only [Registry.perform, register]
    cases r.contains f.name <;> rfl
  · intro f
    rw [toOption_lookup]
    rfl
  · intro place f r' hr name hname
    exact lookup_of_register hr (contains_iff.mpr (mem_names_iff.mp hname))

end DbAccess.Registry
