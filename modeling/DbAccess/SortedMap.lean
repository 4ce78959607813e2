/-!
# Maps kept in order

An association list ascending by its text keys, each of which occurs once. `insert` keeps it so
(`ascending_insert`), and `ofList` lets the last entry of a key win. `Parameters` are such a list of texts, with
its order.
-/

namespace DbAccess

namespace SortedMap

variable {α : Type}

/-- Puts an entry into its place; an entry of that key is replaced. -/
def insert (key : String) (a : α) : List (String × α) → List (String × α)
  | [] => [(key, a)]
  | (k, b) :: rest =>
    if key = k then (key, a) :: rest
    else if key < k then (key, a) :: (k, b) :: rest
    else (k, b) :: insert key a rest

/-- The entries in order, the last one of each key. -/
def ofList (entries : List (String × α)) : List (String × α) :=
  entries.foldl (fun acc e => insert e.1 e.2 acc) []

/-- The keys, ascending. -/
def keys (m : List (String × α)) : List String := m.map (·.1)

/-! ### Order -/

/-- The keys ascend, so that none occurs twice. -/
def Ascending (m : List (String × α)) : Prop := m.Pairwise fun p q => p.1 < q.1

instance (m : List (String × α)) : Decidable (Ascending m) :=
  inferInstanceAs (Decidable (m.Pairwise fun p q => p.1 < q.1))

theorem Ascending.tail {p : String × α} {m : List (String × α)} (h : Ascending (p :: m)) : Ascending m :=
  (List.pairwise_cons.mp h).2

theorem Ascending.head_lt {p q : String × α} {m : List (String × α)} (h : Ascending (p :: m)) (hq : q ∈ m) :
    p.1 < q.1 :=
  (List.pairwise_cons.mp h).1 q hq

theorem mem_insert {key : String} {a : α} {m : List (String × α)} {p : String × α}
    (h : p ∈ insert key a m) : p = (key, a) ∨ p ∈ m := by
  induction m with
  | nil => exact .inl (List.mem_singleton.mp h)
  | cons q m ih =>
      rw [insert] at h
      split at h
      · exact (List.mem_cons.mp h).imp_right (List.mem_cons_of_mem q)
      · split at h
        · exact List.mem_cons.mp h
        · obtain rfl | h := List.mem_cons.mp h
          · exact .inr (List.mem_cons_self ..)
          · exact (ih h).imp_right (List.mem_cons_of_mem q)

theorem ascending_insert (key : String) (a : α) {m : List (String × α)} (h : Ascending m) :
    Ascending (insert key a m) := by
  induction m with
  | nil => exact List.pairwise_singleton ..
  | cons q m ih =>
      have hrest := ih h.tail
      rw [insert]
      split
      case isTrue heq => exact List.pairwise_cons.mpr ⟨fun p hp => heq ▸ h.head_lt hp, h.tail⟩
      case isFalse hne =>
        split
        case isTrue hlt =>
          refine List.pairwise_cons.mpr ⟨fun p hp => ?_, h⟩
          obtain rfl | hp := List.mem_cons.mp hp
          · exact hlt
          · exact String.lt_trans hlt (h.head_lt hp)
        case isFalse hle =>
          have hlt : q.1 < key := by
            refine Decidable.byContradiction fun hnot => hne ?_
            exact String.le_antisymm (String.not_lt.mp hnot) (String.not_lt.mp hle)
          refine List.pairwise_cons.mpr ⟨fun p hp => ?_, hrest⟩
          obtain rfl | hp := mem_insert hp
          · exact hlt
          · exact h.head_lt hp

theorem ascending_ofList (entries : List (String × α)) : Ascending (ofList entries) := by
  have hfold : ∀ m : List (String × α), Ascending m →
      Ascending (entries.foldl (fun acc e => insert e.1 e.2 acc) m) := by
    induction entries with
    | nil => exact fun m h => h
    | cons e entries ih => exact fun m h => ih _ (ascending_insert e.1 e.2 h)
  exact hfold [] List.Pairwise.nil

end SortedMap

/-- Texts under the names of parameters, ascending by name. -/
@[ext] structure Parameters where
  entries : List (String × String)
  ascending : SortedMap.Ascending entries := by decide
deriving DecidableEq, Repr

namespace Parameters

/-- No parameters. -/
def empty : Parameters := ⟨[], .nil⟩

/-- Sets a parameter; an earlier value of it is replaced. -/
def set (ps : Parameters) (key value : String) : Parameters :=
  ⟨SortedMap.insert key value ps.entries, SortedMap.ascending_insert key value ps.ascending⟩

/-- The last value of each parameter. -/
def ofList (entries : List (String × String)) : Parameters :=
  ⟨SortedMap.ofList entries, SortedMap.ascending_ofList entries⟩

end Parameters

end DbAccess
