import DbAccess.Hook.Basic
/-!
# Whom a notice reaches

A hook is a tree, and what is told are its leaves. `HookRun.inTurn` are the calls of leaves in a row, each in the
world and the state that the one before left behind, and `HookRun.untilPanic` those of them that are made: the first
that ends in a panic is the last. A hook is told as its leaves from left to right are (`Hook.tell_eq_leaves`), however
they are grouped, and `leaves_told` says for a chain what it comes to: a panic ends the entry in which it occurs and no
other, and is reported with the index of that entry. Where nobody panics the groups make no difference.
-/

namespace DbAccess

variable {σ ν : Type}

/-- What a leaf does when it is told. -/
abbrev HookAct (σ ν : Type) := HookSite → Notice → σ → HookRun σ ν

/-! ### Calls in a row -/

namespace HookRun

/-- The call ended in a panic. -/
def panicked (r : HookRun σ ν) : Bool := r.panic.isSome

/-- Where the next hook is called after calls. -/
def siteAfter (site : HookSite) (calls : List (HookRun σ ν)) : HookSite :=
  calls.foldl (fun site r => site.within r.env) site

/-- The state after calls. -/
def stateAfter (s : σ) (calls : List (HookRun σ ν)) : σ := calls.foldl (fun _ r => r.state) s

/-- What the calls leave behind. -/
def eventsOf (calls : List (HookRun σ ν)) : List (HookEvent ν) := calls.flatMap (·.events)

/-- The panic that the calls end in. -/
def panicOf (calls : List (HookRun σ ν)) : Option PanicPayload := calls.findSome? (·.panic)

/-- Calls taken together. -/
def joined (site : HookSite) (s : σ) (calls : List (HookRun σ ν)) : HookRun σ ν :=
  ⟨(siteAfter site calls).env, stateAfter s calls, eventsOf calls, panicOf calls⟩

/-- The calls of leaves one after another, each in the world and the state that the one before left behind, were it to
panic or not. -/
def inTurn (site : HookSite) (n : Notice) : List (HookAct σ ν) → σ → List (HookRun σ ν)
  | [], _ => []
  | act :: acts, s =>
    let here := act site n s
    here :: inTurn (site.within here.env) n acts here.state

/-- The calls up to and including the first that ends in a panic; all of them, when none does. -/
def untilPanic (calls : List (HookRun σ ν)) : List (HookRun σ ν) := calls.take (calls.findIdx panicked + 1)

variable {site : HookSite} {n : Notice} {s : σ} {r : HookRun σ ν} {calls : List (HookRun σ ν)}

theorem stateAfter_append (calls later : List (HookRun σ ν)) :
    stateAfter s (calls ++ later) = stateAfter (stateAfter s calls) later := List.foldl_append

theorem within_siteAfter (site : HookSite) (calls : List (HookRun σ ν)) :
    site.within (siteAfter site calls).env = siteAfter site calls := by
  have hthread : (siteAfter site calls).thread = site.thread := by
    induction calls generalizing site with
    | nil => rfl
    | cons r calls ih => exact ih (site.within r.env)
  rw [HookSite.within, ← hthread]

theorem siteAfter_append (calls later : List (HookRun σ ν)) :
    siteAfter site (calls ++ later) = siteAfter (siteAfter site calls) later := List.foldl_append

theorem inTurn_append (acts later : List (HookAct σ ν)) (site : HookSite) (s : σ) :
    inTurn site n (acts ++ later) s =
      let here := inTurn site n acts s
      here ++ inTurn (siteAfter site here) n later (stateAfter s here) := by
  induction acts generalizing site s with
  | nil => rfl
  | cons act acts ih => exact congrArg _ (ih (site.within (act site n s).env) (act site n s).state)

theorem untilPanic_cons_of_panic {p : PanicPayload} (h : r.panic = some p) : untilPanic (r :: calls) = [r] := by
  simp [untilPanic, List.findIdx_cons, panicked, h]

theorem untilPanic_cons (h : r.panic = none) : untilPanic (r :: calls) = r :: untilPanic calls := by
  simp [untilPanic, List.findIdx_cons, panicked, h]

theorem untilPanic_eq_self (h : ∀ r ∈ untilPanic calls, r.panic = none) : untilPanic calls = calls := by
  induction calls with
  | nil => rfl
  | cons r calls ih =>
      cases hr : r.panic with
      | some p =>
          rw [untilPanic_cons_of_panic hr] at h
          exact nomatch hr.symm.trans (h r List.mem_cons_self)
      | none =>
          rw [untilPanic_cons hr] at h ⊢
          rw [ih fun r' hr' => h r' (List.mem_cons_of_mem r hr')]

theorem panicOf_eq_none_iff : panicOf calls = none ↔ ∀ r ∈ calls, r.panic = none := List.findSome?_eq_none_iff

end HookRun

open HookRun

/-! ### One hook -/

namespace Hook

mutual

/-- What the leaves of a hook do, from left to right. -/
def leaves : Hook σ ν → List (HookAct σ ν)
  | leaf act => [act]
  | composite members => leavesAll members

/-- What the leaves of hooks do, from left to right. -/
def leavesAll : List (Hook σ ν) → List (HookAct σ ν)
  | [] => []
  | h :: hs => h.leaves ++ leavesAll hs

end

variable {site : HookSite} {n : Notice}

theorem leavesAll_append (hs later : List (Hook σ ν)) :
    leavesAll (hs ++ later) = leavesAll hs ++ leavesAll later := by
  induction hs with
  | nil => rfl
  | cons h hs ih => simp only [List.cons_append, leavesAll, ih, List.append_assoc]

theorem tellAll_leaves (acts : List (HookAct σ ν)) (site : HookSite) (s : σ) :
    tellAll site n (acts.map leaf) s = joined site s (untilPanic (inTurn site n acts s)) := by
  induction acts generalizing site s with
  | nil => rfl
  | cons act acts ih =>
      simp only [List.map_cons, tellAll, tell, inTurn]
      cases hp : (act site n s).panic with
      | some p => simp [untilPanic_cons_of_panic hp, joined, siteAfter, stateAfter, eventsOf, panicOf, hp]
      | none => simp [untilPanic_cons hp, ih, joined, siteAfter, stateAfter, eventsOf, panicOf, hp]

/-- Hooks in a row are told one part after the other, unless there is a panic in the first. -/
theorem tellAll_append (hs later : List (Hook σ ν)) (site : HookSite) (s : σ) :
    tellAll site n (hs ++ later) s =
      let here := tellAll site n hs s
      match here.panic with
      | some p => ⟨here.env, here.state, here.events, some p⟩
      | none =>
        let rest := tellAll (site.within here.env) n later here.state
        ⟨rest.env, rest.state, here.events ++ rest.events, rest.panic⟩ := by
  induction hs generalizing site s with
  | nil => simp [tellAll]
  | cons h hs ih =>
      simp only [List.cons_append, tellAll]
      cases hp : (h.tell site n s).panic with
      | some p => rfl
      | none =>
          simp only [ih]
          cases (tellAll (site.within (h.tell site n s).env) n hs (h.tell site n s).state).panic with
          | some p => rfl
          | none => simp [HookSite.within]

mutual

theorem tell_eq_row (h : Hook σ ν) (site : HookSite) (s : σ) :
    h.tell site n s = tellAll site n (h.leaves.map leaf) s := by
  cases h with
  | leaf act =>
      simp only [tell, leaves, List.map_cons, List.map_nil, tellAll]
      cases act site n s with
      | mk env state events panic => cases panic <;> simp
  | composite members => exact tellAll_eq_row members site s

theorem tellAll_eq_row (hs : List (Hook σ ν)) (site : HookSite) (s : σ) :
    tellAll site n hs s = tellAll site n ((leavesAll hs).map leaf) s := by
  cases hs with
  | nil => rfl
  | cons h hs =>
      simp only [leavesAll, List.map_append, tellAll_append, tellAll, tell_eq_row h]
      cases (tellAll site n (h.leaves.map leaf) s).panic with
      | some p => rfl
      | none => simp only [tellAll_eq_row hs]

end

/-- **A hook is told as its leaves are**, from left to right and up to the first that panics. -/
theorem tell_eq_leaves (h : Hook σ ν) (site : HookSite) (s : σ) :
    h.tell site n s = joined site s (untilPanic (inTurn site n h.leaves s)) :=
  (tell_eq_row h site s).trans (tellAll_leaves h.leaves site s)

end Hook

/-! ### Chains -/

namespace HookChain

/-- What the leaves of a chain do, from left to right. -/
def leaves (c : HookChain σ ν) : List (HookAct σ ν) := Hook.leavesAll c.hooks

/-- The calls of leaves by which entries are told, entry by entry. -/
def callsFrom (site : HookSite) (n : Notice) : List (Hook σ ν) → σ → List (List (HookRun σ ν))
  | [], _ => []
  | h :: hs, s =>
    let here := untilPanic (inTurn site n h.leaves s)
    here :: callsFrom (siteAfter site here) n hs (stateAfter s here)

/-- The calls of leaves by which a chain is told, entry by entry. -/
def calls (c : HookChain σ ν) (site : HookSite) (n : Notice) (s : σ) : List (List (HookRun σ ν)) :=
  callsFrom site n c.hooks s

variable {site : HookSite} {n : Notice}

theorem length_callsFrom (hs : List (Hook σ ν)) (site : HookSite) (s : σ) :
    (callsFrom site n hs s).length = hs.length := by
  induction hs generalizing site s with
  | nil => rfl
  | cons h hs ih => exact congrArg (· + 1) (ih _ _)

/-- An entry is told in the world and the state that those before it left behind. -/
theorem getElem?_callsFrom (hs : List (Hook σ ν)) (site : HookSite) (s : σ) {i : Nat} {h : Hook σ ν}
    (hi : hs[i]? = some h) :
    (callsFrom site n hs s)[i]? =
      let earlier := ((callsFrom site n hs s).take i).flatten
      some (untilPanic (inTurn (siteAfter site earlier) n h.leaves (stateAfter s earlier))) := by
  induction hs generalizing site s i with
  | nil => cases hi
  | cons h' hs ih =>
      cases i with
      | zero =>
          cases hi
          rfl
      | succ i =>
          rw [List.getElem?_cons_succ] at hi
          simp only [callsFrom, List.getElem?_cons_succ, List.take_succ_cons, List.flatten_cons, siteAfter_append,
            stateAfter_append]
          exact ih _ _ hi

/-- The events of entries with the calls: what the leaves leave behind, and the report of a panic. -/
theorem tellFrom_eq_calls (index : Nat) (hs : List (Hook σ ν)) (site : HookSite) (s : σ) :
    tellFrom site n index hs s =
      let calls := callsFrom site n hs s
      ⟨(siteAfter site calls.flatten).env, stateAfter s calls.flatten,
        (calls.zipIdx index).flatMap fun e => eventsOf e.1 ++ panicReport n.moment e.2 (panicOf e.1)⟩ := by
  induction hs generalizing index site s with
  | nil => rfl
  | cons h hs ih =>
      have hsite : ∀ calls : List (HookRun σ ν), site.within (siteAfter site calls).env = siteAfter site calls :=
        within_siteAfter site
      simp only [tellFrom, callsFrom, Hook.tell_eq_leaves, joined, hsite, ih, List.flatten_cons, siteAfter_append,
        stateAfter_append, List.zipIdx_cons, List.flatMap_cons]

/-! ### When nobody panics -/

theorem flatten_callsFrom (hs : List (Hook σ ν)) (site : HookSite) (s : σ)
    (h : ∀ r ∈ (callsFrom site n hs s).flatten, r.panic = none) :
    (callsFrom site n hs s).flatten = inTurn site n (Hook.leavesAll hs) s := by
  induction hs generalizing site s with
  | nil => rfl
  | cons hook hs ih =>
      simp only [callsFrom, List.flatten_cons, List.mem_append, or_imp, forall_and] at h ⊢
      have hall := untilPanic_eq_self h.1
      rw [hall] at h ⊢
      rw [ih _ _ h.2, Hook.leavesAll, inTurn_append]

theorem panic_of_mem_callsFrom (hs : List (Hook σ ν)) (site : HookSite) (s : σ)
    (h : ∀ r ∈ inTurn site n (Hook.leavesAll hs) s, r.panic = none) :
    ∀ r ∈ (callsFrom site n hs s).flatten, r.panic = none := by
  induction hs generalizing site s with
  | nil => exact nofun
  | cons hook hs ih =>
      rw [Hook.leavesAll, inTurn_append] at h
      have hhere : ∀ r ∈ untilPanic (inTurn site n hook.leaves s), r.panic = none :=
        fun r hr => h r (List.mem_append_left _ (List.mem_of_mem_take hr))
      have hall := untilPanic_eq_self hhere
      intro r hr
      rw [callsFrom, List.flatten_cons, List.mem_append] at hr
      rcases hr with hr | hr
      · exact hhere r hr
      · rw [hall] at hr
        exact ih _ _ (fun r' hr' => h r' (List.mem_append_right _ hr')) r hr

theorem flatMap_of_quiet (index : Nat) (calls : List (List (HookRun σ ν)))
    (h : ∀ r ∈ calls.flatten, r.panic = none) :
    ((calls.zipIdx index).flatMap fun e => eventsOf e.1 ++ panicReport n.moment e.2 (panicOf e.1)) =
      eventsOf calls.flatten := by
  induction calls generalizing index with
  | nil => rfl
  | cons here calls ih =>
      simp only [List.flatten_cons, List.mem_append, or_imp, forall_and] at h
      rw [List.zipIdx_cons, List.flatMap_cons, panicOf_eq_none_iff.mpr h.1, ih (index + 1) h.2]
      simp [panicReport, eventsOf]

theorem tell_of_quiet {c : HookChain σ ν} {s : σ} (h : ∀ r ∈ (c.calls site n s).flatten, r.panic = none) :
    c.tell site n s =
      let calls := (c.calls site n s).flatten
      ⟨(siteAfter site calls).env, stateAfter s calls, eventsOf calls⟩ := by
  rw [tell, tellFrom_eq_calls, ← calls]
  dsimp only
  rw [flatMap_of_quiet 0 _ h]

/-- Chains with the same leaves from left to right do the same where nobody panics, and so does every leaf. -/
theorem tell_eq_of_leaves_eq {c c' : HookChain σ ν} (hleaves : c'.leaves = c.leaves) {s : σ}
    (h : ∀ r ∈ (c.calls site n s).flatten, r.panic = none) :
    (c'.calls site n s).flatten = (c.calls site n s).flatten ∧ c'.tell site n s = c.tell site n s := by
  have hc : (c.calls site n s).flatten = inTurn site n c.leaves s := flatten_callsFrom c.hooks site s h
  have h' : ∀ r ∈ (c'.calls site n s).flatten, r.panic = none := by
    refine panic_of_mem_callsFrom c'.hooks site s fun r hr => h r ?_
    rw [hc, ← hleaves]
    exact hr
  have hc' : (c'.calls site n s).flatten = inTurn site n c'.leaves s := flatten_callsFrom c'.hooks site s h'
  have hsame : (c'.calls site n s).flatten = (c.calls site n s).flatten := by rw [hc, hc', hleaves]
  refine ⟨hsame, ?_⟩
  rw [tell_of_quiet h, tell_of_quiet h', hsame]

theorem leaves_ungrouped (earlier members later : List (Hook σ ν)) :
    (⟨earlier ++ members ++ later⟩ : HookChain σ ν).leaves =
      (⟨earlier ++ .composite members :: later⟩ : HookChain σ ν).leaves := by
  simp only [leaves, Hook.leavesAll_append, Hook.leavesAll, Hook.leaves, List.append_assoc]

/-- **Whom a notice reaches.** A chain tells its entries in order, each by calling the leaves of the entry from left to
right, up to and including the first that panics, each in the world and the state that the one before left behind. A
panic is reported once, with the index of its entry, and the entries after it are told all the same. This is so for
notices before and after a statement. Where nobody panics, chains with the same leaves do the same, and every leaf is
called in the same world and state with the same result; so a group might as well be replaced by its members. -/
theorem leaves_told (c : HookChain σ ν) (site : HookSite) (n : Notice) (s : σ) :
    let calls := c.calls site n s
    calls.length = c.size ∧
    (∀ i h, c.hooks[i]? = some h →
      let earlier := (calls.take i).flatten
      calls[i]? = some (untilPanic (inTurn (siteAfter site earlier) n h.leaves (stateAfter s earlier)))) ∧
    c.tell site n s =
      ⟨(siteAfter site calls.flatten).env, stateAfter s calls.flatten,
        calls.zipIdx.flatMap fun e => eventsOf e.1 ++ panicReport n.moment e.2 (panicOf e.1)⟩ ∧
    ((∀ r ∈ calls.flatten, r.panic = none) →
      (∀ c' : HookChain σ ν, c'.leaves = c.leaves →
        (c'.calls site n s).flatten = calls.flatten ∧ c'.tell site n s = c.tell site n s) ∧
      ∀ earlier members later, c.hooks = earlier ++ .composite members :: later →
        let c' : HookChain σ ν := ⟨earlier ++ members ++ later⟩
        (c'.calls site n s).flatten = calls.flatten ∧ c'.tell site n s = c.tell site n s) := by
  intro calls
  refine ⟨length_callsFrom c.hooks site s, fun i h hi => getElem?_callsFrom c.hooks site s hi,
    tellFrom_eq_calls 0 c.hooks site s, fun hquiet => ⟨?_, ?_⟩⟩
  · intro c' hleaves
    exact tell_eq_of_leaves_eq hleaves hquiet
  · intro earlier members later hhooks
    refine tell_eq_of_leaves_eq ?_ hquiet
    rw [leaves_ungrouped, ← hhooks]

/-! ### A chain with a fuse in it -/

/-- A hook that leaves its name. -/
def signing (name : String) : Hook Unit String := .observer fun _ _ => [name]

/-- A group with a group in it, which blows after each statement, and a hook of its own. -/
def fused : HookChain Unit String :=
  ⟨[.composite [signing "first", .composite [.panicking (· = .after) (.text "blown"), signing "second"]],
    signing "third"]⟩

/-- The fused chain with its outer group replaced by the members. -/
def loose : HookChain Unit String :=
  ⟨[signing "first", .composite [.panicking (· = .after) (.text "blown"), signing "second"], signing "third"]⟩

/-- Before a statement the fuse holds, and the outer group makes no difference. -/
theorem loose_of_quiet :
    let site : HookSite := ⟨⟨0, []⟩, 0⟩
    let n : Notice := .before .background "SELECT 1" []
    (∀ r ∈ (fused.calls site n ()).flatten, r.panic = none) ∧
      fused.tell site n () = ⟨⟨0, []⟩, (), [.note "first", .note "second", .note "third"]⟩ ∧
      (loose.calls site n ()).flatten = (fused.calls site n ()).flatten ∧
      loose.tell site n () = fused.tell site n () := by
  intro site n
  have hquiet : ∀ r ∈ (fused.calls site n ()).flatten, r.panic = none := panicOf_eq_none_iff.mp rfl
  obtain ⟨-, -, -, hregrouped⟩ := leaves_told fused site n ()
  exact ⟨hquiet, rfl, (hregrouped hquiet).2 [] _ _ rfl⟩

/-- After a statement the fuse blows: the rest of its entry is not told, the next entry is. -/
example :
    fused.tell ⟨⟨0, []⟩, 0⟩ (.after .background "SELECT 1" [] .zero none) () =
      ⟨⟨0, []⟩, (), [.note "first", .log (.hookPanicked .after 0 "blown"), .note "third"]⟩ := rfl

end HookChain

end DbAccess
