import DbAccess.Proofs.Context.Done
/-!
# What a sleeper is told

A sleeper with a signal may be woken up for nothing as often as the night pleases; it goes on at the first
look at which there is something to tell it (`Context.FirstDue`), namely that its context has ended or that its
span is over (`Context.Due`). What it is told then is true (`Context.Truthful`): it has rested only if the span
is over by the clock, the deadline is blamed only when it was reached and is not after the end of the span, and
a cancellation is reported exactly when the last look shows one. `Context.sleep_tells_truth` says so for every
night. No order of the looks is needed for it, so it holds in particular when the clock is never set back and
nothing that is cancelled becomes live again.
-/

namespace DbAccess

/-! ### Spans that the clock can name -/

theorem eq_of_laterBy? {t wake : Instant} {d : Span} (h : laterBy? t d = some wake) : wake = t + d.ns := by
  unfold laterBy? at h
  split at h
  case isTrue => exact (Option.some.inj h).symm
  case isFalse => cases h

theorem lastInstant_lt_of_laterBy? {t : Instant} {d : Span} (h : laterBy? t d = none) :
    lastInstant < t + d.ns := by
  unfold laterBy? at h
  split at h
  case isTrue => cases h
  case isFalse hbeyond => exact Nat.lt_of_not_le hbeyond

namespace SleepPlan

variable {p : SleepPlan} {now : Instant} {cancelled : Bool} {r : SleepResult}

/-- The planned end has come. -/
def IsOver (p : SleepPlan) (now : Instant) : Prop := ∃ t ∈ p.until?, t ≤ now

theorem check_eq_some_iff :
    p.check now cancelled = some r ↔
      cancelled = true ∧ r = .ended .cancelled ∨ cancelled = false ∧ p.IsOver now ∧ r = p.result := by
  cases cancelled with
  | true => simp [check, eq_comm]
  | false =>
      cases huntil : p.until? with
      | none => simp [check, IsOver, huntil]
      | some t =>
          by_cases ht : t ≤ now
          · simp [check, IsOver, huntil, ht, eq_comm]
          · simp [check, IsOver, huntil, ht]

theorem check_eq_none_iff : p.check now cancelled = none ↔ cancelled = false ∧ ¬ p.IsOver now := by
  cases cancelled with
  | true => simp [check]
  | false =>
      cases huntil : p.until? with
      | none => simp [check, IsOver, huntil]
      | some t => simp [check, IsOver, huntil]

end SleepPlan

namespace Context

/-- There is something to tell one who began to sleep in a world: its context has ended, or its span is over. -/
def Due (c : Context) (start : Env) (d : Span) (env : Env) : Prop :=
  c.isDone env = true ∨ ∃ wake ∈ laterBy? start.now d, wake ≤ env.now

instance (c : Context) (start : Env) (d : Span) (env : Env) : Decidable (c.Due start d env) :=
  inferInstanceAs (Decidable (_ ∨ _))

/-- The look at which there is something to tell for the first time. -/
def FirstDue (c : Context) (start : Env) (d : Span) (looks : List Env) (seen : Env) : Prop :=
  ∃ before after, looks = before ++ seen :: after ∧ c.Due start d seen ∧ ∀ env ∈ before, ¬ c.Due start d env

/-- What is reported of a sleep is so in the world that was seen last. -/
structure Truthful (c : Context) (start : Env) (d : Span) (r : SleepResult) (seen : Env) : Prop where
  /-- The span is over, unless nothing at all could end the sleep. -/
  rested : r = .rested →
    start.now + d.ns ≤ seen.now ∨ c = .background ∧ laterBy? start.now d = none ∧ seen = start
  /-- The deadline was reached, and does not come after the end of the span. -/
  exceeded : r = .ended .deadlineExceeded →
    ∃ t, c.deadline = some t ∧ t ≤ seen.now ∧ t ≤ start.now + d.ns
  cancelled : r = .ended .cancelled ↔ c.isCancelled seen = true
  /-- Something is reported. -/
  reported : r ≠ .forever

variable {c : Context} {d : Span} {entry start seen env : Env} {night : Night} {r : SleepResult} {now : Instant}

/-! ### Plans -/

/-- A sleep is planned to the end of the span or to the deadline, whichever is first. -/
theorem isOver_sleepPlan_iff :
    (c.sleepPlan now d).IsOver env.now ↔
      c.isExpired env = true ∨ ∃ wake ∈ laterBy? now d, wake ≤ env.now := by
  unfold sleepPlan isExpired
  cases laterBy? now d with
  | none => cases c.deadline <;> simp [SleepPlan.IsOver]
  | some wake =>
      cases c.deadline with
      | none => simp [SleepPlan.IsOver]
      | some t =>
          by_cases ht : t ≤ wake
          · simp only [ht, if_true, SleepPlan.IsOver, Option.mem_def, Option.some.injEq, exists_eq_left',
              Option.any_some, decide_eq_true_eq]
            exact ⟨.inl, fun h => h.elim id (Nat.le_trans ht)⟩
          · simp only [ht, if_false, SleepPlan.IsOver, Option.mem_def, Option.some.injEq, exists_eq_left',
              Option.any_some, decide_eq_true_eq]
            exact ⟨.inr, fun h => h.elim (Nat.le_trans (Nat.le_of_not_le ht)) id⟩

theorem check_eq_none_iff_not_due :
    (c.sleepPlan start.now d).check env.now (c.isCancelled env) = none ↔ ¬ c.Due start d env := by
  rw [SleepPlan.check_eq_none_iff, isOver_sleepPlan_iff, Due, isDone_eq]
  cases c.isCancelled env with
  | true => simp
  | false => simp

/-- A sleep that is not planned to the deadline is planned to the end of its span. -/
theorem laterBy?_of_not_hitsDeadline {t : Instant} (h : (c.sleepPlan now d).hitsDeadline = false)
    (huntil : (c.sleepPlan now d).until? = some t) : laterBy? now d = some t := by
  unfold sleepPlan at h huntil
  cases hwake : laterBy? now d with
  | none => cases hdeadline : c.deadline <;> simp [hwake, hdeadline] at h huntil
  | some wake =>
      cases hdeadline : c.deadline with
      | none => simpa [hwake, hdeadline] using huntil
      | some deadline =>
          by_cases ht : deadline ≤ wake
          · simp [hwake, hdeadline, ht] at h
          · simpa [hwake, hdeadline, ht] using huntil

/-- A sleep is planned to the deadline only if that does not come after the end of the span. -/
theorem deadline_le_of_hitsDeadline {t : Instant} (h : (c.sleepPlan now d).hitsDeadline = true)
    (hdeadline : c.deadline = some t) (ht : t ≤ lastInstant) : t ≤ now + d.ns := by
  unfold sleepPlan at h
  cases hwake : laterBy? now d with
  | none => exact Nat.le_of_lt (Nat.lt_of_le_of_lt ht (lastInstant_lt_of_laterBy? hwake))
  | some wake =>
      rw [← eq_of_laterBy? hwake]
      by_contra hlater
      simp [hwake, hdeadline, hlater] at h

/-! ### What is told -/

/-- It is true that a sleeper has rested when the span is over, or nothing could end the sleep. -/
theorem truthful_rested (hcancelled : c.isCancelled seen = false)
    (hrested : start.now + d.ns ≤ seen.now ∨ c = .background ∧ laterBy? start.now d = none ∧ seen = start) :
    c.Truthful start d .rested seen :=
  ⟨fun _ => hrested, nofun, by simp [hcancelled], nofun⟩

theorem truthful_result (hdeadline : ∀ t, c.deadline = some t → t ≤ lastInstant)
    (hover : (c.sleepPlan start.now d).IsOver seen.now) (hcancelled : c.isCancelled seen = false) :
    c.Truthful start d (c.sleepPlan start.now d).result seen := by
  obtain ⟨t, huntil, ht⟩ := hover
  cases hits : (c.sleepPlan start.now d).hitsDeadline with
  | true =>
      obtain ⟨deadline, huntil', hdead⟩ := until_of_hitsDeadline hits
      obtain rfl : t = deadline := Option.some.inj (huntil.symm.trans huntil')
      have hresult : (c.sleepPlan start.now d).result = .ended .deadlineExceeded := if_pos hits
      rw [hresult]
      refine ⟨nofun, fun _ => ⟨t, hdead, ht, ?_⟩, by simp [hcancelled], nofun⟩
      exact deadline_le_of_hitsDeadline hits hdead (hdeadline t hdead)
  | false =>
      have hresult : (c.sleepPlan start.now d).result = .rested := by simp [SleepPlan.result, hits]
      rw [hresult]
      refine truthful_rested hcancelled (.inl ?_)
      exact eq_of_laterBy? (laterBy?_of_not_hitsDeadline hits huntil) ▸ ht

theorem truthful_of_check (hdeadline : ∀ t, c.deadline = some t → t ≤ lastInstant)
    (h : (c.sleepPlan start.now d).check seen.now (c.isCancelled seen) = some r) :
    c.Truthful start d r seen := by
  obtain ⟨hcancelled, rfl⟩ | ⟨hcancelled, hover, rfl⟩ := SleepPlan.check_eq_some_iff.mp h
  · exact ⟨nofun, nofun, by simp [hcancelled], nofun⟩
  · exact truthful_result hdeadline hover hcancelled

theorem follow_eq_some_iff {p : SleepPlan} (hsignal : c.signal.isSome = true) :
    c.follow p start night = some (r, seen) ↔
      ∃ before after, night.looks = before ++ seen :: after ∧
        p.check seen.now (c.isCancelled seen) = some r ∧
        ∀ env ∈ before, p.check env.now (c.isCancelled env) = none := by
  obtain ⟨s, hs⟩ := Option.isSome_iff_exists.mp hsignal
  have hfollow : c.follow p start night =
      night.looks.findSome? fun env => (p.check env.now (c.isCancelled env)).map (·, env) := by
    simp only [follow, hs]
  rw [hfollow, List.findSome?_eq_some_iff]
  constructor
  · rintro ⟨before, env, after, hlooks, hcheck, hbefore⟩
    obtain ⟨r', hr, heq⟩ := Option.map_eq_some_iff.mp hcheck
    cases heq
    exact ⟨before, after, hlooks, hr, fun env henv => by simpa using hbefore env henv⟩
  · rintro ⟨before, after, hlooks, hcheck, hbefore⟩
    exact ⟨before, seen, after, hlooks, by simp [hcheck], fun env henv => by simp [hbefore env henv]⟩

theorem truthful_follow (hdeadline : ∀ t, c.deadline = some t → t ≤ lastInstant)
    (h : c.follow (c.sleepPlan start.now d) start night = some (r, seen)) : c.Truthful start d r seen := by
  cases hsignal : c.signal with
  | some s =>
      have hsome : c.signal.isSome = true := by rw [hsignal, Option.isSome_some]
      obtain ⟨_, _, _, hcheck, _⟩ := (follow_eq_some_iff hsome).mp h
      exact truthful_of_check hdeadline hcheck
  | none =>
      have hcancelled : ∀ env, c.isCancelled env = false := fun env => by rw [isCancelled, hsignal]; rfl
      cases huntil : (c.sleepPlan start.now d).until? with
      | some t =>
          simp only [follow, hsignal, huntil, Option.map_eq_some_iff, Prod.mk.injEq] at h
          obtain ⟨env, -, rfl, rfl⟩ := h
          -- The pause makes up for what was missing when the clock was looked at.
          have ht : t ≤ (night.pause env (t - env.now)).now :=
            Nat.le_trans (Nat.sub_le_iff_le_add'.mp (Nat.le_refl _)) (night.pause_lasts env (t - env.now))
          exact truthful_result hdeadline ⟨t, huntil, ht⟩ (hcancelled _)
      | none =>
          simp only [follow, hsignal, huntil, Option.some.injEq, Prod.mk.injEq] at h
          obtain ⟨rfl, rfl⟩ := h
          obtain ⟨hbeyond, hdead⟩ := beyond_of_until_eq_none huntil
          have hbackground : c = .background := by
            obtain ⟨deadline, signal⟩ := c
            cases hdead
            cases hsignal
            rfl
          exact truthful_rested (hcancelled _) (.inr ⟨hbackground, hbeyond, rfl⟩)

/-- **Sleep tells the truth**, through every night. A context that has ended at the entry is not slept under,
and says why it ended. Otherwise what is reported is so in the world seen last. A background context has
rested at once when its span goes beyond the clock. A sleeper with a signal goes on at the first look at which
there is something to tell, however often it was woken up before; one without always goes on after its
pause. -/
theorem sleep_tells_truth (c : Context) (d : Span) (entry start : Env) (night : Night)
    (hdeadline : ∀ t, c.deadline = some t → t ≤ lastInstant) :
    (∀ e, c.err entry = some e → c.sleepThrough d entry start night = some (.ended e, entry)) ∧
    (c.err entry = none →
      (∀ r seen, c.sleepThrough d entry start night = some (r, seen) → c.Truthful start d r seen) ∧
      (c = .background → laterBy? start.now d = none →
        c.sleepThrough d entry start night = some (.rested, start)) ∧
      (c.signal.isSome = true → ∀ seen,
        (∃ r, c.sleepThrough d entry start night = some (r, seen)) ↔ c.FirstDue start d night.looks seen) ∧
      (c.signal = none → night.looks ≠ [] → ∃ r seen, c.sleepThrough d entry start night = some (r, seen))) := by
  refine ⟨fun e herr => by rw [sleepThrough, herr], fun herr => ?_⟩
  have hthrough : c.sleepThrough d entry start night = c.follow (c.sleepPlan start.now d) start night := by
    rw [sleepThrough, herr]
  rw [hthrough]
  refine ⟨fun r seen h => truthful_follow hdeadline h, ?_, fun hsignal seen => ?_, fun hsignal hlooks => ?_⟩
  · rintro rfl hbeyond
    simp [follow, sleepPlan, background, hbeyond]
  · simp only [follow_eq_some_iff hsignal, check_eq_none_iff_not_due]
    constructor
    · rintro ⟨r, before, after, hlooks, hcheck, hbefore⟩
      have hdue : c.Due start d seen := by
        by_contra hnot
        rw [check_eq_none_iff_not_due.mpr hnot] at hcheck
        cases hcheck
      exact ⟨before, after, hlooks, hdue, hbefore⟩
    · rintro ⟨before, after, hlooks, hdue, hbefore⟩
      obtain ⟨r, hr⟩ := Option.ne_none_iff_exists'.mp (mt check_eq_none_iff_not_due.mp (not_not_intro hdue))
      exact ⟨r, before, after, hlooks, hr, hbefore⟩
  · obtain ⟨env, looks, hcons⟩ := List.exists_cons_of_ne_nil hlooks
    cases huntil : (c.sleepPlan start.now d).until? with
    | some t =>
        refine ⟨(c.sleepPlan start.now d).result, night.pause env (t - env.now), ?_⟩
        simp only [follow, hsignal, huntil, hcons, List.head?_cons, Option.map_some]
    | none => exact ⟨.rested, start, by simp only [follow, hsignal, huntil]⟩

section restless

/-- A deadline and a signal. -/
def watchful : Context := ⟨some 9000, some 0⟩

/-- A night in which a sleeper is woken up again and again, and looks at last after the deadline, when its
signal has been cancelled as well. -/
def restless : Night where
  looks := [⟨2000, [.new]⟩, ⟨2500, [.new]⟩, ⟨8000, [.new]⟩, ⟨9500, [.spent]⟩]
  pause := Env.advance
  pause_lasts := Env.le_now_advance

/-- The world at the beginning of the night. -/
def evening : Env := ⟨1000, [.new]⟩

theorem truth_of_restless :
    watchful.Truthful evening (.ofNanos 5000) .rested ⟨8000, [.new]⟩ ∧
      watchful.sleepThrough (.ofNanos 8000) evening evening restless =
        some (.ended .cancelled, ⟨9500, [.spent]⟩) ∧
      watchful.sleepThrough (.ofNanos 8000) ⟨9000, [.new]⟩ evening restless =
        some (.ended .deadlineExceeded, ⟨9000, [.new]⟩) ∧
      background.sleepThrough .longest evening evening restless = some (.rested, evening) ∧
      ∃ r seen, background.sleepThrough (.ofNanos 8000) evening evening restless = some (r, seen) := by
  have hdeadline : ∀ t, watchful.deadline = some t → t ≤ lastInstant := by
    rintro t ⟨⟩
    decide
  have hnone : ∀ t, background.deadline = some t → t ≤ lastInstant := nofun
  refine ⟨?_, ?_, ?_, ?_, ?_⟩
  · have htruth := sleep_tells_truth watchful (.ofNanos 5000) evening evening restless hdeadline
    exact (htruth.2 (by decide)).1 _ _ (by decide)
  · have htruth := sleep_tells_truth watchful (.ofNanos 8000) evening evening restless hdeadline
    obtain ⟨htold, -, hfirst, -⟩ := htruth.2 (by decide)
    obtain ⟨r, hr⟩ := (hfirst rfl ⟨9500, [.spent]⟩).mpr
      ⟨[⟨2000, [.new]⟩, ⟨2500, [.new]⟩, ⟨8000, [.new]⟩], [], rfl, by decide, by decide⟩
    rw [hr, (htold r _ hr).cancelled.mpr (by decide)]
  · have htruth := sleep_tells_truth watchful (.ofNanos 8000) ⟨9000, [.new]⟩ evening restless hdeadline
    exact htruth.1 _ (by decide)
  · have htruth := sleep_tells_truth background .longest evening evening restless hnone
    exact (htruth.2 (by decide)).2.1 rfl (by decide)
  · have htruth := sleep_tells_truth background (.ofNanos 8000) evening evening restless hnone
    exact (htruth.2 (by decide)).2.2.2 rfl (by decide)

end restless

end Context

end DbAccess
