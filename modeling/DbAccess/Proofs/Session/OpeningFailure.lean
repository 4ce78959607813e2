import DbAccess.Proofs.Mapper.Evidence
import DbAccess.Proofs.Mapper.Settled
import DbAccess.Proofs.Session.Opening
import DbAccess.Sqlite.Factory
/-!
# The errors of opening

An error that comes back to the first ping goes through the driver's own mapper and the default one. One that the
factory answers with does not: it comes back as it is, so whether it is the mapped one is up to the factory.
`errors_of_opening` says so for every factory, and `Sqlite.map_connect_error` that the factory of this library
maps its errors itself.
-/

namespace DbAccess

variable {δ σ ν : Type}

namespace Mapper

/-- An error of a backend that the driver's own mapper leaves alone goes to the built-in classifiers. -/
theorem map_forDriver_of_left {own : Mapper} {b : BackendError}
    (h : own.map (.raw (.backend b)) = .raw (.backend b)) :
    (forDriver own).map (.raw (.backend b)) = answer (Classifier.builtin.findSome? (·.classify b)) b := by
  rw [forDriver, map_chain_cons own rfl, h, map_chain_nil rfl]
  exact map_backend _ b

theorem settles_forDriver (own : Mapper) : (forDriver own).Settles :=
  settles_chain [own] (settles_ofClassifiers _)

end Mapper

/-! ### The factory of this library -/

namespace Sqlite

theorem dialect_of_openPath_error {o : Options} {e : RawError} (h : openPath o = .error e) :
    ∃ b, e = .backend b ∧ b.dialect = some .sqlite := by
  rw [openPath] at h
  split at h
  · cases h
    exact ⟨_, rfl, rfl⟩
  split at h
  · cases h
  · cases h
    exact ⟨_, rfl, rfl⟩
  · cases h
    exact ⟨_, rfl, rfl⟩

/-- What SQLite's own classifier leaves of an error of SQLite, all of them together leave. -/
theorem map_forDriver_errorMapper {b : BackendError} (h : b.dialect = some .sqlite) :
    (Mapper.forDriver errorMapper).map (errorMapper.map (.raw (.backend b))) =
      errorMapper.map (.raw (.backend b)) := by
  have hown : errorMapper.map (.raw (.backend b)) = Mapper.answer (Dialect.classify .sqlite b) b := by
    rw [errorMapper, Mapper.map_backend]
    exact congrArg (Mapper.answer · b) (Classifier.findSome?_classify h (by simp [Classifier.builtin])
      (List.mem_singleton.mpr rfl))
  rw [hown]
  cases hkind : Dialect.classify .sqlite b with
  | some k => exact Mapper.map_chain_of_not_raw rfl
  | none =>
      rw [hkind] at hown
      have hall := Classifier.findSome?_classify h (fun _ hc => hc) (Classifier.mem_builtin_iff.mpr ⟨.sqlite, rfl⟩)
      exact (Mapper.map_forDriver_of_left hown).trans (by rw [hall, hkind])

/-- What keeps a database from being opened is a fault of the connection string or a mapped error of SQLite. -/
theorem error_of_connect {dsn : String} {e : Error} (h : connect dsn = .error e) :
    (∃ fault, e = .config fault) ∨
      ∃ b : BackendError, b.dialect = some .sqlite ∧ e = errorMapper.map (.raw (.backend b)) := by
  have hbind : connect dsn = ((Options.parse dsn).1.mapError Error.config).bind fun o =>
    (openPath o).mapError fun e => errorMapper.map (.raw e) := rfl
  rw [hbind] at h
  cases hparse : (Options.parse dsn).1 with
  | error fault =>
      rw [hparse] at h
      cases h
      exact .inl ⟨fault, rfl⟩
  | ok o =>
      have hpath : (openPath o).mapError (fun e => errorMapper.map (.raw e)) = .error e := by
        rw [hparse] at h
        exact h
      cases hopen : openPath o with
      | ok c =>
          rw [hopen] at hpath
          cases hpath
      | error raw =>
          obtain ⟨b, rfl, hb⟩ := dialect_of_openPath_error hopen
          rw [hopen] at hpath
          exact .inr ⟨b, hb, (Except.error.inj hpath).symm⟩

/-- The factory's errors are mapped already. -/
theorem map_connect_error {place : Place δ (Connection Memory)} {config : Config} {env : Env} {s : δ} {e : Error}
    (h : ((factory place).connect config env s).answer = .error e) :
    (Mapper.forDriver (factory place).mapper).map e = e := by
  have hconnect : connect config.dsn = .error e := by
    dsimp only [factory] at h
    split at h
    · cases h
    case h_2 _ hc =>
      cases h
      exact hc
  obtain ⟨fault, rfl⟩ | ⟨b, hb, rfl⟩ := error_of_connect hconnect
  · exact Mapper.map_chain_of_not_raw rfl
  · exact map_forDriver_errorMapper hb

theorem eq_factory_of_choose {place : Place δ (Connection Memory)} {config : Config} {f : Factory δ}
    (h : (Registry.default place).choose config = .ok f) : f = factory place := by
  obtain ⟨-, -, hfind⟩ := Registry.choose_eq_ok_iff.mp h
  rw [(Registry.holds_default place).find?_eq] at hfind
  exact List.mem_singleton.mp (Registry.mem_of_latest? hfind).1

end Sqlite

/-! ### Whatever is opened -/

namespace Database

section errors

variable (registry : Registry δ) (config : Config) (hooks : List (Hook σ ν)) (w : World δ σ)

/-- What comes of opening by the environment: what comes of opening at the place that it names, by settings that say
nothing else. -/
theorem run_openFromEnv (driver : String) (value : Option String) :
    (openFromEnv registry driver value : SessionM δ σ ν (Database δ σ ν)).run w =
      match dsnOfVariable urlVariable value with
      | .error e => ⟨.failed e, w, []⟩
      | .ok dsn => (openWith registry (.new driver dsn) []).run w := by
  rw [openFromEnv, SessionM.run_bind, SessionM.run_ofExcept]
  cases dsnOfVariable urlVariable value with
  | error e => rfl
  | ok dsn => rfl

variable {registry config} {f : Factory δ}

/-- A driver that has been connected is handed out, or the mapped error of its ping comes back. -/
theorem mapped_of_connected (hf : registry.choose config = .ok f) {d : Driver δ} {e : Error}
    (hconnect : (f.connect config w.env w.driver).answer = .ok d)
    (h : ((openWith registry config hooks).run w).outcome = .failed e) :
    let w' := connected config w f
    ∃ raw, (fresh f config hooks d).raw? w' (probeContext w'.env) .ping = some (.error raw) ∧
      e = (Mapper.forDriver f.mapper).map (.raw raw) := by
  rw [run_openWith_of_connected hooks w hf hconnect, SessionRun.outcome_after, outcome_probe] at h
  split at h
  · cases h
  case h_2 raw hraw =>
    split at h
    · cases h
    · exact ⟨raw, hraw, (Outcome.failed.inj h).symm⟩
  · cases h

/-- **Which errors of opening are mapped.** An error that comes back to the first ping is handed out mapped, by the
driver's own mapper first and then by the default one; that leaves none bare, and gives an error that the driver's own
mapper leaves alone the kind that the built-in classifiers know. An error that the factory answers with is handed out
as it is, so it is the mapped one exactly if these mappers leave it alone, and no error is handed out bare but such a
one. The factory of this library answers with errors that they leave alone. Opening by options or by the environment
is opening by the settings that they amount to. -/
theorem errors_of_opening (hf : registry.choose config = .ok f) :
    let r := (openWith registry config hooks).run w
    let answer := (f.connect config w.env w.driver).answer
    let mapper := Mapper.forDriver f.mapper
    let w' := connected config w f
    (∀ d raw, answer = .ok d →
      (fresh f config hooks d).raw? w' (probeContext w'.env) .ping = some (.error raw) →
      (fresh f config hooks d).closeReply w' (probeContext w'.env) ≠ .never →
      r.outcome = .failed (mapper.map (.raw raw))) ∧
    (∀ raw, (mapper.map (.raw raw)).isBare = false) ∧
    (∀ b kind, f.mapper.map (.raw (.backend b)) = .raw (.backend b) →
      Classifier.builtin.findSome? (·.classify b) = some kind →
      mapper.map (.raw (.backend b)) = .ofKind kind (.backend b)) ∧
    (∀ e, answer = .error e → (r.outcome = .failed (mapper.map e) ↔ mapper.map e = e)) ∧
    (∀ e, r.outcome = .failed e → e.isBare = true → answer = .error e) ∧
    (∀ place, registry = .default place → ∀ e, answer = .error e → r.outcome = .failed (mapper.map e)) ∧
    (∀ driver options base f' dsn, registry.find? driver = some f' → f'.dsn options = .ok dsn →
      config = { base with driver := driver, dsn := dsn } →
      (openWithOptions registry driver options base hooks).run w = r) ∧
    ∀ driver dsn, Text.allBlank dsn = false → config = .new driver dsn → hooks = [] →
      (openFromEnv registry driver (some dsn)).run w = r := by
  intro r answer mapper w'
  have hrefused (e : Error) (he : answer = .error e) : r.outcome = .failed e := by
    rw [show r = _ from run_openWith_of_unconnected hooks w hf he]
  refine ⟨fun d raw hd hraw hclose => ?_, fun raw => Mapper.settles_forDriver f.mapper _,
    fun b kind hleft hkind => ?_, fun e he => ?_, fun e hfailed hbare => ?_, fun place hplace e he => ?_,
    fun driver options base f' dsn hfind hdsn hconfig => ?_, fun driver dsn hset hconfig hhooks => ?_⟩
  · obtain ⟨-, hcourse, -⟩ := (fresh f config hooks d).course_probe w' (probeContext w'.env) f.name config.dsn
    rw [show r = _ from run_openWith_of_connected hooks w hf hd]
    exact (hcourse raw hraw).2.1 hclose
  · rw [Mapper.map_forDriver_of_left hleft, hkind]
    rfl
  · rw [hrefused e he]
    exact ⟨fun h => (Outcome.failed.inj h).symm, fun h => congrArg Outcome.failed h.symm⟩
  · cases hanswer : answer with
    | error e' =>
        rw [hrefused e' hanswer] at hfailed
        rw [Outcome.failed.inj hfailed]
    | ok d =>
        obtain ⟨raw, -, rfl⟩ := mapped_of_connected hooks w hf hanswer hfailed
        rw [Mapper.settles_forDriver f.mapper (.raw raw)] at hbare
        cases hbare
  · subst hplace
    obtain rfl := Sqlite.eq_factory_of_choose hf
    rw [hrefused e he]
    exact congrArg Outcome.failed (Sqlite.map_connect_error he).symm
  · subst hconfig
    rw [run_openWithOptions, Registry.lookup, hfind]
    dsimp only
    rw [hdsn]
  · subst hconfig hhooks
    have hdsn : dsnOfVariable urlVariable (some dsn) = .ok dsn := by simp [dsnOfVariable, hset]
    rw [run_openFromEnv, hdsn]

end errors

section refusing

/-- A factory that answers with an error of its backend as it is. -/
def refusing : Factory Scripted.State where
  name := "fake"
  dsn _ := .ok "fake://"
  mapper := .ofFunction id
  connect _ env state := ⟨.error (.raw (.backend refusal)), env, state⟩

/-- A dead driver leaves a failed connection behind. -/
theorem errors_of_opening_of_dying :
    let r := (openWith mortuary deathbed ([] : List (Hook Unit Unit))).run quiet
    mortuary.choose deathbed = .ok dying ∧ r.outcome = .failed (.ofKind .connectionFailed (.backend refusal)) := by
  intro r
  have hchoose : mortuary.choose deathbed = .ok dying := by
    rw [Registry.choose_eq_ok_iff]
    exact ⟨by decide +kernel, by decide +kernel, rfl⟩
  obtain ⟨hping, -, hkind, -⟩ := errors_of_opening ([] : List (Hook Unit Unit)) quiet hchoose
  have hmapped := hkind refusal .connectionFailed rfl (by decide +kernel)
  refine ⟨hchoose, ?_⟩
  rw [← hmapped]
  exact hping dead _ rfl raw?_dead nofun

/-- The same error is handed out as it is when it comes from the factory. -/
theorem refusal_not_mapped :
    let config := Config.new "fake" "fake://"
    let r := (openWith (Registry.empty.replace refusing).2 config ([] : List (Hook Unit Unit))).run quiet
    (refusing.connect config quiet.env quiet.driver).answer = .error (.raw (.backend refusal)) ∧
      r.outcome = .failed (.raw (.backend refusal)) ∧
      (Mapper.forDriver refusing.mapper).map (.raw (.backend refusal)) =
        .ofKind .connectionFailed (.backend refusal) ∧
      r.outcome ≠ .failed ((Mapper.forDriver refusing.mapper).map (.raw (.backend refusal))) := by
  intro config r
  have hchoose : (Registry.empty.replace refusing).2.choose config = .ok refusing := by
    rw [Registry.choose_eq_ok_iff]
    exact ⟨by decide +kernel, by decide +kernel, rfl⟩
  have houtcome : r.outcome = .failed (.raw (.backend refusal)) := by
    rw [show r = _ from run_openWith_of_unconnected [] quiet hchoose rfl]
  have hmapped : (Mapper.forDriver refusing.mapper).map (.raw (.backend refusal)) =
      .ofKind .connectionFailed (.backend refusal) := by decide +kernel
  refine ⟨rfl, houtcome, hmapped, ?_⟩
  rw [houtcome, hmapped]
  nofun

end refusing

end Database

end DbAccess
