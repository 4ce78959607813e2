import DbAccess.Proofs.Registry
import DbAccess.Proofs.Session.Errand
import DbAccess.Proofs.Session.Settled
/-!
# Opening a database

Opening asks in turn: the settings, the registry, the factory, and the new driver for a sign of life. What is wrong
before a factory is asked is a fault of the configuration (`Registry.choose`). `SessionRun.contacts` are the things
that are asked of factories and drivers; `contacts_probe` and `outcome_probe` say which there are once a driver is
connected and how it ends. `opening_cleans_up` puts them together: a driver that does not answer the first ping is
closed once, and what comes back is why it did not answer.
-/

namespace DbAccess

variable {δ σ ν α : Type}

/-! ### Contacts -/

/-- Something that is asked of a factory or a driver. -/
inductive Contact where
  | connect (factory dsn : String)
  | call (c : DriverCall) (ctx : Context)
deriving Repr

/-- The contact of an event, when it is one. -/
def Event.contact? : Event ν → Option Contact
  | .opened factory dsn => some (.connect factory dsn)
  | .call c ctx _ => some (.call c ctx)
  | _ => none

/-- What is asked of factories and drivers in a run, in order. -/
def SessionRun.contacts (r : SessionRun δ σ ν α) : List Contact := r.trace.filterMap Event.contact?

/-- No hook has been told anything: there is no event of one, and their state is what it was. -/
def SessionRun.Unheard (r : SessionRun δ σ ν α) (w : World δ σ) : Prop :=
  r.trace.all (!·.isHook) = true ∧ r.world.hooks = w.hooks

@[simp] theorem SessionRun.contacts_mk (o : Outcome α) (w : World δ σ) (t : List (Event ν)) :
    contacts ⟨o, w, t⟩ = t.filterMap Event.contact? := rfl

@[simp] theorem SessionRun.contacts_after (r : SessionRun δ σ ν α) (t : List (Event ν)) :
    (r.after t).contacts = t.filterMap Event.contact? ++ r.contacts := by
  simp [contacts, after]

theorem SessionRun.Unheard.after {r : SessionRun δ σ ν α} {w w' : World δ σ} {t : List (Event ν)}
    (h : r.Unheard w') (hw : w'.hooks = w.hooks) (ht : t.all (!·.isHook) = true) : (r.after t).Unheard w := by
  refine ⟨?_, h.2.trans hw⟩
  rw [trace_after, List.all_append, ht, h.1]
  rfl

/-! ### Before a factory is asked -/

/-- The factory to ask, or what is wrong with the settings. -/
def Registry.choose (r : Registry δ) (c : Config) : Except Error (Factory δ) :=
  match c.fault? with
  | some fault => .error (.config fault)
  | none => if c.dsn.isEmpty then .error (.config .emptyDsn) else r.lookup c.driver

namespace Registry

variable {r : Registry δ} {c : Config}

theorem choose_eq_ok_iff {f : Factory δ} :
    r.choose c = .ok f ↔ c.fault? = none ∧ c.dsn.isEmpty = false ∧ r.find? c.driver = some f := by
  rw [choose]
  cases c.fault? with
  | some fault => simp
  | none => cases c.dsn.isEmpty <;> simp [lookup_eq_ok_iff]

theorem choose_eq_error {e : Error} (h : r.choose c = .error e) : ∃ fault, e = .config fault := by
  rw [choose] at h
  split at h
  · exact ⟨_, (Except.error.inj h).symm⟩
  split at h
  · exact ⟨_, (Except.error.inj h).symm⟩
  rw [lookup] at h
  split at h
  · cases h
  · exact ⟨_, (Except.error.inj h).symm⟩

theorem Holds.name_of_find? {fs : List (Factory δ)} (h : r.Holds fs) {name : String} {f : Factory δ}
    (hf : r.find? name = some f) : f.name = name := by
  rw [h.find?_eq] at hf
  exact (mem_of_latest? hf).2

end Registry

namespace Database

open SessionM

/-! ### The first ping -/

/-- The handle on a driver that a factory has connected. -/
def fresh (f : Factory δ) (config : Config) (hooks : List (Hook σ ν)) (d : Driver δ) : Database δ σ ν :=
  { ofDriver d config hooks with mapper := .forDriver f.mapper }

/-- What is done about a driver that does not answer. -/
def giveUp (db : Database δ σ ν) (e : Error) : SessionM δ σ ν (Database δ σ ν) := do
  log (.firstPingFailed e)
  let _ ← db.dispatch .background .close
  fail e

/-- What follows the first ping. -/
def afterPing (db : Database δ σ ν) : Except Error Unit → SessionM δ σ ν (Database δ σ ν)
  | .ok () => return db
  | .error e => db.giveUp e

/-- Makes sure that the driver answers, and closes it when it does not. -/
def probe (db : Database δ σ ν) (ctx : Context) : SessionM δ σ ν (Database δ σ ν) := do
  db.afterPing (← attempt (db.ping ctx))

section probe

variable (db : Database δ σ ν) (w : World δ σ) (ctx : Context)

/-- A ping as it reaches the driver, if its context has not ended by then. -/
def pingContacts : List Contact :=
  if (db.refusal? w ctx).isSome then [] else [.call .ping (db.effectiveContext w ctx)]

/-- What the driver makes of being closed after a ping. -/
def closeReply : Reply Unit := (db.driverRun ((db.ping ctx).run w).world .background .close).reply

theorem contacts_driverTrace (c : DriverCall) :
    (db.driverTrace w ctx c : List (Event ν)).filterMap Event.contact? = [.call c ctx] := by
  simp [driverTrace, List.filterMap_map, Function.comp_def, Event.contact?]

theorem noHook_driverTrace (c : DriverCall) :
    (db.driverTrace w ctx c : List (Event ν)).all (!·.isHook) = true := by
  simp [driverTrace, Event.isHook]

theorem run_ping :
    (db.ping ctx).run w =
      match db.refusal? w ctx with
      | some e => ⟨.failed (db.classify (.context e)), w.tick, []⟩
      | none =>
        let ctx' := db.effectiveContext w ctx
        ⟨db.finishOutcome id (db.driverRun w.tick ctx' .ping).reply, db.driverWorld w.tick ctx' .ping,
          db.driverTrace w.tick ctx' .ping⟩ := by
  have hrun : (db.ping ctx).run w =
      ((db.dispatchLive (db.effectiveContext w ctx) .ping).run w.tick).andThen fun r =>
        ofExcept (r.mapError db.classify) := rfl
  have htick : w.tick.env = w.env.tick := rfl
  rw [hrun, run_dispatchLive, refusal?, htick]
  cases (db.effectiveContext w ctx).err w.env.tick with
  | some e => rfl
  | none =>
      dsimp only
      rw [run_dispatch]
      cases (db.driverRun w.tick (db.effectiveContext w ctx) .ping).reply <;>
        simp [replyOutcome, finishOutcome, resultOutcome, SessionRun.after]

theorem contacts_ping : ((db.ping ctx).run w).trace.filterMap Event.contact? = db.pingContacts w ctx := by
  rw [run_ping, pingContacts]
  cases db.refusal? w ctx with
  | some e => rfl
  | none => exact db.contacts_driverTrace w.tick _ .ping

theorem unheard_ping : ((db.ping ctx).run w).Unheard w := by
  rw [run_ping]
  cases db.refusal? w ctx with
  | some e => exact ⟨rfl, rfl⟩
  | none => exact ⟨db.noHook_driverTrace w.tick _ .ping, rfl⟩

theorem run_giveUp (e : Error) :
    (db.giveUp e).run w =
      ⟨match (db.driverRun w .background .close).reply with
        | .never => .stuck
        | _ => .failed e,
        db.driverWorld w .background .close,
        .log (.firstPingFailed e) :: db.driverTrace w .background .close⟩ := by
  have hrun : (db.giveUp e).run w =
      (((db.dispatch .background .close).run w).andThen fun _ => fail e).after [.log (.firstPingFailed e)] := rfl
  rw [hrun, run_dispatch]
  cases (db.driverRun w .background .close).reply <;> simp [replyOutcome, SessionRun.after]

theorem run_probe :
    (db.probe ctx).run w =
      let p := (db.ping ctx).run w
      match db.raw? w ctx .ping with
      | some (.ok ()) => ⟨.value db, p.world, p.trace⟩
      | some (.error e) => ((db.giveUp (db.classify e)).run p.world).after p.trace
      | none => ⟨.stuck, p.world, p.trace⟩ := by
  have houtcome := db.outcome_ping w ctx
  rw [probe, run_bind, run_attempt]
  generalize (db.ping ctx).run w = p at houtcome
  rw [houtcome]
  cases db.raw? w ctx .ping with
  | none => rfl
  | some raw =>
      cases raw with
      | ok u => simp [resultOutcome, attempted, afterPing, SessionRun.after]
      | error e => rfl

/-- A driver is closed once if its first ping fails, and not at all if it does not. -/
theorem contacts_probe :
    ((db.probe ctx).run w).contacts =
      db.pingContacts w ctx ++
        match db.raw? w ctx .ping with
        | some (.error _) => [.call .close .background]
        | _ => [] := by
  have hping := db.contacts_ping w ctx
  rw [run_probe]
  cases db.raw? w ctx .ping with
  | none => rw [SessionRun.contacts_mk, hping, List.append_nil]
  | some raw =>
      cases raw with
      | ok u => rw [SessionRun.contacts_mk, hping, List.append_nil]
      | error e =>
          rw [SessionRun.contacts_after, hping, run_giveUp, SessionRun.contacts_mk, List.filterMap_cons,
            contacts_driverTrace]
          rfl

/-- What comes of the probe. A driver that is never done with closing keeps it from coming to an end. -/
theorem outcome_probe :
    ((db.probe ctx).run w).outcome =
      match db.raw? w ctx .ping with
      | some (.ok ()) => .value db
      | some (.error e) =>
        match db.closeReply w ctx with
        | .never => .stuck
        | _ => .failed (db.classify e)
      | none => .stuck := by
  rw [run_probe]
  cases db.raw? w ctx .ping with
  | none => rfl
  | some raw =>
      cases raw with
      | ok u => rfl
      | error e =>
          rw [SessionRun.outcome_after, run_giveUp]
          rfl

theorem course_probe (factory dsn : String) :
    let r := ((db.probe ctx).run w).after [.opened factory dsn]
    let asked := Contact.connect factory dsn
    let ping := db.pingContacts w ctx
    (db.raw? w ctx .ping = some (.ok ()) → r.outcome = .value db ∧ r.contacts = asked :: ping) ∧
    (∀ e, db.raw? w ctx .ping = some (.error e) →
      r.contacts = asked :: (ping ++ [.call .close .background]) ∧
      (db.closeReply w ctx ≠ .never → r.outcome = .failed (db.classify e)) ∧
      (db.closeReply w ctx = .never → r.outcome = .stuck)) ∧
    (db.raw? w ctx .ping = none → r.outcome = .stuck ∧ r.contacts = asked :: ping) := by
  have houtcome := db.outcome_probe w ctx
  have hcontacts := db.contacts_probe w ctx
  dsimp only
  rw [SessionRun.outcome_after, SessionRun.contacts_after, houtcome, hcontacts]
  refine ⟨fun h => ?_, fun e h => ?_, fun h => ?_⟩
  · rw [h]
    exact ⟨rfl, by rw [List.append_nil]; rfl⟩
  · rw [h]
    refine ⟨rfl, fun hclose => ?_, fun hclose => ?_⟩
    · cases hreply : db.closeReply w ctx with
      | never => exact absurd hreply hclose
      | ok => rfl
      | error => rfl
    · rw [hclose]
  · rw [h]
    exact ⟨rfl, by rw [List.append_nil]; rfl⟩

theorem unheard_probe : ((db.probe ctx).run w).Unheard w := by
  have hping := db.unheard_ping w ctx
  rw [run_probe]
  cases db.raw? w ctx .ping with
  | none => exact hping
  | some raw =>
      cases raw with
      | ok u => exact hping
      | error e =>
          refine SessionRun.Unheard.after ?_ hping.2 hping.1
          rw [run_giveUp]
          exact ⟨db.noHook_driverTrace _ .background .close, rfl⟩

/-- The context for the first ping. -/
def probeContext (env : Env) : Context := Context.background.withTimeout env openPingTimeout

theorem effectiveContext_probe :
    db.effectiveContext w (probeContext w.env) =
      ⟨(laterBy? w.env.now openPingTimeout).or (db.config.defaultDeadline? w.env), none⟩ := by
  rw [effectiveContext, Context.orTimeout_eq, probeContext, Context.withTimeout]
  cases laterBy? w.env.now openPingTimeout <;> rfl

/-- One ping at most, with a deadline no further away than that of a first ping. It has one unless the clock ends
before. -/
def Hasty (env : Env) (asked : List Contact) : Prop :=
  asked = [] ∨
    ∃ ctx, asked = [.call .ping ctx] ∧ ctx.signal = none ∧
      (∀ t, ctx.deadline = some t → t ≤ env.now + openPingTimeout.ns) ∧
      (env.now + openPingTimeout.ns ≤ lastInstant → ctx.deadline = some (env.now + openPingTimeout.ns))

/-- **The first ping is in haste**, whatever the default timeout is. -/
theorem hasty_probe : Hasty w.env (db.pingContacts w (probeContext w.env)) := by
  rw [pingContacts]
  split
  · exact .inl rfl
  · refine .inr ⟨_, rfl, ?_⟩
    rw [effectiveContext_probe, Config.defaultDeadline?_eq, laterBy?]
    refine ⟨rfl, fun t ht => ?_, fun hlast => by rw [if_pos hlast]; rfl⟩
    split at ht
    case isTrue =>
      cases ht
      exact Nat.le_refl _
    case isFalse hlast =>
      -- the clock can name the end of the default timeout, but not that of the ping's own
      dsimp only [Option.none_or] at ht
      split at ht
      · split at ht
        case isTrue h =>
          cases ht
          exact Nat.le_trans h.2 (Nat.le_of_not_le hlast)
        case isFalse => cases ht
      · cases ht

end probe

/-! ### From the settings on -/

section opening

variable (registry : Registry δ) (config : Config) (hooks : List (Hook σ ν)) (w : World δ σ)

/-- The world when a factory has been asked to connect. -/
def connected (f : Factory δ) : World δ σ :=
  let r := f.connect config w.env w.driver
  { w with env := r.env, driver := r.state }

theorem run_connect (f : Factory δ) :
    (connect f config : SessionM δ σ ν (Driver δ)).run w =
      ⟨resultOutcome (f.connect config w.env w.driver).answer, connected config w f,
        [.opened f.name config.dsn]⟩ := by
  have hrun : (connect f config : SessionM δ σ ν (Driver δ)).run w = connect f config w := rfl
  rw [hrun, connect, connected]
  obtain ⟨answer, env, state⟩ := f.connect config w.env w.driver
  cases answer <;> rfl

/-- To open is to choose a factory, to connect by it, and to probe what it has connected. -/
theorem openWith_eq :
    (openWith registry config hooks : SessionM δ σ ν (Database δ σ ν)) =
      ofExcept (registry.choose config) >>= fun f =>
        connect f config >>= fun d => env >>= fun e => (fresh f config hooks d).probe (probeContext e) := by
  have hafter (db : Database δ σ ν) : db.afterPing = (fun
      | .ok () => pure db
      | .error e => do
        log (.firstPingFailed e)
        let _ ← db.dispatch .background .close
        fail e) := by
    funext r
    cases r <;> rfl
  unfold openWith Registry.choose Config.validate
  cases config.fault? with
  | some fault => rfl
  | none =>
      cases config.dsn.isEmpty with
      | true => rfl
      | false =>
          show (ofExcept (registry.lookup config.driver) >>= _) = _
          simp only [probe, hafter]
          rfl

variable {registry config}

theorem run_openWith_of_refused {e : Error} (h : registry.choose config = .error e) :
    (openWith registry config hooks : SessionM δ σ ν _).run w = ⟨.failed e, w, []⟩ := by
  rw [openWith_eq, run_bind, run_ofExcept, h]
  rfl

variable {f : Factory δ} (hf : registry.choose config = .ok f)
include hf

theorem run_openWith_of_chosen :
    (openWith registry config hooks : SessionM δ σ ν _).run w =
      ((connect f config).run w).andThen fun d =>
        env >>= fun e => (fresh f config hooks d).probe (probeContext e) := by
  rw [openWith_eq, run_bind, run_ofExcept, hf, resultOutcome, SessionRun.andThen_value,
    SessionRun.after_nil, run_bind]

theorem run_openWith_of_unconnected {e : Error} (hconnect : (f.connect config w.env w.driver).answer = .error e) :
    (openWith registry config hooks : SessionM δ σ ν _).run w =
      ⟨.failed e, connected config w f, [.opened f.name config.dsn]⟩ := by
  rw [run_openWith_of_chosen hooks w hf, run_connect, hconnect, resultOutcome, SessionRun.andThen_failed]

theorem run_openWith_of_connected {d : Driver δ} (hconnect : (f.connect config w.env w.driver).answer = .ok d) :
    (openWith registry config hooks : SessionM δ σ ν _).run w =
      (((fresh f config hooks d).probe (probeContext (connected config w f).env)).run (connected config w f)).after
        [.opened f.name config.dsn] := by
  rw [run_openWith_of_chosen hooks w hf, run_connect, hconnect, resultOutcome, SessionRun.andThen_value,
    run_bind, run_env, SessionRun.andThen_value, SessionRun.after_nil]

omit hf

/-- What comes of opening a driver by options: what comes of opening it by settings that name the driver and the
place that its factory makes of the options. -/
theorem run_openWithOptions (driver : String) (options : ConnectionOptions) :
    (openWithOptions registry driver options config hooks : SessionM δ σ ν _).run w =
      match registry.lookup driver with
      | .error e => ⟨.failed e, w, []⟩
      | .ok f =>
        match f.dsn options with
        | .error e => ⟨.failed (.config (.unbuildableDsn e.message)), w, []⟩
        | .ok dsn => (openWith registry { config with driver := driver, dsn := dsn } hooks).run w := by
  rw [openWithOptions, run_bind, run_ofExcept]
  cases registry.lookup driver with
  | error e => rfl
  | ok f =>
      dsimp only
      rw [resultOutcome, SessionRun.andThen_value, SessionRun.after_nil, run_bind, run_ofExcept]
      cases f.dsn options with
      | error e => rfl
      | ok dsn => rfl

theorem unheard_openWith (registry : Registry δ) (config : Config) (hooks : List (Hook σ ν)) (w : World δ σ) :
    ((openWith registry config hooks).run w).Unheard w := by
  cases hchoose : registry.choose config with
  | error e =>
      rw [run_openWith_of_refused hooks w hchoose]
      exact ⟨rfl, rfl⟩
  | ok f =>
      cases hconnect : (f.connect config w.env w.driver).answer with
      | error e =>
          rw [run_openWith_of_unconnected hooks w hchoose hconnect]
          exact ⟨rfl, rfl⟩
      | ok d =>
          rw [run_openWith_of_connected hooks w hchoose hconnect]
          exact SessionRun.Unheard.after (unheard_probe _ _ _) rfl rfl

theorem openWith_of_unfit
    (h : config.fault?.isSome ∨ config.dsn.isEmpty = true ∨ registry.find? config.driver = none) :
    let r := (openWith registry config hooks).run w
    (∃ fault, r.outcome = .failed (.config fault)) ∧ r.contacts = [] := by
  cases hchoose : registry.choose config with
  | error e =>
      obtain ⟨fault, rfl⟩ := Registry.choose_eq_error hchoose
      rw [run_openWith_of_refused hooks w hchoose]
      exact ⟨⟨fault, rfl⟩, rfl⟩
  | ok f =>
      obtain ⟨hfault, hdsn, hfind⟩ := Registry.choose_eq_ok_iff.mp hchoose
      simp [hfault, hdsn, hfind] at h

/-- **Opening cleans up after itself.** The hooks are told nothing. When the settings have a fault, the connection
string is empty or no driver of that name is known, nothing is asked of anybody and a fault of the configuration
comes back. Otherwise the factory of that name is asked once to connect, with these settings. If it refuses, nobody
is asked anything else. If it connects, the driver is asked once at most for a sign of life, in haste; a driver that
gives it is handed out, and one that does not is closed once, and the mapped reason comes back, be it closed in
vain. Opening by options does the same with the driver and the place that they name. -/
theorem opening_cleans_up (registry : Registry δ) (config : Config) (hooks : List (Hook σ ν)) (w : World δ σ) :
    let r := (openWith registry config hooks).run w
    r.Unheard w ∧
    (config.fault?.isSome ∨ config.dsn.isEmpty = true ∨ registry.find? config.driver = none →
      (∃ fault, r.outcome = .failed (.config fault)) ∧ r.contacts = []) ∧
    (∀ f, config.fault? = none → config.dsn.isEmpty = false → registry.find? config.driver = some f →
      let answer := (f.connect config w.env w.driver).answer
      let asked := Contact.connect f.name config.dsn
      (∀ fs, registry.Holds fs → f.name = config.driver) ∧
      (∀ e, answer = .error e → r.outcome = .failed e ∧ r.contacts = [asked]) ∧
      ∀ d, answer = .ok d →
        let db := fresh f config hooks d
        let w' := connected config w f
        let ping := db.pingContacts w' (probeContext w'.env)
        Hasty w'.env ping ∧
        (db.raw? w' (probeContext w'.env) .ping = some (.ok ()) →
          r.outcome = .value db ∧ r.contacts = asked :: ping) ∧
        (∀ e, db.raw? w' (probeContext w'.env) .ping = some (.error e) →
          r.contacts = asked :: (ping ++ [.call .close .background]) ∧
          (db.closeReply w' (probeContext w'.env) ≠ .never →
            r.outcome = .failed ((Mapper.forDriver f.mapper).map (.raw e))) ∧
          (db.closeReply w' (probeContext w'.env) = .never → r.outcome = .stuck)) ∧
        (db.raw? w' (probeContext w'.env) .ping = none → r.outcome = .stuck ∧ r.contacts = asked :: ping)) ∧
    ∀ driver options,
      let r := (openWithOptions registry driver options config hooks).run w
      (registry.find? driver = none →
        (∃ fault, r.outcome = .failed (.config fault)) ∧ r.contacts = [] ∧ r.Unheard w) ∧
      ∀ f, registry.find? driver = some f →
        match f.dsn options with
        | .error e =>
          r.outcome = .failed (.config (.unbuildableDsn e.message)) ∧ r.contacts = [] ∧ r.Unheard w
        | .ok dsn => r = (openWith registry { config with driver := driver, dsn := dsn } hooks).run w := by
  intro r
  refine ⟨unheard_openWith registry config hooks w, openWith_of_unfit hooks w, ?_, ?_⟩
  · intro f hfault hdsn hfind answer asked
    have hchoose := Registry.choose_eq_ok_iff.mpr ⟨hfault, hdsn, hfind⟩
    refine ⟨fun fs h => h.name_of_find? hfind, fun e he => ?_, fun d hd => ?_⟩
    · rw [show r = _ from run_openWith_of_unconnected hooks w hchoose he]
      exact ⟨rfl, rfl⟩
    · intro db w' ping
      refine ⟨db.hasty_probe w', ?_⟩
      rw [show r = _ from run_openWith_of_connected hooks w hchoose hd]
      exact db.course_probe w' (probeContext w'.env) f.name config.dsn
  · intro driver options r'
    have hr' : r' = _ := run_openWithOptions hooks w driver options
    rw [hr']
    refine ⟨fun hfind => ?_, fun f hfind => ?_⟩
    · rw [Registry.lookup, hfind]
      exact ⟨⟨_, rfl⟩, rfl, rfl, rfl⟩
    · rw [Registry.lookup, hfind]
      dsimp only
      cases f.dsn options with
      | error e => exact ⟨rfl, rfl, rfl, rfl⟩
      | ok dsn => rfl

end opening

section dying

/-- A connection that PostgreSQL did not accept. -/
def refusal : BackendError := ⟨"connection refused", some .postgres, some "08006", none, []⟩

/-- A driver that answers no ping and cannot be closed. -/
def dead : Driver Scripted.State where
  dialect := .postgres
  run c _ env state :=
    let error := match c with
      | .close => diskError
      | _ => .backend refusal
    ⟨.error error, env, state, []⟩
  stats _ := .none

/-- A factory whose drivers are dead. It takes a second to connect them. -/
def dying : Factory Scripted.State where
  name := "dying"
  dsn _ := .ok "dying://"
  mapper := .ofFunction id
  connect _ env state := ⟨.ok dead, { env with now := env.now + 1000000000 }, state⟩

/-- The registry with this factory. -/
def mortuary : Registry Scripted.State := (Registry.empty.replace dying).2

/-- Settings that name the factory, with a default timeout of a minute. -/
def deathbed : Config := { Config.new "dying" "dying://" with defaultTimeout := some (.ofSeconds 60) }

/-- The world when a dead driver has been connected. -/
def vigil : World Scripted.State Unit := connected deathbed quiet dying

theorem refusal?_dead :
    (fresh dying deathbed ([] : List (Hook Unit Unit)) dead).refusal? vigil (probeContext vigil.env) = none := by
  decide +kernel

theorem pingContacts_dead :
    (fresh dying deathbed ([] : List (Hook Unit Unit)) dead).pingContacts vigil (probeContext vigil.env) ≠ [] := by
  rw [pingContacts, refusal?_dead]
  nofun

theorem raw?_dead :
    (fresh dying deathbed ([] : List (Hook Unit Unit)) dead).raw? vigil (probeContext vigil.env) .ping =
      some (.error (.backend refusal)) := by
  rw [raw?_eq, refusal?_dead]
  rfl

/-- A dead driver is pinged within five seconds of being connected, not within the minute of the default timeout, and
closed. What comes back is the
error of the ping. -/
theorem opening_cleans_up_of_dying :
    let r := (openWith mortuary deathbed ([] : List (Hook Unit Unit))).run quiet
    deathbed.fault? = none ∧ deathbed.dsn.isEmpty = false ∧ mortuary.find? deathbed.driver = some dying ∧
      r.contacts =
        [.connect "dying" "dying://", .call .ping ⟨some 6000000000, none⟩, .call .close .background] ∧
      r.outcome = .failed (.ofKind .connectionFailed (.backend refusal)) := by
  intro r
  have hfault : deathbed.fault? = none := by decide +kernel
  have hdsn : deathbed.dsn.isEmpty = false := by decide +kernel
  have hfind : mortuary.find? deathbed.driver = some dying := rfl
  have hclock : vigil.env.now + openPingTimeout.ns ≤ lastInstant := by decide
  obtain ⟨-, -, hopened, -⟩ := opening_cleans_up mortuary deathbed ([] : List (Hook Unit Unit)) quiet
  obtain ⟨-, -, hconnected⟩ := hopened dying hfault hdsn hfind
  obtain ⟨hping, -, hfailed, -⟩ := hconnected dead rfl
  obtain ⟨hcontacts, houtcome, -⟩ := hfailed (.backend refusal) raw?_dead
  obtain hnone | ⟨⟨deadline, signal⟩, hping, hsignal, -, hdeadline⟩ := hping
  · exact absurd hnone pingContacts_dead
  · have hlate : deadline = some 6000000000 := hdeadline hclock
    rw [hping, hlate, show signal = none from hsignal] at hcontacts
    exact ⟨hfault, hdsn, hfind, hcontacts, houtcome nofun⟩

end dying

end Database

end DbAccess
