import GatedRelay.Command.Run
import GatedRelay.Proofs.Attempts
import GatedRelay.Proofs.Republishing
import GatedRelay.Proofs.RoutePaths

/-!
# What is found valid and what can be started

The commands that check a configuration and that start a relay load the same settings and compile
the same programs. Without a topic to publish to, the second one asks for one thing more: the path
of the relay has to be a route. The check of the settings looks at the first character of the path
only, so a configuration may be found valid that takes the relay down on its way up.
-/

namespace GatedRelay

open Attempt

namespace Command

section Stages

variable {m : Type → Type} [Monad m]

/-- What loaded settings make ready. -/
def readyOf (args : ServeArgs) (loaded : Attempt StartupError (Settings × Option CachedToken)) :
    Attempt StartupError (Settings × Service) :=
  loaded.bind fun l => (serviceOf args l.1 l.2).map fun service => (l.1, service)

/-- All that a relay does before it listens. -/
def ready (host : Host m) (args : ServeArgs) : m (Attempt StartupError (Settings × Service)) := do
  let loaded ← loadSettings host args.toValidateArgs
  return readyOf args loaded

/-- What it does then, unless something has failed. -/
def listen (host : Host m) (args : ServeArgs) :
    Attempt StartupError (Settings × Service) → m Report
  | .error e => return ⟨"", .error e⟩
  | .ok (settings, service) => do
    match ← host.bind args.host args.port with
    | none => return ⟨"", .fail (.notBound args.host args.port)⟩
    | some address =>
      return ⟨s!"json2pubsub listening on http://{address}{settings.handlerPath}\n",
        .ok (.serving service)⟩

/-- What the check says of loaded settings. -/
def verdictOf (loaded : Attempt StartupError (Settings × Option CachedToken)) : Report :=
  match loaded.bind fun l => programsOf l.1 false with
  | .ok ps => ⟨summary ps, .ok .done⟩
  | .error e => ⟨"", .error e⟩

lemma prepare_eq [LawfulMonad m] (host : Host m) (args : ServeArgs) :
    prepare host args = ready host args >>= listen host args := by
  unfold prepare ready
  simp only [bind_assoc, pure_bind]
  congr 1
  funext loaded
  rcases loaded with e | ⟨settings, token⟩
  · rfl
  · dsimp only [readyOf, Except.bind]
    cases serviceOf args settings token <;> rfl

lemma runValidate_eq (host : Host m) (args : ValidateArgs) :
    runValidate host args = loadSettings host args >>= fun loaded => pure (verdictOf loaded) := by
  unfold runValidate verdictOf
  congr 1
  funext loaded
  cases loaded.bind fun l => programsOf l.1 false <;> rfl

end Stages

section DryRun

variable {args : ServeArgs} {s : Settings} {token : Option CachedToken}

lemma serviceOf_of_error (hdry : args.dryRun = true) {f : Fault StartupError}
    (h : programsOf s false = .error f) : serviceOf args s token = .error f := by
  unfold serviceOf
  rw [hdry, Bool.not_true, h]
  rfl

/-- Without a topic, nothing but the path can go wrong once the programs are there. -/
lemma serviceOf_of_programs (hdry : args.dryRun = true) {ps : Expr.ProgramSet}
    (h : programsOf s false = .ok ps) :
    serviceOf args s token = (orAbort (Mount.ofPath? s.handlerPath)).map fun mount =>
      ⟨ps, .dryRun, mount, s.maxBodyBytes, token⟩ := by
  unfold serviceOf publisherOf
  rw [hdry, if_pos rfl, Bool.not_true, h]
  cases Mount.ofPath? s.handlerPath <;> rfl

/-- How the check and the start of a relay without a topic end: with the same failure, with a
relay that is ready, or with a path that is no route. -/
inductive Endings (args : ServeArgs)
    (loaded : Attempt StartupError (Settings × Option CachedToken)) : Prop
  | failed (f : Fault StartupError) (hv : verdictOf loaded = ⟨"", .error f⟩)
      (hr : readyOf args loaded = .error f)
  | ready (s : Settings) (token : Option CachedToken) (ps : Expr.ProgramSet) (mount : Mount)
      (hl : loaded = .ok (s, token)) (hps : programsOf s false = .ok ps)
      (hroute : Route.IsRoutePath s.handlerPath) (hv : verdictOf loaded = ⟨summary ps, .ok .done⟩)
      (hr : readyOf args loaded = .ok (s, ⟨ps, .dryRun, mount, s.maxBodyBytes, token⟩))
  | noRoute (s : Settings) (token : Option CachedToken) (ps : Expr.ProgramSet)
      (hl : loaded = .ok (s, token)) (hroute : ¬Route.IsRoutePath s.handlerPath)
      (hv : verdictOf loaded = ⟨summary ps, .ok .done⟩) (hr : readyOf args loaded = .error .aborted)

lemma endings (hdry : args.dryRun = true)
    (loaded : Attempt StartupError (Settings × Option CachedToken)) : Endings args loaded := by
  rcases loaded with f | ⟨s, token⟩
  · exact .failed f rfl rfl
  · have hready : readyOf args (.ok (s, token)) =
        (serviceOf args s token).map fun service => (s, service) := rfl
    cases hps : programsOf s false with
    | error f =>
      rw [serviceOf_of_error hdry hps] at hready
      refine .failed f ?_ hready
      simp only [verdictOf, Except.bind, hps]
    | ok ps =>
      have hverdict : verdictOf (.ok (s, token)) = ⟨summary ps, .ok .done⟩ := by
        simp only [verdictOf, Except.bind, hps]
      rw [serviceOf_of_programs hdry hps] at hready
      have hroute := Route.ofPath?_isSome_iff s.handlerPath
      cases hmount : Mount.ofPath? s.handlerPath with
      | none =>
        rw [hmount] at hready hroute
        exact .noRoute s token ps rfl (by simpa using hroute) hverdict hready
      | some mount =>
        rw [hmount] at hready hroute
        exact .ready s token ps mount rfl hps (by simpa using hroute) hverdict hready

/-- The settings are loaded, and their path is a route. -/
def HasRoute (loaded : Attempt StartupError (Settings × Option CachedToken)) : Prop :=
  ∃ s token, loaded = .ok (s, token) ∧ Route.IsRoutePath s.handlerPath

variable {loaded : Attempt StartupError (Settings × Option CachedToken)}

lemma not_hasRoute (hl : loaded = .ok (s, token)) (hroute : ¬Route.IsRoutePath s.handlerPath) :
    ¬HasRoute loaded := by
  rintro ⟨s', token', hl', hroute'⟩
  cases hl.symm.trans hl'
  exact hroute hroute'

lemma exists_readyOf_iff (hdry : args.dryRun = true) : (∃ r, readyOf args loaded = .ok r) ↔
    (verdictOf loaded).result = .ok .done ∧ HasRoute loaded := by
  cases endings hdry loaded with
  | failed f hv hr => simp [hv, hr]
  | ready s token ps mount hl hps hroute hv hr =>
    have hhas : HasRoute loaded := ⟨s, token, hl, hroute⟩
    simp [hv, hr, hhas]
  | noRoute s token ps hl hroute hv hr => simp [hr, not_hasRoute hl hroute]

lemma checked_of_readyOf (hdry : args.dryRun = true) {service : Service}
    (h : readyOf args loaded = .ok (s, service)) :
    (∃ token, loaded = .ok (s, token)) ∧ programsOf s false = .ok service.programs ∧
      (verdictOf loaded).output = summary service.programs := by
  cases endings hdry loaded with
  | failed f hv hr => cases hr.symm.trans h
  | ready s token ps mount hl hps hroute hv hr =>
    cases hr.symm.trans h
    exact ⟨⟨token, hl⟩, hps, congrArg Report.output hv⟩
  | noRoute s token ps hl hroute hv hr => cases hr.symm.trans h

lemma readyOf_of_verdictOf_error (hdry : args.dryRun = true) {f : Fault StartupError}
    (h : (verdictOf loaded).result = .error f) : readyOf args loaded = .error f := by
  cases endings hdry loaded with
  | failed f' hv hr =>
    rw [hv] at h
    cases h
    exact hr
  | ready s token ps mount hl hps hroute hv hr =>
    rw [hv] at h
    cases h
  | noRoute s token ps hl hroute hv hr =>
    rw [hv] at h
    cases h

lemma readyOf_of_not_hasRoute (hdry : args.dryRun = true)
    (h : (verdictOf loaded).result = .ok .done) (hno : ¬HasRoute loaded) :
    readyOf args loaded = .error .aborted := by
  cases endings hdry loaded with
  | failed f hv hr =>
    rw [hv] at h
    cases h
  | ready s token ps mount hl hps hroute hv hr => exact (hno ⟨s, token, hl, hroute⟩).elim
  | noRoute s token ps hl hroute hv hr => exact hr

end DryRun

section Runs

variable {σ : Type} (host : Host (StateM σ))

lemma run_runValidate (args : ValidateArgs) (w : σ) : (runValidate host args).run w =
    (verdictOf ((loadSettings host args).run w).1, ((loadSettings host args).run w).2) := by
  rw [runValidate_eq]
  rfl

lemma run_ready (args : ServeArgs) (w : σ) : (ready host args).run w =
    (readyOf args ((loadSettings host args.toValidateArgs).run w).1,
      ((loadSettings host args.toValidateArgs).run w).2) := rfl

end Runs

/-- A relay that needs no topic gets as far as listening if and only if its configuration is found
valid and its path is a route; it has then the settings and the programs that were checked. What
makes a configuration invalid makes the start fail too, and a path that is no route makes it
abort. -/
theorem starts_iff_valid {σ : Type} (host : Host (StateM σ)) (args : ServeArgs) (w : σ) :
    let dry := { args with dryRun := true }
    let loaded := ((loadSettings host args.toValidateArgs).run w).1
    let checked := (runValidate host args.toValidateArgs).run w
    let started := (ready host dry).run w
    prepare host dry = ready host dry >>= listen host dry ∧
      checked.2 = started.2 ∧
      ((∃ r, started.1 = .ok r) ↔ checked.1.result = .ok .done ∧ HasRoute loaded) ∧
      (∀ s service, started.1 = .ok (s, service) →
        (∃ token, loaded = .ok (s, token)) ∧ programsOf s false = .ok service.programs ∧
          checked.1.output = summary service.programs) ∧
      (∀ f, checked.1.result = .error f → started.1 = .error f) ∧
      (checked.1.result = .ok .done → ¬HasRoute loaded → started.1 = .error .aborted) := by
  dsimp only
  rw [run_runValidate, run_ready]
  exact ⟨prepare_eq host _, rfl, exists_readyOf_iff rfl, fun s service => checked_of_readyOf rfl,
    fun f => readyOf_of_verdictOf_error rfl, readyOf_of_not_hasRoute rfl⟩

/-- A host with no files, on which nobody answers. -/
def bareHost : Host (StateM Unit) where
  load _ := pure none
  occupied _ := pure false
  store _ _ := pure false
  bind host _ := pure (some host)
  send _ := pure .unreachable
  clock := pure 0

/-- Arguments with a path that has a mark without a name. -/
def namelessArgs : ServeArgs where
  config := none
  options := { Options.empty with
    handlerPath := some "/:", control := some "true", message := some "request.json" }
  access := ⟨none, none, none, none, none⟩
  port := 0
  host := "127.0.0.1"
  dryRun := true

/-- What they come to. -/
def namelessSettings : Settings where
  project := none
  topic := none
  handlerPath := "/:"
  maxBodyBytes := Settings.defaultMaxBodyBytes
  control := some "true"
  message := some "request.json"
  response := none

/-- What is found valid may take the relay down. -/
theorem valid_nameless_aborts :
    ((runValidate bareHost namelessArgs.toValidateArgs).run ()).1.result = .ok .done ∧
      ((prepare bareHost namelessArgs).run ()).1.result = .error .aborted := by
  have hloaded : (loadSettings bareHost namelessArgs.toValidateArgs).run () =
      (.ok (namelessSettings, none), ()) := rfl
  have hvalid : namelessSettings.validate false = .ok () := rfl
  have hset := Expr.ProgramSet.compile_of_programs Expr.compile_true Expr.compile_requestJson
  have hps : programsOf namelessSettings false = .ok _ :=
    bind_eq_ok_iff.mpr ⟨(), by rw [hvalid]; rfl, mapFailure_eq_ok_iff.mpr hset⟩
  have hmount : Mount.ofPath? namelessSettings.handlerPath = none := by decide
  constructor
  · rw [run_runValidate, hloaded]
    simp only [verdictOf, Except.bind, hps]
  · have hready : readyOf namelessArgs (.ok (namelessSettings, none)) = .error .aborted := by
      have hdry : namelessArgs.dryRun = true := rfl
      simp only [readyOf, Except.bind, serviceOf_of_programs hdry hps, hmount]
      rfl
    rw [prepare_eq, StateT.run_bind, run_ready, hloaded, hready]
    rfl

end Command

end GatedRelay
