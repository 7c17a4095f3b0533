import GatedRelay.Command.Line
import GatedRelay.Command.StartupError
import GatedRelay.Config.Template
import GatedRelay.Publish.PubSub
import GatedRelay.Secret.Manager
import GatedRelay.Web.Handler

/-!
Commands: checking the configuration, writing a configuration to start from, and getting ready to
serve. What lies outside, such as files and other servers, is reached through a host.
-/

namespace GatedRelay

/-- What a command can do outside. -/
structure Host (m : Type → Type) where
  /-- The bytes of a file, if it can be read. -/
  load : String → m (Option Bytes)
  /-- Whether there is something at a path. -/
  occupied : String → m Bool
  /-- Whether a file could be written. -/
  store : String → Bytes → m Bool
  /-- The address that is listened on, if it could be bound. -/
  bind : String → Nat → m (Option String)
  send : Call → m Reply
  clock : m Nat

/-- How messages leave the relay. -/
inductive Publisher
  | pubsub (p : PubSub)
  | dryRun
  deriving DecidableEq

/-- A relay that is ready to serve, and where it listens. -/
structure Service where
  programs : Expr.ProgramSet
  publisher : Publisher
  mount : Mount
  maxBodyBytes : Nat
  /-- The token that was fetched on the way here. -/
  token : Option CachedToken

inductive Finish
  | done
  | serving (s : Service)

/-- What a command writes to its output, and how it ends. -/
structure Report where
  output : String
  result : Attempt StartupError Finish

namespace Command

variable {m : Type → Type} [Monad m]

def lift {ε α : Type} (f : ε → StartupError) : Except ε α → Attempt StartupError α
  | .ok a => .ok a
  | .error e => .fail (f e)

/-- The options of the configuration file, if there is to be one. -/
def loadOptions (host : Host m) (config : Option String) : m (Attempt StartupError Options) :=
  match config with
  | none => pure (.ok .empty)
  | some path => do
    match (← host.load path).bind Utf8.decode? with
    | none => return .fail (.unreadableConfig path)
    | some cs =>
      match Options.ofText? (String.ofList cs) with
      | none => return .fail (.badConfig path)
      | some o => return .ok o

/-- Reads a secret over the network of a host, with the cache of tokens as a state. -/
def accessSecret (host : Host m) (s : SecretManager) (name : String) :
    StateT (Option CachedToken) m (Attempt SecretError String) :=
  fun cache => (s.access name cache).run host.send host.clock

/-- The settings in force, with secrets in place, and the token that was fetched for them. -/
def loadSettings (host : Host m) (args : ValidateArgs) :
    m (Attempt StartupError (Settings × Option CachedToken)) := do
  match ← loadOptions host args.config with
  | .error e => return .error e
  | .ok file =>
    let manager := SecretManager.create args.access.secretAddress args.access.credentials
    let settings := Settings.merge args.options file
    let ((result, settings), cache) ← (settings.resolve (accessSecret host manager)).run none
    return (result.mapFailure .secret).map fun _ => (settings, cache)

/-- Checks settings and compiles their programs. -/
def programsOf (s : Settings) (requireTopic : Bool) : Attempt StartupError Expr.ProgramSet := do
  lift .settings (s.validate requireTopic)
  (Expr.ProgramSet.compile s.controlText s.messageText s.response).mapFailure .program

def describe (p : Expr.Program) : String := s!"  {p.role.name} ({p.type.name}): {p.source}\n"

/-- What is said of a configuration that is found valid. -/
def summary (ps : Expr.ProgramSet) : String :=
  "Configuration is valid\n" ++ String.join (ps.toList.map describe) ++
    if ps.response.isNone then "  response: none, requests get an empty 200 response\n" else ""

def runValidate (host : Host m) (args : ValidateArgs) : m Report := do
  let loaded ← loadSettings host args
  match loaded.bind fun l => programsOf l.1 false with
  | .ok ps => return ⟨summary ps, .ok .done⟩
  | .error e => return ⟨"", .error e⟩

/-- Writes the template to a path where there is nothing yet. -/
def writeTemplate (host : Host m) (path : Option String) : m Report := do
  let path := path.getD Template.defaultPath
  if ← host.occupied path then return ⟨"", .fail (.occupied path)⟩
  else if ← host.store path (Utf8.ofString Template.text) then
    return ⟨s!"Generated default configuration file: {path}\n", .ok .done⟩
  else return ⟨"", .fail (.unwritable path)⟩

/-- How a relay with some settings publishes. -/
def publisherOf (args : ServeArgs) (s : Settings) : Attempt StartupError Publisher :=
  if args.dryRun then .ok .dryRun
  else
    (lift .topic (PubSub.create args.access.pubsubAddress s.project (s.topic.getD "")
      args.access.credentials)).map .pubsub

/-- The relay that settings describe. A path that is no route ends everything. -/
def serviceOf (args : ServeArgs) (s : Settings) (token : Option CachedToken) :
    Attempt StartupError Service := do
  let programs ← programsOf s (!args.dryRun)
  let publisher ← publisherOf args s
  let mount ← Attempt.orAbort (Mount.ofPath? s.handlerPath)
  return ⟨programs, publisher, mount, s.maxBodyBytes, token⟩

/-- Makes a relay ready and listens; the answers are given by the program that runs it. -/
def prepare (host : Host m) (args : ServeArgs) : m Report := do
  let loaded ← loadSettings host args.toValidateArgs
  match loaded with
  | .error e => return ⟨"", .error e⟩
  | .ok (settings, token) =>
    match serviceOf args settings token with
    | .error e => return ⟨"", .error e⟩
    | .ok service =>
      match ← host.bind args.host args.port with
      | none => return ⟨"", .fail (.notBound args.host args.port)⟩
      | some address =>
        return ⟨s!"json2pubsub listening on http://{address}{settings.handlerPath}\n",
          .ok (.serving service)⟩

def run (host : Host m) : Command → m Report
  | .serve args => prepare host args
  | .validate args => runValidate host args
  | .init path => writeTemplate host path

/-- What is answered to a question for the version. -/
def versionText : String := "json2pubsub 0.3.0"

/-- A validation that fails says so on the error output; the other commands leave that to the
program that runs them. -/
def complaint? (c : Command) (shown : String) : Option String :=
  match c with
  | validate _ => some s!"❌ Configuration validation failed: {shown}\n"
  | _ => none

/-- The first line of the error output for a failure. -/
def failureLine (c : Command) (e : StartupError) : String :=
  (c.complaint? e.message).getD s!"Error: {e.message}\n"

end Command

namespace Report

/-- A command that was aborted has an exit code of its own. -/
def exitCode (r : Report) : Nat :=
  match r.result with
  | .ok _ => 0
  | .error (.failed _) => 1
  | .error .aborted => 101

end Report

/-- The exit code of a command line with a mistake. -/
def mistakeCode : Nat := 2

end GatedRelay
