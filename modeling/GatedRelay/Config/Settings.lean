import GatedRelay.Config.Options
import GatedRelay.Secret.Reference

/-!
Settings: the options of the command line over those of a file. Blank values count as not given,
references to secrets are replaced by what they refer to, and then the settings are checked.
-/

namespace GatedRelay

structure Settings where
  project : Option String
  topic : Option String
  handlerPath : String
  maxBodyBytes : Nat
  control : Option String
  message : Option String
  response : Option String
  deriving DecidableEq

inductive SettingsError
  | noControl
  | noMessage
  | noTopic
  | badHandlerPath (path : String)
  | noBodySize
  deriving DecidableEq

def SettingsError.message : SettingsError → String
  | noControl =>
    "no control expression configured (set CONTROL_CEL, --control-cel or [expressions].control)"
  | noMessage =>
    "no message expression configured (set MESSAGE_CEL, --message-cel or [expressions].message)"
  | noTopic => "no Pub/Sub topic configured (set PUBSUB_TOPIC, --topic or topic)"
  | badHandlerPath path => s!"handler path must start with '/', got '{path}'"
  | noBodySize => "max_body_bytes must be greater than zero"

namespace Settings

def defaultHandlerPath : String := "/"

def defaultMaxBodyBytes : Nat := 1048576

/-- The argument if there is one, else the value of the file; a blank choice counts as none. -/
def pick (args file : Options) (f : Field) : Option String :=
  (args.get? f <|> file.get? f).filter fun v => !Text.isBlankString v

def merge (args file : Options) : Settings where
  project := pick args file .project
  topic := pick args file .topic
  handlerPath := (pick args file .handlerPath).getD defaultHandlerPath
  maxBodyBytes := (args.maxBodyBytes <|> file.maxBodyBytes).getD defaultMaxBodyBytes
  control := pick args file .control
  message := pick args file .message
  response := pick args file .response

def get? (s : Settings) : Field → Option String
  | .project => s.project
  | .topic => s.topic
  | .handlerPath => some s.handlerPath
  | .control => s.control
  | .message => s.message
  | .response => s.response

def set (s : Settings) (f : Field) (v : String) : Settings :=
  match f with
  | .project => { s with project := some v }
  | .topic => { s with topic := some v }
  | .handlerPath => { s with handlerPath := v }
  | .control => { s with control := some v }
  | .message => { s with message := some v }
  | .response => { s with response := some v }

/-- The settings that may refer to secrets, in the order in which they are looked up. -/
def resolvedFields : List Field := [.topic, .handlerPath, .control, .message, .response]

/-- Replaces references in some settings, up to the first that cannot be read. -/
def resolveFields {m : Type → Type} [Monad m] (access : String → m (Attempt SecretError String)) :
    List Field → Settings → m (Attempt SecretFailure Unit × Settings)
  | [], s => pure (.ok (), s)
  | f :: rest, s =>
    match s.get? f with
    | none => resolveFields access rest s
    | some v => do
      match ← Secret.resolve access v with
      | .ok v => resolveFields access rest (s.set f v)
      | .error e => return (.error e, s)

def resolve {m : Type → Type} [Monad m] (access : String → m (Attempt SecretError String))
    (s : Settings) : m (Attempt SecretFailure Unit × Settings) :=
  resolveFields access resolvedFields s

/-- Checks that nothing is missing; whether a topic is needed depends on the use. -/
def validate (s : Settings) (requireTopic : Bool) : Except SettingsError Unit :=
  if s.control.isNone then .error .noControl
  else if s.message.isNone then .error .noMessage
  else if requireTopic ∧ s.topic.isNone then .error .noTopic
  else if s.handlerPath.toList.head? ≠ some '/' then .error (.badHandlerPath s.handlerPath)
  else if s.maxBodyBytes = 0 then .error .noBodySize
  else .ok ()

def controlText (s : Settings) : String := s.control.getD ""

def messageText (s : Settings) : String := s.message.getD ""

end Settings

end GatedRelay
