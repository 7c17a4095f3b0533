import GatedRelay.Config.Access
import GatedRelay.Config.Options

/-!
The command line. Options take the argument after them or the text after an equals sign, and an
option that is not given may be taken from an environment variable. An option given twice, one
that is not known and one with an unreadable value are mistakes.
-/

namespace GatedRelay

/-- The options that take a value. -/
inductive ValueOption
  | config
  | field (f : Field)
  | maxBodyBytes
  | token
  | emulatorHost
  | pubsubEndpoint
  | secretEndpoint
  | tokenUrl
  | logLevel
  | port
  | host
  deriving DecidableEq

namespace ValueOption

def name : ValueOption → String
  | config => "config"
  | field .project => "project"
  | field .topic => "topic"
  | field .handlerPath => "handler-path"
  | field .control => "control-cel"
  | field .message => "message-cel"
  | field .response => "response-cel"
  | maxBodyBytes => "max-body-bytes"
  | token => "access-token"
  | emulatorHost => "pubsub-emulator-host"
  | pubsubEndpoint => "pubsub-endpoint"
  | secretEndpoint => "secret-manager-endpoint"
  | tokenUrl => "metadata-token-url"
  | logLevel => "log-level"
  | port => "port"
  | host => "host"

/-- The environment variable that stands in for an option. -/
def variableName? : ValueOption → Option String
  | field .project => some "GOOGLE_CLOUD_PROJECT"
  | field .topic => some "PUBSUB_TOPIC"
  | field .handlerPath => some "CUSTOM_HANDLER"
  | field .control => some "CONTROL_CEL"
  | field .message => some "MESSAGE_CEL"
  | field .response => some "RESPONSE_CEL"
  | token => some "GOOGLE_OAUTH_ACCESS_TOKEN"
  | emulatorHost => some "PUBSUB_EMULATOR_HOST"
  | port => some "PORT"
  | _ => none

def fields : List ValueOption :=
  [field .project, field .topic, field .handlerPath, field .control, field .message,
    field .response]

/-- The options of every command that reads settings. -/
def shared : List ValueOption :=
  config :: fields ++
    [maxBodyBytes, token, emulatorHost, pubsubEndpoint, secretEndpoint, tokenUrl, logLevel]

/-- The options of the command that serves. -/
def serving : List ValueOption := shared ++ [port, host]

def levels : List String := ["none", "error", "warn", "info", "debug", "trace"]

/-- A number below a bound; a plus sign may stand in front. -/
def readBelow? (bound : Nat) (s : String) : Option Nat :=
  match Numeral.readUnsigned? 10 s.toList with
  | some n => if n < bound then some n else none
  | none => none

/-- The same, but zero may be written with a minus sign. -/
def readPort? (s : String) : Option Nat :=
  match Numeral.readSigned? s.toList with
  | some i => if 0 ≤ i ∧ i < 65536 then some i.toNat else none
  | none => none

def accepts (o : ValueOption) (v : String) : Bool :=
  match o with
  | maxBodyBytes => (readBelow? 0x10000000000000000 v).isSome
  | port => (readPort? v).isSome
  | logLevel => levels.contains v
  | _ => true

end ValueOption

/-- What was found on a command line. -/
structure Found where
  values : List (ValueOption × String)
  dryRun : Bool
  help : Bool
  positional : Option String

namespace Found

def empty : Found := ⟨[], false, false, none⟩

def get? (f : Found) (o : ValueOption) : Option String :=
  (f.values.find? fun p => p.1 == o).map (·.2)

/-- Adds the value of an option that was not there before. -/
def add (f : Found) (o : ValueOption) (v : String) : Option Found :=
  if (f.get? o).isSome ∨ !o.accepts v then none else some { f with values := (o, v) :: f.values }

/-- Takes the value of an option from the environment unless it was given. -/
def addVariable (environment : List (String × String)) (f : Found) (o : ValueOption) :
    Option Found :=
  if (f.get? o).isSome then some f
  else
    match o.variableName?.bind fun n => (environment.find? fun p => p.1 == n).map (·.2) with
    | none => some f
    | some v => f.add o v

end Found

/-- What a command can be given: options with values, a switch for dry runs, an argument by its
position. -/
structure Grammar where
  options : List ValueOption
  hasDryRun : Bool
  hasPositional : Bool

namespace Grammar

def option? (g : Grammar) (name : List Char) : Option ValueOption :=
  g.options.find? fun o => o.name.toList == name

/-- Whether an argument can be the value of the option before it. -/
def isValue (arg : List Char) : Bool :=
  match arg with
  | '-' :: _ :: _ => false
  | _ => true

/-- An argument by itself. -/
def takePositional (g : Grammar) (f : Found) (arg : String) : Option Found :=
  if g.hasPositional ∧ f.positional.isNone then some { f with positional := some arg } else none

/-- The value that stands in the same argument as its option. -/
def attached? : List Char → Option (List Char)
  | [] => none
  | '=' :: v => some v
  | v => some v

/-- Goes through arguments from the left, up to a request for help or a mistake. -/
def scan (g : Grammar) (f : Found) : List String → Option Found
  | [] => some f
  | arg :: rest =>
    match arg.toList with
    | '-' :: '-' :: body =>
      let name := body.takeWhile (· ≠ '=')
      let value? : Option (List Char) :=
        if name.length < body.length then some (body.drop (name.length + 1)) else none
      if body.isEmpty then rest.foldlM g.takePositional f
      else if body = "help".toList then some { f with help := true }
      else if g.hasDryRun ∧ body = "dry-run".toList then
        if f.dryRun then none else scan g { f with dryRun := true } rest
      else
        match g.option? name, value?, rest with
        | none, _, _ => none
        | some o, some v, rest => (f.add o (String.ofList v)).bind fun f => scan g f rest
        | some _, none, [] => none
        | some o, none, v :: rest =>
          if isValue v.toList then (f.add o v).bind fun f => scan g f rest else none
    | '-' :: 'h' :: _ => some { f with help := true }
    | '-' :: 'c' :: body =>
      if g.options.contains .config then
        match attached? body, rest with
        | some v, rest => (f.add .config (String.ofList v)).bind fun f => scan g f rest
        | none, [] => none
        | none, v :: rest =>
          if isValue v.toList then (f.add .config v).bind fun f => scan g f rest else none
      else none
    | '-' :: _ :: _ => none
    | _ => (g.takePositional f arg).bind fun f => scan g f rest

/-- The arguments of a command, together with the environment. -/
def read (g : Grammar) (environment : List (String × String)) (args : List String) :
    Option Found :=
  match g.scan .empty args with
  | none => none
  | some f => if f.help then some f else g.options.foldlM (Found.addVariable environment) f

end Grammar

structure ValidateArgs where
  config : Option String
  options : Options
  access : Access
  deriving DecidableEq

structure ServeArgs extends ValidateArgs where
  port : Nat
  host : String
  dryRun : Bool
  deriving DecidableEq

inductive Command
  | serve (args : ServeArgs)
  | validate (args : ValidateArgs)
  | init (path : Option String)
  deriving DecidableEq

/-- What a command line asks for. -/
inductive CommandLine
  | command (c : Command)
  | help
  | version
  | mistake
  deriving DecidableEq

namespace CommandLine

def validateArgs (f : Found) : ValidateArgs where
  config := f.get? .config
  options :=
    { project := f.get? (.field .project)
      topic := f.get? (.field .topic)
      handlerPath := f.get? (.field .handlerPath)
      control := f.get? (.field .control)
      message := f.get? (.field .message)
      response := f.get? (.field .response)
      maxBodyBytes := (f.get? .maxBodyBytes).bind (ValueOption.readBelow? 0x10000000000000000) }
  access :=
    { token := f.get? .token
      emulatorHost := f.get? .emulatorHost
      pubsubEndpoint := f.get? .pubsubEndpoint
      secretEndpoint := f.get? .secretEndpoint
      tokenUrl := f.get? .tokenUrl }

def defaultPort : Nat := 8080

def defaultHost : String := "0.0.0.0"

def serveArgs (f : Found) : ServeArgs :=
  { validateArgs f with
    port := ((f.get? .port).bind ValueOption.readPort?).getD defaultPort
    host := (f.get? .host).getD defaultHost
    dryRun := f.dryRun }

/-- What the arguments of one command ask for. -/
def ofFound (make : Found → Command) : Option Found → CommandLine
  | none => mistake
  | some f => if f.help then help else command (make f)

/-- The names of commands, which help can be asked for. -/
def names : List String := ["serve", "validate", "init", "help"]

def read (environment : List (String × String)) : List String → CommandLine
  | [] => mistake
  | first :: rest =>
    match first with
    | "serve" =>
      ofFound (fun f => .serve (serveArgs f))
        (Grammar.read ⟨ValueOption.serving, true, false⟩ environment rest)
    | "validate" =>
      ofFound (fun f => .validate (validateArgs f))
        (Grammar.read ⟨ValueOption.shared, false, false⟩ environment rest)
    | "init" =>
      ofFound (fun f => .init f.positional) (Grammar.read ⟨[], false, true⟩ environment rest)
    | "help" =>
      match rest with
      | [] => help
      | [name] => if names.contains name then help else mistake
      | _ => mistake
    | "--help" => help
    | "--version" => version
    | _ =>
      match first.toList with
      | '-' :: 'h' :: _ => help
      | '-' :: 'V' :: _ => version
      | _ => mistake

end CommandLine

end GatedRelay
