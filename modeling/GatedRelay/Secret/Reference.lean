import GatedRelay.Fault
import GatedRelay.Publish.Token
import GatedRelay.Text.Blank
import GatedRelay.Text.Search

/-!
References to secrets. A value that begins with the marker stands for the payload of the secret
version that it names; other values stand for themselves.
-/

namespace GatedRelay

inductive SecretError
  | unknown
  | token (e : TokenError)
  | unreachable
  | refused (status : Nat)
  | malformed
  | badBase64
  | badText
  deriving DecidableEq

namespace SecretError

def message : SecretError → String
  | unknown => "no such secret"
  | token e => e.message
  | refused status => s!"Secret Manager refused access: HTTP {Status.text status}"
  | unreachable | malformed | badBase64 | badText => "*"

/-- What was being done when a cause from outside came up. -/
def context : SecretError → List String
  | unknown | refused _ => []
  | token e => e.context
  | unreachable => ["unable to reach Secret Manager"]
  | malformed => ["malformed Secret Manager response"]
  | badBase64 => ["secret payload is not valid base64"]
  | badText => ["secret payload is not valid UTF-8"]

end SecretError

/-- A secret that could not be read, by the name that was asked for. -/
structure SecretFailure where
  name : String
  cause : SecretError
  deriving DecidableEq

namespace Secret

def marker : List Char := ['g', 's', 'm', ':']

/-- The version that a reference names: the latest one unless it says otherwise. -/
def versionName (reference : String) : String :=
  if Text.occursIn "/versions/".toList reference.toList then reference
  else Text.dropRightSlashes reference ++ "/versions/latest"

/-- The name of the secret version that a value refers to, if it is a reference. -/
def reference? (value : String) : Option String :=
  if marker.isPrefixOf value.toList then
    some (versionName (String.ofList (Text.trim (value.toList.drop marker.length))))
  else none

/-- The value that is meant: the payload of a secret for a reference. -/
def resolve {m : Type → Type} [Monad m] (access : String → m (Attempt SecretError String))
    (value : String) : m (Attempt SecretFailure String) :=
  match reference? value with
  | none => pure (.ok value)
  | some name => do
    let r ← access name
    return r.mapFailure (⟨name, ·⟩)

/-- A source that knows the secrets of a table. -/
def ofTable (secrets : List (String × String)) (name : String) : Attempt SecretError String :=
  match secrets.find? fun s => s.1 == name with
  | some s => .ok s.2
  | none => .fail .unknown

end Secret

end GatedRelay
