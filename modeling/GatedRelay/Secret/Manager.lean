import GatedRelay.Secret.Reference
import GatedRelay.Json.Record
import GatedRelay.Text.Base64

/-!
Reading secrets from a server: one call for each, whose answer holds the payload as base64 text.
-/

namespace GatedRelay

structure SecretManager where
  endpoint : String
  credentials : Credentials
  deriving DecidableEq

namespace SecretManager

def create (endpoint : String) (c : Credentials) : SecretManager :=
  ⟨Text.dropRightSlashes endpoint, c⟩

def call (s : SecretManager) (name : String) : Call :=
  ⟨.get, s.endpoint ++ "/v1/" ++ name ++ ":access", [("user-agent", userAgent)], []⟩

/-- The base64 text in an answer; a payload without data is empty. -/
def dataOf? (body : Bytes) : Option String :=
  match Json.Record.read? ["payload"] body with
  | some [some payload] =>
    match Json.Record.read? ["data"] payload with
    | some [none] => some ""
    | some [some data] =>
      match Json.parseBytes? data with
      | some (.string data) => some data
      | _ => none
    | _ => none
  | _ => none

def decode (data : String) : Attempt SecretError String :=
  match Base64.decodePadded? .standard data.toList with
  | none => .fail .badBase64
  | some bs =>
    match Utf8.decode? bs with
    | none => .fail .badText
    | some cs => .ok (String.ofList cs)

/-- What a reply to a call says. -/
def outcome : Reply → Attempt SecretError String
  | .unreachable => .fail .unreachable
  | .answer status body =>
    if !Status.isSuccess status then .fail (.refused status)
    else
      match dataOf? body with
      | none => .fail .malformed
      | some data => decode data

/-- Reads a secret, with the cache of tokens before and after. -/
def access (s : SecretManager) (name : String) (cache : Option CachedToken) :
    Exchange (Attempt SecretError String × Option CachedToken) := do
  match ← s.credentials.token cache with
  | (.error e, cache) => return (Attempt.mapFailure .token (.error e), cache)
  | (.ok token, cache) =>
    match Credentials.authorize? token (s.call name) with
    | none => return (.fail .unreachable, cache)
    | some c => .call c fun r => .done (outcome r, cache)

end SecretManager

end GatedRelay
