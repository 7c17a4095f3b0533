import GatedRelay.Publish.Token
import GatedRelay.Text.Blank

/-!
How servers are reached: where they are, and what calls are authorized with. A static token comes
first; with an emulator no token is needed; else tokens are fetched.
-/

namespace GatedRelay

structure Access where
  token : Option String
  emulatorHost : Option String
  pubsubEndpoint : Option String
  secretEndpoint : Option String
  tokenUrl : Option String
  deriving DecidableEq

namespace Access

def defaultPubsubEndpoint : String := "https://pubsub.googleapis.com"

def defaultSecretEndpoint : String := "https://secretmanager.googleapis.com"

def defaultTokenUrl : String :=
  "http://metadata.google.internal/computeMetadata/v1/instance/service-accounts/default/token"

/-- A blank host stands for no emulator. -/
def emulator? (a : Access) : Option String := a.emulatorHost.filter fun h => !Text.isBlankString h

def credentials (a : Access) : Credentials :=
  match a.token.filter fun t => !t.isEmpty with
  | some t => .fixed t
  | none =>
    if a.emulator?.isSome then .anonymous else .metadata (a.tokenUrl.getD defaultTokenUrl)

def pubsubAddress (a : Access) : String :=
  match a.pubsubEndpoint with
  | some e => e
  | none =>
    match a.emulator? with
    | some host => "http://" ++ host
    | none => defaultPubsubEndpoint

def secretAddress (a : Access) : String := a.secretEndpoint.getD defaultSecretEndpoint

end Access

end GatedRelay
