import GatedRelay.Fault
import GatedRelay.Json.Record
import GatedRelay.Publish.Exchange
import GatedRelay.Publish.Status

/-!
Access tokens, and the cache of the one that was fetched last. A cached token is used until a
minute before its lifetime ends; a fetch that fails leaves the cache as it is.
-/

namespace GatedRelay

inductive TokenError
  | unreachable
  | refused (status : Nat)
  | malformed
  deriving DecidableEq

namespace TokenError

def message : TokenError → String
  | refused status => s!"metadata server refused the token request: HTTP {Status.text status}"
  | unreachable | malformed => "*"

/-- What was being done when a cause from outside came up. -/
def context : TokenError → List String
  | unreachable => ["unable to reach the metadata server"]
  | refused _ => []
  | malformed => ["malformed token response from the metadata server"]

end TokenError

/-- A token and the time from which on a new one is fetched. -/
structure CachedToken where
  value : String
  refreshAt : Nat
  deriving DecidableEq

namespace Token

def nanosPerSecond : Nat := 1000000000

/-- So many seconds before its end a token is not used any more. -/
def expiryMargin : Nat := 60

/-- The token in an answer, and its lifetime in seconds. -/
def ofAnswer? (body : Bytes) : Option (String × Nat) :=
  match Json.Record.read? ["access_token", "expires_in"] body with
  | some [some token, some lifetime] =>
    match Json.parseBytes? token, Json.parseBytes? lifetime with
    | some (.string token), some (.int lifetime) =>
      if 0 ≤ lifetime.val then some (token, lifetime.val.toNat) else none
    | _, _ => none
  | _ => none

/-- The time after which a token that was fetched now is not used any more. Times beyond 64 bits of
seconds do not exist. -/
def refreshTime? (now lifetime : Nat) : Option Nat :=
  let t := now + (lifetime - expiryMargin) * nanosPerSecond
  if t / nanosPerSecond < 0x8000000000000000 then some t else none

def request (url : String) : Call :=
  ⟨.get, url, [("metadata-flavor", "Google"), ("user-agent", userAgent)], []⟩

/-- Asks for a token and keeps it. -/
def fetch (url : String) : Exchange (Attempt TokenError CachedToken) :=
  .call (request url) fun
    | .unreachable => .done (.fail .unreachable)
    | .answer status body =>
      if !Status.isSuccess status then .done (.fail (.refused status))
      else
        match ofAnswer? body with
        | none => .done (.fail .malformed)
        | some (token, lifetime) =>
          .look fun now => .done ((Attempt.orAbort (refreshTime? now lifetime)).map (⟨token, ·⟩))

/-- The token in the cache while it may be used, else a new one. -/
def obtain (url : String) (cache : Option CachedToken) :
    Exchange (Attempt TokenError CachedToken) :=
  match cache with
  | none => fetch url
  | some t => .look fun now => if now < t.refreshAt then .done (.ok t) else fetch url

end Token

/-- How calls are authorized. -/
inductive Credentials
  | anonymous
  | fixed (token : String)
  | metadata (url : String)
  deriving DecidableEq

namespace Credentials

/-- The token to use, if any, and the cache from then on. -/
def token (c : Credentials) (cache : Option CachedToken) :
    Exchange (Attempt TokenError (Option String) × Option CachedToken) :=
  match c with
  | anonymous => .done (.ok none, cache)
  | fixed t => .done (.ok (some t), cache)
  | metadata url => do
    match ← Token.obtain url cache with
    | .ok t => return (.ok (some t.value), some t)
    | .error e => return (.error e, cache)

/-- Header values hold no control characters besides tabs. -/
def isHeaderText (s : String) : Bool := s.toList.all fun c => (' ' ≤ c || c = '\t') && c ≠ '\x7f'

/-- A call with a token, if the token can stand in a header. -/
def authorize? (token : Option String) (c : Call) : Option Call :=
  match token with
  | none => some c
  | some t =>
    if isHeaderText t then
      some { c with headers := ("authorization", "Bearer " ++ t) :: c.headers }
    else none

end Credentials

end GatedRelay
