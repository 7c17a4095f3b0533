import GatedRelay.Publish.Outbox
import GatedRelay.Publish.Topic
import GatedRelay.Json.Printer
import GatedRelay.Text.Base64
import GatedRelay.Text.Search

/-!
Publishing to a topic: one call for each payload, which holds the payload as base64 text. A call
is never repeated.
-/

namespace GatedRelay

structure PubSub where
  topic : String
  url : String
  credentials : Credentials
  deriving DecidableEq

namespace PubSub

def create (endpoint : String) (project : Option String) (topic : String) (c : Credentials) :
    Except TopicError PubSub := do
  let topic ← Topic.qualify project topic
  .ok ⟨topic, Text.dropRightSlashes endpoint ++ "/v1/" ++ topic ++ ":publish", c⟩

/-- The body of a call: one message with its data. -/
def bodyOf (payload : Bytes) : Json :=
  .object [("messages", .array [.object [("data",
    .string (String.ofList (Base64.encode .standard payload)))]])]

def call (p : PubSub) (payload : Bytes) : Call :=
  ⟨.post, p.url, [("content-type", "application/json"), ("user-agent", userAgent)],
    (bodyOf payload).bytes⟩

/-- Whether an answer lists the published messages; it may leave the list out. -/
def isAcknowledgement (body : Bytes) : Bool :=
  match Json.Record.read? ["messageIds"] body with
  | some [none] => true
  | some [some ids] =>
    match Json.parseBytes? ids with
    | some (.array ids) => ids.all fun
      | .string _ => true
      | _ => false
    | _ => false
  | _ => false

/-- What a reply to a call says. -/
def outcome (p : PubSub) : Reply → Attempt PublishError Unit
  | .unreachable => .fail .unreachable
  | .answer status body =>
    if !Status.isSuccess status then
      .fail (.refused p.topic status (Text.trimString (Utf8.decodeLossy body)))
    else if isAcknowledgement body then .ok ()
    else .fail .malformed

/-- Publishes a payload, with the cache of tokens before and after. -/
def publish (p : PubSub) (payload : Bytes) (cache : Option CachedToken) :
    Exchange (Attempt PublishError Unit × Option CachedToken) := do
  match ← p.credentials.token cache with
  | (.error e, cache) => return (Attempt.mapFailure .token (.error e), cache)
  | (.ok token, cache) =>
    match Credentials.authorize? token (p.call payload) with
    | none => return (.fail .unreachable, cache)
    | some c => .call c fun r => .done (p.outcome r, cache)

end PubSub

end GatedRelay
