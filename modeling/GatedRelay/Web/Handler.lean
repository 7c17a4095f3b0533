import GatedRelay.Relay.Pipeline
import GatedRelay.Web.Route

/-!
Answers to HTTP requests. Of a rejection only the status is told; its answer has no body.
-/

namespace GatedRelay

structure HttpAnswer where
  status : Nat
  contentType : Option String
  body : Bytes
  deriving DecidableEq

namespace HttpAnswer

def bare (status : Nat) : HttpAnswer := ⟨status, none, []⟩

def plainText : String := "text/plain; charset=utf-8"

def ofBody : AnswerBody → HttpAnswer
  | .empty => bare 200
  | .text s => ⟨200, some plainText, Utf8.ofString s⟩
  | .json bs => ⟨200, some "application/json", bs⟩

def ofRejection (r : Rejection) : HttpAnswer := bare r.status

/-- Tells a result, unless it was aborted. -/
def ofResult : Attempt Rejection AnswerBody → Option HttpAnswer
  | .ok body => some (ofBody body)
  | .error (.failed r) => some (ofRejection r)
  | .error .aborted => none

end HttpAnswer

/-- Answers a health check, which has to be a GET or HEAD request. -/
def healthAnswer (method : String) : HttpAnswer :=
  if method = "GET" then ⟨200, some HttpAnswer.plainText, Utf8.ofString "ok"⟩
  else if method = "HEAD" then ⟨200, some HttpAnswer.plainText, []⟩
  else .bare 405

/-- A relay with a way to publish. -/
structure Relay (m : Type → Type) where
  programs : Expr.ProgramSet
  publish : Bytes → m (Attempt PublishError Unit)
  maxBodyBytes : Nat

/-- The time at which a request arrives, and the worlds in which its programs run. -/
structure Occasion where
  arrival : Int
  worlds : Expr.Role → Expr.World

namespace Relay

variable {m : Type → Type} [Monad m]

/-- What comes of a request that reached the relay. A body beyond the limit is not read. -/
def process (relay : Relay m) (occasion : Occasion) (r : Request) :
    m (Attempt Rejection AnswerBody) :=
  if relay.maxBodyBytes < r.body.length then
    pure (.fail (.client .request .unreadableBody))
  else
    match RequestContext.build r occasion.arrival with
    | .error e => pure (.fail (.client .request (.request e)))
    | .ok c => relay.programs.process occasion.worlds relay.publish c

/-- The answer of the relay, unless it was aborted. -/
def handle (relay : Relay m) (occasion : Occasion) (r : Request) : m (Option HttpAnswer) := do
  let result ← relay.process occasion r
  return HttpAnswer.ofResult result

/-- The answer to a request, wherever its path leads. -/
def serve (relay : Relay m) (mount : Mount) (occasion : Occasion) (r : Request) :
    m (Option HttpAnswer) :=
  match mount.target r.uri.path with
  | .relay => relay.handle occasion r
  | .health => pure (some (healthAnswer r.method))
  | .nothing => pure (some (.bare 404))

end Relay

end GatedRelay
