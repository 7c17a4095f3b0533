import GatedRelay.Expr.ProgramSet
import GatedRelay.Relay.Content
import GatedRelay.Web.Variables

/-!
The way of a request: it is let in or not, its message is published or not, and then it is
answered. Nothing is tried twice, and what was published stays so whatever comes after.
-/

namespace GatedRelay

namespace Expr.ProgramSet

/-- Runs a program for a request; an evaluation that fails rejects the request at a stage. -/
def runAt (p : Program) (stage : Stage) (worlds : Role → World) (c : RequestContext) :
    Attempt Rejection Value :=
  (p.evaluate worlds c.origin c.request).mapFailure fun e => .service stage (.evaluation p.role e)

def ofExcept {α : Type} : Except Rejection α → Attempt Rejection α
  | .ok a => .ok a
  | .error r => .fail r

/-- The payload of the message of a request that is authorized. -/
def payloadFor (ps : ProgramSet) (worlds : Role → World) (c : RequestContext) :
    Attempt Rejection Bytes := do
  let decision ← runAt ps.authorization .authorization worlds c
  if isTrue decision then
    let v ← runAt ps.extraction .extraction worlds c
    let message ← ofExcept (messageOf v)
    return message.bytes
  else .fail ⟨.policyDenial, .authorization, .denied decision⟩

/-- The body of the answer to a request whose message was published. -/
def respond (ps : ProgramSet) (worlds : Role → World) (c : RequestContext) :
    Attempt Rejection AnswerBody :=
  match ps.response with
  | none => .ok .empty
  | some p => do
    let v ← runAt p .response worlds c
    ofExcept (answerOf v)

/-- The whole way of a request. -/
def process {m : Type → Type} [Monad m] (ps : ProgramSet) (worlds : Role → World)
    (publish : Bytes → m (Attempt PublishError Unit)) (c : RequestContext) :
    m (Attempt Rejection AnswerBody) :=
  match payloadFor ps worlds c with
  | .error e => pure (.error e)
  | .ok payload => do
    match ← publish payload with
    | .error (.failed e) => return .fail ⟨.unavailable, .publish, .unpublished e⟩
    | .error .aborted => return .abort
    | .ok () => return respond ps worlds c

end Expr.ProgramSet

end GatedRelay
