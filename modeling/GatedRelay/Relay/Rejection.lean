import GatedRelay.Expr.Program
import GatedRelay.Publish.Outbox
import GatedRelay.Text.Escaped
import GatedRelay.Web.Request

/-!
Rejections: how and at which stage a request ends without an answer of its own. Only the status
of a rejection leaves the relay; its cause is for the operator.
-/

namespace GatedRelay

open GatedRelay.Expr (Role EvalError ConversionError Value)

inductive RejectKind
  | clientError
  | policyDenial
  | serviceError
  | unavailable
  deriving DecidableEq

namespace RejectKind

def name : RejectKind → String
  | clientError => "client_error"
  | policyDenial => "policy_denial"
  | serviceError => "service_error"
  | unavailable => "unavailable"

def status : RejectKind → Nat
  | clientError => 400
  | policyDenial => 403
  | serviceError => 500
  | unavailable => 503

end RejectKind

inductive Stage
  | request
  | authorization
  | extraction
  | publish
  | response
  deriving DecidableEq

namespace Stage

def name : Stage → String
  | request => "request"
  | authorization => "authorization"
  | extraction => "extraction"
  | publish => "publish"
  | response => "response"

def all : List Stage := [request, authorization, extraction, publish, response]

def ofName? (name : String) : Option Stage := all.find? fun s => s.name == name

end Stage

inductive Cause
  | request (e : RequestError)
  | unreadableBody
  | evaluation (role : Role) (e : EvalError)
  | denied (decision : Value)
  | nullMessage
  | badMessageText
  | badMessage (e : ConversionError)
  | notAMessage (kind : String)
  | unpublished (e : PublishError)
  | nullResponse
  | badResponse (e : ConversionError)
  /-- Any other cause, by its text. -/
  | other (text : String)

/-- A decision that is not `true`, for the operator. The insides of maps and lists are not shown. -/
def describeDecision : Value → String
  | .null => "Null"
  | .bool b => if b then "Bool(true)" else "Bool(false)"
  | .int i => s!"Int({Numeral.intString i.toInt})"
  | .uint u => s!"UInt({Numeral.decimalString u.toNat})"
  | .double d => s!"Float({Double.text .diagnostic d})"
  | .string s => s!"String({String.ofList (Text.Escaped.encode s.toList)})"
  | .bytes bs =>
    let list := "[" ++ ", ".intercalate (bs.map fun b => Numeral.decimalString b.toNat) ++ "]"
    s!"Bytes({list})"
  | _ => "*"

def Cause.message : Cause → String
  | request e => e.message
  | unreadableBody => "failed to read request body: *"
  | evaluation role e => s!"{role.name} expression failed: {e.message}"
  | denied decision => s!"request control check returned {describeDecision decision}"
  | nullMessage => "message expression produced a JSON null"
  | badMessageText => "invalid JSON string from message expression: *"
  | badMessage e => s!"unable to convert message to JSON: {e.message}"
  | notAMessage kind => s!"could not turn request into a message: expression produced a {kind}"
  | unpublished e => e.message
  | nullResponse => "response expression produced null"
  | badResponse e => s!"unable to convert response to JSON: {e.message}"
  | other text => text

structure Rejection where
  kind : RejectKind
  stage : Stage
  cause : Cause

namespace Rejection

def client (stage : Stage) (cause : Cause) : Rejection := ⟨.clientError, stage, cause⟩

def service (stage : Stage) (cause : Cause) : Rejection := ⟨.serviceError, stage, cause⟩

def status (r : Rejection) : Nat := r.kind.status

def text (r : Rejection) : String := s!"{r.kind.name} at {r.stage.name} stage: {r.cause.message}"

end Rejection

end GatedRelay
