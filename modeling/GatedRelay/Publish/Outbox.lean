import GatedRelay.Publish.Token

/-!
Publishing, and its simplest form: an outbox keeps the payloads in the order in which they were
published, unless it is set to fail.
-/

namespace GatedRelay

inductive PublishError
  | disabled
  | token (e : TokenError)
  | unreachable
  | refused (topic : String) (status : Nat) (detail : String)
  | malformed
  deriving DecidableEq

def PublishError.message : PublishError → String
  | disabled => "publisher is configured to fail"
  | token e => e.message
  | unreachable | malformed => "*"
  | refused topic status detail =>
    s!"Pub/Sub rejected the message for topic '{topic}': HTTP {Status.text status} {detail}"

structure Outbox where
  messages : List Bytes
  failing : Bool
  deriving DecidableEq

namespace Outbox

def empty : Outbox := ⟨[], false⟩

def setFailing (o : Outbox) (failing : Bool) : Outbox := { o with failing := failing }

def publish (payload : Bytes) (o : Outbox) : Attempt PublishError Unit × Outbox :=
  if o.failing then (.fail .disabled, o)
  else (.ok (), { o with messages := o.messages ++ [payload] })

end Outbox

end GatedRelay
