import GatedRelay.Publish.PubSub

/-!
Payloads that are published one after another to a server that gives its replies in a fixed order.
When it has none left, it cannot be reached any more.
-/

namespace GatedRelay

/-- A server with the replies that it still has, and what it was asked and replied so far. -/
structure Script where
  replies : List Reply
  heard : List (Call × Reply)
  deriving DecidableEq

def Script.answer (c : Call) : StateM Script Reply := fun s =>
  let r := s.replies.headD .unreachable
  (r, ⟨s.replies.tail, s.heard ++ [(c, r)]⟩)

/-- A payload that was published, with the calls for it and their replies. -/
structure Delivery where
  payload : Bytes
  calls : List (Call × Reply)
  result : Attempt PublishError Unit

namespace PubSub

/-- Publishes a payload, with the cache of tokens and the replies from then on. -/
def deliver (p : PubSub) (now : Nat) (payload : Bytes) (cache : Option CachedToken)
    (replies : List Reply) : Delivery × Option CachedToken × List Reply :=
  let ((result, cache), s) :=
    (p.publish payload cache).run Script.answer (fun s => (now, s)) ⟨replies, []⟩
  (⟨payload, s.heard, result⟩, cache, s.replies)

def deliverAll (p : PubSub) (now : Nat) :
    List Bytes → Option CachedToken → List Reply → List Delivery
  | [], _, _ => []
  | payload :: rest, cache, replies =>
    let (d, cache, replies) := p.deliver now payload cache replies
    d :: p.deliverAll now rest cache replies

end PubSub

end GatedRelay
