import GatedRelay.Text.Utf8

/-!
Exchanges with other servers, as trees: an exchange is over with a result, or it makes a call and
goes on with the reply, or it looks at the clock. What the network and the clock do is left to
whoever runs the exchange.
-/

namespace GatedRelay

inductive Method
  | get
  | post
  deriving DecidableEq

/-- The name and version that calls carry. -/
def userAgent : String := "json2pubsub/0.3.0"

structure Call where
  method : Method
  /-- The text that is handed to the network. Reading it as an address is left to the network, and
  one that cannot be read reaches no server. -/
  url : String
  headers : List (String × String)
  body : Bytes
  deriving DecidableEq

inductive Reply
  | unreachable
  | answer (status : Nat) (body : Bytes)
  deriving DecidableEq

/-- The clock counts nanoseconds from some fixed moment on. -/
inductive Exchange (α : Type)
  | done (a : α)
  | call (c : Call) (next : Reply → Exchange α)
  | look (next : Nat → Exchange α)

namespace Exchange

variable {α β : Type}

def bind : Exchange α → (α → Exchange β) → Exchange β
  | done a, f => f a
  | call c next, f => call c fun r => (next r).bind f
  | look next, f => look fun t => (next t).bind f

instance : Monad Exchange where
  pure := done
  bind := bind

/-- Runs an exchange over a network, by a clock. -/
def run {m : Type → Type} [Monad m] (network : Call → m Reply) (clock : m Nat) : Exchange α → m α
  | done a => pure a
  | call c next => do
    let r ← network c
    (next r).run network clock
  | look next => do
    let t ← clock
    (next t).run network clock

end Exchange

end GatedRelay
