import GatedRelay.Publish.Outbox

/-!
An outbox that several computations use at once. Each of them goes on in steps, and between two
of its steps the others may take theirs: the flag of the outbox is read in one step, and a payload
is put in by another one.
-/

namespace GatedRelay

/-- A computation by the steps that it takes on a shared outbox. -/
inductive Strand (α : Type)
  | done (a : α)
  | look (next : Bool → Strand α)
  | put (payload : Bytes) (next : Strand α)

namespace Strand

variable {α β : Type}

def bind : Strand α → (α → Strand β) → Strand β
  | done a, f => f a
  | look next, f => look fun failing => (next failing).bind f
  | put payload next, f => put payload (next.bind f)

instance : Monad Strand where
  pure := done
  bind := bind

def publish (payload : Bytes) : Strand (Attempt PublishError Unit) :=
  look fun failing => if failing then done (.fail .disabled) else put payload (done (.ok ()))

/-- All steps of a computation without a break. -/
def alone : Strand α → Outbox → α × Outbox
  | done a, o => (a, o)
  | look next, o => (next o.failing).alone o
  | put payload next, o => next.alone { o with messages := o.messages ++ [payload] }

end Strand

end GatedRelay
