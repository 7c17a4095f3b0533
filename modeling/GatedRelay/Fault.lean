/-!
Computations that may not answer. One that fails says why; one that is aborted takes down the
whole call and says nothing.
-/

namespace GatedRelay

inductive Fault (ε : Type)
  | failed (e : ε)
  | aborted

abbrev Attempt (ε α : Type) := Except (Fault ε) α

namespace Attempt

variable {ε α : Type}

def fail (e : ε) : Attempt ε α := .error (.failed e)

def abort : Attempt ε α := .error .aborted

/-- A value, or the end of everything. -/
def orAbort : Option α → Attempt ε α
  | some a => .ok a
  | none => abort

/-- Says in other words why a computation failed. -/
def mapFailure {δ : Type} (f : ε → δ) : Attempt ε α → Attempt δ α
  | .ok a => .ok a
  | .error (.failed e) => fail (f e)
  | .error .aborted => abort

end Attempt

end GatedRelay
