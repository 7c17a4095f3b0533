import GatedRelay.Fault
import Mathlib.Tactic.Common

/-!
# How a sequence of attempts ends

A sequence answers if each of its attempts does, and it ends with the fault of the first one that
does not.
-/

namespace GatedRelay.Attempt

variable {ε δ α β : Type}

lemma bind_eq_ok_iff {x : Except ε α} {f : α → Except ε β} {b : β} :
    x >>= f = .ok b ↔ ∃ a, x = .ok a ∧ f a = .ok b := by
  cases x with
  | ok a => simp [Bind.bind, Except.bind]
  | error e => simp [Bind.bind, Except.bind]

lemma bind_eq_error_iff {x : Except ε α} {f : α → Except ε β} {e : ε} :
    x >>= f = .error e ↔ x = .error e ∨ ∃ a, x = .ok a ∧ f a = .error e := by
  cases x with
  | ok a => simp [Bind.bind, Except.bind]
  | error e => simp [Bind.bind, Except.bind]

lemma map_eq_ok_iff {x : Except ε α} {f : α → β} {b : β} :
    x.map f = .ok b ↔ ∃ a, x = .ok a ∧ f a = b := by
  cases x <;> simp [Except.map]

lemma map_eq_error_iff {x : Except ε α} {f : α → β} {e : ε} :
    x.map f = .error e ↔ x = .error e := by
  cases x <;> simp [Except.map]

lemma mapFailure_eq_ok_iff {f : ε → δ} {x : Attempt ε α} {a : α} :
    mapFailure f x = .ok a ↔ x = .ok a := by
  rcases x with (e | _) | a <;> simp [mapFailure, fail, abort]

lemma mapFailure_eq_failed_iff {f : ε → δ} {x : Attempt ε α} {d : δ} :
    mapFailure f x = .error (.failed d) ↔ ∃ e, x = .error (.failed e) ∧ f e = d := by
  rcases x with (e | _) | a <;> simp [mapFailure, fail, abort]

lemma mapFailure_eq_aborted_iff {f : ε → δ} {x : Attempt ε α} :
    mapFailure f x = .error .aborted ↔ x = .error .aborted := by
  rcases x with (e | _) | a <;> simp [mapFailure, fail, abort]

end GatedRelay.Attempt
