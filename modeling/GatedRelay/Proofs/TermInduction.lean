import GatedRelay.Expr.Ast
import Mathlib.Data.List.Basic

/-!
# Induction on terms

A term holds others in lists. The induction hypothesis speaks about each of them.
-/

namespace GatedRelay.Expr

@[elab_as_elim, induction_eliminator]
theorem Term.inductionOn {motive : Term → Prop}
    (literal : ∀ a, motive (.literal a))
    (ident : ∀ name, motive (.ident name))
    (relation : ∀ op l r, motive l → motive r → motive (.relation op l r))
    (arithmetic : ∀ op l r, motive l → motive r → motive (.arithmetic op l r))
    (conj : ∀ l r, motive l → motive r → motive (.conj l r))
    (disj : ∀ l r, motive l → motive r → motive (.disj l r))
    (unary : ∀ op e, motive e → motive (.unary op e))
    (ternary : ∀ c t e, motive c → motive t → motive e → motive (.ternary c t e))
    (list : ∀ items, (∀ e ∈ items, motive e) → motive (.list items))
    (map : ∀ entries, (∀ p ∈ entries, motive p.1 ∧ motive p.2) → motive (.map entries))
    (select : ∀ target name, motive target → motive (.select target name))
    (index : ∀ target i, motive target → motive i → motive (.index target i))
    (fields : ∀ target entries, motive target → (∀ p ∈ entries, motive p.2) →
      motive (.fields target entries))
    (call : ∀ name args, (∀ e ∈ args, motive e) → motive (.call name args))
    (method : ∀ target name args, motive target → (∀ e ∈ args, motive e) →
      motive (.method target name args))
    (e : Term) : motive e :=
  @Term.rec motive (fun items => ∀ e ∈ items, motive e)
    (fun entries => ∀ p ∈ entries, motive p.1 ∧ motive p.2)
    (fun entries => ∀ p ∈ entries, motive p.2)
    (fun p => motive p.1 ∧ motive p.2) (fun p => motive p.2)
    literal ident relation arithmetic conj disj unary ternary list map select index fields call
    method
    (List.forall_mem_nil _) (fun _ _ he hrest => List.forall_mem_cons.mpr ⟨he, hrest⟩)
    (List.forall_mem_nil _) (fun _ _ hp hrest => List.forall_mem_cons.mpr ⟨hp, hrest⟩)
    (List.forall_mem_nil _) (fun _ _ hp hrest => List.forall_mem_cons.mpr ⟨hp, hrest⟩)
    (fun _ _ hk hv => ⟨hk, hv⟩) (fun _ _ hv => hv) e

end GatedRelay.Expr
