import GatedRelay.Expr.Eval
import Mathlib.Data.List.Basic

/-!
# What comprehensions answer

Where their bodies have values, `all`, `exists` and `exists_one` count the elements for which these
hold. So their answers do not depend on the order in which a map gives its keys; that order only
shows where a body fails, or tells the time.
-/

namespace GatedRelay.Expr

variable {body : Value × Nat → Eval Value} {g : Value → Value}

/-! ### Answers -/

section Answers

variable (hbody : ∀ w, body w = .ok (g w.1)) (vs : List (Value × Nat))
include hbody

lemma judgeOver_all : judgeOver .all body true vs =
    .ok (.bool ((vs.map Prod.fst).all fun v => !isFalse (g v))) := by
  induction vs with
  | nil => rfl
  | cons w rest ih =>
    rw [judgeOver, hbody, List.map_cons, List.all_cons]
    cases hw : isFalse (g w.1) with
    | true => simp [bind, Except.bind, Verdict.all, hw]
    | false => simp [bind, Except.bind, Verdict.all, hw, ih]

lemma judgeOver_any : judgeOver .any body false vs =
    .ok (.bool ((vs.map Prod.fst).any fun v => isTrue (g v))) := by
  induction vs with
  | nil => rfl
  | cons w rest ih =>
    rw [judgeOver, hbody, List.map_cons, List.any_cons]
    cases hw : isTrue (g w.1) with
    | true => simp [bind, Except.bind, Verdict.any, hw]
    | false => simp [bind, Except.bind, Verdict.any, hw, ih]

/-- What was found before counts as one time more. -/
lemma judgeOver_once (found : Bool) : judgeOver .once body found vs =
    .ok (.bool (((vs.map Prod.fst).countP fun v => isTrue (g v)) + found.toNat == 1)) := by
  induction vs generalizing found with
  | nil => cases found <;> rfl
  | cons w rest ih =>
    rw [judgeOver, hbody, List.map_cons, List.countP_cons]
    cases hw : isTrue (g w.1) with
    | true => cases found <;> simp [bind, Except.bind, Verdict.once, hw, ih]
    | false => simp [bind, Except.bind, Verdict.once, hw, ih]

end Answers

/-! ### Order -/

/-- Orders only rearrange what a comprehension runs over. -/
lemma elements?_perm (order order' : KeyOrder) (v : Value) :
    Option.Rel List.Perm (elements? order v) (elements? order' v) := by
  cases v with
  | list place items => exact .some (.refl items)
  | map place entries =>
    exact .some (((order.perm _).trans (order'.perm _).symm).map _)
  | _ => exact .none

/-- If its body has values, a comprehension comes to the same whatever the world is. -/
theorem comprehend_of_values (hbody : ∀ w, body w = .ok (g w.1)) {s s' : Scope}
    (hplace : s'.place = s.place) (f : Form) (v : Value) :
    comprehend s' f v body = comprehend s f v body := by
  unfold comprehend
  rw [hplace]
  have helements := elements?_perm s'.keyOrder s.keyOrder v
  split
  · rfl
  · rfl
  · rfl
  · rfl
  · generalize elements? s'.keyOrder v = vs', elements? s.keyOrder v = vs at helements
    cases helements with
    | none => rfl
    | some hperm =>
      simp only [judgeOver_all hbody, judgeOver_any hbody, judgeOver_once hbody,
        List.zipIdx_map_fst, hperm.all_eq, hperm.any_eq, hperm.countP_eq]

end GatedRelay.Expr
