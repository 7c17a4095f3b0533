import GatedRelay.Expr.Eval
import GatedRelay.Proofs.Attempts

/-!
# Operations that know their names

An undeclared reference comes from the name of a variable or of a function alone. No operator, no
function and no comprehension makes one of its own.
-/

namespace GatedRelay.Expr

open Attempt

/-- Whether an evaluation ends otherwise than by a name that is not declared. -/
def Resolves {α : Type} (r : Eval α) : Prop := ∀ name, r ≠ fail (.undeclaredReference name)

namespace Resolves

variable {α β : Type}

lemma ok (a : α) : Resolves (.ok a : Eval α) := by
  intro name h
  cases h

lemma abort : Resolves (Attempt.abort : Eval α) := by
  intro name h
  cases h

lemma fail {e : EvalError} (he : ∀ name, e ≠ .undeclaredReference name) :
    Resolves (Attempt.fail e : Eval α) := by
  intro name h
  cases h
  exact he name rfl

lemma bind {x : Eval α} {f : α → Eval β} (hx : Resolves x) (hf : ∀ a, Resolves (f a)) :
    Resolves (x >>= f) := by
  intro name h
  rcases bind_eq_error_iff.mp h with h | ⟨a, -, h⟩
  · exact hx name h
  · exact hf a name h

lemma map {x : Eval α} {f : α → β} (hx : Resolves x) : Resolves (x.map f) := by
  intro name h
  exact hx name (map_eq_error_iff.mp h)

lemma orAbort (x : Option α) : Resolves (Attempt.orAbort x : Eval α) := by
  cases x with
  | none => exact abort
  | some a => exact ok a

end Resolves

namespace Value

variable (p : Place) (a b v : Value)

lemma onInts_resolves (op : Arithmetic) (x y : Int64) : Resolves (onInts op x y) := by
  unfold onInts wholeDiv
  split
  · exact .ok _
  · exact .ok _
  · exact .ok _
  all_goals
    split
    · exact .abort
    · exact .ok _

lemma onUInts_resolves (op : Arithmetic) (x y : UInt64) : Resolves (onUInts op x y) := by
  unfold onUInts unsignedDiv
  split
  · exact .ok _
  · exact .ok _
  · exact .ok _
  all_goals
    split
    · exact .abort
    · exact .ok _

lemma arithmetic_resolves (op : Arithmetic) : Resolves (arithmetic p op a b) := by
  unfold arithmetic
  split
  · next r hr =>
    unfold arithmeticOnNumbers? at hr
    split at hr
    · cases hr
      exact onInts_resolves _ _ _
    · cases hr
      exact onUInts_resolves _ _ _
    · split at hr
      · split at hr
        · cases hr
          exact .ok _
        · cases hr
      · cases hr
  · split
    · exact .ok _
    · exact .ok _
    · exact .ok _
    · exact .orAbort _
    · exact .orAbort _
    · exact .orAbort _
    · exact .orAbort _
    · exact .orAbort _
    · exact .orAbort _
    · exact .fail nofun

lemma ordered_resolves (test : Ordering → Bool) : Resolves (ordered test a b) := by
  unfold ordered
  split
  · exact .ok _
  · exact .fail nofun

lemma isIn_resolves : Resolves (isIn a b) := by
  unfold isIn
  split
  · exact .ok _
  · exact .ok _
  · exact .ok _
  · exact .fail nofun

lemma relation_resolves (op : Relation) : Resolves (relation op a b) := by
  cases op with
  | less => exact ordered_resolves a b _
  | lessEq => exact ordered_resolves a b _
  | greater => exact ordered_resolves a b _
  | greaterEq => exact ordered_resolves a b _
  | equal => exact .ok _
  | notEqual => exact .ok _
  | isIn => exact isIn_resolves a b

lemma unary_resolves (op : UnaryOp) : Resolves (unary op v) := by
  unfold unary
  split
  all_goals first | exact .ok _ | exact .fail nofun

lemma index_resolves : Resolves (index a b) := by
  unfold index
  split
  · exact .ok _
  · exact .ok _
  · split
    · exact .ok _
    · exact .fail nofun
  · exact .fail nofun
  · exact .fail nofun

end Value

/-- Whether a function does anything but to miss a name. -/
def Outcome.Resolves (o : Outcome) : Prop := ∀ name, o ≠ .failed (.undeclaredReference name)

namespace Outcome

lemma ofOption_resolves (r : Refusal) (x : Option Value) : (ofOption r x).Resolves := by
  cases x with
  | none => exact nofun
  | some v => exact nofun

lemma ofRefusal_resolves (x : Except Refusal Value) : (ofRefusal x).Resolves := by
  cases x with
  | ok v => exact nofun
  | error r => exact nofun

lemma toEval_resolves {function : String} {o : Outcome} (h : o.Resolves) :
    Expr.Resolves (o.toEval function) := by
  cases o with
  | value v => exact .ok v
  | refused r => exact .fail nofun
  | failed e => exact .fail fun name he => h name (by rw [he])
  | aborted => exact .abort

end Outcome

namespace Builtin

open Outcome

lemma toInt_resolves (v : Value) : (Convert.toInt v).Resolves := by
  unfold Convert.toInt
  split
  · exact ofOption_resolves _ _
  · split
    · exact nofun
    · exact ofOption_resolves _ _
  · exact nofun
  · exact ofOption_resolves _ _
  · exact nofun

lemma toUInt_resolves (v : Value) : (Convert.toUInt v).Resolves := by
  unfold Convert.toUInt
  split
  · exact ofOption_resolves _ _
  · split
    · exact nofun
    · exact ofOption_resolves _ _
  · exact ofOption_resolves _ _
  · exact nofun
  · exact nofun

lemma toDouble_resolves (v : Value) : (Convert.toDouble v).Resolves := by
  unfold Convert.toDouble
  split
  · exact ofOption_resolves _ _
  · exact ofOption_resolves _ _

lemma toText_resolves (v : Value) : (Convert.toText v).Resolves := by
  unfold Convert.toText
  split <;> exact nofun

lemma occurs_resolves (this arg : Value) : (occurs this arg).Resolves := by
  unfold occurs
  split
  · exact nofun
  · split <;> exact nofun
  · exact nofun
  · split <;> exact nofun
  · exact nofun

lemma sizeOf_resolves (v : Value) : (sizeOf v).Resolves := by
  unfold sizeOf
  dsimp only
  split <;> exact nofun

lemma maximumFrom_resolves (acc : Value) (vs : List Value) : (maximumFrom acc vs).Resolves := by
  induction vs generalizing acc with
  | nil => exact nofun
  | cons v rest ih =>
    unfold maximumFrom
    split
    · exact ih acc
    · exact ih v
    · exact nofun

lemma maximum_resolves (vs : List Value) : (maximum vs).Resolves := by
  unfold maximum
  split
  · exact nofun
  · exact maximumFrom_resolves _ _
  · exact nofun
  · exact nofun
  · exact maximumFrom_resolves _ _

lemma searchPattern_resolves (text pattern : String) : (searchPattern text pattern).Resolves := by
  unfold searchPattern
  split <;> exact nofun

lemma apply_resolves (b : Builtin) (args : List Value) : (b.apply args).Resolves := by
  unfold apply
  split
  · exact occurs_resolves _ _
  · exact nofun
  · exact nofun
  · exact searchPattern_resolves _ _
  · exact sizeOf_resolves _
  · exact toInt_resolves _
  · exact toUInt_resolves _
  · exact toDouble_resolves _
  · exact toText_resolves _
  · exact nofun
  · exact maximum_resolves _
  · exact ofOption_resolves _ _
  · exact ofOption_resolves _ _
  · exact nofun

end Builtin

namespace Library

open Outcome

lemma rangeTest_resolves (addr range : String) : (rangeTest addr range).Resolves := by
  unfold rangeTest
  split
  · exact nofun
  · split <;> exact nofun

lemma jsonObject_resolves (text : String) : (jsonObject text).Resolves := by
  unfold jsonObject
  split <;> exact nofun

lemma tokenClaims_resolves (now : Moment) (key token : String) :
    (tokenClaims now key token).Resolves := by
  unfold tokenClaims
  split <;> exact nofun

lemma characterAt_resolves (s : String) (i : Int64) : (characterAt s i).Resolves := by
  unfold characterAt
  dsimp only
  split <;> exact nofun

lemma formatted_resolves (template : String) (args : List Value) :
    (formatted template args).Resolves := by
  unfold formatted
  split <;> exact nofun

lemma timePart_resolves (p : TimePart) (this : Value) (args : List Value) :
    (timePart p this args).Resolves := by
  unfold timePart
  split
  · exact nofun
  · split <;> exact nofun
  · exact ofOption_resolves _ _
  · exact nofun

lemma apply_resolves (now : Moment) (f : Library) (args : List Value) :
    (f.apply now args).Resolves := by
  unfold apply
  split
  · exact rangeTest_resolves _ _
  · exact jsonObject_resolves _
  · exact tokenClaims_resolves _ _ _
  · exact nofun
  · exact nofun
  · exact ofRefusal_resolves _
  · exact nofun
  · exact nofun
  · exact nofun
  · exact nofun
  · exact nofun
  · exact nofun
  · exact nofun
  · exact characterAt_resolves _ _
  · exact nofun
  · exact formatted_resolves _ _
  · exact ofRefusal_resolves _
  · exact nofun
  · exact nofun
  · exact ofOption_resolves _ _
  · exact timePart_resolves _ _ _
  · exact nofun

end Library

lemma Function.apply_resolves (now : Moment) (f : Function) (args : List Value) :
    Resolves (f.apply now args) := by
  cases f with
  | builtin b => exact Outcome.toEval_resolves (b.apply_resolves args)
  | library g => exact Outcome.toEval_resolves (g.apply_resolves now args)

lemma checkKind_resolves (k : ParamKind) (v : Value) : Resolves (checkKind k v) := by
  unfold checkKind
  split
  · exact .ok v
  · exact .fail nofun

lemma orMissing_resolves (r : Eval Value) : Resolves (orMissing r) := by
  unfold orMissing
  split
  · exact .ok _
  · exact .fail nofun
  · exact .abort

lemma present_resolves {r : Eval Value} (h : Resolves r) : Resolves (present r) := by
  unfold present
  split
  · exact .ok _
  · exact .ok _
  · next f _ =>
    intro name hf
    exact h name hf

lemma selectField_resolves (v : Value) (name : String) : Resolves (selectField v name) := by
  unfold selectField
  extract_lets field?
  cases field? with
  | some w => exact .ok w
  | none =>
    dsimp only
    split
    · exact .ok _
    · exact .fail nofun

lemma asKey_resolves (v : Value) : Resolves (asKey v) := by
  unfold asKey
  split
  · exact .ok _
  · exact .fail nofun

section Comprehensions

variable {body : Value × Nat → Eval Value}

lemma mapOver_resolves (h : ∀ w, Resolves (body w)) (vs : List (Value × Nat)) :
    Resolves (mapOver body vs) := by
  induction vs with
  | nil => exact .ok _
  | cons w rest ih => exact .bind (h w) fun _ => .bind ih fun _ => .ok _

lemma filterOver_resolves (h : ∀ w, Resolves (body w)) (vs : List (Value × Nat)) :
    Resolves (filterOver body vs) := by
  induction vs with
  | nil => exact .ok _
  | cons w rest ih => exact .bind (h w) fun _ => .bind ih fun _ => .ok _

lemma judgeOver_resolves (h : ∀ w, Resolves (body w)) (judge : Bool → Value → Verdict)
    (answer : Bool) (vs : List (Value × Nat)) : Resolves (judgeOver judge body answer vs) := by
  induction vs generalizing answer with
  | nil => exact .ok _
  | cons w rest ih =>
    refine .bind (h w) fun x => ?_
    split
    · exact .ok _
    · exact ih _

/-- A comprehension misses a name only if its body does. -/
lemma comprehend_resolves (h : ∀ w, Resolves (body w)) (s : Scope) (f : Form) (target : Value) :
    Resolves (comprehend s f target body) := by
  unfold comprehend
  split
  · exact .map (mapOver_resolves h _)
  · exact .map (filterOver_resolves h _)
  · exact .fail nofun
  · exact .fail nofun
  · split
    · exact .fail nofun
    · split
      · exact judgeOver_resolves h _ _ _
      · exact judgeOver_resolves h _ _ _
      · exact judgeOver_resolves h _ _ _
      · exact .fail nofun

end Comprehensions

end GatedRelay.Expr
