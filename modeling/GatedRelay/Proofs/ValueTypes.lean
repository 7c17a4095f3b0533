import GatedRelay.Expr.Eval
import GatedRelay.Proofs.Attempts
import GatedRelay.Proofs.FunctionNames
import Mathlib.Data.List.Basic

/-!
# Types of results

What operators and functions answer is of the type that the checker gives to their calls. A type
`dyn` promises nothing.
-/

namespace GatedRelay.Expr

open Attempt

/-- Whether a type tells the truth about a value. -/
def Value.OfType (v : Value) (t : Ty) : Prop := t ≠ .dyn → v.type = t

lemma Value.ofType_dyn (v : Value) : v.OfType .dyn := fun h => (h rfl).elim

lemma Value.ofType_join {v : Value} {a b : Ty} (h : v.OfType a ∨ v.OfType b) :
    v.OfType (a.join b) := by
  unfold Ty.join
  split
  · next he =>
    subst he
    exact h.elim id id
  · exact v.ofType_dyn

/-- The operands for which the type of an operation is known. -/
lemma arithmeticType_cases {op : Arithmetic} {l r : Ty} (h : arithmeticType op l r ≠ .dyn) :
    (l = .timestamp ∧ (op = .add ∨ op = .sub) ∧ r = .duration) ∨
    (l = .duration ∧ op = .add ∧ r = .timestamp) ∨
    (l = .duration ∧ (op = .add ∨ op = .sub) ∧ r = .duration) ∨
    (l = r ∧ (l = .int ∨ l = .uint ∨ l = .double)) ∨
    (l = r ∧ op = .add ∧ (l = .string ∨ l = .bytes ∨ l = .list)) := by
  cases l <;> cases r <;> cases op <;> simp_all [arithmeticType, Ty.isNumeric]

namespace Value

variable {a b v : Value} {p : Place}

lemma onInts_type {op : Arithmetic} {x y : Int64} (h : onInts op x y = .ok v) : v.type = .int := by
  unfold onInts wholeDiv at h
  split at h
  all_goals first | (cases h; rfl) | (split at h <;> cases h; rfl)

lemma onUInts_type {op : Arithmetic} {x y : UInt64} (h : onUInts op x y = .ok v) :
    v.type = .uint := by
  unfold onUInts unsignedDiv at h
  split at h
  all_goals first | (cases h; rfl) | (split at h <;> cases h; rfl)

lemma onDoubles_type (op : Arithmetic) (x y : Double) : (onDoubles op x y).type = .double := by
  cases op <;> rfl

lemma orAbort_type {α : Type} {x : Option α} {f : α → Value} {t : Ty} (hf : ∀ a, (f a).type = t)
    (h : (orAbort (x.map f) : Eval Value) = .ok v) : v.type = t := by
  cases x with
  | none => cases h
  | some a =>
    cases h
    exact hf a

theorem arithmetic_ofType {op : Arithmetic} {ta tb : Ty} (ha : a.OfType ta) (hb : b.OfType tb)
    (h : arithmetic p op a b = .ok v) : v.OfType (arithmeticType op ta tb) := by
  intro ht
  rcases arithmeticType_cases ht with ⟨rfl, rfl | rfl, rfl⟩ | ⟨rfl, rfl, rfl⟩ |
    ⟨rfl, rfl | rfl, rfl⟩ | ⟨rfl, rfl | rfl | rfl⟩ | ⟨rfl, rfl, rfl | rfl | rfl⟩
  all_goals
    replace ha := ha (by simp)
    replace hb := hb (by simp)
    cases a <;> cases ha
    cases b <;> cases hb
  · exact orAbort_type (fun _ => rfl) h
  · exact orAbort_type (fun _ => rfl) h
  · exact orAbort_type (fun _ => rfl) h
  · exact orAbort_type (fun _ => rfl) h
  · exact orAbort_type (fun _ => rfl) h
  · exact onInts_type h
  · exact onUInts_type h
  · cases h
    exact onDoubles_type ..
  · cases h
    rfl
  · cases h
  · cases h
    rfl

lemma ordered_type {test : Ordering → Bool} (h : ordered test a b = .ok v) : v.type = .bool := by
  unfold ordered at h
  split at h <;> cases h
  rfl

lemma isIn_type (h : isIn a b = .ok v) : v.type = .bool := by
  unfold isIn at h
  split at h <;> cases h <;> rfl

theorem relation_type {op : Relation} (h : relation op a b = .ok v) : v.type = .bool := by
  cases op with
  | less | lessEq | greater | greaterEq => exact ordered_type h
  | equal | notEqual =>
    cases h
    rfl
  | isIn => exact isIn_type h

theorem unary_ofType {op : UnaryOp} {t : Ty} (ha : a.OfType t) (h : unary op a = .ok v) :
    v.OfType (unaryType op t) := by
  unfold unary at h
  split at h
  all_goals cases h
  · exact fun _ => rfl
  · exact fun _ => rfl
  all_goals
    intro ht
    have hn : t.isNumeric = true := by
      by_contra hn
      simp [unaryType, hn] at ht
    obtain rfl := ha (by rintro rfl; cases hn)
    rfl

end Value

lemma Outcome.ofOption_type {r : Refusal} {x : Option Value} {t : Ty}
    (hx : ∀ w, x = some w → w.type = t) {v : Value} (h : ofOption r x = .value v) : v.type = t := by
  cases x with
  | none => cases h
  | some w =>
    cases h
    exact hx v rfl

lemma Outcome.ofOption_map_type {α : Type} {r : Refusal} {x : Option α} {f : α → Value} {t : Ty}
    {v : Value} (h : ofOption r (x.map f) = .value v) (hf : ∀ a, (f a).type = t) : v.type = t := by
  refine ofOption_type (fun w hw => ?_) h
  obtain ⟨a, -, rfl⟩ := Option.map_eq_some_iff.mp hw
  exact hf a

lemma Outcome.toEval_eq_ok_iff {function : String} {x : Outcome} {v : Value} :
    x.toEval function = .ok v ↔ x = .value v := by
  cases x <;> simp [toEval, fail, abort]

namespace Convert

lemma int64?_type {i : Int} {v : Value} (h : int64? i = some v) : v.type = .int := by
  unfold int64? at h
  split at h <;> cases h
  rfl

lemma uint64?_type {i : Int} {v : Value} (h : uint64? i = some v) : v.type = .uint := by
  unfold uint64? at h
  split at h <;> cases h
  rfl

lemma toInt_type {a v : Value} (h : toInt a = .value v) : v.type = .int := by
  unfold toInt at h
  split at h
  · refine Outcome.ofOption_type (fun w hw => ?_) h
    obtain ⟨i, -, hi⟩ := Option.bind_eq_some_iff.mp hw
    exact int64?_type hi
  · split at h
    · cases h
    · exact Outcome.ofOption_type (fun w hw => int64?_type hw) h
  · cases h
    rfl
  · exact Outcome.ofOption_type (fun w hw => int64?_type hw) h
  · cases h

lemma toUInt_type {a v : Value} (h : toUInt a = .value v) : v.type = .uint := by
  unfold toUInt at h
  split at h
  · refine Outcome.ofOption_type (fun w hw => ?_) h
    obtain ⟨i, -, hi⟩ := Option.bind_eq_some_iff.mp hw
    exact uint64?_type hi
  · split at h
    · cases h
    · exact Outcome.ofOption_type (fun w hw => uint64?_type hw) h
  · exact Outcome.ofOption_type (fun w hw => uint64?_type hw) h
  · cases h
    rfl
  · cases h

lemma toDouble_type {a v : Value} (h : toDouble a = .value v) : v.type = .double := by
  unfold toDouble at h
  split at h
  · exact Outcome.ofOption_map_type h fun _ => rfl
  · exact Outcome.ofOption_map_type h fun _ => rfl

lemma toText_type {a v : Value} (h : toText a = .value v) : v.type = .string := by
  unfold toText at h
  split at h <;> cases h <;> rfl

end Convert

namespace Builtin

lemma occurs_type {this arg v : Value} (h : occurs this arg = .value v) : v.type = .bool := by
  unfold occurs at h
  split at h
  · cases h
    rfl
  · split at h <;> cases h
    rfl
  · cases h
    rfl
  · split at h <;> cases h
    rfl
  · cases h
    rfl

lemma sizeOf_type {a v : Value} (h : sizeOf a = .value v) : v.type = .int := by
  unfold sizeOf at h
  dsimp only at h
  split at h <;> cases h <;> rfl

lemma searchPattern_type {text pattern : String} {v : Value}
    (h : searchPattern text pattern = .value v) : v.type = .bool := by
  unfold searchPattern at h
  split at h <;> cases h
  rfl

theorem apply_ofType {b : Builtin} {args : List Value} {v : Value} (h : b.apply args = .value v) :
    v.OfType b.result := by
  intro hb
  unfold apply at h
  split at h
  · exact occurs_type h
  · cases h
    rfl
  · cases h
    rfl
  · exact searchPattern_type h
  · exact sizeOf_type h
  · exact Convert.toInt_type h
  · exact Convert.toUInt_type h
  · exact Convert.toDouble_type h
  · exact Convert.toText_type h
  · cases h
    rfl
  · exact (hb rfl).elim
  · exact Outcome.ofOption_map_type h fun _ => rfl
  · exact Outcome.ofOption_map_type h fun _ => rfl
  · cases h

end Builtin

namespace Library

lemma rangeTest_type {addr range : String} {v : Value} (h : rangeTest addr range = .value v) :
    v.type = .bool := by
  unfold rangeTest at h
  split at h
  · cases h
  · split at h <;> cases h
    rfl

lemma jsonObject_type {text : String} {v : Value} (h : jsonObject text = .value v) :
    v.type = .map := by
  unfold jsonObject at h
  split at h <;> cases h
  rfl

lemma tokenClaims_type {now : Moment} {key token : String} {v : Value}
    (h : tokenClaims now key token = .value v) : v.type = .map := by
  unfold tokenClaims at h
  split at h <;> cases h
  rfl

lemma ofRefusal_type {x : Except Refusal Value} {t : Ty} (hx : ∀ w, x = .ok w → w.type = t)
    {v : Value} (h : Outcome.ofRefusal x = .value v) : v.type = t := by
  cases x with
  | error r => cases h
  | ok w =>
    cases h
    exact hx v rfl

lemma slice_type {s : String} {args : List Value} {v : Value} (h : slice s args = .ok v) :
    v.type = .string := by
  unfold slice at h
  dsimp only at h
  split at h
  · obtain ⟨start, -, h⟩ := bind_eq_ok_iff.mp h
    split at h
    all_goals
      obtain ⟨finish, -, h⟩ := bind_eq_ok_iff.mp h
      split at h <;> cases h
      rfl
  · cases h

lemma joinList_type {items args : List Value} {v : Value} (h : joinList items args = .ok v) :
    v.type = .string := by
  unfold joinList at h
  split at h
  all_goals
    obtain ⟨separator, -, h⟩ := bind_eq_ok_iff.mp h
    obtain ⟨parts, -, h⟩ := bind_eq_ok_iff.mp h
    cases h
    rfl

lemma characterAt_type {s : String} {i : Int64} {v : Value} (h : characterAt s i = .value v) :
    v.type = .string := by
  unfold characterAt at h
  dsimp only at h
  split at h <;> cases h
  rfl

lemma formatted_type {template : String} {args : List Value} {v : Value}
    (h : formatted template args = .value v) : v.type = .string := by
  unfold formatted at h
  split at h <;> cases h
  rfl

lemma timePart_type {p : TimePart} {this : Value} {args : List Value} {v : Value}
    (h : timePart p this args = .value v) : v.type = .int := by
  unfold timePart at h
  split at h
  · cases h
    rfl
  · split at h <;> cases h
    rfl
  · exact Outcome.ofOption_map_type h fun _ => rfl
  · cases h

/-- The type of the results of a function, which all its overloads promise. -/
def result : Library → Ty
  | ipInRange => .bool
  | parseJson | parseJwt => .map
  | indexOf | lastIndexOf | part _ => .int
  | split => .list
  | decodeBase64 => .bytes
  | _ => .string

lemma result_of_mem_overloads {f : Library} {o : Overload} (ho : o ∈ f.overloads) :
    o.result = f.result := by
  have hall : ∀ f ∈ allFunctions, ∀ o ∈ f.overloads, o.result = f.result := by decide
  exact hall f (mem_allFunctions f) o ho

theorem apply_type {now : Moment} {f : Library} {args : List Value} {v : Value}
    (h : f.apply now args = .value v) : v.type = f.result := by
  unfold apply at h
  split at h
  · exact rangeTest_type h
  · exact jsonObject_type h
  · exact tokenClaims_type h
  · cases h
    rfl
  · cases h
    rfl
  · exact ofRefusal_type (fun w hw => slice_type hw) h
  · cases h
    rfl
  · cases h
    rfl
  · cases h
    rfl
  · cases h
    rfl
  · cases h
    rfl
  · cases h
    rfl
  · cases h
    rfl
  · exact characterAt_type h
  · cases h
    rfl
  · exact formatted_type h
  · exact ofRefusal_type (fun w hw => joinList_type hw) h
  · cases h
    rfl
  · cases h
    rfl
  · exact Outcome.ofOption_map_type h fun _ => rfl
  · exact timePart_type h
  · cases h

end Library

end GatedRelay.Expr
