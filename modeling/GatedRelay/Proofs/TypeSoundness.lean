import GatedRelay.Proofs.Compiling
import GatedRelay.Proofs.TermInduction
import GatedRelay.Proofs.ValueTypes

/-!
# The checker tells the truth about values

The type of an expression is the type of its value, if the expression has one. Only `||` is an
exception: its type is `bool`, but its value is that of an operand. So it takes operands of type
`bool` for the type to be right.
-/

namespace GatedRelay.Expr

open Attempt

section Comprehensions

variable {body : Value × Nat → Eval Value} {v : Value}

lemma judgeOver_type {judge : Bool → Value → Verdict} {answer : Bool} {vs : List (Value × Nat)}
    (h : judgeOver judge body answer vs = .ok v) : v.type = .bool := by
  induction vs generalizing answer with
  | nil =>
    cases h
    rfl
  | cons w rest ih =>
    obtain ⟨x, -, h⟩ := bind_eq_ok_iff.mp h
    split at h
    · cases h
      rfl
    · exact ih h

lemma comprehend_type {s : Scope} {f : Form} {target : Value}
    (h : comprehend s f target body = .ok v) : v.type = (Builtin.form f).result := by
  unfold comprehend at h
  split at h
  · obtain ⟨ws, -, rfl⟩ := map_eq_ok_iff.mp h
    rfl
  · obtain ⟨ws, -, rfl⟩ := map_eq_ok_iff.mp h
    rfl
  · cases h
  · cases h
  · split at h
    · cases h
    · split at h
      · exact judgeOver_type h
      · exact judgeOver_type h
      · exact judgeOver_type h
      · cases h

end Comprehensions

lemma present_type {r : Eval Value} {v : Value} (h : present r = .ok v) : v.type = .bool := by
  unfold present at h
  split at h <;> cases h <;> rfl

/-- A call that answers was made on a known function, and its answer is what the function makes of
some arguments. -/
lemma call_ok {s : Scope} {name : String} {args : List Term} {v : Value}
    (h : eval s (.call name args) = .ok v) :
    ∃ f, Function.ofHandler? name = some f ∧
      (f = .builtin (.form .has) ∧ v.type = .bool ∨ ∃ vs, f.apply s.now vs = .ok v) := by
  unfold eval at h
  split at h
  · cases h
  · next hf =>
    refine ⟨_, hf, .inl ⟨rfl, ?_⟩⟩
    split at h
    · cases h
    · exact present_type h
  · cases h
  · next f _ _ hf =>
    refine ⟨f, hf, .inr ?_⟩
    split at h
    · obtain ⟨vs, -, h⟩ := bind_eq_ok_iff.mp h
      exact ⟨vs, h⟩
    · split at h
      · cases h
      · obtain ⟨w, -, h⟩ := bind_eq_ok_iff.mp h
        obtain ⟨w', -, h⟩ := bind_eq_ok_iff.mp h
        obtain ⟨vs, -, h⟩ := bind_eq_ok_iff.mp h
        exact ⟨w' :: vs, h⟩

lemma method_ok {s : Scope} {target : Term} {name : String} {args : List Term} {v : Value}
    (h : eval s (.method target name args) = .ok v) :
    ∃ f, Function.ofHandler? name = some f ∧
      ((∃ g, f = .builtin (.form g) ∧ v.type = (Builtin.form g).result) ∨
        ∃ vs, f.apply s.now vs = .ok v) := by
  unfold eval at h
  obtain ⟨t, -, h⟩ := bind_eq_ok_iff.mp h
  split at h
  · cases h
  · next hf =>
    refine ⟨_, hf, .inl ⟨.has, rfl, ?_⟩⟩
    split at h
    · cases h
    · exact present_type h
  · next g _ hf =>
    refine ⟨_, hf, .inl ⟨g, rfl, ?_⟩⟩
    split at h
    · split at h
      · exact comprehend_type h
      · cases h
    · cases h
  · next f _ _ hf =>
    refine ⟨f, hf, .inr ?_⟩
    split at h
    · obtain ⟨vs, -, h⟩ := bind_eq_ok_iff.mp h
      exact ⟨vs, h⟩
    · obtain ⟨w, -, h⟩ := bind_eq_ok_iff.mp h
      obtain ⟨vs, -, h⟩ := bind_eq_ok_iff.mp h
      exact ⟨w :: vs, h⟩

/-- The type of the results of a function. -/
def Function.result : Function → Ty
  | builtin b => b.result
  | library f => f.result

lemma Function.apply_ofType {now : Moment} {f : Function} {vs : List Value} {v : Value}
    (h : f.apply now vs = .ok v) : v.OfType f.result := by
  cases f with
  | builtin b => exact Builtin.apply_ofType (Outcome.toEval_eq_ok_iff.mp h)
  | library g => exact fun _ => Library.apply_type (Outcome.toEval_eq_ok_iff.mp h)

lemma libraryCall_ofType {f : Library} {receiver : Option Ty} {args : List Ty} {v : Value}
    (h : v.OfType f.result) : v.OfType (libraryCall f receiver args).1 := by
  unfold libraryCall
  split
  · next o ho =>
    rw [Library.result_of_mem_overloads (List.mem_of_find?_eq_some ho)]
    exact h
  · exact v.ofType_dyn

lemma plainCall_ofType {name : String} {receiver : Option Ty} {args : List Ty} {f : Function}
    {v : Value} (hf : Function.ofHandler? name = some f) (h : v.OfType f.result) :
    v.OfType (plainCall name receiver args).1 := by
  unfold plainCall
  split
  · next g hg =>
    obtain rfl := Function.eq_library_of_ofHandler? hg hf
    exact libraryCall_ofType h
  · split
    · next b hb =>
      obtain rfl : f = .builtin b := by
        simpa [hf] using Function.ofHandler?_of_builtin hb
      unfold builtinCall
      dsimp only
      generalize (if receiver.isSome then b.methodArity? else b.globalArity?) = arity?
      split
      · exact h
      · exact v.ofType_dyn
    · exact v.ofType_dyn

/-- The type of a call holds whatever its arguments are. -/
lemma call_ofType {s : Scope} {bound : List String} {name : String} {args : List Term} {v : Value}
    (h : eval s (.call name args) = .ok v) : v.OfType (infer bound (.call name args)).1 := by
  unfold infer
  split
  · exact v.ofType_dyn
  · obtain ⟨f, hf, ⟨rfl, hv⟩ | ⟨vs, hv⟩⟩ := call_ok h
    · exact plainCall_ofType hf fun _ => hv
    · exact plainCall_ofType hf (Function.apply_ofType hv)

lemma method_ofType {s : Scope} {bound : List String} {target : Term} {name : String}
    {args : List Term} {v : Value} (h : eval s (.method target name args) = .ok v) :
    v.OfType (infer bound (.method target name args)).1 := by
  obtain ⟨f, hf, hv⟩ := method_ok h
  have hv : v.OfType f.result := by
    rcases hv with ⟨g, rfl, hv⟩ | ⟨vs, hv⟩
    · exact fun _ => hv
    · exact Function.apply_ofType hv
  unfold infer
  split
  · next g hg =>
    obtain rfl : f = .library g := by simpa [hf] using ofHandler?_of_qualified? hg
    exact libraryCall_ofType hv
  · split
    · next b hb =>
      obtain rfl : f = .builtin b := by simpa [hf] using ofHandler?_of_comprehension? hb
      split
      · split
        · exact hv
        · exact hv
      · exact v.ofType_dyn
    · exact plainCall_ofType hf hv

mutual

/-- Whether the operands of each `||` have type `bool` where they stand. -/
def disjoinsBools (bound : List String) : Term → Bool
  | .literal _ | .ident _ => true
  | .relation _ l r | .arithmetic _ l r | .conj l r => disjoinsBools bound l && disjoinsBools bound r
  | .disj l r =>
    (infer bound l).1 == .bool && (infer bound r).1 == .bool && disjoinsBools bound l &&
      disjoinsBools bound r
  | .unary _ e => disjoinsBools bound e
  | .ternary c t e => disjoinsBools bound c && disjoinsBools bound t && disjoinsBools bound e
  | .list items => disjoinsBoolsList bound items
  | .map entries => disjoinsBoolsEntries bound entries
  | .select target _ => disjoinsBools bound target
  | .index target i => disjoinsBools bound target && disjoinsBools bound i
  | .fields target entries => disjoinsBools bound target && disjoinsBoolsFields bound entries
  | .call _ args => disjoinsBoolsList bound args
  | .method target name args =>
    disjoinsBools bound target &&
      match comprehension? name, args with
      | some _, [x, body] =>
        match x with
        | .ident x => disjoinsBools (x :: bound) body
        | x => disjoinsBools bound x && disjoinsBools bound body
      | _, args => disjoinsBoolsList bound args

def disjoinsBoolsList (bound : List String) : List Term → Bool
  | [] => true
  | e :: rest => disjoinsBools bound e && disjoinsBoolsList bound rest

def disjoinsBoolsEntries (bound : List String) : List (Term × Term) → Bool
  | [] => true
  | (k, v) :: rest =>
    disjoinsBools bound k && disjoinsBools bound v && disjoinsBoolsEntries bound rest

def disjoinsBoolsFields (bound : List String) : List (String × Term) → Bool
  | [] => true
  | (_, v) :: rest => disjoinsBools bound v && disjoinsBoolsFields bound rest

end

theorem eval_ofType {e : Term} {s : Scope} {bound : List String} {v : Value}
    (hd : disjoinsBools bound e = true) (h : eval s e = .ok v) : v.OfType (infer bound e).1 := by
  induction e generalizing s v with
  | literal a =>
    cases a <;> cases h <;> exact fun _ => rfl
  | ident name => exact v.ofType_dyn
  | relation op l r ihl ihr =>
    obtain ⟨a, -, h⟩ := bind_eq_ok_iff.mp h
    obtain ⟨b, -, h⟩ := bind_eq_ok_iff.mp h
    exact fun _ => Value.relation_type h
  | arithmetic op l r ihl ihr =>
    obtain ⟨a, ha, h⟩ := bind_eq_ok_iff.mp h
    obtain ⟨b, hb, h⟩ := bind_eq_ok_iff.mp h
    rw [disjoinsBools, Bool.and_eq_true] at hd
    exact Value.arithmetic_ofType (ihl hd.1 ha) (ihr hd.2 hb) h
  | conj l r ihl ihr =>
    obtain ⟨a, -, h⟩ := bind_eq_ok_iff.mp h
    obtain ⟨b, -, h⟩ := bind_eq_ok_iff.mp h
    cases h
    exact fun _ => rfl
  | disj l r ihl ihr =>
    obtain ⟨a, ha, h⟩ := bind_eq_ok_iff.mp h
    simp only [disjoinsBools, Bool.and_eq_true, beq_iff_eq] at hd
    obtain ⟨⟨⟨hl, hr⟩, hdl⟩, hdr⟩ := hd
    split at h
    · cases h
      have hv := ihl hdl ha
      rwa [hl] at hv
    · have hv := ihr hdr h
      rwa [hr] at hv
  | unary op e ih =>
    obtain ⟨a, ha, h⟩ := bind_eq_ok_iff.mp h
    rw [disjoinsBools] at hd
    exact Value.unary_ofType (ih hd ha) h
  | ternary c t e ihc iht ihe =>
    obtain ⟨b, -, h⟩ := bind_eq_ok_iff.mp h
    simp only [disjoinsBools, Bool.and_eq_true] at hd
    apply Value.ofType_join
    split at h
    · exact .inl (iht hd.1.2 h)
    · exact .inr (ihe hd.2 h)
  | list items ih =>
    obtain ⟨vs, -, rfl⟩ := map_eq_ok_iff.mp h
    exact fun _ => rfl
  | map entries ih =>
    obtain ⟨es, -, rfl⟩ := map_eq_ok_iff.mp h
    exact fun _ => rfl
  | select target name ih => exact v.ofType_dyn
  | index target i iht ihi => exact v.ofType_dyn
  | fields target entries iht ihe => exact v.ofType_dyn
  | call name args ih => exact call_ofType h
  | method target name args iht ih => exact method_ofType h

/-- The type of an expression that compiles is the type of its values, in whatever world it is
evaluated and whatever its variables are. -/
theorem compile_sound {source : String} {e : Term} {t : Ty} {world : World}
    {origin request v : Value}
    (hc : compile source = .ok (e, t)) (hd : disjoinsBools [] e = true) (ht : t ≠ .dyn)
    (hv : eval (Scope.root world origin request) e = .ok v) : v.type = t := by
  obtain ⟨-, hi⟩ := compile_eq_ok_iff.mp hc
  have hof := eval_ofType hd hv
  rw [hi] at hof
  exact hof ht

/-- The tree of `has(request.a) || [1, 2].exists(x, x > request)`. -/
def hasOrExists : Term :=
  .disj (.call "has" [.select (.ident "request") "a"])
    (.method (.list [.literal (.int 1), .literal (.int 2)]) "exists"
      [.ident "x", .relation .greater (.ident "x") (.ident "request")])

lemma compile_hasOrExists :
    compile "has(request.a) || [1, 2].exists(x, x > request)" = .ok (hasOrExists, .bool) := by
  have htokens : Token.ofText "has(request.a) || [1, 2].exists(x, x > request)".toList =
      [.ident ['h', 'a', 's'], .symbol .parenOpen, .ident ['r', 'e', 'q', 'u', 'e', 's', 't'],
        .symbol .dot, .ident ['a'], .symbol .parenClose, .symbol .orOr, .symbol .bracketOpen,
        .int ['1'], .symbol .comma, .int ['2'], .symbol .bracketClose, .symbol .dot,
        .ident ['e', 'x', 'i', 's', 't', 's'], .symbol .parenOpen, .ident ['x'], .symbol .comma,
        .ident ['x'], .symbol .gt, .ident ['r', 'e', 'q', 'u', 'e', 's', 't'],
        .symbol .parenClose] := by decide +kernel
  rw [compile_eq_ok_iff, read_eq_parsed_iff, htokens]
  exact ⟨⟨rfl, by decide +kernel⟩, rfl⟩

theorem compile_sound_hasOrExists :
    disjoinsBools [] hasOrExists = true ∧ (.bool : Ty) ≠ .dyn ∧
      eval (Scope.root (0 : Int) .null (.int 1)) hasOrExists = .ok (.bool true) ∧
      (Value.bool true).type = .bool := by
  have hd : disjoinsBools [] hasOrExists = true := by rfl
  have hv : eval (Scope.root (0 : Int) .null (.int 1)) hasOrExists = .ok (.bool true) := by rfl
  exact ⟨hd, by decide, hv, compile_sound compile_hasOrExists hd (by decide) hv⟩

end GatedRelay.Expr
