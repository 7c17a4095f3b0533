import GatedRelay.Proofs.FunctionNames
import GatedRelay.Proofs.ScopeSoundness
import Mathlib.Data.List.Forall2

/-!
# Expressions that come to the same

Two expressions are alike if the checker and evaluation take them for the same, each where it is
meant to stand: what is bound for one corresponds to what is bound for the other, and so do the
scopes. An expression is like another one if its parts are like those of the other one.
-/

namespace GatedRelay.Expr

open Attempt

/-- Which bound names and which scopes correspond to each other. Scopes that do are at the same
step of the same world and remain so. -/
structure Correspondence where
  bound : List String → List String → Prop
  scope : Scope → Scope → Prop
  world : ∀ {s s'}, scope s s' → s'.world = s.world
  place : ∀ {s s'}, scope s s' → s'.place = s.place
  step : ∀ {s s'}, scope s s' → ∀ i, scope (s.step i) (s'.step i)
  next : ∀ {s s'}, scope s s' → scope s.next s'.next

/-- Everything corresponds to itself alone. -/
def Correspondence.equality : Correspondence where
  bound := Eq
  scope := Eq
  world h := h ▸ rfl
  place h := h ▸ rfl
  step h _ := h ▸ rfl
  next h := h ▸ rfl

/-- What corresponds remains so in the bodies of two comprehensions, where each binds its
variable. -/
structure Correspondence.Binds (C D : Correspondence) (x x' : String) : Prop where
  bound : ∀ {b b'}, C.bound b b' → D.bound (x :: b) (x' :: b')
  scope : ∀ {s s'} v, C.scope s s' → D.scope (s.bind x v) (s'.bind x' v)

def Term.isIdent : Term → Bool
  | .ident _ => true
  | _ => false

structure Alike (C : Correspondence) (e e' : Term) : Prop where
  type : ∀ {b b'}, C.bound b b' → infer b' e' = infer b e
  value : ∀ {s s'}, C.scope s s' → eval s' e' = eval s e
  space : ∀ {b b'}, C.bound b b' → ∀ name, qualified? b' e' name = qualified? b e name
  isIdent : e'.isIdent = e.isIdent

lemma Alike.refl (e : Term) : Alike .equality e e where
  type h := h ▸ rfl
  value h := h ▸ rfl
  space h _ := h ▸ rfl
  isIdent := rfl

variable {C D : Correspondence} {b b' : List String} {s s' : Scope}

lemma Correspondence.now (C : Correspondence) (hs : C.scope s s') : s'.now = s.now := by
  rw [Scope.now, Scope.now, C.world hs, C.place hs]

lemma comprehend_congr (C : Correspondence) (hs : C.scope s s') (f : Form) (v : Value)
    (body : Value × Nat → Eval Value) : comprehend s' f v body = comprehend s f v body := by
  have horder : s'.keyOrder = s.keyOrder := by
    rw [Scope.keyOrder, Scope.keyOrder, C.world hs, C.place hs]
  unfold comprehend
  rw [horder, C.place hs]

-- Both sides unfold to what is said of their parts, and these are alike.
attribute [local simp] infer inferList inferEntries inferFields
  eval evalList evalEntries evalArgs

section Lists

variable {items items' : List Term}

lemma inferList_congr (h : List.Forall₂ (Alike C) items items') (hb : C.bound b b') :
    inferList b' items' = inferList b items := by
  induction h with
  | nil => rfl
  | cons he _ ih => simp [he.type hb, ih]

lemma inferEntries_congr {entries entries' : List (Term × Term)}
    (h : List.Forall₂ (fun p q => Alike C p.1 q.1 ∧ Alike C p.2 q.2) entries entries')
    (hb : C.bound b b') : inferEntries b' entries' = inferEntries b entries := by
  induction h with
  | nil => rfl
  | cons hp _ ih => simp [hp.1.type hb, hp.2.type hb, ih]

lemma inferFields_congr {entries entries' : List (String × Term)}
    (h : List.Forall₂ (fun p q => Alike C p.2 q.2) entries entries') (hb : C.bound b b') :
    inferFields b' entries' = inferFields b entries := by
  induction h with
  | nil => rfl
  | cons hp _ ih => simp [hp.type hb, ih]

lemma evalList_congr (h : List.Forall₂ (Alike C) items items') (hs : C.scope s s') :
    evalList s' items' = evalList s items := by
  induction h generalizing s s' with
  | nil => rfl
  | cons he _ ih => simp [he.value hs, ih (C.next hs)]

lemma evalEntries_congr {entries entries' : List (Term × Term)}
    (h : List.Forall₂ (fun p q => Alike C p.1 q.1 ∧ Alike C p.2 q.2) entries entries')
    (hs : C.scope s s') : evalEntries s' entries' = evalEntries s entries := by
  induction h generalizing s s' with
  | nil => rfl
  | cons hp _ ih =>
    simp [hp.1.value hs, hp.2.value (C.next hs), ih (C.next (C.next hs))]

lemma evalArgs_congr (h : List.Forall₂ (Alike C) items items') (hs : C.scope s s')
    (kinds : List ParamKind) (more : Bool) :
    evalArgs s' items' kinds more = evalArgs s items kinds more := by
  induction h generalizing s s' kinds with
  | nil => cases kinds <;> rfl
  | cons he _ ih =>
    cases kinds with
    | nil =>
      cases more with
      | false => rfl
      | true => simp [he.value hs, ih (C.next hs)]
    | cons k kinds => simp [he.value hs, ih (C.next hs)]

end Lists

namespace Alike

variable {l l' r r' c c' t t' e e' : Term} {items items' : List Term}

lemma relation (op : Relation) (hl : Alike C l l') (hr : Alike C r r') :
    Alike C (.relation op l r) (.relation op l' r') where
  type hb := by simp [hl.type hb, hr.type hb]
  value hs := by simp [hl.value (C.step hs 0), hr.value (C.step hs 1)]
  space _ _ := rfl
  isIdent := rfl

lemma arithmetic (op : Arithmetic) (hl : Alike C l l') (hr : Alike C r r') :
    Alike C (.arithmetic op l r) (.arithmetic op l' r') where
  type hb := by simp [hl.type hb, hr.type hb]
  value hs := by simp [hl.value (C.step hs 0), hr.value (C.step hs 1), C.place hs]
  space _ _ := rfl
  isIdent := rfl

lemma conj (hl : Alike C l l') (hr : Alike C r r') : Alike C (.conj l r) (.conj l' r') where
  type hb := by simp [hl.type hb, hr.type hb]
  value hs := by simp [hl.value (C.step hs 0), hr.value (C.step hs 1)]
  space _ _ := rfl
  isIdent := rfl

lemma disj (hl : Alike C l l') (hr : Alike C r r') : Alike C (.disj l r) (.disj l' r') where
  type hb := by simp [hl.type hb, hr.type hb]
  value hs := by simp [hl.value (C.step hs 0), hr.value (C.step hs 1)]
  space _ _ := rfl
  isIdent := rfl

lemma unary (op : UnaryOp) (he : Alike C e e') : Alike C (.unary op e) (.unary op e') where
  type hb := by simp [he.type hb]
  value hs := by simp [he.value (C.step hs 0)]
  space _ _ := rfl
  isIdent := rfl

lemma ternary (hc : Alike C c c') (ht : Alike C t t') (he : Alike C e e') :
    Alike C (.ternary c t e) (.ternary c' t' e') where
  type hb := by simp [hc.type hb, ht.type hb, he.type hb]
  value hs := by
    simp [hc.value (C.step hs 0), ht.value (C.step hs 1), he.value (C.step hs 2)]
  space _ _ := rfl
  isIdent := rfl

lemma list (h : List.Forall₂ (Alike C) items items') : Alike C (.list items) (.list items') where
  type hb := by simp [inferList_congr h hb]
  value hs := by simp [evalList_congr h (C.step hs 0), C.place hs]
  space _ _ := rfl
  isIdent := rfl

lemma map {entries entries' : List (Term × Term)}
    (h : List.Forall₂ (fun p q => Alike C p.1 q.1 ∧ Alike C p.2 q.2) entries entries') :
    Alike C (.map entries) (.map entries') where
  type hb := by simp [inferEntries_congr h hb]
  value hs := by simp [evalEntries_congr h (C.step hs 0), C.place hs]
  space _ _ := rfl
  isIdent := rfl

lemma select (ht : Alike C t t') (name : String) : Alike C (.select t name) (.select t' name) where
  type hb := by simp [ht.type hb]
  value hs := by simp [ht.value (C.step hs 0)]
  space _ _ := rfl
  isIdent := rfl

lemma index (ht : Alike C t t') (he : Alike C e e') : Alike C (.index t e) (.index t' e') where
  type hb := by simp [ht.type hb, he.type hb]
  value hs := by simp [ht.value (C.step hs 0), he.value (C.step hs 1)]
  space _ _ := rfl
  isIdent := rfl

lemma fields {entries entries' : List (String × Term)} (ht : Alike C t t')
    (h : List.Forall₂ (fun p q => Alike C p.2 q.2) entries entries') :
    Alike C (.fields t entries) (.fields t' entries') where
  type hb := by simp [ht.type hb, inferFields_congr h hb]
  value hs := by simp [ht.value (C.step hs 0)]
  space _ _ := rfl
  isIdent := rfl

lemma call {name : String} (ha : List.Forall₂ (Alike C) items items') :
    Alike C (.call name items) (.call name items') where
  type hb := by simp [inferList_congr ha hb]
  value {s s'} hs := by
    have hargs := fun i => evalArgs_congr ha (C.step hs i)
    cases ha with
    | nil => simp [hargs, C.now hs]
    | cons he hrest =>
      simp [hargs, he.value (C.step hs 0), evalArgs_congr hrest (C.step hs 1), C.now hs]
  space _ _ := rfl
  isIdent := rfl

end Alike

section Methods

variable {t t' : Term} {name : String} {items items' : List Term}

/-- A comprehension without a variable is wrong in one of two ways. -/
lemma infer_of_noVariable {g : Builtin} (hq : qualified? b t name = none)
    (hc : comprehension? name = some g) (hv : ∀ x body, items ≠ [.ident x, body]) :
    infer b (.method t name items) =
      if items.length = 2 then (g.result, (infer b t).2 ++ [.noVariable name])
      else (.dyn, (infer b t).2 ++ [.wrongBody name]) := by
  rw [infer, hq, hc]
  dsimp only
  split
  · split
    · exact (hv _ _ rfl).elim
    · rfl
  · next hshape =>
    rw [if_neg]
    intro hlength
    obtain ⟨x, body, hitems⟩ := List.length_eq_two.mp hlength
    exact hshape x body hitems

lemma eval_of_noVariable {g : Form} (hf : Function.ofHandler? name = some (.builtin (.form g)))
    (hg : g ≠ .has) (hv : ∀ x body, items ≠ [.ident x, body]) :
    eval s (.method t name items) = eval (s.step 0) t >>= fun _ => fail .missingArgument := by
  conv_lhs => unfold eval
  rw [hf]
  congr 1
  funext v
  cases g with
  | has => exact (hg rfl).elim
  | _ =>
    dsimp only
    split
    · split
      · exact (hv _ _ rfl).elim
      · rfl
    · rfl

lemma noVariable_of_forall₂ (ha : List.Forall₂ (Alike C) items items')
    (hv : ∀ x body, items ≠ [.ident x, body]) : ∀ x body, items' ≠ [.ident x, body] := by
  rintro x body rfl
  cases ha with
  | @cons e _ _ _ he hrest =>
    cases hrest with
    | cons hb hnil =>
      cases hnil
      cases e with
      | ident z => exact hv _ _ rfl
      | _ => cases he.isIdent

/-- A call on a target that is not the call of a comprehension with its variable. -/
lemma Alike.method (ht : Alike C t t') (ha : List.Forall₂ (Alike C) items items')
    (hform : comprehension? name = none ∨ ∀ x body, items ≠ [.ident x, body]) :
    Alike C (.method t name items) (.method t' name items') where
  type {b b'} hb := by
    have hargs := inferList_congr ha hb
    cases hq : qualified? b t name with
    | some f =>
      rw [infer, infer, ht.space hb, hq, hargs]
    | none =>
      have hq' : qualified? b' t' name = none := (ht.space hb name).trans hq
      cases hc : comprehension? name with
      | none =>
        rw [infer, infer, hq, hq', hc, ht.type hb, hargs]
      | some g =>
        have hv := hform.resolve_left (by simp [hc])
        rw [infer_of_noVariable hq hc hv,
          infer_of_noVariable hq' hc (noVariable_of_forall₂ ha hv), ht.type hb, ha.length_eq]
  value {s s'} hs := by
    have hargs := fun i => evalArgs_congr ha (C.step hs i)
    by_cases hg : ∃ g, g ≠ .has ∧ Function.ofHandler? name = some (.builtin (.form g))
    · obtain ⟨g, hg, hf⟩ := hg
      have hv : ∀ x body, items ≠ [.ident x, body] := by
        refine hform.resolve_left fun hc => ?_
        exact hg (eq_has_of_comprehension?_none hc hf)
      rw [eval_of_noVariable hf hg hv, eval_of_noVariable hf hg (noVariable_of_forall₂ ha hv),
        ht.value (C.step hs 0)]
    · unfold eval
      rw [ht.value (C.step hs 0)]
      congr 1
      funext v
      split
      · rfl
      · cases ha with
        | nil => rfl
        | cons he hrest => exact congrArg present (he.value (C.step hs 1))
      · next g hne hf => exact (hg ⟨g, fun h => hne (h ▸ rfl), hf⟩).elim
      · simp only [hargs, C.now hs]
  space _ _ := rfl
  isIdent := rfl

/-- A name of a comprehension is in no namespace. -/
lemma qualified?_of_comprehension? {g : Builtin} (hc : comprehension? name = some g) :
    qualified? b t name = none := by
  cases hq : qualified? b t name with
  | none => rfl
  | some f =>
    cases (ofHandler?_of_qualified? hq).symm.trans (ofHandler?_of_comprehension? hc)

/-- The calls of a comprehension are alike if the bodies are, where each has its own variable. -/
lemma Alike.comprehension {g : Builtin} {x x' : String} {body body' : Term}
    (hc : comprehension? name = some g) (ht : Alike C t t') (hbody : Alike D body body')
    (hx : C.Binds D x x') :
    Alike C (.method t name [.ident x, body]) (.method t' name [.ident x', body']) where
  type hb := by
    rw [infer, infer, qualified?_of_comprehension? hc, qualified?_of_comprehension? hc, hc,
      ht.type hb]
    dsimp only
    rw [hbody.type (hx.bound hb)]
  value {s s'} hs := by
    obtain ⟨f, hf, rfl⟩ := eq_form_of_comprehension? hc
    have hstep : ∀ w : Value × Nat, eval ((s'.bind x' w.1).step (w.2 + 1)) body' =
        eval ((s.bind x w.1).step (w.2 + 1)) body :=
      fun w => hbody.value (D.step (hx.scope w.1 hs) _)
    unfold eval
    rw [ofHandler?_of_comprehension? hc, ht.value (C.step hs 0)]
    cases f with
    | has => exact (hf rfl).elim
    | _ => simp only [hstep, comprehend_congr C hs]
  space _ _ := rfl
  isIdent := rfl

end Methods

end GatedRelay.Expr
