import GatedRelay.Proofs.Likeness
import Mathlib.Logic.Function.Basic

/-!
# The name of a variable does not matter

A comprehension may call its variable as it likes, as long as the name does not occur in the call
already: checker and evaluation do not see the difference. Not even the names of functions,
namespaces and other variables are to be avoided, since the innermost variable of a name comes
first.
-/

namespace GatedRelay.Expr

mutual

/-- Renames the free variables. A comprehension keeps its own variable in its body. -/
def Term.renameFree (ρ : String → String) : Term → Term
  | .literal a => .literal a
  | .ident name => .ident (ρ name)
  | .relation op l r => .relation op (l.renameFree ρ) (r.renameFree ρ)
  | .arithmetic op l r => .arithmetic op (l.renameFree ρ) (r.renameFree ρ)
  | .conj l r => .conj (l.renameFree ρ) (r.renameFree ρ)
  | .disj l r => .disj (l.renameFree ρ) (r.renameFree ρ)
  | .unary op e => .unary op (e.renameFree ρ)
  | .ternary c t e => .ternary (c.renameFree ρ) (t.renameFree ρ) (e.renameFree ρ)
  | .list items => .list (renameFreeAll ρ items)
  | .map entries => .map (renameFreeEntries ρ entries)
  | .select target name => .select (target.renameFree ρ) name
  | .index target i => .index (target.renameFree ρ) (i.renameFree ρ)
  | .fields target entries => .fields (target.renameFree ρ) (renameFreeFields ρ entries)
  | .call name args => .call name (renameFreeAll ρ args)
  | .method target name args =>
    match comprehension? name, args with
    | some _, [.ident z, body] =>
      .method (target.renameFree ρ) name [.ident z, body.renameFree (Function.update ρ z z)]
    | _, args => .method (target.renameFree ρ) name (renameFreeAll ρ args)

def renameFreeAll (ρ : String → String) : List Term → List Term
  | [] => []
  | e :: rest => e.renameFree ρ :: renameFreeAll ρ rest

def renameFreeEntries (ρ : String → String) : List (Term × Term) → List (Term × Term)
  | [] => []
  | (k, v) :: rest => (k.renameFree ρ, v.renameFree ρ) :: renameFreeEntries ρ rest

def renameFreeFields (ρ : String → String) : List (String × Term) → List (String × Term)
  | [] => []
  | (k, v) :: rest => (k, v.renameFree ρ) :: renameFreeFields ρ rest

end

section Scopes

variable {s : Scope} {bound : List String} {x n : String}

lemma Scope.find?_bind_self (s : Scope) (x : String) (v : Value) :
    (s.bind x v).find? x = some v := by
  simp [Scope.find?, Scope.bind]

lemma Scope.find?_bind_of_ne (hx : n ≠ x) (v : Value) : (s.bind x v).find? n = s.find? n := by
  simp [Scope.find?, Scope.bind, hx.symm]

lemma isVariable_cons_self (bound : List String) (x : String) :
    isVariable (x :: bound) x = true := by
  simp [isVariable]

lemma isVariable_cons_of_ne (hx : n ≠ x) : isVariable (x :: bound) n = isVariable bound n := by
  simp [isVariable, hx]

end Scopes

/-- Names that are good stand for the same after renaming, and a name that stands for nothing is not
renamed. -/
def Correspondence.renaming (good : String → Prop) (ρ : String → String) : Correspondence where
  bound b b' := ∀ n, good n →
    isVariable b' (ρ n) = isVariable b n ∧ (isVariable b n = false → ρ n = n)
  scope s s' := s'.world = s.world ∧ s'.place = s.place ∧ ∀ n, good n →
    s'.find? (ρ n) = s.find? n ∧ (s.find? n = none → ρ n = n)
  world h := h.1
  place h := h.2.1
  step h _ := ⟨h.1, congrArg (Place.step · _) h.2.1, h.2.2⟩
  next h := ⟨h.1, congrArg Place.next h.2.1, h.2.2⟩

/-- Whether a renaming gives good names only to themselves. -/
def IsFresh (good : String → Prop) (ρ : String → String) : Prop :=
  ∀ n, good n → ρ n = n ∨ ¬good (ρ n)

namespace IsFresh

variable {good : String → Prop} {ρ : String → String} {x y z : String}

lemma update_self (h : IsFresh good ρ) (z : String) : IsFresh good (Function.update ρ z z) := by
  intro n hn
  by_cases hz : n = z
  · subst hz
    exact .inl (Function.update_self ..)
  · rw [Function.update_of_ne hz]
    exact h n hn

lemma single (x y : String) : IsFresh (· ≠ y) (Function.update id x y) := by
  intro n _
  by_cases hx : n = x
  · subst hx
    simp
  · exact .inl (Function.update_of_ne hx ..)

/-- The variable of a comprehension hides what was renamed, and no name is renamed to it. -/
lemma binds (h : IsFresh good ρ) (hz : good z) :
    (Correspondence.renaming good ρ).Binds (.renaming good (Function.update ρ z z)) z z := by
  have hne : ∀ n, good n → n ≠ z → ρ n ≠ z := by
    intro n hn hnz he
    rcases h n hn with hid | hbad
    · exact hnz (hid ▸ he)
    · exact hbad (he ▸ hz)
  constructor
  · intro b b' hb n hn
    by_cases hnz : n = z
    · subst hnz
      simp [isVariable_cons_self]
    · rw [Function.update_of_ne hnz, isVariable_cons_of_ne hnz,
        isVariable_cons_of_ne (hne n hn hnz)]
      exact hb n hn
  · rintro s s' v ⟨hworld, hplace, hs⟩
    refine ⟨hworld, hplace, fun n hn => ?_⟩
    by_cases hnz : n = z
    · subst hnz
      simp [Scope.find?_bind_self]
    · rw [Function.update_of_ne hnz, Scope.find?_bind_of_ne hnz,
        Scope.find?_bind_of_ne (hne n hn hnz)]
      exact hs n hn

end IsFresh

/-- One variable in the place of another one, where the former is not among the good names. -/
lemma binds_single (x y : String) :
    Correspondence.equality.Binds (.renaming (· ≠ y) (Function.update id x y)) x y := by
  constructor
  · rintro b _ rfl n hn
    by_cases hx : n = x
    · subst hx
      simp [isVariable_cons_self]
    · simp [Function.update_of_ne hx, isVariable_cons_of_ne hx, isVariable_cons_of_ne hn]
  · rintro s _ v rfl
    refine ⟨rfl, rfl, fun n hn => ?_⟩
    by_cases hx : n = x
    · subst hx
      simp [Scope.find?_bind_self]
    · simp [Function.update_of_ne hx, Scope.find?_bind_of_ne hx, Scope.find?_bind_of_ne hn]

section Renamed

variable {good : String → Prop} {ρ : String → String}

lemma forall₂_renameFreeAll {P : Term → Term → Prop} {items : List Term}
    (h : ∀ e ∈ items, P e (e.renameFree ρ)) : List.Forall₂ P items (renameFreeAll ρ items) := by
  induction items with
  | nil => exact .nil
  | cons e rest ih =>
    obtain ⟨he, hrest⟩ := List.forall_mem_cons.mp h
    exact .cons he (ih hrest)

lemma forall₂_renameFreeEntries {P : Term → Term → Prop} {entries : List (Term × Term)}
    (hk : ∀ p ∈ entries, P p.1 (p.1.renameFree ρ)) (hv : ∀ p ∈ entries, P p.2 (p.2.renameFree ρ)) :
    List.Forall₂ (fun p q => P p.1 q.1 ∧ P p.2 q.2) entries (renameFreeEntries ρ entries) := by
  induction entries with
  | nil => exact .nil
  | cons p rest ih =>
    obtain ⟨hkp, hkrest⟩ := List.forall_mem_cons.mp hk
    obtain ⟨hvp, hvrest⟩ := List.forall_mem_cons.mp hv
    exact .cons ⟨hkp, hvp⟩ (ih hkrest hvrest)

lemma forall₂_renameFreeFields {P : Term → Term → Prop} {entries : List (String × Term)}
    (h : ∀ p ∈ entries, P p.2 (p.2.renameFree ρ)) :
    List.Forall₂ (fun p q => P p.2 q.2) entries (renameFreeFields ρ entries) := by
  induction entries with
  | nil => exact .nil
  | cons p rest ih =>
    obtain ⟨hp, hrest⟩ := List.forall_mem_cons.mp h
    exact .cons hp (ih hrest)

lemma alike_ident {n : String} (hn : good n) :
    Alike (.renaming good ρ) (.ident n) (.ident (ρ n)) where
  type {b b'} hb := by
    obtain ⟨hv, hsame⟩ := hb n hn
    rw [infer, infer, hv]
    cases h : isVariable b n with
    | true => rfl
    | false => rw [hsame h]
  value {s s'} hs := by
    obtain ⟨hv, hsame⟩ := hs.2.2 n hn
    rw [eval, eval, hv]
    cases h : s.find? n with
    | some v => rfl
    | none => rw [hsame h]
  space {b b'} hb name := by
    obtain ⟨hv, hsame⟩ := hb n hn
    rw [qualified?, qualified?, hv]
    cases h : isVariable b n with
    | true => rfl
    | false => rw [hsame h]
  isIdent := rfl

/-- An expression of good names is like the one with its free variables renamed. -/
theorem alike_renameFree {e : Term} (hn : e.Names good) (hρ : IsFresh good ρ) :
    Alike (.renaming good ρ) e (e.renameFree ρ) := by
  -- In the body of a comprehension its variable is not renamed, so the renaming varies.
  induction hn generalizing ρ with
  | literal a => exact ⟨fun _ => rfl, fun _ => rfl, fun _ _ => rfl, rfl⟩
  | ident hn => exact alike_ident hn
  | relation _ _ ihl ihr => exact .relation _ (ihl hρ) (ihr hρ)
  | arithmetic _ _ ihl ihr => exact .arithmetic _ (ihl hρ) (ihr hρ)
  | conj _ _ ihl ihr => exact .conj (ihl hρ) (ihr hρ)
  | disj _ _ ihl ihr => exact .disj (ihl hρ) (ihr hρ)
  | unary _ ih => exact .unary _ (ih hρ)
  | ternary _ _ _ ihc iht ihe => exact .ternary (ihc hρ) (iht hρ) (ihe hρ)
  | list _ ih => exact .list (forall₂_renameFreeAll fun e he => ih e he hρ)
  | map _ _ ihk ihv =>
    exact .map (forall₂_renameFreeEntries (fun p hp => ihk p hp hρ) fun p hp => ihv p hp hρ)
  | select _ _ ih => exact .select (ih hρ) _
  | index _ _ iht ihi => exact .index (iht hρ) (ihi hρ)
  | fields _ _ _ iht ihv =>
    exact .fields (iht hρ) (forall₂_renameFreeFields fun p hp => ihv p hp hρ)
  | call _ _ ih => exact .call (forall₂_renameFreeAll fun e he => ih e he hρ)
  | @method target name args _ _ ha iht ih =>
    have hargs := forall₂_renameFreeAll fun e he => ih e he hρ
    unfold Term.renameFree
    split
    · next g z body hc =>
      obtain ⟨hz, hbody⟩ := List.forall_mem_cons.mp ha
      cases hz with
      | ident hz =>
        have hbody := ih body (by simp) (hρ.update_self z)
        exact .comprehension hc (iht hρ) hbody (hρ.binds hz)
    · next hshape =>
      refine .method (iht hρ) hargs ?_
      cases hc : comprehension? name with
      | none => exact .inl rfl
      | some g => exact .inr fun x body hx => hshape g x body hc hx

end Renamed

/-- What is directly around one part of an expression. -/
inductive Frame
  | relationLeft (op : Relation) (r : Term)
  | relationRight (op : Relation) (l : Term)
  | arithmeticLeft (op : Arithmetic) (r : Term)
  | arithmeticRight (op : Arithmetic) (l : Term)
  | conjLeft (r : Term)
  | conjRight (l : Term)
  | disjLeft (r : Term)
  | disjRight (l : Term)
  | operand (op : UnaryOp)
  | condition (t e : Term)
  | whenTrue (c e : Term)
  | whenFalse (c t : Term)
  | item (before after : List Term)
  | key (before : List (Term × Term)) (v : Term) (after : List (Term × Term))
  | entry (before : List (Term × Term)) (k : Term) (after : List (Term × Term))
  | selected (name : String)
  | indexed (i : Term)
  | position (t : Term)
  | filled (entries : List (String × Term))
  | field (t : Term) (before : List (String × Term)) (k : String) (after : List (String × Term))
  | argument (name : String) (before after : List Term)
  | target (name : String) (args : List Term)
  | methodArgument (t : Term) (name : String) (before after : List Term)

/-- The expression with the part put in. -/
def Frame.plug : Frame → Term → Term
  | relationLeft op r, e => .relation op e r
  | relationRight op l, e => .relation op l e
  | arithmeticLeft op r, e => .arithmetic op e r
  | arithmeticRight op l, e => .arithmetic op l e
  | conjLeft r, e => .conj e r
  | conjRight l, e => .conj l e
  | disjLeft r, e => .disj e r
  | disjRight l, e => .disj l e
  | operand op, e => .unary op e
  | condition t f, e => .ternary e t f
  | whenTrue c f, e => .ternary c e f
  | whenFalse c t, e => .ternary c t e
  | item before after, e => .list (before ++ e :: after)
  | key before v after, e => .map (before ++ (e, v) :: after)
  | entry before k after, e => .map (before ++ (k, e) :: after)
  | selected name, e => .select e name
  | indexed i, e => .index e i
  | position t, e => .index t e
  | filled entries, e => .fields e entries
  | field t before k after, e => .fields t (before ++ (k, e) :: after)
  | argument name before after, e => .call name (before ++ e :: after)
  | target name args, e => .method e name args
  | methodArgument t name before after, e => .method t name (before ++ e :: after)

section Frames

variable {e e' : Term}

lemma forall₂_around {α : Type} {P : α → α → Prop} (hrefl : ∀ a, P a a) {a a' : α} (h : P a a')
    (before after : List α) : List.Forall₂ P (before ++ a :: after) (before ++ a' :: after) :=
  List.rel_append (List.forall₂_same.mpr fun a _ => hrefl a)
    (.cons h (List.forall₂_same.mpr fun a _ => hrefl a))

lemma binds_equality (x : String) : Correspondence.equality.Binds .equality x x where
  bound h := h ▸ rfl
  scope _ h := h ▸ rfl

/-- A call on a target, where the variable of a comprehension remains the same. -/
lemma Alike.method_same {t t' : Term} {name : String} {args args' : List Term}
    (ht : Alike .equality t t') (ha : List.Forall₂ (Alike .equality) args args')
    (hx : ∀ x body, args = [.ident x, body] → ∃ body', args' = [.ident x, body']) :
    Alike .equality (.method t name args) (.method t' name args') := by
  cases hc : comprehension? name with
  | none => exact .method ht ha (.inl hc)
  | some g =>
    by_cases hshape : ∃ x body, args = [.ident x, body]
    · obtain ⟨x, body, rfl⟩ := hshape
      obtain ⟨body', rfl⟩ := hx x body rfl
      cases ha with
      | cons _ hbody =>
        cases hbody with
        | cons hbody _ => exact .comprehension hc ht hbody (binds_equality x)
    · exact .method ht ha (.inr fun x body h => hshape ⟨x, body, h⟩)

/-- What stands in a frame may be replaced by what is like it, if neither is a name. -/
theorem Alike.plug (f : Frame) (h : Alike .equality e e') (he : e.isIdent = false) :
    Alike .equality (f.plug e) (f.plug e') := by
  cases f with
  | relationLeft op r => exact .relation op h (.refl r)
  | relationRight op l => exact .relation op (.refl l) h
  | arithmeticLeft op r => exact .arithmetic op h (.refl r)
  | arithmeticRight op l => exact .arithmetic op (.refl l) h
  | conjLeft r => exact .conj h (.refl r)
  | conjRight l => exact .conj (.refl l) h
  | disjLeft r => exact .disj h (.refl r)
  | disjRight l => exact .disj (.refl l) h
  | operand op => exact .unary op h
  | condition t f => exact .ternary h (.refl t) (.refl f)
  | whenTrue c f => exact .ternary (.refl c) h (.refl f)
  | whenFalse c t => exact .ternary (.refl c) (.refl t) h
  | item before after => exact .list (forall₂_around .refl h before after)
  | key before v after =>
    have hrefl : ∀ p : Term × Term, Alike .equality p.1 p.1 ∧ Alike .equality p.2 p.2 :=
      fun p => ⟨.refl p.1, .refl p.2⟩
    exact .map (forall₂_around hrefl ⟨h, .refl v⟩ before after)
  | entry before k after =>
    have hrefl : ∀ p : Term × Term, Alike .equality p.1 p.1 ∧ Alike .equality p.2 p.2 :=
      fun p => ⟨.refl p.1, .refl p.2⟩
    exact .map (forall₂_around hrefl ⟨.refl k, h⟩ before after)
  | selected name => exact .select h name
  | indexed i => exact .index h (.refl i)
  | position t => exact .index (.refl t) h
  | filled entries => exact .fields h (List.forall₂_same.mpr fun p _ => .refl p.2)
  | field t before k after =>
    have hentries : List.Forall₂ (fun p q => Alike .equality p.2 q.2)
        (before ++ (k, e) :: after) (before ++ (k, e') :: after) := by
      refine forall₂_around (fun p => .refl p.2) ?_ before after
      exact h
    exact .fields (.refl t) hentries
  | argument name before after => exact .call (forall₂_around .refl h before after)
  | target name args =>
    have hargs := List.forall₂_same.mpr fun e (_ : e ∈ args) => Alike.refl e
    exact .method_same h hargs fun x body hshape => ⟨body, hshape⟩
  | methodArgument t name before after =>
    refine .method_same (.refl t) (forall₂_around .refl h before after) fun x body hshape => ?_
    cases before with
    | nil =>
      obtain ⟨rfl, -⟩ := List.cons.inj hshape
      cases he
    | cons a rest =>
      obtain ⟨rfl, hrest⟩ := List.cons.inj hshape
      cases rest with
      | nil =>
        obtain ⟨-, rfl⟩ := List.cons.inj hrest
        exact ⟨e', rfl⟩
      | cons b rest => simp at hrest

end Frames

/-- `Renamed e e'` if `e'` is `e` with another variable in one comprehension, whose name does not
occur in the call of the comprehension. -/
inductive Renamed : Term → Term → Prop
  | here {target body : Term} {name x y : String} {g : Builtin} (hc : comprehension? name = some g)
      (hy : (Term.method target name [.ident x, body]).Names (· ≠ y)) :
      Renamed (.method target name [.ident x, body])
        (.method target name [.ident y, body.renameFree (Function.update id x y)])
  | inside (f : Frame) {e e' : Term} (h : Renamed e e') : Renamed (f.plug e) (f.plug e')

namespace Renamed

variable {e e' : Term}

lemma isIdent_left (h : Renamed e e') : e.isIdent = false := by
  cases h with
  | here => rfl
  | inside f => cases f <;> rfl

lemma alike (h : Renamed e e') : Alike .equality e e' := by
  induction h with
  | @here target body name x y g hc hy =>
    cases hy with
    | method _ _ ha =>
      have hbody := alike_renameFree (ha body (by simp)) (.single x y)
      exact .comprehension hc (.refl target) hbody (binds_single x y)
  | inside f h ih => exact ih.plug f h.isIdent_left

end Renamed

/-- Another name for the variable of a comprehension changes neither the type of an expression nor
its value or its failure, for any request in any world. -/
theorem compile_renamed {source : String} {e e' : Term} {t : Ty}
    (hc : compile source = .ok (e, t)) (hr : Renamed e e') :
    check e' = .ok t ∧
      (∀ source', read source' = .parsed e' → compile source' = .ok (e', t)) ∧
      ∀ world origin request,
        eval (Scope.root world origin request) e' = eval (Scope.root world origin request) e := by
  obtain ⟨-, hi⟩ := compile_eq_ok_iff.mp hc
  have hi' : infer [] e' = (t, []) := (hr.alike.type rfl).trans hi
  exact ⟨check_eq_ok_iff.mpr hi', fun source' hread => compile_eq_ok_iff.mpr ⟨hread, hi'⟩,
    fun world origin request => hr.alike.value rfl⟩

/-- The tokens of `[1].map(x, [x].exists(y, y == x))`, where `x` may have another name. -/
def mapExistsTokens (x : List Char) : List Token :=
  [.symbol .bracketOpen, .int ['1'], .symbol .bracketClose, .symbol .dot, .ident ['m', 'a', 'p'],
    .symbol .parenOpen, .ident x, .symbol .comma, .symbol .bracketOpen, .ident x,
    .symbol .bracketClose, .symbol .dot, .ident ['e', 'x', 'i', 's', 't', 's'], .symbol .parenOpen,
    .ident ['y'], .symbol .comma, .ident ['y'], .symbol .eqEq, .ident x, .symbol .parenClose,
    .symbol .parenClose]

/-- Their tree. -/
def mapExists (x : String) : Term :=
  .method (.list [.literal (.int 1)]) "map"
    [.ident x, .method (.list [.ident x]) "exists"
      [.ident "y", .relation .equal (.ident "y") (.ident x)]]

theorem compile_renamed_mapExists :
    compile "[1].map(x, [x].exists(y, y == x))" = .ok (mapExists "x", .list) ∧
      Renamed (mapExists "x") (mapExists "size") ∧
      compile "[1].map(size, [size].exists(y, y == size))" = .ok (mapExists "size", .list) := by
  have htokens : Token.ofText "[1].map(x, [x].exists(y, y == x))".toList =
      mapExistsTokens ['x'] := by decide +kernel
  have htokens' : Token.ofText "[1].map(size, [size].exists(y, y == size))".toList =
      mapExistsTokens ['s', 'i', 'z', 'e'] := by decide +kernel
  have hc : compile "[1].map(x, [x].exists(y, y == x))" = .ok (mapExists "x", .list) := by
    rw [compile_eq_ok_iff, read_eq_parsed_iff, htokens]
    exact ⟨⟨rfl, by decide +kernel⟩, rfl⟩
  have hread : read "[1].map(size, [size].exists(y, y == size))" = .parsed (mapExists "size") := by
    rw [read_eq_parsed_iff, htokens']
    exact ⟨rfl, by decide +kernel⟩
  have hx : Term.Names (· ≠ "size") (.ident "x") := .ident (by decide)
  have hy : Term.Names (· ≠ "size") (.ident "y") := .ident (by decide)
  have hexists : Term.Names (· ≠ "size") (.method (.list [.ident "x"]) "exists"
      [.ident "y", .relation .equal (.ident "y") (.ident "x")]) :=
    .method (.list (by simpa using hx)) (by decide) (by simpa using ⟨hy, .relation hy hx⟩)
  have hmap : (mapExists "x").Names (· ≠ "size") :=
    .method (.list (by simpa using .literal _)) (by decide) (by simpa using ⟨hx, hexists⟩)
  have hr : Renamed (mapExists "x") (mapExists "size") := .here rfl hmap
  exact ⟨hc, hr, (compile_renamed hc hr).2.1 _ hread⟩

end GatedRelay.Expr