import GatedRelay.Proofs.Compiling
import GatedRelay.Proofs.Likeness
import GatedRelay.Proofs.ValueTypes
import Mathlib.Data.List.Forall2
import Mathlib.Data.Option.Basic

/-!
# Operands that depend on the request

An expression still passes the checker if some of its operands are replaced by others of which
nothing is known before evaluation. Its type remains the same, or nothing is known of it either.
-/

namespace GatedRelay.Expr

/-- Whether the second type says the same as the first one, or nothing. -/
def Ty.Loosens (t t' : Ty) : Prop := t' = t ∨ t' = .dyn

/-! ### Types -/

section Types

variable {a a' b b' t t' : Ty}

lemma Ty.Loosens.refl (t : Ty) : t.Loosens t := .inl rfl

lemma Ty.assignableTo_dyn (expected : Ty) : dyn.assignableTo expected = true := by
  simp [assignableTo]

lemma Ty.Loosens.assignableTo (h : t.Loosens t') {expected : Ty}
    (ht : t.assignableTo expected = true) : t'.assignableTo expected = true := by
  rcases h with rfl | rfl
  · exact ht
  · exact Ty.assignableTo_dyn expected

lemma Ty.dyn_join (b : Ty) : dyn.join b = dyn := by
  rw [join]
  split <;> rfl

lemma Ty.join_dyn (a : Ty) : a.join dyn = dyn := by
  rw [join]
  split
  · next h => exact h
  · rfl

lemma Ty.Loosens.join (ha : a.Loosens a') (hb : b.Loosens b') :
    (a.join b).Loosens (a'.join b') := by
  rcases ha with rfl | rfl
  · rcases hb with rfl | rfl
    · exact .refl _
    · exact .inr (Ty.join_dyn _)
  · exact .inr (Ty.dyn_join _)

lemma Ty.Loosens.unary (h : t.Loosens t') (op : UnaryOp) :
    (unaryType op t).Loosens (unaryType op t') := by
  rcases h with rfl | rfl
  · exact .refl _
  · cases op with
    | not | notNot => exact .refl _
    | minus | minusMinus => exact .inr rfl

lemma arithmeticType_dyn_left (op : Arithmetic) (b : Ty) : arithmeticType op .dyn b = .dyn := by
  cases op <;> cases b <;> rfl

lemma arithmeticType_dyn_right (op : Arithmetic) (a : Ty) : arithmeticType op a .dyn = .dyn := by
  cases op <;> cases a <;> rfl

lemma Ty.Loosens.arithmetic (ha : a.Loosens a') (hb : b.Loosens b') (op : Arithmetic) :
    (arithmeticType op a b).Loosens (arithmeticType op a' b') := by
  rcases ha with rfl | rfl
  · rcases hb with rfl | rfl
    · exact .refl _
    · exact .inr (arithmeticType_dyn_right op _)
  · exact .inr (arithmeticType_dyn_left op _)

end Types

/-! ### Calls -/

section Calls

variable {receiver receiver' : Option Ty} {args args' : List Ty}

lemma all_assignable_of_loosens (ha : List.Forall₂ Ty.Loosens args args') {params : List Ty}
    (h : ((params.zip args).all fun p => p.2.assignableTo p.1) = true) :
    ((params.zip args').all fun p => p.2.assignableTo p.1) = true := by
  induction ha generalizing params with
  | nil => exact h
  | cons ht _ ih =>
    cases params with
    | nil => rfl
    | cons expected params =>
      rw [List.zip_cons_cons, List.all_cons, Bool.and_eq_true] at h ⊢
      exact ⟨ht.assignableTo h.1, ih h.2⟩

/-- An overload still fits. Another one may come first now. -/
lemma Overload.fits_of_loosens {o : Overload} (hr : Option.Rel Ty.Loosens receiver receiver')
    (ha : List.Forall₂ Ty.Loosens args args') (h : o.fits receiver args = true) :
    o.fits receiver' args' = true := by
  unfold fits at h ⊢
  rw [Bool.and_eq_true, Bool.and_eq_true] at h ⊢
  obtain ⟨⟨hreceiver, hlength⟩, hargs⟩ := h
  refine ⟨⟨?_, ?_⟩, all_assignable_of_loosens ha hargs⟩
  · cases hr with
    | none => exact hreceiver
    | some ht =>
      cases hexpected : o.receiver with
      | none => simp [hexpected] at hreceiver
      | some expected =>
        rw [hexpected] at hreceiver
        exact ht.assignableTo hreceiver
  · rw [← ha.length_eq]
    exact hlength

lemma exists_fits_of_libraryCall {f : Library} (h : (libraryCall f receiver args).2 = []) :
    ∃ o ∈ f.overloads, o.fits receiver args = true := by
  unfold libraryCall at h
  split at h
  · next o ho =>
    have hfits := List.find?_some ho
    exact ⟨o, List.mem_of_find?_eq_some ho, hfits⟩
  · cases h

/-- The results of a function have one type, whichever overload comes first. -/
lemma libraryCall_of_fits {f : Library} {o : Overload} (ho : o ∈ f.overloads)
    (h : o.fits receiver args = true) : libraryCall f receiver args = (f.result, []) := by
  unfold libraryCall
  split
  · next first hfirst =>
    rw [Library.result_of_mem_overloads (List.mem_of_find?_eq_some hfirst)]
  · next hnone => exact (List.find?_eq_none.mp hnone o ho h).elim

lemma libraryCall_loosens {f : Library} (hr : Option.Rel Ty.Loosens receiver receiver')
    (ha : List.Forall₂ Ty.Loosens args args') (h : (libraryCall f receiver args).2 = []) :
    libraryCall f receiver' args' = libraryCall f receiver args := by
  obtain ⟨o, ho, hfits⟩ := exists_fits_of_libraryCall h
  rw [libraryCall_of_fits ho hfits, libraryCall_of_fits ho (o.fits_of_loosens hr ha hfits)]

lemma builtinCall_loosens {b : Builtin} (hr : Option.Rel Ty.Loosens receiver receiver')
    (ha : List.Forall₂ Ty.Loosens args args') (h : (builtinCall b receiver args).2 = []) :
    builtinCall b receiver' args' = builtinCall b receiver args := by
  have hsome : receiver'.isSome = receiver.isSome := by cases hr <;> rfl
  unfold builtinCall at h ⊢
  dsimp only at h ⊢
  rw [hsome, ← ha.length_eq]
  generalize (if receiver.isSome then b.methodArity? else b.globalArity?) = arity? at h ⊢
  split
  · rfl
  · next hnot =>
    rw [if_neg hnot] at h
    cases h

/-- A call that fits its function goes on to fit, and its type remains the same. -/
lemma plainCall_loosens {name : String} (hr : Option.Rel Ty.Loosens receiver receiver')
    (ha : List.Forall₂ Ty.Loosens args args') (h : (plainCall name receiver args).2 = []) :
    plainCall name receiver' args' = plainCall name receiver args := by
  unfold plainCall at h ⊢
  split
  · next f hf =>
    rw [hf] at h
    exact libraryCall_loosens hr ha h
  · next hf =>
    rw [hf] at h
    split
    · next b hb =>
      rw [hb] at h
      exact builtinCall_loosens hr ha h
    · rfl

end Calls

/-! ### Expressions -/

/-- `Loosened bound e e'` if `e'` is `e` where any number of operands, at whatever depth, are
replaced by expressions that pass the checker at their place with the type `dyn`. Neither the name
of a namespace nor the variable of a comprehension is an operand. -/
inductive Loosened : List String → Term → Term → Prop
  | same {bound : List String} (e : Term) : Loosened bound e e
  | replaced {bound : List String} {e e' : Term} (h : infer bound e' = (.dyn, [])) :
      Loosened bound e e'
  | relation {bound : List String} (op : Relation) {l l' r r' : Term} (hl : Loosened bound l l')
      (hr : Loosened bound r r') : Loosened bound (.relation op l r) (.relation op l' r')
  | arithmetic {bound : List String} (op : Arithmetic) {l l' r r' : Term}
      (hl : Loosened bound l l') (hr : Loosened bound r r') :
      Loosened bound (.arithmetic op l r) (.arithmetic op l' r')
  | conj {bound : List String} {l l' r r' : Term} (hl : Loosened bound l l')
      (hr : Loosened bound r r') : Loosened bound (.conj l r) (.conj l' r')
  | disj {bound : List String} {l l' r r' : Term} (hl : Loosened bound l l')
      (hr : Loosened bound r r') : Loosened bound (.disj l r) (.disj l' r')
  | unary {bound : List String} (op : UnaryOp) {e e' : Term} (he : Loosened bound e e') :
      Loosened bound (.unary op e) (.unary op e')
  | ternary {bound : List String} {c c' t t' e e' : Term} (hc : Loosened bound c c')
      (ht : Loosened bound t t') (he : Loosened bound e e') :
      Loosened bound (.ternary c t e) (.ternary c' t' e')
  | list {bound : List String} {items items' : List Term} (hl : items.length = items'.length)
      (hi : ∀ e e', (e, e') ∈ items.zip items' → Loosened bound e e') :
      Loosened bound (.list items) (.list items')
  | map {bound : List String} {entries entries' : List (Term × Term)}
      (hl : entries.length = entries'.length)
      (hk : ∀ p p', (p, p') ∈ entries.zip entries' → Loosened bound p.1 p'.1)
      (hv : ∀ p p', (p, p') ∈ entries.zip entries' → Loosened bound p.2 p'.2) :
      Loosened bound (.map entries) (.map entries')
  | select {bound : List String} {t t' : Term} (ht : Loosened bound t t') (name : String) :
      Loosened bound (.select t name) (.select t' name)
  | index {bound : List String} {t t' i i' : Term} (ht : Loosened bound t t')
      (hi : Loosened bound i i') : Loosened bound (.index t i) (.index t' i')
  | fields {bound : List String} {t t' : Term} {entries entries' : List (String × Term)}
      (ht : Loosened bound t t') (hl : entries.length = entries'.length)
      (hn : ∀ p p', (p, p') ∈ entries.zip entries' → p.1 = p'.1)
      (hv : ∀ p p', (p, p') ∈ entries.zip entries' → Loosened bound p.2 p'.2) :
      Loosened bound (.fields t entries) (.fields t' entries')
  | call {bound : List String} (name : String) {args args' : List Term}
      (hl : args.length = args'.length)
      (ha : ∀ e e', (e, e') ∈ args.zip args' → Loosened bound e e') :
      Loosened bound (.call name args) (.call name args')
  | qualified {bound : List String} {space : Term} {name : String} {f : Library}
      {args args' : List Term} (hf : qualified? bound space name = some f)
      (hl : args.length = args'.length)
      (ha : ∀ e e', (e, e') ∈ args.zip args' → Loosened bound e e') :
      Loosened bound (.method space name args) (.method space name args')
  | comprehension {bound : List String} {t t' : Term} {name x : String} {b : Builtin}
      {body body' : Term} (hb : comprehension? name = some b) (ht : Loosened bound t t')
      (hbody : Loosened (x :: bound) body body') :
      Loosened bound (.method t name [.ident x, body]) (.method t' name [.ident x, body'])
  | method {bound : List String} {t t' : Term} {name : String} {args args' : List Term}
      (hq : qualified? bound t name = none) (hc : comprehension? name = none)
      (ht : Loosened bound t t') (hl : args.length = args'.length)
      (ha : ∀ e e', (e, e') ∈ args.zip args' → Loosened bound e e') :
      Loosened bound (.method t name args) (.method t' name args')

/-- Whether the second expression passes the checker if the first one does, with a type that says
the same or nothing. -/
def PassesLike (bound : List String) (e e' : Term) : Prop :=
  (infer bound e).2 = [] → (infer bound e').2 = [] ∧ (infer bound e).1.Loosens (infer bound e').1

section Lists

variable {bound : List String}

lemma forall₂_of_zip {α : Type} {P : α → α → Prop} {as as' : List α}
    (hl : as.length = as'.length) (h : ∀ a a', (a, a') ∈ as.zip as' → P a a') :
    List.Forall₂ P as as' :=
  List.forall₂_iff_zip.mpr ⟨hl, fun hmem => h _ _ hmem⟩

lemma inferList_loosens {items items' : List Term}
    (h : List.Forall₂ (PassesLike bound) items items') (hi : (inferList bound items).2 = []) :
    (inferList bound items').2 = [] ∧
      List.Forall₂ Ty.Loosens (inferList bound items).1 (inferList bound items').1 := by
  induction h with
  | nil => exact ⟨rfl, .nil⟩
  | cons he _ ih =>
    obtain ⟨hie, hirest⟩ := List.append_eq_nil_iff.mp hi
    obtain ⟨hpass, htype⟩ := he hie
    obtain ⟨hpasses, htypes⟩ := ih hirest
    exact ⟨List.append_eq_nil_iff.mpr ⟨hpass, hpasses⟩, .cons htype htypes⟩

lemma inferEntries_loosens {entries entries' : List (Term × Term)}
    (h : List.Forall₂ (fun p p' => PassesLike bound p.1 p'.1 ∧ PassesLike bound p.2 p'.2)
      entries entries') (hi : inferEntries bound entries = []) :
    inferEntries bound entries' = [] := by
  induction h with
  | nil => rfl
  | cons hp _ ih =>
    obtain ⟨hip, hirest⟩ := List.append_eq_nil_iff.mp hi
    obtain ⟨hik, hiv⟩ := List.append_eq_nil_iff.mp hip
    simp [inferEntries, (hp.1 hik).1, (hp.2 hiv).1, ih hirest]

lemma inferFields_loosens {entries entries' : List (String × Term)}
    (h : List.Forall₂ (fun p p' => PassesLike bound p.2 p'.2) entries entries')
    (hi : inferFields bound entries = []) : inferFields bound entries' = [] := by
  induction h with
  | nil => rfl
  | cons hp _ ih =>
    obtain ⟨hip, hirest⟩ := List.append_eq_nil_iff.mp hi
    simp [inferFields, (hp hip).1, ih hirest]

end Lists

lemma infer_comprehension {bound : List String} {t body : Term} {name x : String} {b : Builtin}
    (hb : comprehension? name = some b) :
    infer bound (.method t name [.ident x, body]) =
      (b.result, (infer bound t).2 ++ (infer (x :: bound) body).2) := by
  rw [infer, qualified?_of_comprehension? hb, hb]

/-- What passes the checker by itself is no namespace. -/
lemma qualified?_of_passes {bound : List String} {e : Term} (h : (infer bound e).2 = [])
    (name : String) : qualified? bound e name = none := by
  cases e with
  | ident n =>
    rw [infer] at h
    rw [qualified?]
    split at h
    · next hv => rw [if_pos hv]
    · cases h
  | _ => rfl

/-! ### Each form of expression -/

namespace PassesLike

variable {bound : List String} {l l' r r' c c' t t' e e' i i' : Term}

lemma refl (e : Term) : PassesLike bound e e := fun hi => ⟨hi, .refl _⟩

lemma of_dyn (h : infer bound e' = (.dyn, [])) : PassesLike bound e e' := by
  intro _
  rw [h]
  exact ⟨rfl, .inr rfl⟩

/-- Two operands pass together. -/
lemma both (hl : PassesLike bound l l') (hr : PassesLike bound r r')
    (hi : (infer bound l).2 ++ (infer bound r).2 = []) :
    (infer bound l').2 ++ (infer bound r').2 = [] ∧
      (infer bound l).1.Loosens (infer bound l').1 ∧
      (infer bound r).1.Loosens (infer bound r').1 := by
  obtain ⟨hil, hir⟩ := List.append_eq_nil_iff.mp hi
  obtain ⟨hl, htl⟩ := hl hil
  obtain ⟨hr, htr⟩ := hr hir
  exact ⟨List.append_eq_nil_iff.mpr ⟨hl, hr⟩, htl, htr⟩

lemma relation (op : Relation) (hl : PassesLike bound l l') (hr : PassesLike bound r r') :
    PassesLike bound (.relation op l r) (.relation op l' r') :=
  fun hi => ⟨(hl.both hr hi).1, .refl _⟩

lemma conj (hl : PassesLike bound l l') (hr : PassesLike bound r r') :
    PassesLike bound (.conj l r) (.conj l' r') :=
  fun hi => ⟨(hl.both hr hi).1, .refl _⟩

lemma disj (hl : PassesLike bound l l') (hr : PassesLike bound r r') :
    PassesLike bound (.disj l r) (.disj l' r') :=
  fun hi => ⟨(hl.both hr hi).1, .refl _⟩

lemma arithmetic (op : Arithmetic) (hl : PassesLike bound l l') (hr : PassesLike bound r r') :
    PassesLike bound (.arithmetic op l r) (.arithmetic op l' r') := by
  intro hi
  obtain ⟨hpass, htl, htr⟩ := hl.both hr hi
  exact ⟨hpass, htl.arithmetic htr op⟩

lemma unary (op : UnaryOp) (he : PassesLike bound e e') :
    PassesLike bound (.unary op e) (.unary op e') := by
  intro hi
  obtain ⟨hpass, ht⟩ := he hi
  exact ⟨hpass, ht.unary op⟩

lemma ternary (hc : PassesLike bound c c') (ht : PassesLike bound t t')
    (he : PassesLike bound e e') : PassesLike bound (.ternary c t e) (.ternary c' t' e') := by
  intro hi
  obtain ⟨hict, hie⟩ := List.append_eq_nil_iff.mp hi
  obtain ⟨hct, -, htt⟩ := hc.both ht hict
  obtain ⟨he, hte⟩ := he hie
  exact ⟨List.append_eq_nil_iff.mpr ⟨hct, he⟩, htt.join hte⟩

lemma list {items items' : List Term} (h : List.Forall₂ (PassesLike bound) items items') :
    PassesLike bound (.list items) (.list items') :=
  fun hi => ⟨(inferList_loosens h hi).1, .refl _⟩

lemma map {entries entries' : List (Term × Term)}
    (h : List.Forall₂ (fun p p' => PassesLike bound p.1 p'.1 ∧ PassesLike bound p.2 p'.2)
      entries entries') : PassesLike bound (.map entries) (.map entries') :=
  fun hi => ⟨inferEntries_loosens h hi, .refl _⟩

lemma select (ht : PassesLike bound t t') (name : String) :
    PassesLike bound (.select t name) (.select t' name) :=
  fun hi => ⟨(ht hi).1, .refl _⟩

lemma index (ht : PassesLike bound t t') (hi : PassesLike bound i i') :
    PassesLike bound (.index t i) (.index t' i') :=
  fun h => ⟨(ht.both hi h).1, .refl _⟩

lemma fields {entries entries' : List (String × Term)} (ht : PassesLike bound t t')
    (h : List.Forall₂ (fun p p' => PassesLike bound p.2 p'.2) entries entries') :
    PassesLike bound (.fields t entries) (.fields t' entries') := by
  intro hi
  obtain ⟨hit, hiv⟩ := List.append_eq_nil_iff.mp hi
  exact ⟨List.append_eq_nil_iff.mpr ⟨(ht hit).1, inferFields_loosens h hiv⟩, .refl _⟩

variable {name : String} {args args' : List Term}

lemma call (h : List.Forall₂ (PassesLike bound) args args') :
    PassesLike bound (.call name args) (.call name args') := by
  intro hi
  unfold infer at hi ⊢
  split at hi
  · cases hi
  · obtain ⟨hia, hicall⟩ := List.append_eq_nil_iff.mp hi
    obtain ⟨hargs, htypes⟩ := inferList_loosens h hia
    have hcall := plainCall_loosens .none htypes hicall
    dsimp only
    rw [hcall]
    exact ⟨List.append_eq_nil_iff.mpr ⟨hargs, hicall⟩, .refl _⟩

lemma qualified {space : Term} {f : Library} (hf : qualified? bound space name = some f)
    (h : List.Forall₂ (PassesLike bound) args args') :
    PassesLike bound (.method space name args) (.method space name args') := by
  intro hi
  unfold infer at hi ⊢
  rw [hf] at hi ⊢
  obtain ⟨hia, hicall⟩ := List.append_eq_nil_iff.mp hi
  obtain ⟨hargs, htypes⟩ := inferList_loosens h hia
  have hcall := libraryCall_loosens .none htypes hicall
  dsimp only
  rw [hcall]
  exact ⟨List.append_eq_nil_iff.mpr ⟨hargs, hicall⟩, .refl _⟩

/-- The body of a comprehension stands where one more name is bound. -/
lemma comprehension {x : String} {b : Builtin} {body body' : Term}
    (hb : comprehension? name = some b) (ht : PassesLike bound t t')
    (hbody : PassesLike (x :: bound) body body') :
    PassesLike bound (.method t name [.ident x, body]) (.method t' name [.ident x, body']) := by
  intro hi
  rw [infer_comprehension hb] at hi ⊢
  obtain ⟨hit, hibody⟩ := List.append_eq_nil_iff.mp hi
  rw [infer_comprehension hb]
  exact ⟨List.append_eq_nil_iff.mpr ⟨(ht hit).1, (hbody hibody).1⟩, .refl _⟩

lemma method (hq : qualified? bound t name = none) (hc : comprehension? name = none)
    (ht : PassesLike bound t t') (h : List.Forall₂ (PassesLike bound) args args') :
    PassesLike bound (.method t name args) (.method t' name args') := by
  intro hi
  unfold infer at hi ⊢
  rw [hq, hc] at hi
  obtain ⟨hita, hicall⟩ := List.append_eq_nil_iff.mp hi
  obtain ⟨hit, hia⟩ := List.append_eq_nil_iff.mp hita
  obtain ⟨ht, htype⟩ := ht hit
  rw [hq, hc, qualified?_of_passes ht name]
  obtain ⟨hargs, htypes⟩ := inferList_loosens h hia
  have hcall := plainCall_loosens (.some htype) htypes hicall
  dsimp only
  rw [hcall]
  exact ⟨List.append_eq_nil_iff.mpr ⟨List.append_eq_nil_iff.mpr ⟨ht, hargs⟩, hicall⟩, .refl _⟩

end PassesLike

/-- An expression with looser operands passes the checker wherever it does itself. -/
theorem Loosened.passesLike {bound : List String} {e e' : Term} (h : Loosened bound e e') :
    PassesLike bound e e' := by
  induction h with
  | same e => exact .refl e
  | replaced h => exact .of_dyn h
  | relation op _ _ ihl ihr => exact .relation op ihl ihr
  | arithmetic op _ _ ihl ihr => exact .arithmetic op ihl ihr
  | conj _ _ ihl ihr => exact .conj ihl ihr
  | disj _ _ ihl ihr => exact .disj ihl ihr
  | unary op _ ih => exact .unary op ih
  | ternary _ _ _ ihc iht ihe => exact .ternary ihc iht ihe
  | list hl _ ih => exact .list (forall₂_of_zip hl ih)
  | map hl _ _ ihk ihv =>
    exact .map (forall₂_of_zip hl fun p p' hp => ⟨ihk p p' hp, ihv p p' hp⟩)
  | select _ name ih => exact .select ih name
  | index _ _ iht ihi => exact .index iht ihi
  | fields _ hl _ _ iht ihv => exact .fields iht (forall₂_of_zip hl ihv)
  | call name hl _ ih => exact .call (forall₂_of_zip hl ih)
  | qualified hf hl _ ih => exact .qualified hf (forall₂_of_zip hl ih)
  | comprehension hb _ _ iht ihbody => exact .comprehension hb iht ihbody
  | method hq hc _ hl _ iht ih => exact .method hq hc iht (forall₂_of_zip hl ih)

/-- Wherever less is known of its operands, an expression passes the checker as before, and of its
type there is known the same or nothing. -/
theorem check_loosened {e e' : Term} {t : Ty} (hc : check e = .ok t) (h : Loosened [] e e') :
    ∃ t', check e' = .ok t' ∧ (t' = t ∨ t' = .dyn) := by
  have hi := check_eq_ok_iff.mp hc
  obtain ⟨hpass, htype⟩ := h.passesLike (congrArg Prod.snd hi)
  rw [hi] at htype
  exact ⟨_, check_eq_ok_iff.mpr (Prod.ext rfl hpass), htype⟩

/-- At first the minutes are those of a duration. Those of `request` may be a timestamp's as well. -/
theorem check_loosened_minutes :
    let ask (item right : Term) : Term :=
      .method (.list [item]) "exists" [.ident "x", .relation .equal (.ident "x") right]
    let minutes (span : Term) : Term := .method span "getMinutes" []
    let one : Term := .literal (.int 1)
    let request : Term := .ident "request"
    let e := Term.ternary (ask one one) (minutes (.call "duration" [.literal (.string "90m")])) one
    let e' := Term.ternary (ask request (.ident "x")) (minutes request) request
    check e = .ok .int ∧ Loosened [] e e' ∧ ∃ t', check e' = .ok t' ∧ (t' = .int ∨ t' = .dyn) := by
  intro ask minutes one request e e'
  have hc : check e = .ok .int := by decide +kernel
  have hrequest : ∀ {e}, Loosened [] e request := .replaced rfl
  have hitem : ∀ a a', (a, a') ∈ [one].zip [request] → Loosened [] a a' := by
    rintro a a' hmem
    obtain ⟨-, rfl⟩ := Prod.mk.inj (List.mem_singleton.mp hmem)
    exact hrequest
  have hask : Loosened [] (ask one one) (ask request (.ident "x")) :=
    .comprehension rfl (.list rfl hitem) (.relation _ (.same _) (.replaced rfl))
  have hminutes : Loosened [] (minutes (.call "duration" [.literal (.string "90m")]))
      (minutes request) := .method rfl rfl hrequest rfl nofun
  have h : Loosened [] e e' := .ternary hask hminutes hrequest
  exact ⟨hc, h, check_loosened hc h⟩

end GatedRelay.Expr
