import GatedRelay.Proofs.FunctionNames
import GatedRelay.Proofs.Names
import GatedRelay.Proofs.Resolving

/-!
# Every name in a checked expression is declared

Where the checker finds no problem, evaluation finds each variable and each function by its name.
The checker keeps the bound names apart from those that are always there; evaluation has all of them,
and the namespaces too, in one scope.
-/

namespace GatedRelay.Expr

open Attempt

/-- Whether a scope has values for the variables that the checker knows, and for the namespaces. -/
def Scope.Declares (s : Scope) (bound : List String) : Prop :=
  ∀ name, isVariable bound name = true ∨ name ∈ Library.spaces → (s.find? name).isSome = true

namespace Scope.Declares

variable {s : Scope} {bound : List String}

lemma root (world : World) (origin request : Value) :
    (Scope.root world origin request).Declares [] := by
  intro name h
  have hname : name ∈ ["origin", "request", "strings", "base64"] := by
    rcases h with h | h
    · have h : name ∈ rootVariables := by simpa [isVariable] using h
      exact List.mem_append_left ["strings", "base64"] h
    · exact List.mem_append_right ["origin", "request"] h
  simp only [List.mem_cons, List.not_mem_nil, or_false] at hname
  rcases hname with rfl | rfl | rfl | rfl <;> rfl

lemma step (h : s.Declares bound) (i : Nat) : (s.step i).Declares bound := h

lemma next (h : s.Declares bound) : s.next.Declares bound := h

/-- The variable of a comprehension comes to the bound names and to the scope at once. -/
lemma bind (h : s.Declares bound) (x : String) (v : Value) : (s.bind x v).Declares (x :: bound) := by
  intro name hname
  by_cases hx : x = name
  · subst hx
    simp [Scope.find?, Scope.bind]
  · have hfind : (s.bind x v).find? name = s.find? name := by
      simp [Scope.find?, Scope.bind, hx]
    rw [hfind]
    apply h name
    rcases hname with hname | hname
    · left
      simpa [isVariable, Ne.symm hx] using hname
    · exact .inr hname

end Scope.Declares

section Problems

variable {bound : List String}

lemma inferList_eq_nil {items : List Term} (h : (inferList bound items).2 = []) :
    ∀ e ∈ items, (infer bound e).2 = [] := by
  induction items with
  | nil => exact List.forall_mem_nil _
  | cons e rest ih =>
    obtain ⟨he, hrest⟩ := List.append_eq_nil_iff.mp h
    exact List.forall_mem_cons.mpr ⟨he, ih hrest⟩

lemma inferEntries_eq_nil {entries : List (Term × Term)} (h : inferEntries bound entries = []) :
    ∀ p ∈ entries, (infer bound p.1).2 = [] ∧ (infer bound p.2).2 = [] := by
  induction entries with
  | nil => exact List.forall_mem_nil _
  | cons p rest ih =>
    obtain ⟨hp, hrest⟩ := List.append_eq_nil_iff.mp h
    exact List.forall_mem_cons.mpr ⟨List.append_eq_nil_iff.mp hp, ih hrest⟩

/-- A call without a problem is one of a function that evaluation knows. -/
lemma ofHandler?_of_plainCall {name : String} {receiver : Option Ty} {args : List Ty}
    (hn : IsWord name) (h : (plainCall name receiver args).2 = []) :
    ∃ f, Function.ofHandler? name = some f := by
  unfold plainCall at h
  split at h
  · next f hf => exact ⟨_, Function.ofHandler?_of_library hf hn.dot_notMem⟩
  · split at h
    · next b hb => exact ⟨_, Function.ofHandler?_of_builtin hb⟩
    · cases h

lemma eq_form_of_comprehension? {name : String} {b : Builtin} (h : comprehension? name = some b) :
    ∃ g, g ≠ .has ∧ b = .form g := by
  obtain ⟨-, hb⟩ := Option.filter_eq_some_iff.mp h
  cases b with
  | form g =>
    refine ⟨g, ?_, rfl⟩
    rintro rfl
    cases hb
  | _ => cases hb

/-- What evaluation takes for a comprehension is one for the checker too. -/
lemma eq_has_of_comprehension?_none {name : String} {g : Form} (h : comprehension? name = none)
    (hf : Function.ofHandler? name = some (.builtin (.form g))) : g = .has := by
  have hb : Builtin.ofName? name = some (.form g) := by
    unfold Function.ofHandler? at hf
    split at hf
    · cases hf
    · simpa using hf
  rw [comprehension?, hb] at h
  cases g with
  | has => rfl
  | _ => cases h

/-- How a call on a target passes the checker: the target is a namespace, or the call is a
comprehension with its variable, or it is any other call of a known function. -/
inductive MethodPasses (bound : List String) : Term → String → List Term → Prop
  | qualified {space name : String} {f : Library} {args : List Term}
      (hspace : space ∈ Library.spaces) (hf : Function.ofHandler? name = some (.library f))
      (ha : ∀ e ∈ args, (infer bound e).2 = []) : MethodPasses bound (.ident space) name args
  | comprehension {target body : Term} {name x : String} {g : Form} (hg : g ≠ .has)
      (hf : Function.ofHandler? name = some (.builtin (.form g)))
      (ht : (infer bound target).2 = []) (hb : (infer (x :: bound) body).2 = []) :
      MethodPasses bound target name [.ident x, body]
  | plain {target : Term} {name : String} {f : Function} {args : List Term}
      (hf : Function.ofHandler? name = some f) (hg : ∀ g, f = .builtin (.form g) → g = .has)
      (ht : (infer bound target).2 = []) (ha : ∀ e ∈ args, (infer bound e).2 = []) :
      MethodPasses bound target name args

lemma methodPasses_of_infer {target : Term} {name : String} {args : List Term} (hn : IsWord name)
    (h : (infer bound (.method target name args)).2 = []) :
    MethodPasses bound target name args := by
  unfold infer at h
  split at h
  · next f hq =>
    obtain ⟨space, hspace, rfl, -⟩ := eq_ident_of_qualified? hq
    obtain ⟨ha, -⟩ := List.append_eq_nil_iff.mp h
    exact .qualified hspace (ofHandler?_of_qualified? hq) (inferList_eq_nil ha)
  · split at h
    · next b hb =>
      split at h
      · split at h
        · obtain ⟨ht, hbody⟩ := List.append_eq_nil_iff.mp h
          obtain ⟨g, hg, rfl⟩ := eq_form_of_comprehension? hb
          exact .comprehension hg (ofHandler?_of_comprehension? hb) ht hbody
        · simp at h
      · simp at h
    · next hnone =>
      obtain ⟨hta, hcall⟩ := List.append_eq_nil_iff.mp h
      obtain ⟨ht, ha⟩ := List.append_eq_nil_iff.mp hta
      obtain ⟨f, hf⟩ := ofHandler?_of_plainCall hn hcall
      refine .plain hf ?_ ht (inferList_eq_nil ha)
      rintro g rfl
      exact eq_has_of_comprehension?_none hnone hf

lemma call_passes {name : String} {args : List Term} (hn : IsWord name)
    (h : (infer bound (.call name args)).2 = []) :
    (∃ f, Function.ofHandler? name = some f) ∧ ∀ e ∈ args, (infer bound e).2 = [] := by
  unfold infer at h
  split at h
  · cases h
  · obtain ⟨ha, hcall⟩ := List.append_eq_nil_iff.mp h
    exact ⟨ofHandler?_of_plainCall hn hcall, inferList_eq_nil ha⟩

end Problems

/-- Whether an expression misses no name in any scope that declares the bound ones. -/
def Term.ResolvesIn (bound : List String) (e : Term) : Prop :=
  ∀ s : Scope, s.Declares bound → Resolves (eval s e)

section Evaluation

variable {s : Scope} {bound : List String}

lemma evalList_resolves {items : List Term} (h : ∀ e ∈ items, e.ResolvesIn bound)
    (hs : s.Declares bound) : Resolves (evalList s items) := by
  induction items generalizing s with
  | nil => exact .ok _
  | cons e rest ih =>
    obtain ⟨he, hrest⟩ := List.forall_mem_cons.mp h
    exact .bind (he s hs) fun v => .bind (ih hrest hs.next) fun vs => .ok _

lemma evalEntries_resolves {entries : List (Term × Term)}
    (h : ∀ p ∈ entries, p.1.ResolvesIn bound ∧ p.2.ResolvesIn bound) (hs : s.Declares bound) :
    Resolves (evalEntries s entries) := by
  induction entries generalizing s with
  | nil => exact .ok _
  | cons p rest ih =>
    obtain ⟨⟨hk, hv⟩, hrest⟩ := List.forall_mem_cons.mp h
    refine .bind (hk s hs) fun k => .bind (asKey_resolves k) fun k => ?_
    exact .bind (hv _ hs.next) fun v => .bind (ih hrest hs.next.next) fun es => .ok _

lemma evalArgs_resolves {args : List Term} (h : ∀ e ∈ args, e.ResolvesIn bound)
    (hs : s.Declares bound) (kinds : List ParamKind) (more : Bool) :
    Resolves (evalArgs s args kinds more) := by
  induction args generalizing s kinds with
  | nil =>
    cases kinds with
    | nil => exact .ok _
    | cons k kinds => exact .fail nofun
  | cons e rest ih =>
    obtain ⟨he, hrest⟩ := List.forall_mem_cons.mp h
    cases kinds with
    | nil =>
      cases more with
      | false => exact .ok _
      | true => exact .bind (he s hs) fun v => .bind (ih hrest hs.next []) fun vs => .ok _
    | cons k kinds =>
      refine .bind (he s hs) fun v => .bind (checkKind_resolves k v) fun v => ?_
      exact .bind (ih hrest hs.next kinds) fun vs => .ok _

end Evaluation

/-! ### Each form of expression -/

namespace Term.ResolvesIn

variable {bound : List String} {l r c t e target i : Term} {name : String} {args items : List Term}
  {f : Function}

lemma literal (a : Literal) : (Term.literal a).ResolvesIn bound := fun _ _ => .ok _

lemma ident (h : isVariable bound name = true ∨ name ∈ Library.spaces) :
    (Term.ident name).ResolvesIn bound := by
  intro s hs
  obtain ⟨v, hv⟩ := Option.isSome_iff_exists.mp (hs name h)
  unfold eval
  rw [hv]
  exact .ok v

lemma relation (op : Relation) (hl : l.ResolvesIn bound) (hr : r.ResolvesIn bound) :
    (Term.relation op l r).ResolvesIn bound := by
  intro s hs
  refine .bind (hl _ (hs.step 0)) fun a => .bind (hr _ (hs.step 1)) fun b => ?_
  exact Value.relation_resolves a b _

lemma arithmetic (op : Arithmetic) (hl : l.ResolvesIn bound) (hr : r.ResolvesIn bound) :
    (Term.arithmetic op l r).ResolvesIn bound := by
  intro s hs
  refine .bind (hl _ (hs.step 0)) fun a => .bind (hr _ (hs.step 1)) fun b => ?_
  exact Value.arithmetic_resolves s.place a b _

lemma conj (hl : l.ResolvesIn bound) (hr : r.ResolvesIn bound) :
    (Term.conj l r).ResolvesIn bound :=
  fun _ hs => .bind (hl _ (hs.step 0)) fun _ => .bind (hr _ (hs.step 1)) fun _ => .ok _

lemma disj (hl : l.ResolvesIn bound) (hr : r.ResolvesIn bound) :
    (Term.disj l r).ResolvesIn bound := by
  intro s hs
  refine .bind (hl _ (hs.step 0)) fun a => ?_
  split
  · exact .ok a
  · exact hr _ (hs.step 1)

lemma unary (op : UnaryOp) (he : e.ResolvesIn bound) : (Term.unary op e).ResolvesIn bound :=
  fun _ hs => .bind (he _ (hs.step 0)) fun a => Value.unary_resolves a _

lemma ternary (hc : c.ResolvesIn bound) (ht : t.ResolvesIn bound) (he : e.ResolvesIn bound) :
    (Term.ternary c t e).ResolvesIn bound := by
  intro s hs
  refine .bind (hc _ (hs.step 0)) fun b => ?_
  split
  · exact ht _ (hs.step 1)
  · exact he _ (hs.step 2)

lemma list (h : ∀ e ∈ items, e.ResolvesIn bound) : (Term.list items).ResolvesIn bound :=
  fun _ hs => .map (evalList_resolves h (hs.step 0))

lemma map {entries : List (Term × Term)}
    (h : ∀ p ∈ entries, p.1.ResolvesIn bound ∧ p.2.ResolvesIn bound) :
    (Term.map entries).ResolvesIn bound :=
  fun _ hs => .map (evalEntries_resolves h (hs.step 0))

lemma select (ht : target.ResolvesIn bound) (name : String) :
    (Term.select target name).ResolvesIn bound :=
  fun _ hs => .bind (ht _ (hs.step 0)) fun v => selectField_resolves v _

lemma index (ht : target.ResolvesIn bound) (hi : i.ResolvesIn bound) :
    (Term.index target i).ResolvesIn bound := by
  intro s hs
  refine .bind (ht _ (hs.step 0)) fun v => .bind (hi _ (hs.step 1)) fun j => ?_
  exact Value.index_resolves v j

lemma fields (ht : target.ResolvesIn bound) (entries : List (String × Term)) :
    (Term.fields target entries).ResolvesIn bound :=
  fun _ hs => .bind (ht _ (hs.step 0)) fun _ => .fail nofun

/-- A call of a known function misses no name if its arguments do not. -/
lemma call (hf : Function.ofHandler? name = some f) (ha : ∀ e ∈ args, e.ResolvesIn bound) :
    (Term.call name args).ResolvesIn bound := by
  intro s hs
  unfold eval
  rw [hf]
  split
  · next h => cases h
  · split
    · exact .fail nofun
    · next e _ =>
      exact present_resolves (ha e (List.mem_cons_self ..) _ (hs.step 0))
  · exact .fail nofun
  · next g _ _ h =>
    cases h
    split
    · exact .bind (evalArgs_resolves ha (hs.step 0) _ _) fun vs => f.apply_resolves _ vs
    · split
      · exact .fail nofun
      · next e rest =>
        refine .bind (orMissing_resolves _) fun v => .bind (checkKind_resolves _ v) fun v => ?_
        have hrest := (List.forall_mem_cons.mp ha).2
        exact .bind (evalArgs_resolves hrest (hs.step 1) _ _) fun vs => f.apply_resolves _ _

/-- The same for a call on a target, unless it is a comprehension. -/
lemma method (hf : Function.ofHandler? name = some f) (hg : ∀ g, f = .builtin (.form g) → g = .has)
    (ht : target.ResolvesIn bound) (ha : ∀ e ∈ args, e.ResolvesIn bound) :
    (Term.method target name args).ResolvesIn bound := by
  intro s hs
  unfold eval
  rw [hf]
  refine .bind (ht _ (hs.step 0)) fun v => ?_
  split
  · next h => cases h
  · split
    · exact .fail nofun
    · next e _ =>
      exact present_resolves (ha e (List.mem_cons_self ..) _ (hs.step 1))
  · next g hne h =>
    cases h
    cases hg g rfl
    exact (hne rfl).elim
  · next g _ _ h =>
    cases h
    split
    · exact .bind (evalArgs_resolves ha (hs.step 1) _ _) fun vs => f.apply_resolves _ vs
    · refine .bind (checkKind_resolves _ v) fun v => ?_
      exact .bind (evalArgs_resolves ha (hs.step 1) _ _) fun vs => f.apply_resolves _ _

/-- In the body of a comprehension its variable is bound. -/
lemma comprehension {body : Term} {x : String} {g : Form} (hg : g ≠ .has)
    (hf : Function.ofHandler? name = some (.builtin (.form g))) (ht : target.ResolvesIn bound)
    (hb : body.ResolvesIn (x :: bound)) :
    (Term.method target name [.ident x, body]).ResolvesIn bound := by
  intro s hs
  unfold eval
  rw [hf]
  refine .bind (ht _ (hs.step 0)) fun v => ?_
  have hbody : ∀ w : Value × Nat, Resolves (eval ((s.bind x w.1).step (w.2 + 1)) body) :=
    fun w => hb _ ((hs.bind x w.1).step _)
  cases g with
  | has => exact (hg rfl).elim
  | _ => exact comprehend_resolves hbody _ _ _

end Term.ResolvesIn

theorem resolvesIn_of_infer {e : Term} {bound : List String} (hn : e.Names IsWord)
    (hi : (infer bound e).2 = []) : e.ResolvesIn bound := by
  -- The body of a comprehension is checked with one more name, so the bound names vary.
  induction hn generalizing bound with
  | literal a => exact .literal a
  | @ident name hn =>
    refine .ident (.inl ?_)
    by_contra hv
    simp [infer, hv] at hi
  | relation hl hr ihl ihr =>
    obtain ⟨hil, hir⟩ := List.append_eq_nil_iff.mp hi
    exact .relation _ (ihl hil) (ihr hir)
  | arithmetic hl hr ihl ihr =>
    obtain ⟨hil, hir⟩ := List.append_eq_nil_iff.mp hi
    exact .arithmetic _ (ihl hil) (ihr hir)
  | conj hl hr ihl ihr =>
    obtain ⟨hil, hir⟩ := List.append_eq_nil_iff.mp hi
    exact .conj (ihl hil) (ihr hir)
  | disj hl hr ihl ihr =>
    obtain ⟨hil, hir⟩ := List.append_eq_nil_iff.mp hi
    exact .disj (ihl hil) (ihr hir)
  | unary he ih => exact .unary _ (ih hi)
  | ternary hc ht he ihc iht ihe =>
    obtain ⟨hict, hie⟩ := List.append_eq_nil_iff.mp hi
    obtain ⟨hic, hit⟩ := List.append_eq_nil_iff.mp hict
    exact .ternary (ihc hic) (iht hit) (ihe hie)
  | list hitems ih =>
    have hi := inferList_eq_nil hi
    exact .list fun e he => ih e he (hi e he)
  | map hk hv ihk ihv =>
    have hi := inferEntries_eq_nil hi
    exact .map fun p hp => ⟨ihk p hp (hi p hp).1, ihv p hp (hi p hp).2⟩
  | select ht hn ih => exact .select (ih hi) _
  | index ht hj iht ihj =>
    obtain ⟨hit, hij⟩ := List.append_eq_nil_iff.mp hi
    exact .index (iht hit) (ihj hij)
  | fields ht hk hv iht ihv =>
    obtain ⟨hit, -⟩ := List.append_eq_nil_iff.mp hi
    exact .fields (iht hit) _
  | call hn ha ih =>
    obtain ⟨⟨f, hf⟩, hia⟩ := call_passes hn hi
    exact .call hf fun e he => ih e he (hia e he)
  | method ht hn ha iht ih =>
    cases methodPasses_of_infer hn hi with
    -- Evaluation takes the namespace for a target and asks for its value.
    | qualified hspace hf hia =>
      exact .method hf nofun (.ident (.inr hspace)) fun e he => ih e he (hia e he)
    | comprehension hg hf hit hib => exact .comprehension hg hf (iht hit) (ih _ (by simp) hib)
    | plain hf hg hit hia => exact .method hf hg (iht hit) fun e he => ih e he (hia e he)

/-- The evaluation of an expression that compiles misses no variable and no function, in whatever
world it is evaluated and whatever its variables are. -/
theorem compile_declares {source : String} {e : Term} {t : Ty} (hc : compile source = .ok (e, t))
    (world : World) (origin request : Value) (name : String) :
    eval (Scope.root world origin request) e ≠ fail (.undeclaredReference name) := by
  obtain ⟨hread, hi⟩ := compile_eq_ok_iff.mp hc
  have hproblems : (infer [] e).2 = [] := by rw [hi]
  exact resolvesIn_of_infer (names_of_read hread) hproblems _ (.root world origin request) name

/-- The tree of `["a", request].map(x, base64.encode(bytes(x)))`. -/
def mapEncode : Term :=
  .method (.list [.literal (.string "a"), .ident "request"]) "map"
    [.ident "x", .method (.ident "base64") "encode" [.call "bytes" [.ident "x"]]]

theorem compile_declares_mapEncode :
    compile "['a', request].map(x, base64.encode(bytes(x)))" = .ok (mapEncode, .list) ∧
      eval (Scope.root (0 : Int) .null .null) mapEncode ≠ fail (.undeclaredReference "encode") := by
  have htokens : Token.ofText "['a', request].map(x, base64.encode(bytes(x)))".toList =
      [.symbol .bracketOpen, .string '\'' ['a'], .symbol .comma,
        .ident ['r', 'e', 'q', 'u', 'e', 's', 't'], .symbol .bracketClose, .symbol .dot,
        .ident ['m', 'a', 'p'], .symbol .parenOpen, .ident ['x'], .symbol .comma,
        .ident ['b', 'a', 's', 'e', '6', '4'], .symbol .dot,
        .ident ['e', 'n', 'c', 'o', 'd', 'e'], .symbol .parenOpen,
        .ident ['b', 'y', 't', 'e', 's'], .symbol .parenOpen, .ident ['x'], .symbol .parenClose,
        .symbol .parenClose, .symbol .parenClose] := by decide +kernel
  have hc : compile "['a', request].map(x, base64.encode(bytes(x)))" = .ok (mapEncode, .list) := by
    rw [compile_eq_ok_iff, read_eq_parsed_iff, htokens]
    exact ⟨⟨rfl, by decide +kernel⟩, rfl⟩
  exact ⟨hc, compile_declares hc (0 : Int) .null .null "encode"⟩

end GatedRelay.Expr
