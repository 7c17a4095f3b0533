import GatedRelay.Expr.Library

/-!
Evaluation. Operands and arguments are evaluated from the left, and the kind of an argument is
checked before the next one is evaluated. A condition evaluates only the branch it chooses, and
`||` its right side only when the left one does not count as true; `&&` evaluates both.

Two things are not in the hands of an expression: the time, and the order in which a map gives its
keys. Each of its steps finds both of them in the world.
-/

namespace GatedRelay.Expr

open Attempt

/-- An order in which a map gives its keys. -/
structure KeyOrder where
  arrange : List Key → List Key
  perm : ∀ keys, (arrange keys).Perm keys

/-- The order in which the entries of a map are listed. -/
def KeyOrder.listed : KeyOrder := ⟨id, fun keys => .refl keys⟩

/-- What the steps of an evaluation find when they look at the clock, and when they go through the
keys of a map. -/
structure World where
  clock : Place → Moment
  order : Place → KeyOrder

/-- A time stands for the world in which the clock has stopped, and each map gives its keys as it
lists them. -/
instance : Coe Int World := ⟨fun t => ⟨fun _ => t, fun _ => .listed⟩⟩

/-- The variables in force, the innermost first, the world, and the step that is evaluated. -/
structure Scope where
  bindings : List (String × Value)
  world : World
  place : Place

namespace Scope

/-- The scope of a request. Namespaces are variables that hold their names. -/
def root (world : World) (origin request : Value) : Scope :=
  ⟨("origin", origin) :: ("request", request) ::
    Library.spaces.map fun s => (s, .string s), world, .program⟩

def bind (s : Scope) (name : String) (v : Value) : Scope :=
  ⟨(name, v) :: s.bindings, s.world, s.place⟩

/-- The same at one of the steps that belong to the present one. -/
def step (s : Scope) (i : Nat) : Scope := ⟨s.bindings, s.world, s.place.step i⟩

/-- The same at the step after the present one. -/
def next (s : Scope) : Scope := ⟨s.bindings, s.world, s.place.next⟩

/-- What the clock shows at the present step. -/
def now (s : Scope) : Moment := s.world.clock s.place

/-- The order in which a map gives its keys at the present step. -/
def keyOrder (s : Scope) : KeyOrder := s.world.order s.place

def find? (s : Scope) (name : String) : Option Value :=
  (s.bindings.find? fun p => p.1 == name).map (·.2)

end Scope

def checkKind (k : ParamKind) (v : Value) : Eval Value :=
  if k.accepts v then .ok v else fail (.unexpectedKind k)

/-- A failed first argument counts as a missing one. -/
def orMissing (r : Eval Value) : Eval Value :=
  match r with
  | .ok v => .ok v
  | .error (.failed _) => fail .missingArgument
  | .error .aborted => abort

/-- Whether an evaluation finds what it asks for. -/
def present (r : Eval Value) : Eval Value :=
  match r with
  | .ok _ => .ok (.bool true)
  | .error (.failed (.noSuchKey _)) => .ok (.bool false)
  | .error f => .error f

/-- What a comprehension runs over: the items of a list, or the keys of a map in some order. -/
def elements? (order : KeyOrder) : Value → Option (List Value)
  | .list _ items => some items
  | .map _ entries => some ((order.arrange (entries.map (·.1))).map .ofKey)
  | _ => none

def isTrue : Value → Bool
  | .bool b => b
  | _ => false

def isFalse : Value → Bool
  | .bool b => !b
  | _ => false

/-- Runs the body of a comprehension over its elements in order. An element comes with its
number. -/
def mapOver (body : Value × Nat → Eval Value) : List (Value × Nat) → Eval (List Value)
  | [] => .ok []
  | v :: rest => do
    let w ← body v
    let ws ← mapOver body rest
    .ok (w :: ws)

def filterOver (body : Value × Nat → Eval Value) : List (Value × Nat) → Eval (List Value)
  | [] => .ok []
  | v :: rest => do
    let w ← body v
    let ws ← filterOver body rest
    .ok (if isTrue w then v.1 :: ws else ws)

/-- What a value of the body does to the answer of a comprehension: the next answer, and whether
that is the last one. -/
structure Verdict where
  answer : Bool
  isFinal : Bool

namespace Verdict

/-- The body has to hold each time. -/
def all (_ : Bool) (w : Value) : Verdict := if isFalse w then ⟨false, true⟩ else ⟨true, false⟩

/-- The body has to hold at some time. -/
def any (_ : Bool) (w : Value) : Verdict := if isTrue w then ⟨true, true⟩ else ⟨false, false⟩

/-- The body has to hold exactly once, and the second time is one too many. -/
def once (found : Bool) (w : Value) : Verdict :=
  if isTrue w then ⟨!found, found⟩ else ⟨found, false⟩

end Verdict

/-- Runs the body of a comprehension over its elements in order, up to a final answer. The answer
so far is the one when there are no more elements. -/
def judgeOver (judge : Bool → Value → Verdict) (body : Value × Nat → Eval Value) :
    Bool → List (Value × Nat) → Eval Value
  | answer, [] => .ok (.bool answer)
  | answer, v :: rest => do
    let w ← body v
    if (judge answer w).isFinal then .ok (.bool (judge answer w).answer)
    else judgeOver judge body (judge answer w).answer rest

/-- A comprehension over a value, in a scope. Lists can be mapped and filtered, maps cannot. -/
def comprehend (s : Scope) (f : Form) (target : Value) (body : Value × Nat → Eval Value) :
    Eval Value :=
  match f, target with
  | .map, .list _ items => (mapOver body items.zipIdx).map (.list (some s.place))
  | .filter, .list _ items => (filterOver body items.zipIdx).map (.list (some s.place))
  | .map, _ | .filter, _ => fail (.unexpectedKind .collection)
  | f, target =>
    match elements? s.keyOrder target with
    | none => fail (.unexpectedKind .collection)
    | some vs =>
      match f with
      | .all => judgeOver .all body true vs.zipIdx
      | .existsAny => judgeOver .any body false vs.zipIdx
      | .existsOne => judgeOver .once body false vs.zipIdx
      | _ => fail .missingArgument

/-- The value of a field, or else the function of that name with the value as its target. -/
def selectField (v : Value) (name : String) : Eval Value :=
  let field? := match v with
    | .map _ entries => Entries.find? (.string name) entries
    | _ => none
  match field? with
  | some w => .ok w
  | none =>
    if (Function.ofHandler? name).isSome then .ok (.function name (some v))
    else fail (.noSuchKey name)

/-- The key that a value makes in a map literal. -/
def asKey (v : Value) : Eval Key :=
  match v.key? with
  | some k => .ok k
  | none => fail (.badKey v)

mutual

def eval (s : Scope) : Term → Eval Value
  | .literal a =>
    .ok (match a with
      | .null => .null
      | .bool b => .bool b
      | .int i => .int i
      | .double d => .double d
      | .string t => .string t
      | .bytes bs => .bytes bs)
  | .ident name =>
    match s.find? name with
    | some v => .ok v
    | none => fail (.undeclaredReference name)
  | .relation op l r => do
    let a ← eval (s.step 0) l
    let b ← eval (s.step 1) r
    Value.relation op a b
  | .arithmetic op l r => do
    let a ← eval (s.step 0) l
    let b ← eval (s.step 1) r
    Value.arithmetic s.place op a b
  | .conj l r => do
    let a ← eval (s.step 0) l
    let b ← eval (s.step 1) r
    .ok (.bool (a.isTruthy && b.isTruthy))
  | .disj l r => do
    let a ← eval (s.step 0) l
    if a.isTruthy then .ok a else eval (s.step 1) r
  | .unary op e => do
    let a ← eval (s.step 0) e
    Value.unary op a
  | .ternary c t e => do
    let b ← eval (s.step 0) c
    if b.isTruthy then eval (s.step 1) t else eval (s.step 2) e
  | .list items => (evalList (s.step 0) items).map (.list (some s.place))
  | .map entries =>
    (evalEntries (s.step 0) entries).map fun es => .map (some s.place) (Entries.ofList es)
  | .select target name => do
    let v ← eval (s.step 0) target
    selectField v name
  | .index target i => do
    let v ← eval (s.step 0) target
    let j ← eval (s.step 1) i
    Value.index v j
  | .fields target _ => do
    let _ ← eval (s.step 0) target
    fail .fieldsUnsupported
  | .call name args =>
    match Function.ofHandler? name with
    | none => fail (.undeclaredReference name)
    | some (.builtin (.form .has)) =>
      match args with
      | [] => fail .missingArgument
      | e :: _ => present (eval (s.step 0) e)
    | some (.builtin (.form _)) => fail .missingArgument
    | some f =>
      match f.signature.subject with
      | none => do
        let vs ← evalArgs (s.step 0) args f.signature.params f.signature.takesRest
        f.apply s.now vs
      | some k =>
        match args with
        | [] => fail .missingArgument
        | e :: rest => do
          let v ← orMissing (eval (s.step 0) e)
          let v ← checkKind k v
          let vs ← evalArgs (s.step 1) rest f.signature.params f.signature.takesRest
          f.apply s.now (v :: vs)
  | .method target name args => do
    let v ← eval (s.step 0) target
    match Function.ofHandler? name with
    | none => fail (.undeclaredReference name)
    | some (.builtin (.form .has)) =>
      match args with
      | [] => fail .missingArgument
      | e :: _ => present (eval (s.step 1) e)
    | some (.builtin (.form f)) =>
      match args with
      | [x, body] =>
        match x with
        | .ident x =>
          comprehend s f v fun w => eval ((s.bind x w.1).step (w.2 + 1)) body
        | _ => fail .missingArgument
      | _ => fail .missingArgument
    | some f =>
      match f.signature.subject with
      | none => do
        let vs ← evalArgs (s.step 1) args f.signature.params f.signature.takesRest
        f.apply s.now vs
      | some k => do
        let v ← checkKind k v
        let vs ← evalArgs (s.step 1) args f.signature.params f.signature.takesRest
        f.apply s.now (v :: vs)

/-- The items of a list, of which the first is evaluated at the present step. -/
def evalList (s : Scope) : List Term → Eval (List Value)
  | [] => .ok []
  | e :: rest => do
    let v ← eval s e
    let vs ← evalList s.next rest
    .ok (v :: vs)

def evalEntries (s : Scope) : List (Term × Term) → Eval (List (Key × Value))
  | [] => .ok []
  | (k, e) :: rest => do
    let k ← eval s k
    let k ← asKey k
    let v ← eval s.next e
    let vs ← evalEntries s.next.next rest
    .ok ((k, v) :: vs)

/-- The arguments for parameters of given kinds. Further arguments are evaluated if they are asked
for, and else left alone. -/
def evalArgs (s : Scope) : List Term → List ParamKind → Bool → Eval (List Value)
  | [], [], _ => .ok []
  | [], _ :: _, _ => fail .missingArgument
  | _ :: _, [], false => .ok []
  | e :: rest, [], true => do
    let v ← eval s e
    let vs ← evalArgs s.next rest [] true
    .ok (v :: vs)
  | e :: rest, k :: ks, more => do
    let v ← eval s e
    let v ← checkKind k v
    let vs ← evalArgs s.next rest ks more
    .ok (v :: vs)

end

end GatedRelay.Expr
