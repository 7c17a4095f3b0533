import GatedRelay.Expr.Ast
import GatedRelay.Expr.Function

/-!
Static types of expressions. Every name has to be declared, every call has to fit its function,
and the type of the whole is known as far as the text decides it.
-/

namespace GatedRelay.Expr

/-- What can be wrong with an expression. -/
inductive Problem
  | undeclaredVariable (name : String)
  | undeclaredFunction (name : String)
  | noOverload (name : String) (receiver : Option Ty) (args : List Ty)
  | noTarget (name : String)
  | wrongBody (name : String)
  | noVariable (name : String)
  deriving DecidableEq

def describeCall (receiver : Option Ty) (args : List Ty) : String :=
  let list := "(" ++ ", ".intercalate (args.map Ty.name) ++ ")"
  match receiver with
  | some t => t.name ++ "." ++ list
  | none => list

def Problem.message : Problem → String
  | undeclaredVariable name => s!"undeclared reference to '{name}'"
  | undeclaredFunction name => s!"undeclared reference to function '{name}'"
  | noOverload name receiver args =>
    s!"found no matching overload for '{name}' applied to '{describeCall receiver args}'"
  | noTarget name => s!"'{name}' must be called on a list or map, as in 'items.{name}(x, ...)'"
  | wrongBody name => s!"'{name}' expects a variable name and an expression"
  | noVariable name => s!"'{name}' expects a variable name as its first argument"

/-- A type and the problems found on the way to it, in order. -/
abbrev Typed := Ty × List Problem

/-- The variables that every expression can use. -/
def rootVariables : List String := ["origin", "request"]

/-- Whether a name is a variable where the given names are bound. -/
def isVariable (bound : List String) (name : String) : Bool :=
  bound.contains name || rootVariables.contains name

def literalType : Literal → Ty
  | .null => .null
  | .bool _ => .bool
  | .int _ => .int
  | .double _ => .double
  | .string _ => .string
  | .bytes _ => .bytes

def arithmeticType (op : Arithmetic) (l r : Ty) : Ty :=
  match l, op, r with
  | .timestamp, .add, .duration => .timestamp
  | .timestamp, .sub, .duration => .timestamp
  | .duration, .add, .timestamp => .timestamp
  | .duration, .add, .duration => .duration
  | .duration, .sub, .duration => .duration
  | l, op, r =>
    if l ≠ r then .dyn
    else if l.isNumeric then l
    else
      match op, l with
      | .add, .string => .string
      | .add, .bytes => .bytes
      | .add, .list => .list
      | _, _ => .dyn

def unaryType (op : UnaryOp) (t : Ty) : Ty :=
  match op with
  | .not | .notNot => .bool
  | .minus | .minusMinus => if t.isNumeric then t else .dyn

namespace Overload

def fits (o : Overload) (receiver : Option Ty) (args : List Ty) : Bool :=
  (match o.receiver, receiver with
    | none, none => true
    | some expected, some actual => actual.assignableTo expected
    | _, _ => false) &&
  o.params.length == args.length &&
  (o.params.zip args).all fun p => p.2.assignableTo p.1

end Overload

/-- A call of a function with overloads: the first one that fits counts. -/
def libraryCall (f : Library) (receiver : Option Ty) (args : List Ty) : Typed :=
  match f.overloads.find? fun o => o.fits receiver args with
  | some o => (o.result, [])
  | none => (.dyn, [.noOverload f.name receiver args])

def builtinCall (b : Builtin) (receiver : Option Ty) (args : List Ty) : Typed :=
  let arity? := if receiver.isSome then b.methodArity? else b.globalArity?
  if arity?.any fun a => a.admits args.length then (b.result, [])
  else (.dyn, [.noOverload b.name receiver args])

/-- A call of a function that is not a comprehension. -/
def plainCall (name : String) (receiver : Option Ty) (args : List Ty) : Typed :=
  match Library.ofName? name with
  | some f => libraryCall f receiver args
  | none =>
    match Builtin.ofName? name with
    | some b => builtinCall b receiver args
    | none => (.dyn, [.undeclaredFunction name])

def comprehension? (name : String) : Option Builtin :=
  (Builtin.ofName? name).filter Builtin.isComprehension

/-- The function that a name qualified by a namespace denotes. A variable is no namespace. -/
def qualified? (bound : List String) (target : Term) (name : String) : Option Library :=
  match target with
  | .ident space =>
    if isVariable bound space then none else Library.ofName? (space ++ "." ++ name)
  | _ => none

mutual

/-- The type of an expression where the given names are bound. -/
def infer (bound : List String) : Term → Typed
  | .literal a => (literalType a, [])
  | .ident name =>
    (.dyn, if isVariable bound name then [] else [.undeclaredVariable name])
  | .relation _ l r => (.bool, (infer bound l).2 ++ (infer bound r).2)
  | .conj l r => (.bool, (infer bound l).2 ++ (infer bound r).2)
  | .disj l r => (.bool, (infer bound l).2 ++ (infer bound r).2)
  | .arithmetic op l r =>
    let a := infer bound l
    let b := infer bound r
    (arithmeticType op a.1 b.1, a.2 ++ b.2)
  | .unary op e =>
    let a := infer bound e
    (unaryType op a.1, a.2)
  | .ternary c t e =>
    let a := infer bound t
    let b := infer bound e
    (a.1.join b.1, (infer bound c).2 ++ a.2 ++ b.2)
  | .list items => (.list, (inferList bound items).2)
  | .map entries => (.map, inferEntries bound entries)
  | .select target _ => (.dyn, (infer bound target).2)
  | .index target i => (.dyn, (infer bound target).2 ++ (infer bound i).2)
  | .fields target entries => (.dyn, (infer bound target).2 ++ inferFields bound entries)
  | .call name args =>
    match comprehension? name with
    | some _ => (.dyn, [.noTarget name])
    | none =>
      let as := inferList bound args
      let r := plainCall name none as.1
      (r.1, as.2 ++ r.2)
  | .method target name args =>
    match qualified? bound target name with
    | some f =>
      let as := inferList bound args
      let r := libraryCall f none as.1
      (r.1, as.2 ++ r.2)
    | none =>
      let t := infer bound target
      match comprehension? name with
      | some b =>
        match args with
        | [x, body] =>
          match x with
          | .ident x => (b.result, t.2 ++ (infer (x :: bound) body).2)
          | _ => (b.result, t.2 ++ [.noVariable name])
        | _ => (.dyn, t.2 ++ [.wrongBody name])
      | none =>
        let as := inferList bound args
        let r := plainCall name (some t.1) as.1
        (r.1, t.2 ++ as.2 ++ r.2)

def inferList (bound : List String) : List Term → List Ty × List Problem
  | [] => ([], [])
  | e :: rest =>
    let a := infer bound e
    let as := inferList bound rest
    (a.1 :: as.1, a.2 ++ as.2)

def inferEntries (bound : List String) : List (Term × Term) → List Problem
  | [] => []
  | (k, v) :: rest => (infer bound k).2 ++ (infer bound v).2 ++ inferEntries bound rest

def inferFields (bound : List String) : List (String × Term) → List Problem
  | [] => []
  | (_, v) :: rest => (infer bound v).2 ++ inferFields bound rest

end

/-- The type of a whole expression, or everything that is wrong with it. -/
def check (e : Term) : Except (List Problem) Ty :=
  let r := infer [] e
  if r.2.isEmpty then .ok r.1 else .error r.2

end GatedRelay.Expr
