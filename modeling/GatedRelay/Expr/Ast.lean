import GatedRelay.Number.Binary64
import GatedRelay.Text.Utf8

/-!
Expressions as trees. A call on a target and a call without one are different forms; whether the
name before the point is a namespace is decided later.
-/

namespace GatedRelay.Expr

inductive Literal
  | null
  | bool (b : Bool)
  | int (i : Int64)
  | double (d : Double)
  | string (s : String)
  | bytes (bs : Bytes)
  deriving DecidableEq

inductive Relation
  | less
  | lessEq
  | greater
  | greaterEq
  | equal
  | notEqual
  | isIn
  deriving DecidableEq

inductive Arithmetic
  | add
  | sub
  | mul
  | div
  | rem
  deriving DecidableEq

inductive UnaryOp
  | not
  | notNot
  | minus
  | minusMinus
  deriving DecidableEq

inductive Term
  | literal (a : Literal)
  | ident (name : String)
  | relation (op : Relation) (l r : Term)
  | arithmetic (op : Arithmetic) (l r : Term)
  | conj (l r : Term)
  | disj (l r : Term)
  | unary (op : UnaryOp) (e : Term)
  | ternary (c t e : Term)
  | list (items : List Term)
  | map (entries : List (Term × Term))
  | select (target : Term) (name : String)
  | index (target i : Term)
  | fields (target : Term) (entries : List (String × Term))
  | call (name : String) (args : List Term)
  | method (target : Term) (name : String) (args : List Term)

end GatedRelay.Expr
