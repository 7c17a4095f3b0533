import GatedRelay.Expr.Token

/-!
The grammar of expressions. A parser takes tokens off the front; where it fails, it says how many
tokens are left, the one that does not fit included. Everything within brackets is read by a
parser that is handed in, so that reading recurs on the depth of nesting alone.
-/

namespace GatedRelay.Expr

abbrev Parser (α : Type) := List Token → Except Nat (α × List Token)

namespace Parser

/-- The token at the front does not fit. -/
def unfit {α : Type} (ts : List Token) : Except Nat (α × List Token) := .error ts.length

def expect (s : Symbol) : Parser Unit
  | .symbol t :: rest => if t = s then .ok ((), rest) else unfit (.symbol t :: rest)
  | ts => unfit ts

def name : Parser String
  | .ident n :: rest => .ok (String.ofList n, rest)
  | ts => unfit ts

/-- Items separated by commas up to a closing symbol. A comma may stand after the last one. -/
def commaList {α : Type} (item : Parser α) (close : Symbol) : Nat → Parser (List α)
  | 0, ts => unfit ts
  | fuel + 1, ts =>
    match expect close ts with
    | .ok (_, rest) => .ok ([], rest)
    | .error _ => do
      let (x, ts) ← item ts
      match expect .comma ts with
      | .ok (_, rest) =>
        let (xs, rest) ← commaList item close fuel rest
        .ok (x :: xs, rest)
      | .error _ =>
        let (_, rest) ← expect close ts
        .ok ([x], rest)

/-- Operands of operators of one rank, grouped to the left. -/
def leftward (op? : Token → Option (Term → Term → Term)) (operand : Parser Term) :
    Nat → Term → Parser Term
  | 0, _, ts => unfit ts
  | fuel + 1, acc, ts =>
    match ts with
    | [] => .ok (acc, [])
    | t :: rest =>
      match op? t with
      | none => .ok (acc, t :: rest)
      | some f => do
        let (r, rest) ← operand rest
        leftward op? operand fuel (f acc r) rest

def binary (op? : Token → Option (Term → Term → Term)) (operand : Parser Term) : Parser Term :=
  fun ts => do
    let (l, rest) ← operand ts
    leftward op? operand (rest.length + 1) l rest

def keyed {α β : Type} (key : Parser α) (value : Parser β) : Parser (α × β) := fun ts => do
  let (k, ts) ← key ts
  let (_, ts) ← expect .colon ts
  let (v, ts) ← value ts
  .ok ((k, v), ts)

/-- Arguments in parentheses, if an opening one comes next. -/
def arguments? (nested : Parser Term) (ts : List Token) :
    Except Nat (Option (List Term) × List Token) :=
  match ts with
  | .symbol .parenOpen :: rest => do
    let (args, rest) ← commaList nested .parenClose (rest.length + 1) rest
    .ok (some args, rest)
  | _ => .ok (none, ts)

/-- A name, or a call of it. -/
def named (nested : Parser Term) : Parser Term := fun ts => do
  let (n, rest) ← name ts
  let (args?, rest) ← arguments? nested rest
  match args? with
  | some args => .ok (.call n args, rest)
  | none => .ok (.ident n, rest)

def primary (nested : Parser Term) : Parser Term
  | [] => unfit []
  | t :: rest =>
    match t.literal? with
    | some a => .ok (.literal (a.getD .null), rest)
    | none =>
      match t with
      | .ident _ => named nested (t :: rest)
      | .symbol .dot => named nested rest
      | .symbol .bracketOpen => do
        let (items, rest) ← commaList nested .bracketClose (rest.length + 1) rest
        .ok (.list items, rest)
      | .symbol .braceOpen => do
        let (entries, rest) ← commaList (keyed nested nested) .braceClose (rest.length + 1) rest
        .ok (.map entries, rest)
      | .symbol .parenOpen => do
        let (e, rest) ← nested rest
        let (_, rest) ← expect .parenClose rest
        .ok (e, rest)
      | _ => unfit (t :: rest)

/-- Fields, calls and indices after a target. -/
def members (nested : Parser Term) : Nat → Term → Parser Term
  | 0, _, ts => unfit ts
  | fuel + 1, target, ts =>
    match ts with
    | .symbol .dot :: rest => do
      let (n, rest) ← name rest
      let (args?, rest) ← arguments? nested rest
      match args? with
      | some args => members nested fuel (.method target n args) rest
      | none => members nested fuel (.select target n) rest
    | .symbol .bracketOpen :: rest => do
      let (i, rest) ← nested rest
      let (_, rest) ← expect .bracketClose rest
      members nested fuel (.index target i) rest
    | .symbol .braceOpen :: rest => do
      let (entries, rest) ← commaList (keyed name nested) .braceClose (rest.length + 1) rest
      members nested fuel (.fields target entries) rest
    | _ => .ok (target, ts)

def member (nested : Parser Term) : Parser Term := fun ts => do
  let (e, rest) ← primary nested ts
  members nested (rest.length + 1) e rest

def unaryOp? : Token → Option UnaryOp
  | .symbol .bang => some .not
  | .symbol .bangBang => some .notNot
  | .symbol .minus => some .minus
  | .symbol .minusMinus => some .minusMinus
  | _ => none

/-- At most one operator in front. -/
def unary (nested : Parser Term) : Parser Term
  | [] => unfit []
  | t :: rest =>
    match unaryOp? t with
    | some op => do
      let (e, rest) ← member nested rest
      .ok (.unary op e, rest)
    | none => member nested (t :: rest)

def factorOp? : Token → Option (Term → Term → Term)
  | .symbol .star => some (.arithmetic .mul)
  | .symbol .slash => some (.arithmetic .div)
  | .symbol .percent => some (.arithmetic .rem)
  | _ => none

def sumOp? : Token → Option (Term → Term → Term)
  | .symbol .plus => some (.arithmetic .add)
  | .symbol .minus => some (.arithmetic .sub)
  | _ => none

def relation? : Token → Option Relation
  | .symbol .lt => some .less
  | .symbol .le => some .lessEq
  | .symbol .gt => some .greater
  | .symbol .ge => some .greaterEq
  | .symbol .eqEq => some .equal
  | .symbol .notEq => some .notEqual
  | .inWord => some .isIn
  | _ => none

def andOp? : Token → Option (Term → Term → Term)
  | .symbol .andAnd => some .conj
  | _ => none

def orOp? : Token → Option (Term → Term → Term)
  | .symbol .orOr => some .disj
  | _ => none

def sum (nested : Parser Term) : Parser Term := binary sumOp? (binary factorOp? (unary nested))

/-- At most one relation between two sums. -/
def comparison (nested : Parser Term) : Parser Term := fun ts => do
  let (l, rest) ← sum nested ts
  match rest with
  | [] => .ok (l, [])
  | t :: rest' =>
    match relation? t with
    | none => .ok (l, rest)
    | some op =>
      let (r, rest) ← sum nested rest'
      .ok (.relation op l r, rest)

def disjunction (nested : Parser Term) : Parser Term :=
  binary orOp? (binary andOp? (comparison nested))

/-- A choice, whose last branch may be a choice again. -/
def choice (nested : Parser Term) : Parser Term := fun ts => do
  let (c, rest) ← disjunction nested ts
  match rest with
  | .symbol .question :: rest => do
    let (t, rest) ← disjunction nested rest
    let (_, rest) ← expect .colon rest
    let (e, rest) ← nested rest
    .ok (.ternary c t e, rest)
  | _ => .ok (c, rest)

/-- An expression nested at most so deep. -/
def expr : Nat → Parser Term
  | 0 => unfit
  | depth + 1 => choice (expr depth)

/-- An expression with nothing after it. The depth of nesting is less than the number of tokens. -/
def whole (ts : List Token) : Except Nat Term := do
  let (e, rest) ← expr (ts.length + 1) ts
  if rest.isEmpty then .ok e else .error rest.length

end Parser

/-- What reading a text comes to. -/
inductive Reading
  | parsed (e : Term)
  | syntaxError
  /-- A literal that denotes nothing was looked into. -/
  | aborted

/-- The tokens whose meaning is looked into when the tokens that are left, at the given number, do
not fit. Of the tokens before them the last counts if the next token can follow a literal in some
expression, be it not in this one, or if the text is over. -/
def lookedInto (ts : List Token) (left : Nat) : List Token :=
  let taken := ts.take (ts.length - left)
  if (ts[ts.length - left]?).all Token.canFollowLiteral then taken else taken.dropLast

/-- Reads an expression. A literal is looked into as soon as the next token can follow a literal at
all, so one that denotes nothing comes before a bracket that does not match. -/
def read (source : String) : Reading :=
  let ts := Token.ofText source.toList
  match Parser.whole ts with
  | .ok e => if ts.any Token.isUnreadable then .aborted else .parsed e
  | .error left =>
    if (lookedInto ts left).any Token.isUnreadable then .aborted else .syntaxError

end GatedRelay.Expr
