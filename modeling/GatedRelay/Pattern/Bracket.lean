import GatedRelay.Pattern.Escape

/-!
Sets of characters in brackets: characters, ranges, named sets, brackets within brackets, and
operators between them, which associate to the left.
-/

namespace GatedRelay.Pattern

/-- A set as it was read, and how deep it nests. -/
structure SetReading where
  set : CharSet
  height : Nat

/-- An operator between the sets within brackets. -/
inductive SetOperator
  | inter
  | difference
  | symmetric

namespace SetOperator

def read? : List Char → Option (SetOperator × List Char)
  | '&' :: '&' :: rest => some (inter, rest)
  | '-' :: '-' :: rest => some (difference, rest)
  | '~' :: '~' :: rest => some (symmetric, rest)
  | _ => none

def apply (op : SetOperator) (s t : CharSet) : CharSet :=
  match op with
  | inter => .inter s t
  | difference => .difference s t
  | symmetric => .difference (.union s t) (.inter s t)

end SetOperator

/-- A bracket that is still open. -/
structure Bracket where
  negated : Bool
  /-- An operator that waits for its right side. -/
  pending : Option (SetReading × SetOperator)
  /-- The items since the last operator or the opening. -/
  items : List SetReading

namespace Bracket

def add (b : Bracket) (s : CharSet) : Bracket := { b with items := ⟨s, 0⟩ :: b.items }

/-- The union of the items, with the operator that waits for it. -/
def body (b : Bracket) : SetReading :=
  let deepest := (b.items.map (·.height)).foldl max 0
  let items : SetReading :=
    ⟨CharSet.ofList (b.items.map (·.set)), if 2 ≤ b.items.length then deepest + 1 else deepest⟩
  match b.pending with
  | some (left, op) => ⟨op.apply left.set items.set, max left.height items.height + 1⟩
  | none => items

def operate (b : Bracket) (op : SetOperator) : Bracket := ⟨b.negated, some (b.body, op), []⟩

def close (b : Bracket) : SetReading := ⟨b.body.set.negateIf b.negated, b.body.height + 1⟩

/-- What the opening of a bracket reads: the sign of the complement, dashes, and a closing bracket
that stands for itself because nothing is before it. Without Unicode there is no complement. -/
def open? (f : Flags) (cs : List Char) : Option (Bracket × List Char) :=
  let (negated, cs) := match f.skip cs with
    | '^' :: rest => (true, f.skip rest)
    | cs => (false, cs)
  let rec dashes : Nat → Bracket → List Char → Bracket × List Char
    | 0, b, cs => (b, cs)
    | fuel + 1, b, cs =>
      match cs with
      | '-' :: rest => dashes fuel (b.add (.single '-')) (f.skip rest)
      | _ => (b, cs)
  if negated && !f.unicode then none
  else
    match dashes cs.length ⟨negated, none, []⟩ cs with
    | (b, ']' :: rest) =>
      if b.items.isEmpty then some (b.add (f.fold (.single ']')), rest) else some (b, ']' :: rest)
    | opened => some opened

/-- A set of ASCII characters by its name from after the opening bracket, and whether its
complement is meant. -/
def named? (cs : List Char) : Option (Bool × CharSet × List Char) :=
  match cs with
  | ':' :: cs =>
    let (negated, body) := match cs with
      | '^' :: rest => (true, rest)
      | rest => (false, rest)
    match body.span (· != ':') with
    | (name, ':' :: ']' :: rest) =>
      (CharSet.asciiNamed? (String.ofList name)).map fun s => (negated, s, rest)
    | _ => none
  | _ => none

/-- A character within brackets, or a set that an escape stands for. Without Unicode characters are
in ASCII. -/
def item? (f : Flags) (cs : List Char) : Option (Escape × List Char) :=
  let ascii (e : Escape × List Char) : Option (Escape × List Char) :=
    match e with
    | (.char c, _) => if f.unicode || c.toNat < 128 then some e else none
    | (.set _, _) => some e
    | (.check _, _) => none
  match cs with
  | [] => none
  | '\\' :: rest => (Escape.read? f rest).bind ascii
  | c :: rest => ascii (.char c, rest)

/-- A range, or an item that is not the start of one. -/
def range? (f : Flags) (cs : List Char) : Option (CharSet × List Char) :=
  match item? f cs with
  | none => none
  | some (first, rest) =>
    let alone : Option (CharSet × List Char) :=
      match first with
      | .char c => some (f.fold (.single c), f.skip rest)
      | .set s => some (s, f.skip rest)
      | .check _ => none
    match f.skip rest with
    | '-' :: after =>
      match f.skip after with
      | ']' :: _ => alone
      | '-' :: _ => alone
      | after =>
        match first, item? f after with
        | .char lo, some (.char hi, rest) =>
          if lo ≤ hi then some (f.fold (.range lo hi), rest) else none
        | _, _ => none
    | _ => alone

/-- Reads up to the bracket that closes the outermost one. -/
def read? (f : Flags) : Nat → Bracket → List Bracket → List Char → Option (SetReading × List Char)
  | 0, _, _, _ => none
  | fuel + 1, b, outer, cs =>
    let cs := f.skip cs
    match cs with
    | [] => none
    | ']' :: rest =>
      match outer with
      | [] => some (b.close, rest)
      | o :: outer => read? f fuel { o with items := b.close :: o.items } outer rest
    | '[' :: rest =>
      match named? rest with
      | some (negated, s, rest) =>
        if negated && !f.unicode then none
        else read? f fuel (b.add ((f.fold s).negateIf negated)) outer rest
      | none =>
        match open? f rest with
        | some (inner, rest) => read? f fuel inner (b :: outer) rest
        | none => none
    | _ =>
      match SetOperator.read? cs with
      | some (op, rest) => read? f fuel (b.operate op) outer rest
      | none =>
        match range? f cs with
        | some (s, rest) => read? f fuel (b.add s) outer rest
        | none => none

end Bracket

/-- A set in brackets, from after the opening one. -/
def bracketed? (f : Flags) (cs : List Char) : Option (SetReading × List Char) :=
  (Bracket.open? f cs).bind fun p => Bracket.read? f (cs.length + 1) p.1 [] p.2

end GatedRelay.Pattern
