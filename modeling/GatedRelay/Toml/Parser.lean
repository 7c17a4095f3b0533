import GatedRelay.Toml.Scalar

/-!
Reading configuration documents: lines with a key and a value, headers of tables, comments and
empty lines.
-/

namespace GatedRelay.Toml

/-- What follows a comment, up to the line end. -/
def skipComment? (cs : List Char) : Option (List Char) :=
  match cs with
  | '#' :: rest =>
    let rest := rest.dropWhile isPlain
    match rest with
    | [] => some []
    | _ => if (lineEnd? rest).isSome then some rest else none
  | _ => some cs

/-- What follows blanks, line ends and comments. -/
def skipLines? : Nat → List Char → Option (List Char)
  | 0, _ => none
  | fuel + 1, cs =>
    match skipComment? (skipSpace cs) with
    | none => none
    | some rest =>
      match lineEnd? rest with
      | some rest => skipLines? fuel rest
      | none => some rest

def isBareKeyChar (c : Char) : Bool := c.isAlphanum || c = '_' || c = '-'

/-- One part of a dotted key. Texts of several lines are no keys. -/
def keyPart? (cs : List Char) : Option (String × List Char) :=
  match cs with
  | '"' :: '"' :: '"' :: _ | '\'' :: '\'' :: '\'' :: _ => none
  | '"' :: _ | '\'' :: _ => (text? cs).map fun p => (String.ofList p.1, p.2)
  | _ =>
    let name := cs.takeWhile isBareKeyChar
    if name.isEmpty then none else some (String.ofList name, cs.dropWhile isBareKeyChar)

/-- Key parts joined by points. -/
def key? : Nat → Reader (List String)
  | 0, _ => none
  | fuel + 1, cs =>
    match keyPart? (skipSpace cs) with
    | none => none
    | some (name, rest) =>
      match skipSpace rest with
      | '.' :: rest => (key? fuel rest).map fun p => (name :: p.1, p.2)
      | rest => some ([name], rest)

/-- A key, an equals sign and a value. -/
def pair? (value : Reader Toml) (cs : List Char) : Option ((List String × Toml) × List Char) :=
  match key? (cs.length + 1) cs with
  | some (keys, '=' :: rest) => (value (skipSpace rest)).map fun p => ((keys, p.1), p.2)
  | _ => none

/-- The items of an array, from after its bracket. -/
def items? (value : Reader Toml) : Nat → Reader (List Toml)
  | 0, _ => none
  | fuel + 1, cs =>
    match skipLines? (cs.length + 1) cs with
    | none => none
    | some (']' :: rest) => some ([], rest)
    | some cs =>
      match value cs with
      | none => none
      | some (v, rest) =>
        match skipLines? (rest.length + 1) rest with
        | some (',' :: rest) => (items? value fuel rest).map fun p => (v :: p.1, p.2)
        | some (']' :: rest) => some ([v], rest)
        | _ => none

/-- The pairs of an inline table, from after its brace. -/
def inline? (value : Reader Toml) : Nat → TomlTable → Reader TomlTable
  | 0, _, _ => none
  | fuel + 1, t, cs =>
    match skipLines? (cs.length + 1) cs with
    | none => none
    | some ('\x7d' :: rest) => some (t, rest)
    | some cs =>
      match pair? value cs with
      | none => none
      | some ((keys, v), rest) =>
        match TomlTable.insert t keys v, skipLines? (rest.length + 1) rest with
        | some t, some (',' :: rest) => inline? value fuel t rest
        | some t, some ('\x7d' :: rest) => some (t, rest)
        | _, _ => none

/-- A value, with arrays and inline tables nested less deep than the bound. -/
def value? : Nat → Reader Toml
  | 0, _ => none
  | depth + 1, cs =>
    match cs with
    | '[' :: rest =>
      (items? (value? depth) (rest.length + 1) rest).map fun p => (array p.1, p.2)
    | '\x7b' :: rest =>
      (inline? (value? depth) (rest.length + 1) [] rest).map fun p => (table .inline p.1, p.2)
    | '"' :: _ | '\'' :: _ => (text? cs).map fun p => (string (String.ofList p.1), p.2)
    | _ => word? cs

/-- How deep values may be nested. -/
def maxDepth : Nat := 80

/-- A header of a table, or of one of several, with its keys. -/
def header? (cs : List Char) : Option ((Bool × List String) × List Char) :=
  match cs with
  | '[' :: '[' :: rest =>
    match key? (rest.length + 1) rest with
    | some (keys, ']' :: ']' :: rest) => some ((true, keys), rest)
    | _ => none
  | '[' :: rest =>
    match key? (rest.length + 1) rest with
    | some (keys, ']' :: rest) => some ((false, keys), rest)
    | _ => none
  | _ => none

/-- A document as far as it was read, and the keys of the header in force. -/
structure Draft where
  table : TomlTable
  current : List String

namespace Draft

def addPair (d : Draft) (keys : List String) (v : Toml) : Option Draft :=
  (TomlTable.within d.table d.current fun t => TomlTable.insert t keys v).map (⟨·, d.current⟩)

def openHeader (d : Draft) (several : Bool) (keys : List String) : Option Draft :=
  match keys.getLast? with
  | none => none
  | some name =>
    let opened := TomlTable.within d.table keys.dropLast fun t =>
      if several then TomlTable.openNext name t else TomlTable.openTable name t
    opened.map (⟨·, keys⟩)

end Draft

/-- Nothing but a comment may follow on a line. -/
def finishLine? (cs : List Char) : Option (List Char) :=
  match skipComment? (skipSpace cs) with
  | none => none
  | some [] => some []
  | some rest => lineEnd? rest

def statements? : Nat → Draft → List Char → Option Draft
  | 0, _, _ => none
  | fuel + 1, d, cs =>
    match skipLines? (cs.length + 1) cs with
    | none => none
    | some [] => some d
    | some cs =>
      let step? : Option (Option Draft × List Char) :=
        match cs with
        | '[' :: _ => (header? cs).map fun p => (d.openHeader p.1.1 p.1.2, p.2)
        | _ => (pair? (value? maxDepth) cs).map fun p => (d.addPair p.1.1 p.1.2, p.2)
      match step? with
      | some (some d, rest) => (finishLine? rest).bind (statements? fuel d)
      | _ => none

/-- Reads a document. A byte order mark in front is skipped. -/
def parse? (s : String) : Option TomlTable :=
  let cs := match s.toList with
    | '\ufeff' :: rest => rest
    | cs => cs
  (statements? (cs.length + 1) ⟨[], []⟩ cs).map Draft.table

end GatedRelay.Toml
