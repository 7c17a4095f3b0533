import GatedRelay.Json.Parser

/-!
Records in JSON. A record is an object in which each of its fields occurs at most once, among
others that do not matter; or it is the list of the values of its fields, from the first on.

What does not matter is skipped and not read: it has the form of a value, but its strings may
hold bytes that are no text and halves of surrogate pairs, its numbers may be of any size, and
its arrays and objects may be nested as deep as they like.
-/

namespace GatedRelay.Json.Record

/-- Bytes as characters, one for each. All marks of JSON are single bytes. -/
def marksOf (bs : Bytes) : List Char := bs.map fun b => Char.ofNat b.toNat

def bytesOf (cs : List Char) : Bytes := cs.map fun c => UInt8.ofNat c.toNat

/-- What follows the closing quote of a string. -/
def skipString : List Char → Option (List Char)
  | [] => none
  | '"' :: rest => some rest
  | '\\' :: 'u' :: a :: b :: c :: d :: rest =>
    if (hexUnit? a b c d).isSome then skipString rest else none
  | '\\' :: letter :: rest => if (escaped? letter).isSome then skipString rest else none
  | c :: rest => if c < ' ' then none else skipString rest

/-- What follows a number, from after its sign. -/
def skipNumber (cs : List Char) : Option (List Char) :=
  let (whole, rest) := digitRun cs
  if whole.isEmpty ∨ (whole.head? = some 0 ∧ 1 < whole.length) then none
  else
    match rest with
    | '.' :: rest =>
      let (fraction, rest) := digitRun rest
      if fraction.isEmpty then none else (exponentPart? rest).map (·.2)
    | rest => (exponentPart? rest).map (·.2)

/-- Entries with commas between them up to a closing mark, once it is known that there are some. -/
def entries {α : Type} (close : Char) (entry : Reader α) : Nat → Reader (List α)
  | 0, _ => none
  | fuel + 1, cs =>
    match entry (skipBlank cs) with
    | none => none
    | some (a, rest) =>
      match skipBlank rest with
      | [] => none
      | c :: rest =>
        if c = close then some ([a], rest)
        else if c = ',' then (entries close entry fuel rest).map fun p => (a :: p.1, p.2)
        else none

/-- All that stands between brackets, from after the opening one. -/
def bracketed {α : Type} (close : Char) (entry : Reader α) (cs : List Char) :
    Option (List α × List Char) :=
  match skipBlank cs with
  | [] => none
  | c :: rest =>
    if c = close then some ([], rest) else entries close entry (rest.length + 1) (c :: rest)

/-- A name in its quotes, unread, and what stands after its colon. -/
def named {α : Type} (entry : Reader α) : Reader (List Char × α)
  | '"' :: cs =>
    match skipString cs with
    | none => none
    | some rest =>
      match skipBlank rest with
      | ':' :: after =>
        let name := '"' :: cs.take (cs.length - rest.length)
        (entry (skipBlank after)).map fun p => ((name, p.1), p.2)
      | _ => none
  | _ => none

/-- Skips a value, with arrays and objects nested at most so deep. -/
def skipValue : Nat → Reader Unit
  | _, [] => none
  | depth, c :: rest =>
    if c = '"' then (skipString rest).map ((), ·)
    else if c = '[' then
      match depth with
      | 0 => none
      | depth + 1 => (bracketed ']' (skipValue depth) rest).map fun p => ((), p.2)
    else if c = '{' then
      match depth with
      | 0 => none
      | depth + 1 => (bracketed '}' (named (skipValue depth)) rest).map fun p => ((), p.2)
    else if c = '-' then (skipNumber rest).map ((), ·)
    else if Numeral.isDigit c then (skipNumber (c :: rest)).map ((), ·)
    else if c = 'n' then (expect? ['u', 'l', 'l'] rest).map ((), ·)
    else if c = 't' then (expect? ['r', 'u', 'e'] rest).map ((), ·)
    else if c = 'f' then (expect? ['a', 'l', 's', 'e'] rest).map ((), ·)
    else none

/-- The text of a value, unread. It cannot be nested deeper than it is long. -/
def rawValue (cs : List Char) : Option (List Char × List Char) :=
  (skipValue cs.length cs).map fun p => (cs.take (cs.length - p.2.length), p.2)

def name? (raw : List Char) : Option String :=
  match parseBytes? (bytesOf raw) with
  | some (.string name) => some name
  | _ => none

/-- The values of the named fields, with none for a field that is absent. -/
def ofFields? (names : List String) (fields : List (String × Bytes)) :
    Option (List (Option Bytes)) :=
  if names.all fun n => decide (fields.countP (fun f => f.1 == n) ≤ 1) then
    some (names.map fun n => (fields.find? fun f => f.1 == n).map (·.2))
  else none

/-- Values in the order of the names. -/
def ofItems? : List String → List Bytes → Option (List (Option Bytes))
  | [], [] => some []
  | [], _ :: _ => none
  | _ :: names, [] => (ofItems? names []).map (none :: ·)
  | _ :: names, v :: items => (ofItems? names items).map (some v :: ·)

/-- The texts of the fields of a record, in a text that holds nothing else. -/
def read? (names : List String) (bs : Bytes) : Option (List (Option Bytes)) :=
  match skipBlank (marksOf bs) with
  | '{' :: rest => do
    let (fields, rest) ← bracketed '}' (named rawValue) rest
    if !(skipBlank rest).isEmpty then none
    let fields ← fields.mapM fun f => (name? f.1).map (·, bytesOf f.2)
    ofFields? names fields
  | '[' :: rest => do
    let (items, rest) ← bracketed ']' rawValue rest
    if !(skipBlank rest).isEmpty then none
    ofItems? names (items.map bytesOf)
  | _ => none

end GatedRelay.Json.Record
