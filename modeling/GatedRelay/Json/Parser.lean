import GatedRelay.Json.Value
import GatedRelay.Text.Numeral
import GatedRelay.Text.Utf8

/-!
Reading JSON text. Arrays and objects may be nested up to a limit, which is also what the
reader recurs on; the loops over items and fields are bounded by the length of the text.
-/

namespace GatedRelay.Json

def skipBlank (cs : List Char) : List Char :=
  cs.dropWhile fun c => c == ' ' || c == '\t' || c == '\n' || c == '\r'

/-- What follows a word at the front. -/
def expect? (word cs : List Char) : Option (List Char) :=
  if word.isPrefixOf cs then some (cs.drop word.length) else none

/-- The 16 bits written as four hexadecimal digits. -/
def hexUnit? (a b c d : Char) : Option Nat :=
  match Numeral.digitValue? a, Numeral.digitValue? b, Numeral.digitValue? c,
    Numeral.digitValue? d with
  | some p, some q, some r, some s => some (((p * 16 + q) * 16 + r) * 16 + s)
  | _, _, _, _ => none

/-- The character of a short escape. -/
def escaped? (letter : Char) : Option Char :=
  if letter = '"' then some '"'
  else if letter = '\\' then some '\\'
  else if letter = '/' then some '/'
  else if letter = 'b' then some '\x08'
  else if letter = 'f' then some '\x0c'
  else if letter = 'n' then some '\n'
  else if letter = 'r' then some '\r'
  else if letter = 't' then some '\t'
  else none

def cons? (c : Char) (r : Option (List Char × List Char)) : Option (List Char × List Char) :=
  r.map fun p => (c :: p.1, p.2)

/-- Reads to the closing quote. Escaped surrogates count in pairs only. -/
def stringBody : List Char → Option (List Char × List Char)
  | [] => none
  | '"' :: rest => some ([], rest)
  | '\\' :: 'u' :: a :: b :: c :: d :: rest =>
    match hexUnit? a b c d with
    | none => none
    | some u =>
      if 0xD800 ≤ u ∧ u < 0xDC00 then
        match rest with
        | '\\' :: 'u' :: e :: f :: g :: h :: rest₂ =>
          match hexUnit? e f g h with
          | none => none
          | some v =>
            if 0xDC00 ≤ v ∧ v < 0xE000 then
              cons? (Char.ofNat (0x10000 + (u - 0xD800) * 0x400 + (v - 0xDC00))) (stringBody rest₂)
            else none
        | _ => none
      else if 0xDC00 ≤ u ∧ u < 0xE000 then none
      else cons? (Char.ofNat u) (stringBody rest)
  | '\\' :: letter :: rest =>
    match escaped? letter with
    | none => none
    | some c => cons? c (stringBody rest)
  | c :: rest => if c < ' ' then none else cons? c (stringBody rest)

/-- The digits at the front and what follows them. -/
def digitRun (cs : List Char) : List Nat × List Char :=
  ((cs.takeWhile Numeral.isDigit).map fun c => c.toNat - 48, cs.dropWhile Numeral.isDigit)

/-- Appends digits to a number as long as it stays within 64 bits; with it the digits left. -/
def appendDigits : Nat → List Nat → Nat × List Nat
  | n, [] => (n, [])
  | n, d :: rest =>
    if n * 10 + d < 0x10000000000000000 then appendDigits (n * 10 + d) rest else (n, d :: rest)

def powerOfTen (k : Nat) : Double := .ofDecimal false 1 k

/-- A significand scaled by a power of ten, one rounding for each operation. Overflow is refused,
underflow gives zero. -/
def scale? (significand : Nat) (exponent : Int) : Option Double :=
  let f := Double.ofNat significand
  if 0 ≤ exponent then
    if exponent ≤ 308 then some (f.mul (powerOfTen exponent.toNat))
    else if significand = 0 then some f else none
  else if -308 ≤ exponent then some (f.div (powerOfTen (-exponent).toNat))
  else if -616 ≤ exponent then
    some ((f.div (powerOfTen 308)).div (powerOfTen (-exponent - 308).toNat))
  else some (.zero false)

def finite? (d : Double) : Option Json :=
  if h : d.isFinite = true then some (double ⟨d, h⟩) else none

/-- The number with the given digits before and after its point and the given exponent. At most
64 bits of digits count. -/
def doubleOf? (negative : Bool) (whole fraction : List Nat) (exponent : Int) : Option Json :=
  let (n, dropped) := appendDigits 0 whole
  let (m, ignored) := appendDigits n fraction
  let places : Int := (fraction.length - ignored.length : Nat)
  match scale? m (exponent + (dropped.length : Int) - places) with
  | none => none
  | some d => finite? (if negative then d.neg else d)

/-- A number without fraction and exponent: whole if it fits, and minus zero is a double. -/
def wholeNumber? (negative : Bool) (whole : List Nat) : Option Json :=
  let (n, dropped) := appendDigits 0 whole
  if dropped.isEmpty then
    if !negative then (WideInt.ofInt? n).map int
    else if n ≠ 0 ∧ n ≤ 0x8000000000000000 then (WideInt.ofInt? (-(n : Int))).map int
    else finite? (Double.ofNat n).neg
  else doubleOf? negative whole [] 0

/-- The exponent part at the front, if there is one. -/
def exponentPart? (cs : List Char) : Option (Option Int × List Char) :=
  match cs with
  | [] => some (none, cs)
  | e :: rest =>
    if e = 'e' ∨ e = 'E' then
      let (negative, rest) := match rest with
        | '-' :: r => (true, r)
        | '+' :: r => (false, r)
        | r => (false, r)
      let (ds, rest) := digitRun rest
      if ds.isEmpty then none
      else
        let n : Nat := ds.foldl (fun acc d => acc * 10 + d) 0
        some (some (if negative then -(n : Int) else (n : Int)), rest)
    else some (none, cs)

def number (negative : Bool) (cs : List Char) : Option (Json × List Char) :=
  let (whole, rest) := digitRun cs
  if whole.isEmpty ∨ (whole.head? = some 0 ∧ 1 < whole.length) then none
  else
    match rest with
    | '.' :: rest =>
      let (fraction, rest) := digitRun rest
      if fraction.isEmpty then none
      else
        match exponentPart? rest with
        | none => none
        | some (e, rest) => (doubleOf? negative whole fraction (e.getD 0)).map (·, rest)
    | rest =>
      match exponentPart? rest with
      | none => none
      | some (none, rest) => (wholeNumber? negative whole).map (·, rest)
      | some (some e, rest) => (doubleOf? negative whole [] e).map (·, rest)

/-- A reader takes what it reads off the front of a text. -/
abbrev Reader (α : Type) := List Char → Option (α × List Char)

/-- The items of an array from after its opening bracket, once it is known not to be empty. -/
def items (item : Reader Json) : Nat → Reader (List Json)
  | 0, _ => none
  | fuel + 1, cs =>
    match item (skipBlank cs) with
    | none => none
    | some (j, rest) =>
      match skipBlank rest with
      | ']' :: rest => some ([j], rest)
      | ',' :: rest => (items item fuel rest).map fun p => (j :: p.1, p.2)
      | _ => none

/-- One field of an object: a name, a colon and a value. -/
def field (item : Reader Json) (cs : List Char) : Option ((String × Json) × List Char) :=
  match skipBlank cs with
  | '"' :: rest =>
    match stringBody rest with
    | none => none
    | some (name, rest) =>
      match skipBlank rest with
      | ':' :: rest => (item (skipBlank rest)).map fun p => ((String.ofList name, p.1), p.2)
      | _ => none
  | _ => none

/-- The fields of an object from after its opening brace, once it is known not to be empty. -/
def fields (item : Reader Json) : Nat → Reader (List (String × Json))
  | 0, _ => none
  | fuel + 1, cs =>
    match field item cs with
    | none => none
    | some (f, rest) =>
      match skipBlank rest with
      | '}' :: rest => some ([f], rest)
      | ',' :: rest => (fields item fuel rest).map fun p => (f :: p.1, p.2)
      | _ => none

/-- A value at the front, with arrays and objects nested at most so deep. -/
def value : Nat → Reader Json
  | _, [] => none
  | depth, c :: rest =>
    if c = '"' then (stringBody rest).map fun p => (string (String.ofList p.1), p.2)
    else if c = '[' then
      match depth with
      | 0 => none
      | depth + 1 =>
        match skipBlank rest with
        | ']' :: rest => some (array [], rest)
        | rest => (items (value depth) rest.length rest).map fun p => (array p.1, p.2)
    else if c = '{' then
      match depth with
      | 0 => none
      | depth + 1 =>
        match skipBlank rest with
        | '}' :: rest => some (object [], rest)
        | rest =>
          (fields (value depth) rest.length rest).map fun p => (object (JsonFields.ofList p.1), p.2)
    else if c = '-' then number true rest
    else if Numeral.isDigit c then number false (c :: rest)
    else if c = 'n' then (expect? ['u', 'l', 'l'] rest).map (null, ·)
    else if c = 't' then (expect? ['r', 'u', 'e'] rest).map (bool true, ·)
    else if c = 'f' then (expect? ['a', 'l', 's', 'e'] rest).map (bool false, ·)
    else none

/-- How deep arrays and objects may be nested. -/
def maxDepth : Nat := 127

/-- The value of a text that holds nothing besides it. -/
def parse? (cs : List Char) : Option Json :=
  match value maxDepth (skipBlank cs) with
  | none => none
  | some (j, rest) => if (skipBlank rest).isEmpty then some j else none

def parseString? (s : String) : Option Json := parse? s.toList

/-- The fields of a text that holds one object, in the order of the text and with all that
repeat a name. -/
def parseFields? (cs : List Char) : Option (List (String × Json)) :=
  match skipBlank cs with
  | '{' :: rest =>
    let fields? : Option (List (String × Json) × List Char) := match skipBlank rest with
      | '}' :: rest => some ([], rest)
      | rest => fields (value (maxDepth - 1)) rest.length rest
    match fields? with
    | some (fs, rest) => if (skipBlank rest).isEmpty then some fs else none
    | none => none
  | _ => none

/-- Bytes that are not UTF-8 are no JSON text. -/
def parseBytes? (bs : Bytes) : Option Json := (Utf8.decode? bs).bind parse?

end GatedRelay.Json
