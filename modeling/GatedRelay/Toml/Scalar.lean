import GatedRelay.Text.Numeral
import GatedRelay.Toml.Value

/-!
The texts, numbers, truth values and times of configuration documents.
-/

namespace GatedRelay.Toml

/-- A reader takes what it reads off the front of a text. -/
abbrev Reader (α : Type) := List Char → Option (α × List Char)

/-- Characters that may stand as themselves: all but controls, tabs excepted. -/
def isPlain (c : Char) : Bool := c = '\t' || (' ' ≤ c && c ≠ '\x7f')

def isSpace (c : Char) : Bool := c = ' ' || c = '\t'

def skipSpace (cs : List Char) : List Char := cs.dropWhile isSpace

/-- What follows a line end. -/
def lineEnd? : List Char → Option (List Char)
  | '\n' :: rest => some rest
  | '\r' :: '\n' :: rest => some rest
  | _ => none

/-- A character by so many hexadecimal digits of its code point. -/
def codePoint? (digits : Nat) (cs : List Char) : Option (Char × List Char) :=
  let ds := cs.take digits
  if ds.length = digits then
    match Numeral.read? 16 ds with
    | some n => if n.isValidChar then some (Char.ofNat n, cs.drop digits) else none
    | none => none
  else none

/-- What an escape after its backslash stands for. -/
def escape? : List Char → Option (Char × List Char)
  | 'b' :: rest => some ('\x08', rest)
  | 't' :: rest => some ('\t', rest)
  | 'n' :: rest => some ('\n', rest)
  | 'f' :: rest => some ('\x0c', rest)
  | 'r' :: rest => some ('\r', rest)
  | 'e' :: rest => some ('\x1b', rest)
  | '"' :: rest => some ('"', rest)
  | '\\' :: rest => some ('\\', rest)
  | 'x' :: rest => codePoint? 2 rest
  | 'u' :: rest => codePoint? 4 rest
  | 'U' :: rest => codePoint? 8 rest
  | _ => none

/-- A text in double quotes on one line, from after the opening quote. -/
def basic? (fuel : Nat) (cs : List Char) : Option (List Char × List Char) :=
  match fuel with
  | 0 => none
  | fuel + 1 =>
    match cs with
    | [] => none
    | '"' :: rest => some ([], rest)
    | '\\' :: rest =>
      match escape? rest with
      | none => none
      | some (c, rest) => (basic? fuel rest).map fun p => (c :: p.1, p.2)
    | c :: rest => if isPlain c then (basic? fuel rest).map fun p => (c :: p.1, p.2) else none

/-- A text in single quotes on one line, from after the opening quote. -/
def literal? : List Char → Option (List Char × List Char)
  | [] => none
  | '\'' :: rest => some ([], rest)
  | c :: rest => if isPlain c then (literal? rest).map fun p => (c :: p.1, p.2) else none

/-- Three quotes close a text of several lines; up to two more belong to it. -/
def closing? (quote : Char) (cs : List Char) : Option (List Char × List Char) :=
  let quotes := cs.takeWhile (· = quote)
  if 3 ≤ quotes.length then
    let inner := min (quotes.length - 3) 2
    some (quotes.take inner, cs.drop (inner + 3))
  else none

/-- What follows a backslash at the end of a line: blanks and line ends are left out. -/
def continuation? (cs : List Char) : Option (List Char) :=
  match lineEnd? (skipSpace cs) with
  | none => none
  | some rest => some (rest.dropWhile fun c => isSpace c || c = '\n' || c = '\r')

/-- A text of several lines, from after its opening quotes. -/
def lines? (quote : Char) (escapes : Bool) (fuel : Nat) (cs : List Char) :
    Option (List Char × List Char) :=
  match fuel with
  | 0 => none
  | fuel + 1 =>
    match closing? quote cs with
    | some p => some p
    | none =>
      match cs with
      | [] => none
      | '\\' :: rest =>
        if escapes then
          match escape? rest with
          | some (c, rest) => (lines? quote escapes fuel rest).map fun p => (c :: p.1, p.2)
          | none =>
            match continuation? rest with
            | some rest => lines? quote escapes fuel rest
            | none => none
        else (lines? quote escapes fuel rest).map fun p => ('\\' :: p.1, p.2)
      | '\r' :: '\n' :: rest =>
        (lines? quote escapes fuel rest).map fun p => ('\r' :: '\n' :: p.1, p.2)
      | c :: rest =>
        if isPlain c || c = '\n' then
          (lines? quote escapes fuel rest).map fun p => (c :: p.1, p.2)
        else none

/-- A line end right after the opening quotes does not count. -/
def dropFirstLineEnd (cs : List Char) : List Char := (lineEnd? cs).getD cs

def text? (cs : List Char) : Option (List Char × List Char) :=
  match cs with
  | '"' :: '"' :: '"' :: rest => lines? '"' true (rest.length + 1) (dropFirstLineEnd rest)
  | '\'' :: '\'' :: '\'' :: rest => lines? '\'' false (rest.length + 1) (dropFirstLineEnd rest)
  | '"' :: rest => basic? (rest.length + 1) rest
  | '\'' :: rest => literal? rest
  | _ => none

/-- Digits with underscores between them, without the underscores. -/
def digits? (isDigit : Char → Bool) (cs : List Char) : Option (List Char) :=
  match cs with
  | [] => none
  | [c] => if isDigit c then some [c] else none
  | c :: '_' :: rest => if isDigit c then (digits? isDigit rest).map (c :: ·) else none
  | c :: d :: rest => if isDigit c then (digits? isDigit (d :: rest)).map (c :: ·) else none

/-- Digits without a zero in front, unless it is all there is. -/
def decimal? (cs : List Char) : Option (List Char) :=
  match digits? Numeral.isDigit cs with
  | some ds => if ds.head? = some '0' ∧ 1 < ds.length then none else some ds
  | none => none

def inBase? (base : Nat) (cs : List Char) : Option Int :=
  let isDigit (c : Char) : Bool := (Numeral.digitValue? c).any (· < base)
  match digits? isDigit cs with
  | some ds => (Numeral.read? base ds).map fun n => (n : Int)
  | none => none

/-- A sign, and what follows it. -/
def cutSign (cs : List Char) : Bool × List Char :=
  match cs with
  | '-' :: rest => (true, rest)
  | '+' :: rest => (false, rest)
  | _ => (false, cs)

def integer? (cs : List Char) : Option Int :=
  match cs with
  | '0' :: 'x' :: ds => inBase? 16 ds
  | '0' :: 'o' :: ds => inBase? 8 ds
  | '0' :: 'b' :: ds => inBase? 2 ds
  | _ =>
    let (negative, ds) := cutSign cs
    match (decimal? ds).bind (Numeral.read? 10) with
    | some n => some (if negative then -(n : Int) else (n : Int))
    | none => none

def isExponentMark (c : Char) : Bool := c = 'e' || c = 'E'

/-- An exponent may have zeros in front. -/
def isExponent (cs : List Char) : Bool :=
  match cs with
  | [] => true
  | _ :: ds => (digits? Numeral.isDigit (cutSign ds).2).isSome

/-- A number with a fraction or an exponent, or a word for a value that is not finite. -/
def isFloat (cs : List Char) : Bool :=
  let (_, ds) := cutSign cs
  if ds = ['i', 'n', 'f'] ∨ ds = ['n', 'a', 'n'] then true
  else
    let mantissa := ds.takeWhile fun c => !isExponentMark c
    let exponent := ds.dropWhile fun c => !isExponentMark c
    let whole := mantissa.takeWhile (· ≠ '.')
    match mantissa.dropWhile (· ≠ '.') with
    | [] => (decimal? whole).isSome && !exponent.isEmpty && isExponent exponent
    | _ :: fraction =>
      (decimal? whole).isSome && (digits? Numeral.isDigit fraction).isSome && isExponent exponent

/-- Two digits of a number up to a bound. -/
def twoDigits? (least most : Nat) : List Char → Option (List Char)
  | a :: b :: rest =>
    match Numeral.read? 10 [a, b] with
    | some n => if least ≤ n ∧ n ≤ most then some rest else none
    | none => none
  | _ => none

def expect? (c : Char) : List Char → Option (List Char)
  | d :: rest => if d = c then some rest else none
  | [] => none

def date? (cs : List Char) : Option (List Char) := do
  if !((cs.take 4).length = 4 ∧ (cs.take 4).all Numeral.isDigit) then none
  let rest ← expect? '-' (cs.drop 4)
  let rest ← twoDigits? 1 12 rest
  let rest ← expect? '-' rest
  twoDigits? 1 31 rest

/-- Hours and minutes, and perhaps seconds with perhaps a fraction. -/
def clock? (cs : List Char) : Option (List Char) := do
  let rest ← twoDigits? 0 23 cs
  let rest ← expect? ':' rest
  let rest ← twoDigits? 0 59 rest
  match rest with
  | ':' :: rest =>
    let rest ← twoDigits? 0 60 rest
    match rest with
    | '.' :: ds =>
      if (ds.takeWhile Numeral.isDigit).isEmpty then none
      else some (ds.dropWhile Numeral.isDigit)
    | _ => some rest
  | _ => some rest

def zone? (cs : List Char) : Option (List Char) := do
  match cs with
  | 'Z' :: rest | 'z' :: rest => some rest
  | '+' :: rest | '-' :: rest =>
    let rest ← twoDigits? 0 23 rest
    let rest ← expect? ':' rest
    twoDigits? 0 59 rest
  | _ => some cs

/-- A date, a time, or both, and then perhaps an offset. -/
def isMoment (cs : List Char) : Bool :=
  match date? cs with
  | none => clock? cs == some []
  | some [] => true
  | some (c :: rest) =>
    (c = 'T' || c = 't' || c = ' ') && (clock? rest).bind zone? == some []

/-- What ends a value that is not quoted. A space after a date may go on with a time. -/
def isWordChar (c : Char) : Bool :=
  c.isAlphanum || c = '+' || c = '-' || c = '_' || c = '.' || c = ':'

def wordLength (cs : List Char) : Nat :=
  let n := (cs.takeWhile isWordChar).length
  match cs.drop n with
  | ' ' :: c :: rest =>
    if date? (cs.take n) == some [] ∧ Numeral.isDigit c then
      n + 1 + ((c :: rest).takeWhile isWordChar).length
    else n
  | _ => n

/-- A value that is not quoted. -/
def word? (cs : List Char) : Option (Toml × List Char) :=
  let n := wordLength cs
  let w := cs.take n
  let value? : Option Toml :=
    if w = "true".toList then some (.boolean true)
    else if w = "false".toList then some (.boolean false)
    else
      match integer? w with
      | some i => some (.integer i)
      | none =>
        if isFloat w then some (.float (String.ofList w))
        else if isMoment w then some (.moment (String.ofList w))
        else none
  value?.map (·, cs.drop n)

end GatedRelay.Toml
