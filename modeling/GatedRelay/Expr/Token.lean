import GatedRelay.Text.Blank
import GatedRelay.Text.Numeral
import GatedRelay.Expr.Ast

/-!
Tokens of expression text. At each place the longest token counts. Literals keep their text;
what they denote, if anything, is asked for separately.
-/

namespace GatedRelay.Expr

inductive Symbol
  | question | colon | orOr | andAnd
  | lt | le | gt | ge | eqEq | notEq
  | plus | minus | star | slash | percent
  | bang | bangBang | minusMinus
  | dot | comma
  | parenOpen | parenClose | bracketOpen | bracketClose | braceOpen | braceClose
  deriving DecidableEq

inductive Token
  | int (text : List Char)
  /-- A form of number that denotes nothing: hexadecimal, or marked as unsigned. -/
  | oddNumber
  | double (text : List Char)
  /-- A string in the given quotes. -/
  | string (quote : Char) (content : List Char)
  | rawString (quote : Char) (content : List Char)
  | bytes (content : List Char)
  | ident (name : List Char)
  | trueWord
  | falseWord
  | nullWord
  | inWord
  | symbol (s : Symbol)
  /-- Text that no token matches; the text is not looked at any further. -/
  | invalid
  deriving DecidableEq

namespace Token

/-- What is taken off the front of a text. -/
abbrev Piece := List Char × List Char

def digitsAt (cs : List Char) : Piece :=
  (cs.takeWhile Numeral.isDigit, cs.dropWhile Numeral.isDigit)

/-- An exponent with digits at the front. -/
def exponentAt? (cs : List Char) : Option Piece :=
  match cs with
  | [] => none
  | e :: rest =>
    if e = 'e' ∨ e = 'E' then
      let (sign, rest) : Piece := match rest with
        | '+' :: r => (['+'], r)
        | '-' :: r => (['-'], r)
        | r => ([], r)
      let (ds, rest) := digitsAt rest
      if ds.isEmpty then none else some (e :: sign ++ ds, rest)
    else none

/-- A double at the front, after its sign: it has a point with digits after it, or an exponent. -/
def doubleAt? (cs : List Char) : Option Piece :=
  let (whole, rest) := digitsAt cs
  let (fraction, rest) : Piece := match rest with
    | '.' :: r =>
      let (ds, r') := digitsAt r
      if ds.isEmpty then ([], rest) else ('.' :: ds, r')
    | _ => ([], rest)
  match exponentAt? rest with
  | some (e, rest) =>
    if whole.isEmpty ∧ fraction.isEmpty then none else some (whole ++ fraction ++ e, rest)
  | none => if fraction.isEmpty then none else some (whole ++ fraction, rest)

def isHexDigit (c : Char) : Bool := (Numeral.digitValue? c).isSome

/-- A whole number with a zero, an x and hexadecimal digits at the front. -/
def hexAt? (cs : List Char) : Option (List Char) :=
  match cs with
  | '0' :: x :: rest =>
    if (x = 'x' ∨ x = 'X') ∧ (rest.takeWhile isHexDigit) ≠ [] then some (rest.dropWhile isHexDigit)
    else none
  | _ => none

/-- The mark of unsigned numbers: a space and a letter. -/
def unsignedMark? : List Char → Option (List Char)
  | ' ' :: u :: rest => if u = 'u' ∨ u = 'U' then some rest else none
  | _ => none

/-- A number at the front. A plus sign belongs to doubles only. -/
def numberAt? (cs : List Char) : Option (Token × List Char) :=
  let (sign, body) : Piece := match cs with
    | '+' :: r => (['+'], r)
    | '-' :: r => (['-'], r)
    | r => ([], r)
  match doubleAt? body with
  | some (text, rest) => some (double (sign ++ text), rest)
  | none =>
    if sign = ['+'] then none
    else
      match hexAt? body with
      | some rest => some (oddNumber, (unsignedMark? rest).getD rest)
      | none =>
        let (ds, rest) := digitsAt body
        if ds.isEmpty then none
        else
          match unsignedMark? rest with
          | some rest => some (oddNumber, rest)
          | none => some (int (sign ++ ds), rest)

/-- A string up to its closing quote; a backslash takes the next character with it, which may not
be a line feed. -/
def stringAt? (quote : Char) : List Char → Option Piece
  | [] => none
  | '\\' :: c :: rest =>
    if c = '\n' then none else (stringAt? quote rest).map fun p => ('\\' :: c :: p.1, p.2)
  | c :: rest =>
    if c = quote then some ([], rest)
    else if c = '\\' then none
    else (stringAt? quote rest).map fun p => (c :: p.1, p.2)

/-- Bytes up to the last quote on the line that all quotes before it have a backslash before
them; `escaped` says whether the character before was one. -/
def bytesAt? (quote : Char) : Bool → List Char → Option Piece
  | _, [] => none
  | escaped, c :: rest =>
    if c = '\n' then none
    else if c = quote then
      let longer := if escaped then bytesAt? quote false rest else none
      match longer with
      | some p => some (c :: p.1, p.2)
      | none => some ([], rest)
    else (bytesAt? quote (c == '\\') rest).map fun p => (c :: p.1, p.2)

def isWordStart (c : Char) : Bool := c == '_' || c.isAlpha

def isWordPart (c : Char) : Bool := isWordStart c || Numeral.isDigit c

def ofWord (w : List Char) : Token :=
  if w = ['t', 'r', 'u', 'e'] then trueWord
  else if w = ['f', 'a', 'l', 's', 'e'] then falseWord
  else if w = ['n', 'u', 'l', 'l'] then nullWord
  else if w = ['i', 'n'] then inWord
  else ident w

def wordAt? (cs : List Char) : Option (Token × List Char) :=
  match cs with
  | [] => none
  | c :: _ =>
    if isWordStart c then some (ofWord (cs.takeWhile isWordPart), cs.dropWhile isWordPart) else none

/-- A quoted literal at the front. -/
def quotedAt? (cs : List Char) : Option (Token × List Char) :=
  match cs with
  | [] => none
  | q :: rest =>
    if q = '"' ∨ q = '\'' then (stringAt? q rest).map fun p => (string q p.1, p.2)
    else
      match rest with
      | [] => none
      | q₂ :: rest₂ =>
        if ¬(q₂ = '"' ∨ q₂ = '\'') then none
        else if q = 'r' ∨ q = 'R' then (stringAt? q₂ rest₂).map fun p => (rawString q₂ p.1, p.2)
        else if q = 'b' ∨ q = 'B' then (bytesAt? q₂ false rest₂).map fun p => (bytes p.1, p.2)
        else none

def symbolAt? : List Char → Option (Symbol × List Char)
  | '|' :: '|' :: rest => some (.orOr, rest)
  | '&' :: '&' :: rest => some (.andAnd, rest)
  | '<' :: '=' :: rest => some (.le, rest)
  | '<' :: rest => some (.lt, rest)
  | '>' :: '=' :: rest => some (.ge, rest)
  | '>' :: rest => some (.gt, rest)
  | '=' :: '=' :: rest => some (.eqEq, rest)
  | '!' :: '=' :: rest => some (.notEq, rest)
  | '!' :: '!' :: rest => some (.bangBang, rest)
  | '!' :: rest => some (.bang, rest)
  | '-' :: '-' :: rest => some (.minusMinus, rest)
  | '-' :: rest => some (.minus, rest)
  | '+' :: rest => some (.plus, rest)
  | '*' :: rest => some (.star, rest)
  | '/' :: rest => some (.slash, rest)
  | '%' :: rest => some (.percent, rest)
  | '?' :: rest => some (.question, rest)
  | ':' :: rest => some (.colon, rest)
  | '.' :: rest => some (.dot, rest)
  | ',' :: rest => some (.comma, rest)
  | '(' :: rest => some (.parenOpen, rest)
  | ')' :: rest => some (.parenClose, rest)
  | '[' :: rest => some (.bracketOpen, rest)
  | ']' :: rest => some (.bracketClose, rest)
  | '{' :: rest => some (.braceOpen, rest)
  | '}' :: rest => some (.braceClose, rest)
  | _ => none

/-- The token at the front of a text that starts with neither blank nor comment. -/
def tokenAt? (cs : List Char) : Option (Token × List Char) :=
  match quotedAt? cs with
  | some r => some r
  | none =>
    match wordAt? cs with
    | some r => some r
    | none =>
      match numberAt? cs with
      | some r => some r
      | none => (symbolAt? cs).map fun p => (symbol p.1, p.2)

/-- The tokens of a text, at most so many. -/
def scan : Nat → List Char → List Token
  | 0, _ => []
  | fuel + 1, cs =>
    match cs with
    | [] => []
    | c :: rest =>
      if Text.isBlank c then scan fuel rest
      else if c = '/' ∧ rest.head? = some '/' then
        scan fuel (rest.dropWhile fun c => c != '\n' && c != '\r')
      else
        match tokenAt? cs with
        | some (t, rest) => t :: scan fuel rest
        | none => [invalid]

def ofText (cs : List Char) : List Token := scan cs.length cs

/-- The character that a code written in some base denotes. -/
def charOfCode? (base limit : Nat) (ds : List Char) : Option Char :=
  match Numeral.readUnsigned? base ds with
  | some n => if n ≤ limit ∧ n.isValidChar then some (Char.ofNat n) else none
  | none => none

/-- The character that a single letter after the backslash stands for. -/
def simpleEscape? (c : Char) : Option Char :=
  if c = 'a' then some '\x07'
  else if c = 'b' then some '\x08'
  else if c = 'v' then some '\x0b'
  else if c = 'f' then some '\x0c'
  else if c = 'n' then some '\n'
  else if c = 'r' then some '\r'
  else if c = 't' then some '\t'
  else if c = '\\' ∨ c = '?' ∨ c = '\x60' then some c
  else none

/-- How many digits a numeric escape has, and its base and largest code. -/
def numericEscape? (c : Char) : Option (Nat × Nat × Nat) :=
  if c = 'x' then some (2, 16, 0x10ffff)
  else if c = 'u' then some (4, 16, 0x10ffff)
  else if c = 'U' then some (8, 16, 0x10ffff)
  else none

/-- Undoes the escapes of a string. Escaped quotes of the other kind keep their backslash. -/
def unescape (quote : Char) : Nat → List Char → Option (List Char)
  | 0, _ => some []
  | fuel + 1, cs =>
    match cs with
    | [] => some []
    | '\\' :: c :: rest =>
      match simpleEscape? c with
      | some x => (unescape quote fuel rest).map (x :: ·)
      | none =>
        if c = '"' ∨ c = '\'' then
          (unescape quote fuel rest).map fun xs => if c = quote then c :: xs else '\\' :: c :: xs
        else
          match numericEscape? c with
          | some (n, base, limit) =>
            if rest.length < n then none
            else
              match charOfCode? base limit (rest.take n) with
              | some x => (unescape quote fuel (rest.drop n)).map (x :: ·)
              | none => none
          | none =>
            if '0' ≤ c ∧ c ≤ '3' ∧ 2 ≤ rest.length then
              match charOfCode? 8 255 (c :: rest.take 2) with
              | some x => (unescape quote fuel (rest.drop 2)).map (x :: ·)
              | none => none
            else none
    | c :: rest => (unescape quote fuel rest).map (c :: ·)

/-- In a raw string only the quote in use is escaped. -/
def unescapeRaw (quote : Char) : List Char → List Char
  | [] => []
  | '\\' :: c :: rest =>
    if c = quote then c :: unescapeRaw quote rest else '\\' :: c :: unescapeRaw quote rest
  | c :: rest => c :: unescapeRaw quote rest

/-- The byte that a number written in some base denotes. -/
def byteOfCode? (base : Nat) (ds : List Char) : Option UInt8 :=
  match Numeral.readUnsigned? base ds with
  | some n => if n < 256 then some (UInt8.ofNat n) else none
  | none => none

/-- Undoes the escapes of bytes, of which there are numeric ones only. -/
def unescapeBytes : Nat → List Char → Option Bytes
  | 0, _ => some []
  | fuel + 1, cs =>
    match cs with
    | [] => some []
    | '\\' :: rest =>
      match rest with
      | 'x' :: a :: b :: rest =>
        match byteOfCode? 16 [a, b] with
        | some x => (unescapeBytes fuel rest).map (x :: ·)
        | none => none
      | c :: a :: b :: rest =>
        if '0' ≤ c ∧ c ≤ '3' then
          match byteOfCode? 8 [c, a, b] with
          | some x => (unescapeBytes fuel rest).map (x :: ·)
          | none => none
        else none
      | _ => none
    | c :: rest => (unescapeBytes fuel rest).map (String.utf8EncodeChar c ++ ·)

/-- A signed 64-bit number. -/
def int64? (text : List Char) : Option Int64 :=
  match Numeral.readSigned? text with
  | some i =>
    if -0x8000000000000000 ≤ i ∧ i < 0x8000000000000000 then some (Int64.ofInt i) else none
  | none => none

/-- The double nearest to a decimal with an optional sign, point and exponent. -/
def readDouble (text : List Char) : Double :=
  let (negative, body) : Bool × List Char := match text with
    | '-' :: r => (true, r)
    | '+' :: r => (false, r)
    | r => (false, r)
  let (whole, rest) := digitsAt body
  let (fraction, rest) : Piece := match rest with
    | '.' :: r => digitsAt r
    | r => ([], r)
  let e : Int := match rest with
    | [] => 0
    | _ :: r => (Numeral.readSigned? r).getD 0
  .ofDecimal negative ((Numeral.read? 10 (whole ++ fraction)).getD 0) (e - (fraction.length : Int))

/-- Whether a token is a literal and, if it denotes something, what. -/
def literal? : Token → Option (Option Literal)
  | int text => some ((int64? text).map .int)
  | oddNumber => some none
  | double text => some (some (.double (readDouble text)))
  | string quote content =>
    some ((unescape quote (content.length + 1) content).map fun cs => .string (String.ofList cs))
  | rawString quote content => some (some (.string (String.ofList (unescapeRaw quote content))))
  | bytes content => some ((unescapeBytes (content.length + 1) content).map .bytes)
  | trueWord => some (some (.bool true))
  | falseWord => some (some (.bool false))
  | nullWord => some (some .null)
  | _ => none

/-- A literal that denotes nothing. Reading one ends everything. -/
def isUnreadable (t : Token) : Bool := t.literal? == some none

/-- Whether a token comes right after a literal in some expression: an operator between operands,
the start of an access to a member, a separator or a closing bracket. -/
def canFollowLiteral : Token → Bool
  | .symbol .parenOpen | .symbol .bang | .symbol .bangBang | .symbol .minusMinus => false
  | .symbol _ | .inWord => true
  | _ => false

end Token

end GatedRelay.Expr
