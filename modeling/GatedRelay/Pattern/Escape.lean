import GatedRelay.Pattern.Flags
import GatedRelay.Pattern.Regex
import GatedRelay.Text.Numeral

/-!
What a backslash in a pattern stands for with the characters that follow it.
-/

namespace GatedRelay.Pattern

/-- What has one more character in any case of it if case does not count. -/
def Flags.fold (f : Flags) (s : CharSet) : CharSet :=
  if f.ignoreCase then .anyCase (!f.unicode) s else s

inductive Escape
  | char (c : Char)
  | set (s : CharSet)
  | check (a : Assertion)

namespace Escape

def charOfCode? (n : Nat) : Option Char := if n.isValidChar then some (Char.ofNat n) else none

/-- What stands up to the closing brace. -/
def braced? (f : Flags) : Nat → List Char → Option (List Char × List Char)
  | 0, _ => none
  | fuel + 1, cs =>
    match f.skip cs with
    | [] => none
    | '\x7d' :: rest => some ([], rest)
    | c :: rest => (braced? f fuel rest).map fun p => (c :: p.1, p.2)

/-- So many characters. -/
def counted? (f : Flags) : Nat → List Char → Option (List Char × List Char)
  | 0, cs => some ([], cs)
  | n + 1, cs =>
    match f.skip cs with
    | [] => none
    | c :: rest => (counted? f n rest).map fun p => (c :: p.1, p.2)

def ofDigits? (digits : List Char) : Option Char := (Numeral.read? 16 digits).bind charOfCode?

/-- A character given by exactly so many hexadecimal digits, or by any number in braces. Without
Unicode two digits give a byte, which is a character in ASCII only. -/
def hexChar? (f : Flags) (digits : Nat) (cs : List Char) : Option (Escape × List Char) :=
  match f.skip cs with
  | '\x7b' :: rest =>
    match braced? f (rest.length + 1) rest with
    | some (ds, rest) => (ofDigits? ds).map fun c => (char c, rest)
    | none => none
  | cs =>
    match counted? f digits cs with
    | some (ds, rest) =>
      match ofDigits? ds with
      | some c =>
        if digits == 2 && !f.unicode && 128 ≤ c.toNat then none else some (char c, rest)
      | none => none
    | none => none

/-- A property by one letter or by a name in braces. -/
def property? (f : Flags) (negated : Bool) (cs : List Char) : Option (Escape × List Char) :=
  let named? : Option (List Char × List Char) :=
    match f.skip cs with
    | [] => none
    | '\\' :: _ => none
    | '\x7b' :: rest => braced? f (rest.length + 1) rest
    | c :: rest => some ([c], rest)
  match named? with
  | some (name, rest) =>
    if f.unicode then
      (CharSet.ofProperty? name).map fun s => (set ((f.fold s).negateIf negated), rest)
    else none
  | none => none

/-- The words that edges are counted by. -/
def words (f : Flags) : CharSet := if f.unicode then .having .word else CharSet.asciiWord

/-- The edge of a word that is named in braces, if what follows the brace looks like a name. -/
def wordEdge? (f : Flags) (cs : List Char) : Option (Escape × List Char) :=
  let plain (e : WordEdge) : Escape := check (.edge (words f) e)
  match cs with
  | '\x7b' :: body =>
    match f.skip body with
    | [] => none
    | c :: _ =>
      if c.isAlpha || c == '-' then
        match braced? f (body.length + 1) body with
        | some (name, rest) =>
          match String.ofList name with
          | "start" => some (plain .start, rest)
          | "end" => some (plain .stop, rest)
          | "start-half" => some (plain .startHalf, rest)
          | "end-half" => some (plain .stopHalf, rest)
          | _ => none
        | none => none
      else some (plain .boundary, cs)
  | _ => some (plain .boundary, cs)

/-- Characters of ASCII that are no letters or digits stand for themselves. -/
def standsForItself (c : Char) : Bool :=
  c.toNat < 128 && !c.isAlphanum && c != '<' && c != '>'

/-- Reads an escape from after its backslash. -/
def read? (f : Flags) (cs : List Char) : Option (Escape × List Char) :=
  match cs with
  | [] => none
  | c :: rest =>
    match c with
    | 'a' => some (char '\x07', rest)
    | 'f' => some (char '\x0c', rest)
    | 't' => some (char '\t', rest)
    | 'n' => some (char '\n', rest)
    | 'r' => some (char '\r', rest)
    | 'v' => some (char '\x0b', rest)
    | 'x' => hexChar? f 2 rest
    | 'u' => hexChar? f 4 rest
    | 'U' => hexChar? f 8 rest
    | 'p' => property? f false rest
    | 'P' => property? f true rest
    | 'A' => some (check .textStart, rest)
    | 'z' => some (check .textEnd, rest)
    | 'b' => wordEdge? f rest
    | 'B' => some (check (.edge (words f) .noBoundary), rest)
    | '<' => some (check (.edge (words f) .start), rest)
    | '>' => some (check (.edge (words f) .stop), rest)
    | _ =>
      if standsForItself c then some (char c, rest)
      else (CharSet.ofLetter? f.unicode c).map fun s => (set s, rest)

end Escape

end GatedRelay.Pattern
