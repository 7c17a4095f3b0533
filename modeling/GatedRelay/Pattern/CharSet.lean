import GatedRelay.Text.CaseFold
import GatedRelay.Text.Property
import GatedRelay.Text.Search

/-!
Sets of characters, and the names that patterns have for some of them.
-/

namespace GatedRelay.Pattern

open GatedRelay.Text (Property)

inductive CharSet
  | range (lo hi : Char)
  | having (p : Property)
  /-- The characters that differ from one of the set in case only; with `ascii`, by the case of
  ASCII letters only. -/
  | anyCase (ascii : Bool) (s : CharSet)
  | complement (s : CharSet)
  | union (s t : CharSet)
  | inter (s t : CharSet)
  | difference (s t : CharSet)

namespace CharSet

def contains : CharSet → Char → Bool
  | range lo hi, c => lo ≤ c && c ≤ hi
  | having p, c => p.holds c
  | anyCase ascii s, c =>
    (if ascii then Text.asciiVariants c else Text.caseVariants c).any s.contains
  | complement s, c => !s.contains c
  | union s t, c => s.contains c || t.contains c
  | inter s t, c => s.contains c && t.contains c
  | difference s t, c => s.contains c && !t.contains c

def single (c : Char) : CharSet := range c c

def none : CharSet := range '\x01' '\x00'

def all : CharSet := complement none

def ofList (sets : List CharSet) : CharSet := sets.foldr union none

/-- Complements a set if asked to. -/
def negateIf (negated : Bool) (s : CharSet) : CharSet := if negated then complement s else s

def asciiDigit : CharSet := range '0' '9'

def asciiAlpha : CharSet := union (range 'a' 'z') (range 'A' 'Z')

def asciiAlnum : CharSet := union asciiAlpha asciiDigit

def asciiWord : CharSet := union asciiAlnum (single '_')

def asciiBlank : CharSet := union (range '\t' '\r') (single ' ')

/-- The sets of ASCII characters that have a name within brackets. -/
def asciiNamed? (name : String) : Option CharSet :=
  match name with
  | "alnum" => some asciiAlnum
  | "alpha" => some asciiAlpha
  | "ascii" => some (range '\x00' '\x7f')
  | "blank" => some (union (single ' ') (single '\t'))
  | "cntrl" => some (union (range '\x00' '\x1f') (single '\x7f'))
  | "digit" => some asciiDigit
  | "graph" => some (range '!' '~')
  | "lower" => some (range 'a' 'z')
  | "print" => some (range ' ' '~')
  | "punct" => some (difference (range '!' '~') asciiAlnum)
  | "space" => some asciiBlank
  | "upper" => some (range 'A' 'Z')
  | "word" => some asciiWord
  | "xdigit" => some (union asciiDigit (union (range 'a' 'f') (range 'A' 'F')))
  | _ => Option.none

/-- The set that a letter stands for after a backslash. A capital letter stands for the complement,
which has to have all characters to choose from. -/
def ofLetter? (unicode : Bool) (letter : Char) : Option CharSet :=
  let choose (p : Property) (ascii : CharSet) : CharSet := if unicode then having p else ascii
  let set? : Option CharSet :=
    match letter.toLower with
    | 'd' => some (choose .decimalDigit asciiDigit)
    | 's' => some (choose .blank asciiBlank)
    | 'w' => some (choose .word asciiWord)
    | _ => Option.none
  if letter.isUpper && !unicode then Option.none else set?.map (negateIf letter.isUpper)

/-- A name of a property without what does not count in it: spaces, dashes and underscores, the
case of its letters, characters outside of ASCII, and `is` in front. -/
def plainName (cs : List Char) : String :=
  let isNamed := match cs with
    | i :: s :: _ => i.toLower == 'i' && s.toLower == 's'
    | _ => false
  let body := if isNamed then cs.drop 2 else cs
  let kept := body.filter fun c => c.toNat < 128 && c != ' ' && c != '_' && c != '-'
  let small := String.ofList (kept.map Char.toLower)
  if isNamed && small == "c" then "isc" else small

/-- The set of a category by a name without its property. -/
def ofCategory? (name : String) : Option CharSet :=
  match name with
  | "any" => some all
  | "ascii" => some (range '\x00' '\x7f')
  | "assigned" => some (complement (having (.category "Cn")))
  | _ => (Property.categoryNamed? name).map having

/-- The set of the characters that have a property, which is written as a name, or as the kind of
property and its value with a sign between them. -/
def ofProperty? (cs : List Char) : Option CharSet :=
  let cutAt (sign : List Char) := Text.breakOn sign cs
  match cutAt ['!', '='] <|> cutAt [':'] <|> cutAt ['='] with
  | some (kind, value) =>
    match plainName kind with
    | "gc" | "generalcategory" => ofCategory? (plainName value)
    | "sc" | "script" | "scx" | "scriptextensions" =>
      (Property.scriptNamed? (plainName value)).map having
    | _ => Option.none
  | Option.none =>
    let name := plainName cs
    ((Property.ownNamed? name).map having) <|> ofCategory? name <|>
      ((Property.scriptNamed? name).map having)

/-- About how many bytes a machine for a set takes. -/
def size : CharSet → Nat
  | range lo hi =>
    if lo = hi then 32 * lo.utf8Size else if hi.toNat < 128 then 72 else 500
  | having .word => 48000
  | having .decimalDigit => 3500
  | having .blank => 600
  | having (.category "L") => 36000
  | having .alphabetic => 40000
  | having _ => 6000
  | anyCase _ s => s.size + 100
  | complement s => s.size + 400
  | union s t => s.size + t.size
  | inter s t => max s.size t.size
  | difference s t => s.size + t.size

end CharSet

end GatedRelay.Pattern
