import GatedRelay.Text.Blank

/-!
The flags of a pattern, which hold from where they are set to the end of the group.
-/

namespace GatedRelay.Pattern

structure Flags where
  ignoreCase : Bool
  multiLine : Bool
  dotAll : Bool
  /-- Blanks and comments between the parts of a pattern do not count. -/
  spacious : Bool
  unicode : Bool
  crlf : Bool

namespace Flags

def initial : Flags := ⟨false, false, false, false, true, false⟩

/-- The flags after letters that switch some on and, after a dash, others off. A letter stands once
only, and one follows the dash. -/
def update? (f : Flags) (letters : List Char) : Option Flags :=
  let known := letters.all fun c => c == '-' || ['i', 'm', 's', 'x', 'u', 'R', 'U'].contains c
  if known && letters.eraseDups.length == letters.length && letters.getLast? != some '-' then
    let on := letters.takeWhile (· != '-')
    let now (letter : Char) (before : Bool) : Bool :=
      on.contains letter || (before && !letters.contains letter)
    some
      { ignoreCase := now 'i' f.ignoreCase
        multiLine := now 'm' f.multiLine
        dotAll := now 's' f.dotAll
        spacious := now 'x' f.spacious
        unicode := now 'u' f.unicode
        crlf := now 'R' f.crlf }
  else none

def skipFrom : Nat → List Char → List Char
  | 0, cs => cs
  | fuel + 1, cs =>
    match cs with
    | '#' :: rest => skipFrom fuel (rest.dropWhile (· != '\n'))
    | c :: rest => if Text.isBlank c then skipFrom fuel rest else cs
    | [] => []

/-- What follows blanks and comments, where these do not count. -/
def skip (f : Flags) (cs : List Char) : List Char :=
  if f.spacious then skipFrom cs.length cs else cs

end Flags

end GatedRelay.Pattern
