import GatedRelay.Pattern.CharSet

/-!
Patterns and where they match. A set of positions in a text is a number whose bits are set at them,
and a pattern takes the positions where a match may start to those where it can end.
-/

namespace GatedRelay.Pattern

/-- How the characters on both sides of a position belong to words. -/
inductive WordEdge
  | boundary
  | noBoundary
  | start
  | stop
  | startHalf
  | stopHalf

namespace WordEdge

def holds (e : WordEdge) (wordBefore wordAfter : Bool) : Bool :=
  match e with
  | boundary => wordBefore != wordAfter
  | noBoundary => wordBefore == wordAfter
  | start => !wordBefore && wordAfter
  | stop => wordBefore && !wordAfter
  | startHalf => !wordBefore
  | stopHalf => !wordAfter

end WordEdge

/-- A condition on a position. -/
inductive Assertion
  | textStart
  | textEnd
  /-- With `crlf`, a carriage return and a line feed end a line each or both together. -/
  | lineStart (crlf : Bool)
  | lineEnd (crlf : Bool)
  | edge (words : CharSet) (e : WordEdge)

namespace Assertion

def holds (a : Assertion) (text : Array Char) (i : Nat) : Bool :=
  let before := if i = 0 then none else text[i - 1]?
  let after := text[i]?
  match a with
  | textStart => i == 0
  | textEnd => i == text.size
  | lineStart crlf =>
    i == 0 || before == some '\n' || (crlf && before == some '\r' && after != some '\n')
  | lineEnd crlf =>
    i == text.size || (crlf && after == some '\r') ||
      (after == some '\n' && !(crlf && before == some '\r'))
  | edge words e => e.holds (before.any words.contains) (after.any words.contains)

end Assertion

inductive Regex
  | empty
  | one (set : CharSet)
  | check (a : Assertion)
  | concat (r s : Regex)
  | alternate (r s : Regex)
  /-- At least `least` times, and `extra` times more at most; without `extra`, any number. -/
  | repetition (r : Regex) (least : Nat) (extra : Option Nat)

/-- A pattern with the positions of one text at which its parts apply. -/
inductive Moves
  | stay (allowed : Nat)
  | step (allowed : Nat)
  | concat (p q : Moves)
  | alternate (p q : Moves)
  /-- More than `most` repetitions over the least reach nothing new. -/
  | repetition (p : Moves) (least most : Nat)

namespace Moves

/-- Applies a function so many times, or until nothing changes any more. -/
def iterate (f : Nat → Nat) : Nat → Nat → Nat
  | 0, x => x
  | n + 1, x =>
    let next := f x
    if next = x then x else iterate f n next

/-- Where the moves from the given positions end. -/
def ends : Moves → Nat → Nat
  | stay allowed, starts => starts &&& allowed
  | step allowed, starts => (starts &&& allowed) <<< 1
  | concat p q, starts => ends q (ends p starts)
  | alternate p q, starts => ends p starts ||| ends q starts
  | repetition p least most, starts =>
    iterate (fun x => x ||| ends p x) most (iterate (ends p) least starts)

end Moves

/-- The positions up to a last one at which a condition holds. -/
def positionsWhere (holds : Nat → Bool) (last : Nat) : Nat :=
  (List.range (last + 1)).foldl (fun set i => if holds i then set ||| 1 <<< i else set) 0

namespace Regex

/-- The moves of a pattern in a text. -/
def moves (text : Array Char) : Regex → Moves
  | empty => .stay (positionsWhere (fun _ => true) text.size)
  | one set => .step (positionsWhere (fun i => text[i]?.any set.contains) text.size)
  | check a => .stay (positionsWhere (a.holds text) text.size)
  | concat r s => .concat (moves text r) (moves text s)
  | alternate r s => .alternate (moves text r) (moves text s)
  | repetition r least extra =>
    .repetition (moves text r) least (min (extra.getD (text.size + 1)) (text.size + 1))

/-- Whether a match starts anywhere in the text. -/
def matchesIn (r : Regex) (cs : List Char) : Bool :=
  let text := cs.toArray
  (r.moves text).ends (positionsWhere (fun _ => true) text.size) != 0

/-- Whether all matches are empty whatever the text. -/
def isAlwaysEmpty : Regex → Bool
  | empty => true
  | one _ => false
  | check _ => true
  | concat r s => r.isAlwaysEmpty && s.isAlwaysEmpty
  | alternate r s => r.isAlwaysEmpty && s.isAlwaysEmpty
  | repetition r least extra => r.isAlwaysEmpty || (least == 0 && extra == some 0)

/-- About how many bytes a machine for a pattern takes. -/
def size : Regex → Nat
  | empty => 32
  | one set => set.size
  | check _ => 32
  | concat r s => r.size + s.size
  | alternate r s => r.size + s.size + 40
  | repetition r least extra =>
    if r.isAlwaysEmpty then r.size + 40
    else
      match extra with
      | none => max least 1 * r.size + 40
      | some more => least * r.size + more * (r.size + 40)

end Regex

end GatedRelay.Pattern
