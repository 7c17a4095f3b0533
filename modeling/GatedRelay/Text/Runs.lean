/-!
Tables over all code points as runs: so many code points in a row go by the same name.
-/

namespace GatedRelay.Text

/-- Where each run starts and the name that its code points go by, in order from zero on. -/
abbrev Runs := Array (Nat × String)

namespace Runs

/-- The runs that a text lists, from a code point on. A run is a count, which is left out for one,
and a name of one capital letter and small letters after it. -/
def read : Nat → Nat → List Char → Runs → Runs
  | 0, _, _, runs => runs
  | fuel + 1, start, cs, runs =>
    match cs.span Char.isDigit with
    | (_, []) => runs
    | (count, c :: rest) =>
      let (small, rest) := rest.span Char.isLower
      let count := count.foldl (fun n d => n * 10 + (d.toNat - '0'.toNat)) 0
      read fuel (start + max count 1) rest (runs.push (start, String.ofList (c :: small)))

/-- The runs that lines of text list one after the other. -/
def ofLines (lines : List String) : Runs :=
  let cs := lines.flatMap String.toList
  read cs.length 0 cs #[]

/-- The last run that starts at a code point or before it, of those between two indices. -/
def search (runs : Runs) (n lo hi : Nat) : Nat :=
  if hi - lo ≤ 1 then lo
  else
    let mid := (lo + hi) / 2
    if runs[mid]?.any fun r => r.1 ≤ n then search runs n mid hi else search runs n lo mid
termination_by hi - lo

/-- The name that a code point goes by. -/
def find (runs : Runs) (n : Nat) : String :=
  (runs[search runs n 0 runs.size]?.map (·.2)).getD ""

end Runs

end GatedRelay.Text
