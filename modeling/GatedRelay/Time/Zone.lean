import GatedRelay.Text.Numeral
import GatedRelay.Text.Search

/-!
Zone arguments: UTC, or a fixed offset in hours and minutes.
-/

namespace GatedRelay.Zone

/-- A signed 32-bit number at most so large; negative ones are refused as well. -/
def component? (limit : Nat) (cs : List Char) : Option Nat :=
  match Numeral.readSigned? cs with
  | some i => if 0 ≤ i ∧ i < (limit : Int) then some i.toNat else none
  | none => none

/-- Seconds ahead of UTC. -/
def parse? (cs : List Char) : Option Int :=
  if Text.lowerAscii cs = ['u', 't', 'c'] ∨ cs = ['Z'] then some 0
  else
    let (sign, rest) : Int × List Char := match cs with
      | '-' :: r => (-1, r)
      | '+' :: r => (1, r)
      | r => (1, r)
    match Text.cutAt? ':' rest with
    | none => none
    | some (hours, minutes) =>
      match component? 24 hours, component? 60 minutes with
      | some h, some m => some (sign * ((h : Int) * 3600 + (m : Int) * 60))
      | _, _ => none

end GatedRelay.Zone
