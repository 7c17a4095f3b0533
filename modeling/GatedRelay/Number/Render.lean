import GatedRelay.Number.Shortest
import GatedRelay.Text.Numeral

/-!
Texts of doubles: with the fewest digits that read back, with a fixed number of places, and in
scientific notation with a fixed number of places. The last two round the exact value, a half
to the even digit.
-/

namespace GatedRelay

/-- How a double with the fewest digits is written. -/
structure DoubleFormat where
  /-- Decimal exponents of the leading digit that are written without an exponent; `none` for
  all. -/
  positional : Option (Int × Int)
  /-- Whether a whole number ends in `.0`. -/
  pointZero : Bool
  /-- The sign of an exponent that is not negative. -/
  exponentSign : List Char

namespace DoubleFormat

/-- Numbers in JSON text have a point or an exponent. -/
def json : DoubleFormat := ⟨some (-5, 15), true, ['+']⟩

/-- Display text has neither exponents nor needless zeros. -/
def display : DoubleFormat := ⟨none, false, []⟩

/-- Diagnostic text has a point or an exponent. -/
def diagnostic : DoubleFormat := ⟨some (-4, 15), true, []⟩

end DoubleFormat

namespace Double

/-- The digits of a decimal around its point. -/
def positional (pointZero : Bool) (digits : List Char) (exponent : Int) : List Char :=
  let whole := if pointZero then ['.', '0'] else []
  if 0 ≤ exponent then digits ++ List.replicate exponent.toNat '0' ++ whole
  else
    let places := (-exponent).toNat
    if places < digits.length then
      digits.take (digits.length - places) ++ '.' :: digits.drop (digits.length - places)
    else ['0', '.'] ++ List.replicate (places - digits.length) '0' ++ digits

/-- The digits of a decimal with the point after the first one. -/
def scientific (sign digits : List Char) (exponent : Int) : List Char :=
  let e := exponent + (digits.length - 1 : Nat)
  let mantissa := match digits with
    | [] => []
    | [d] => [d]
    | d :: rest => d :: '.' :: rest
  mantissa ++ 'e' :: (if e < 0 then [] else sign) ++ Numeral.decimalInt e

def unsignedText (f : DoubleFormat) (d : Double) : List Char :=
  let x := Decimal.shortest d
  let digits := Numeral.decimal x.digits
  let e := x.exponent + (digits.length - 1 : Nat)
  match f.positional with
  | none => positional f.pointZero digits x.exponent
  | some (low, high) =>
    if d.isZero ∨ (low ≤ e ∧ e ≤ high) then positional f.pointZero digits x.exponent
    else scientific f.exponentSign digits x.exponent

def nonFiniteText (d : Double) : List Char :=
  if d.isNaN then ['N', 'a', 'N']
  else if d.isNegative then ['-', 'i', 'n', 'f'] else ['i', 'n', 'f']

def render (f : DoubleFormat) (d : Double) : List Char :=
  if !d.isFinite then nonFiniteText d
  else if d.isNegative then '-' :: unsignedText f d else unsignedText f d

def text (f : DoubleFormat) (d : Double) : String := String.ofList (render f d)

/-- A number of places after the point. -/
def fixed (places : Nat) (d : Double) : List Char :=
  if !d.isFinite then nonFiniteText d
  else
    let (num, den) := d.absRatio
    let scaledDigits := roundDiv (num * Nat.pow 10 places) den
    let digits := Numeral.padded (places + 1) scaledDigits
    let body :=
      if places = 0 then digits
      else digits.take (digits.length - places) ++ '.' :: digits.drop (digits.length - places)
    if d.isNegative then '-' :: body else body

/-- The whole number with `places + 1` digits nearest to num / den scaled by a power of ten, and
the decimal exponent of its first digit. -/
def roundToDigits (num den places : Nat) : Nat × Int :=
  if num = 0 then (0, 0)
  else
    let e := Decimal.magnitude num den
    let shift : Int := (places : Int) - e
    let n := if 0 ≤ shift then roundDiv (num * Nat.pow 10 shift.toNat) den
      else roundDiv num (den * Nat.pow 10 (-shift).toNat)
    if n = Nat.pow 10 (places + 1) then (Nat.pow 10 places, e + 1) else (n, e)

/-- One digit, a number of places, and an exponent with a sign and at least two digits. -/
def exponential (places : Nat) (d : Double) : List Char :=
  if !d.isFinite then nonFiniteText d
  else
    let (num, den) := d.absRatio
    let (n, e) := roundToDigits num den places
    let mantissa := match Numeral.padded (places + 1) n with
      | [] => []
      | [c] => [c]
      | c :: rest => c :: '.' :: rest
    let body := mantissa ++ 'e' :: (if e < 0 then '-' else '+') :: Numeral.padded 2 e.natAbs
    if d.isNegative then '-' :: body else body

end Double

end GatedRelay
