import GatedRelay.Number.Binary64

/-!
The shortest decimal that reads back as a given double, and of several shortest ones the
nearest. A decimal is a whole number of digits and a power of ten.
-/

namespace GatedRelay

structure Decimal where
  digits : Nat
  exponent : Int
  deriving DecidableEq

namespace Decimal

/-- `a / b ≤ c / d` for positive denominators. -/
def ratioLe (a b c d : Nat) : Bool := decide (a * d ≤ c * b)

/-- The decimal as a quotient. -/
def ratio (x : Decimal) : Nat × Nat :=
  if 0 ≤ x.exponent then (x.digits * Nat.pow 10 x.exponent.toNat, 1)
  else (x.digits, Nat.pow 10 (-x.exponent).toNat)

/-- Whether a quotient lies in the interval of numbers that round to the double m · 2^q. The
interval is half as wide below a power of two; its ends belong to it when m is even. -/
def readsBack (m : Nat) (q : Int) (narrow : Bool) (num den : Nat) : Bool :=
  let (low, high) := (if narrow then 4 * m - 1 else 4 * m - 2, 4 * m + 2)
  let (u, v) := Double.scaled num den (q - 2)
  if m % 2 = 0 then ratioLe low 1 u v && ratioLe u v high 1
  else !ratioLe u v low 1 && !ratioLe high 1 u v

/-- The exponent e for which num / den is at least 10^e and below 10^(e+1). -/
def magnitude (num den : Nat) : Int :=
  let estimate : Int := ((num.log2 : Int) - (den.log2 : Int)) * 30103 / 100000 - 1
  let step (e : Int) : Int :=
    let (n, d) := ratio ⟨1, e + 1⟩
    if ratioLe n d num den then e + 1 else e
  step (step (step estimate))

/-- Of the two neighbours of num / den among the multiples of 10^e, the nearer one that
satisfies the test. -/
def neighbour? (num den : Nat) (e : Int) (test : Nat → Nat → Bool) : Option Decimal :=
  let (n, d) := if 0 ≤ e then (num, den * Nat.pow 10 e.toNat)
    else (num * Nat.pow 10 (-e).toNat, den)
  let low : Decimal := ⟨n / d, e⟩
  let high : Decimal := ⟨n / d + 1, e⟩
  let lowOk := test low.ratio.1 low.ratio.2 && low.digits != 0
  let highOk := test high.ratio.1 high.ratio.2
  let nearLow := 2 * (n % d) < d || (2 * (n % d) == d && low.digits % 2 == 0)
  if lowOk && (nearLow || !highOk) then some low
  else if highOk then some high
  else none

/-- Tries one digit, then two, and so on. -/
def search (num den : Nat) (top : Int) (test : Nat → Nat → Bool) : Nat → Decimal
  | 0 => ⟨num / den, 0⟩
  | fuel + 1 =>
    match neighbour? num den (top - (16 - fuel : Nat)) test with
    | some x => x
    | none => search num den top test fuel

/-- Moves the zeros at the end of the digits into the exponent. -/
def normalize (fuel : Nat) (x : Decimal) : Decimal :=
  match fuel with
  | 0 => x
  | fuel + 1 =>
    if x.digits % 10 = 0 ∧ x.digits ≠ 0 then normalize fuel ⟨x.digits / 10, x.exponent + 1⟩ else x

/-- The shortest decimal of the absolute value of a finite double. -/
def shortest (d : Double) : Decimal :=
  if d.isZero then ⟨0, 0⟩
  else
    let (num, den) := d.absRatio
    let narrow := d.fractionField == 0 && 1 < d.exponentField
    normalize 20
      (search num den (magnitude num den) (readsBack d.significand d.exponent narrow) 17)

end Decimal

end GatedRelay
