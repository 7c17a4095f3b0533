/-!
Double-precision numbers by their 64 bits. Everything that decides a text or a comparison
works on the exact value m · 2^q that the bits stand for; only the four operations of
arithmetic are left to the machine.
-/

namespace GatedRelay

structure Double where
  bits : UInt64
  deriving DecidableEq

namespace Double

def ofFloat (f : Float) : Double := ⟨f.toBits⟩

def toFloat (d : Double) : Float := Float.ofBits d.bits

def isNegative (d : Double) : Bool := decide (0x8000000000000000 ≤ d.bits.toNat)

def exponentField (d : Double) : Nat := d.bits.toNat / 0x10000000000000 % 2048

def fractionField (d : Double) : Nat := d.bits.toNat % 0x10000000000000

def isFinite (d : Double) : Bool := d.exponentField != 2047

def isNaN (d : Double) : Bool := d.exponentField == 2047 && d.fractionField != 0

def isZero (d : Double) : Bool := d.exponentField == 0 && d.fractionField == 0

/-- The m of the absolute value m · 2^q of a finite double. -/
def significand (d : Double) : Nat :=
  if d.exponentField = 0 then d.fractionField else 0x10000000000000 + d.fractionField

/-- The q of the absolute value m · 2^q of a finite double. -/
def exponent (d : Double) : Int :=
  if d.exponentField = 0 then -1074 else (d.exponentField : Int) - 1075

def ofFields (negative : Bool) (exponentField fractionField : Nat) : Double :=
  ⟨UInt64.ofNat ((if negative then 0x8000000000000000 else 0) +
    exponentField * 0x10000000000000 + fractionField)⟩

def zero (negative : Bool) : Double := ofFields negative 0 0

def infinity (negative : Bool) : Double := ofFields negative 2047 0

def nan : Double := ofFields false 2047 0x8000000000000

def neg (d : Double) : Double :=
  ⟨if d.isNegative then d.bits - 0x8000000000000000 else d.bits + 0x8000000000000000⟩

/-- A quotient rounded to the nearest whole number, a half to the even one. -/
def roundDiv (num den : Nat) : Nat :=
  let q := num / den
  let r := num % den
  if den < 2 * r ∨ (2 * r = den ∧ q % 2 = 1) then q + 1 else q

/-- A quotient scaled by 2^(-q) as a quotient of whole numbers. -/
def scaled (num den : Nat) (q : Int) : Nat × Nat :=
  if 0 ≤ q then (num, den * Nat.pow 2 q.toNat) else (num * Nat.pow 2 (-q).toNat, den)

/-- The q for which a quotient has 53 bits before the point when it is scaled by 2^(-q), or the least
q there is. -/
def lastExponent (num den : Nat) : Int :=
  let guess : Int := (num.log2 : Int) - (den.log2 : Int) - 52
  let s := scaled num den guess
  max (if s.1 < s.2 * 0x10000000000000 then guess - 1 else guess) (-1074)

/-- The double m · 2^q for an m of at most 53 bits, or for 2^53 itself, infinite beyond the range. -/
def ofRounded (negative : Bool) (m : Nat) (q : Int) : Double :=
  if m < 0x10000000000000 then ofFields negative 0 m
  else
    let field := (if m = 0x20000000000000 then q + 1 else q) + 1075
    let fraction := if m = 0x20000000000000 then 0 else m - 0x10000000000000
    if 2047 ≤ field then infinity negative else ofFields negative field.toNat fraction

/-- The double nearest to a quotient, ties to the even significand, infinite beyond the range. -/
def ofRatio (negative : Bool) (num den : Nat) : Double :=
  if num = 0 ∨ den = 0 then zero negative
  else
    let q := lastExponent num den
    let s := scaled num den q
    ofRounded negative (roundDiv s.1 s.2) q

def ofNat (n : Nat) : Double := ofRatio false n 1

def ofInt (i : Int) : Double := ofRatio (decide (i < 0)) i.natAbs 1

/-- The double nearest to digits · 10^exponent. The exponent is cut off where the result no
longer depends on it. -/
def ofDecimal (negative : Bool) (digits : Nat) (exponent : Int) : Double :=
  if digits = 0 then zero negative
  else
    let size : Int := (digits.log2 : Int)
    if 400 < exponent then infinity negative
    else if exponent + size < -400 then zero negative
    else if 0 ≤ exponent then ofRatio negative (digits * Nat.pow 10 exponent.toNat) 1
    else ofRatio negative digits (Nat.pow 10 (-exponent).toNat)

/-- The absolute value of a finite double as a quotient. -/
def absRatio (d : Double) : Nat × Nat :=
  if 0 ≤ d.exponent then (d.significand * Nat.pow 2 d.exponent.toNat, 1)
  else (d.significand, Nat.pow 2 (-d.exponent).toNat)

/-- The whole part of a finite double. -/
def truncate (d : Double) : Int :=
  let (n, m) := d.absRatio
  if d.isNegative then -((n / m : Nat) : Int) else ((n / m : Nat) : Int)

/-- The whole number nearest to a finite double, a half away from zero. -/
def roundHalfAway (d : Double) : Int :=
  let (n, m) := d.absRatio
  let r := (2 * n + m) / (2 * m)
  if d.isNegative then -(r : Int) else (r : Int)

/-- A whole number that is ordered as the double, the two zeros alike. -/
def orderKey (d : Double) : Int :=
  if d.isNegative then -((d.bits.toNat - 0x8000000000000000 : Nat) : Int) else (d.bits.toNat : Int)

/-- A NaN compares with nothing. -/
def compare? (a b : Double) : Option Ordering :=
  if a.isNaN ∨ b.isNaN then none else some (compare a.orderKey b.orderKey)

def equals (a b : Double) : Bool := compare? a b == some .eq

def add (a b : Double) : Double := ofFloat (a.toFloat + b.toFloat)

def sub (a b : Double) : Double := ofFloat (a.toFloat - b.toFloat)

def mul (a b : Double) : Double := ofFloat (a.toFloat * b.toFloat)

def div (a b : Double) : Double := ofFloat (a.toFloat / b.toFloat)

/-- The exact remainder of the truncating division, with the sign of the dividend. -/
def rem (a b : Double) : Double :=
  if a.isNaN ∨ b.isNaN ∨ ¬a.isFinite ∨ b.isZero then nan
  else if ¬b.isFinite then a
  else
    let (n, m) := a.absRatio
    let (n', m') := b.absRatio
    ofRatio a.isNegative (n * m' % (n' * m)) (m * m')

end Double

abbrev FiniteDouble := { d : Double // d.isFinite = true }

end GatedRelay
