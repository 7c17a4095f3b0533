/-!
Whole numbers in positional notation: digits most significant first, no leading zeros.
-/

namespace GatedRelay.Numeral

/-- The digits of a number in a base of at least two, in front of digits that follow them. -/
def digitsOnto (base : Nat) (h : 2 ≤ base) (n : Nat) (after : List Nat) : List Nat :=
  if n < base then n :: after else digitsOnto base h (n / base) (n % base :: after)
termination_by n
decreasing_by exact Nat.div_lt_self (by omega) h

/-- The digits of a number in a base of at least two. -/
def digits (base : Nat) (h : 2 ≤ base) (n : Nat) : List Nat := digitsOnto base h n []

theorem digitsOnto_eq_append (base : Nat) (h : 2 ≤ base) (n : Nat) (after : List Nat) :
    digitsOnto base h n after = digits base h n ++ after := by
  induction n using Nat.strongRecOn generalizing after with
  | ind n ih =>
    unfold digits digitsOnto
    split
    · rfl
    · next hn =>
      have smaller : n / base < n := Nat.div_lt_self (by omega) h
      rw [ih _ smaller, ih _ smaller [n % base], List.append_assoc]
      rfl

/-- The last digit is the remainder, and the digits before it are those of the quotient. -/
theorem digits_of_base_le (base : Nat) (h : 2 ≤ base) (n : Nat) (hn : base ≤ n) :
    digits base h n = digits base h (n / base) ++ [n % base] := by
  rw [← digitsOnto_eq_append]
  conv => lhs; unfold digits digitsOnto
  rw [if_neg (Nat.not_lt.2 hn)]

def digitChar (n : Nat) : Char := if n < 10 then Char.ofNat (48 + n) else Char.ofNat (87 + n)

/-- Letters stand for the digits from ten on. -/
def write (base : Nat) (h : 2 ≤ base) (n : Nat) : List Char := (digits base h n).map digitChar

def decimal (n : Nat) : List Char := write 10 (by decide) n

def hexadecimal (n : Nat) : List Char := write 16 (by decide) n

def decimalInt (i : Int) : List Char :=
  if i < 0 then '-' :: decimal i.natAbs else decimal i.natAbs

def decimalString (n : Nat) : String := String.ofList (decimal n)

def intString (i : Int) : String := String.ofList (decimalInt i)

/-- Digits with zeros in front up to a width. -/
def padLeft (width : Nat) (cs : List Char) : List Char :=
  List.replicate (width - cs.length) '0' ++ cs

def padded (width n : Nat) : List Char := padLeft width (decimal n)

/-- The value of a digit in bases up to sixteen. -/
def digitValue? (c : Char) : Option Nat :=
  if '0' ≤ c ∧ c ≤ '9' then some (c.toNat - 48)
  else if 'a' ≤ c ∧ c ≤ 'f' then some (c.toNat - 87)
  else if 'A' ≤ c ∧ c ≤ 'F' then some (c.toNat - 55)
  else none

def isDigit (c : Char) : Bool := '0' ≤ c && c ≤ '9'

def readFrom (base : Nat) : Nat → List Char → Option Nat
  | acc, [] => some acc
  | acc, c :: rest =>
    match digitValue? c with
    | some d => if d < base then readFrom base (acc * base + d) rest else none
    | none => none

/-- The number that a text of digits denotes; leading zeros are allowed, an empty text is not. -/
def read? (base : Nat) (cs : List Char) : Option Nat :=
  if cs.isEmpty then none else readFrom base 0 cs

/-- A number with an optional plus sign in front. -/
def readUnsigned? (base : Nat) : List Char → Option Nat
  | '+' :: rest => read? base rest
  | cs => read? base cs

/-- A decimal number with an optional sign in front. -/
def readSigned? : List Char → Option Int
  | '-' :: rest => (read? 10 rest).map fun n => -(n : Int)
  | cs => (readUnsigned? 10 cs).map Int.ofNat

end GatedRelay.Numeral
