import GatedRelay.Text.Utf8

/-!
Base64: three bytes as four characters. The two alphabets differ in their last two characters.
Reading is strict: the bits that no byte uses have to be zero, and padding is either complete
or, where a text without padding is asked for, absent.
-/

namespace GatedRelay.Base64

inductive Alphabet
  | standard
  | urlSafe
  deriving DecidableEq

def Alphabet.char62 : Alphabet → Char
  | standard => '+'
  | urlSafe => '-'

def Alphabet.char63 : Alphabet → Char
  | standard => '/'
  | urlSafe => '_'

def Alphabet.char (a : Alphabet) (n : Nat) : Char :=
  if n < 26 then Char.ofNat (65 + n)
  else if n < 52 then Char.ofNat (71 + n)
  else if n < 62 then Char.ofNat (n - 4)
  else if n = 62 then a.char62
  else a.char63

def Alphabet.value? (a : Alphabet) (c : Char) : Option Nat :=
  if 'A' ≤ c ∧ c ≤ 'Z' then some (c.toNat - 65)
  else if 'a' ≤ c ∧ c ≤ 'z' then some (c.toNat - 71)
  else if '0' ≤ c ∧ c ≤ '9' then some (c.toNat + 4)
  else if c = a.char62 then some 62
  else if c = a.char63 then some 63
  else none

/-- The text without padding. -/
def encodeUnpadded (a : Alphabet) : Bytes → List Char
  | [] => []
  | [x] => [a.char (x.toNat / 4), a.char (x.toNat % 4 * 16)]
  | [x, y] =>
    [a.char (x.toNat / 4), a.char (x.toNat % 4 * 16 + y.toNat / 16), a.char (y.toNat % 16 * 4)]
  | x :: y :: z :: rest =>
    a.char (x.toNat / 4) :: a.char (x.toNat % 4 * 16 + y.toNat / 16) ::
      a.char (y.toNat % 16 * 4 + z.toNat / 64) :: a.char (z.toNat % 64) :: encodeUnpadded a rest

/-- The padding that fills the last group of four. -/
def padding (bs : Bytes) : List Char :=
  match bs.length % 3 with
  | 1 => ['=', '=']
  | 2 => ['=']
  | _ => []

def encode (a : Alphabet) (bs : Bytes) : List Char := encodeUnpadded a bs ++ padding bs

def decodeUnpadded? (a : Alphabet) : List Char → Option Bytes
  | [] => some []
  | [_] => none
  | [c, d] =>
    match a.value? c, a.value? d with
    | some p, some q => if q % 16 = 0 then some [UInt8.ofNat (p * 4 + q / 16)] else none
    | _, _ => none
  | [c, d, e] =>
    match a.value? c, a.value? d, a.value? e with
    | some p, some q, some r =>
      if r % 4 = 0 then some [UInt8.ofNat (p * 4 + q / 16), UInt8.ofNat (q % 16 * 16 + r / 4)]
      else none
    | _, _, _ => none
  | c :: d :: e :: f :: rest =>
    match a.value? c, a.value? d, a.value? e, a.value? f with
    | some p, some q, some r, some s =>
      (decodeUnpadded? a rest).map fun bs =>
        UInt8.ofNat (p * 4 + q / 16) :: UInt8.ofNat (q % 16 * 16 + r / 4) ::
          UInt8.ofNat (r % 4 * 64 + s) :: bs
    | _, _, _, _ => none

/-- Reads groups of four of which the last may be padded. -/
def decodePadded? (a : Alphabet) : List Char → Option Bytes
  | [] => some []
  | c :: d :: e :: f :: rest =>
    if rest.isEmpty ∧ f = '=' then
      decodeUnpadded? a (if e = '=' then [c, d] else [c, d, e])
    else
      match decodeUnpadded? a [c, d, e, f] with
      | some bs => (decodePadded? a rest).map (bs ++ ·)
      | none => none
  | _ => none

/-- Accepts complete padding as well as none. -/
def decode? (a : Alphabet) (cs : List Char) : Option Bytes :=
  match decodePadded? a cs with
  | some bs => some bs
  | none => decodeUnpadded? a cs

end GatedRelay.Base64
