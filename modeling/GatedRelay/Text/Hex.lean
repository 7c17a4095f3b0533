import GatedRelay.Text.Utf8
import GatedRelay.Text.Numeral

/-!
Two hexadecimal digits for each byte.
-/

namespace GatedRelay.Hex

def byte (b : UInt8) : List Char :=
  [Numeral.digitChar (b.toNat / 16), Numeral.digitChar (b.toNat % 16)]

def encode (bs : Bytes) : List Char := bs.flatMap byte

def decode? : List Char → Option Bytes
  | [] => some []
  | [_] => none
  | a :: b :: rest =>
    match Numeral.digitValue? a, Numeral.digitValue? b, decode? rest with
    | some hi, some lo, some bs => some (UInt8.ofNat (hi * 16 + lo) :: bs)
    | _, _, _ => none

end GatedRelay.Hex
