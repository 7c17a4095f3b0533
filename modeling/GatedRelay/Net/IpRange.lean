import GatedRelay.Net.IpAddress

/-!
Ranges of addresses that agree in their leading bits, written as an address and the number of
those bits. The other bits of the address do not matter.
-/

namespace GatedRelay

inductive IpRange
  | v4 (base : BitVec 32) (length : Fin 33)
  | v6 (base : BitVec 128) (length : Fin 129)
  deriving DecidableEq

namespace IpRange

/-- The number of leading bits after a slash that ends the text. -/
def readLength? (maxDigits limit : Nat) (rest : List Char) : Option (Fin limit) :=
  match rest with
  | '/' :: ds =>
    match IpAddress.readNumber? 10 maxDigits limit true ds with
    | some (n, []) => if h : n < limit then some ⟨n, h⟩ else none
    | _ => none
  | _ => none

def parse? (cs : List Char) : Option IpRange :=
  let asV4 : Option IpRange :=
    match IpAddress.readV4? .lenient cs with
    | some (ds, rest) => (readLength? 2 33 rest).map (v4 (IpAddress.ofDigits 32 8 ds))
    | none => none
  match asV4 with
  | some r => some r
  | none =>
    match IpAddress.readV6? .lenient cs with
    | some (ds, rest) => (readLength? 3 129 rest).map (v6 (IpAddress.ofDigits 128 16 ds))
    | none => none

/-- A range within the mapped addresses as the range of the addresses that they stand for. -/
def canonical : IpRange → IpRange
  | v4 base length => v4 base length
  | v6 base length =>
    match IpAddress.mapped? base with
    | some b =>
      if 96 ≤ length.val then v4 b ⟨length.val - 96, by omega⟩ else v6 base length
    | none => v6 base length

/-- Whether two words of a size agree in their leading bits. -/
def agree {size : Nat} (length : Nat) (a b : BitVec size) : Bool :=
  a >>> (size - length) == b >>> (size - length)

/-- Ranges hold addresses of their own family only. -/
def contains : IpRange → IpAddress → Bool
  | v4 base length, .v4 bits => agree length.val base bits
  | v6 base length, .v6 bits => agree length.val base bits
  | _, _ => false

end IpRange

end GatedRelay
