import GatedRelay.Text.Numeral

/-!
Addresses of both families, their texts, and reading them. Octets and groups are the digits of
an address in base 2^8 and 2^16.
-/

namespace GatedRelay

inductive IpAddress
  | v4 (bits : BitVec 32)
  | v6 (bits : BitVec 128)
  deriving DecidableEq

namespace IpAddress

/-- The bits that digits in a base of `2 ^ width` denote, the first the most significant. -/
def ofDigits (size width : Nat) (ds : List Nat) : BitVec size :=
  BitVec.ofNat size (ds.foldl (fun acc d => acc * Nat.pow 2 width + d) 0)

def octets (bits : BitVec 32) : List Nat :=
  [24, 16, 8, 0].map fun shift => bits.toNat / Nat.pow 2 shift % 256

def groups (bits : BitVec 128) : List Nat :=
  [112, 96, 80, 64, 48, 32, 16, 0].map fun shift => bits.toNat / Nat.pow 2 shift % 65536

/-- The address of the older family that an address of the newer one stands for. -/
def mapped? (bits : BitVec 128) : Option (BitVec 32) :=
  if bits.toNat / 0x100000000 = 0xffff then some (BitVec.ofNat 32 bits.toNat) else none

/-- The older form of an address that has one. -/
def canonical : IpAddress → IpAddress
  | v4 bits => v4 bits
  | v6 bits =>
    match mapped? bits with
    | some b => v4 b
    | none => v6 bits

/-- How octets and groups are read: an octet with leading zeros is refused or not, and a double
colon stands for at least so many groups. -/
structure Grammar where
  leadingZeros : Bool
  fewestOmitted : Nat

/-- Addresses by themselves. -/
def Grammar.strict : Grammar := ⟨false, 1⟩

/-- Addresses in ranges. -/
def Grammar.lenient : Grammar := ⟨true, 0⟩

def isHexDigit (c : Char) : Bool := (Numeral.digitValue? c).isSome

/-- A number of at most so many digits at the front that is not followed by another digit. -/
def readNumber? (base maxDigits limit : Nat) (leadingZeros : Bool) (cs : List Char) :
    Option (Nat × List Char) :=
  let isBaseDigit (c : Char) : Bool := (Numeral.digitValue? c).any (· < base)
  let ds := cs.takeWhile isBaseDigit
  if maxDigits < ds.length ∨ (!leadingZeros ∧ ds.head? = some '0' ∧ 1 < ds.length) then none
  else
    match Numeral.read? base ds with
    | some n => if n < limit then some (n, cs.dropWhile isBaseDigit) else none
    | none => none

/-- So many further octets, each after a point. -/
def readOctets? (g : Grammar) : Nat → List Char → Option (List Nat × List Char)
  | 0, cs => some ([], cs)
  | n + 1, cs =>
    match cs with
    | '.' :: rest =>
      match readNumber? 10 3 256 g.leadingZeros rest with
      | some (o, rest) => (readOctets? g n rest).map fun p => (o :: p.1, p.2)
      | none => none
    | _ => none

/-- Four octets at the front. -/
def readV4? (g : Grammar) (cs : List Char) : Option (List Nat × List Char) :=
  match readNumber? 10 3 256 g.leadingZeros cs with
  | some (o, rest) => (readOctets? g 3 rest).map fun p => (o :: p.1, p.2)
  | none => none

/-- At most so many groups at the front, separated by colons; the last two may be written as
four octets, and with them the run of groups ends. -/
def readGroups (g : Grammar) : Nat → Bool → List Char → List Nat × Bool × List Char
  | 0, _, cs => ([], false, cs)
  | n + 1, first, cs =>
    let body? : Option (List Char) :=
      if first then some cs
      else match cs with
        | ':' :: rest => some rest
        | _ => none
    match body? with
    | none => ([], false, cs)
    | some body =>
      match (if n = 0 then none else readV4? g body) with
      | some ([a, b, c, d], rest) => ([a * 256 + b, c * 256 + d], true, rest)
      | _ =>
        match readNumber? 16 4 65536 true body with
        | some (v, rest) =>
          let (vs, octets, rest) := readGroups g n false rest
          (v :: vs, octets, rest)
        | none => ([], false, cs)

/-- Eight groups at the front, of which a double colon may leave out a run of zeros. -/
def readV6? (g : Grammar) (cs : List Char) : Option (List Nat × List Char) :=
  let (head, octets, rest) := readGroups g 8 true cs
  if head.length = 8 then some (head, rest)
  else if octets then none
  else
    match rest with
    | ':' :: ':' :: rest =>
      let (tail, _, rest) := readGroups g (8 - g.fewestOmitted - head.length) true rest
      some (head ++ List.replicate (8 - head.length - tail.length) 0 ++ tail, rest)
    | _ => none

def parse? (cs : List Char) : Option IpAddress :=
  match readV4? .strict cs with
  | some (ds, []) => some (v4 (ofDigits 32 8 ds))
  | _ =>
    match readV6? .strict cs with
    | some (ds, []) => some (v6 (ofDigits 128 16 ds))
    | _ => none

def textV4 (bits : BitVec 32) : List Char :=
  ['.'].intercalate ((octets bits).map Numeral.decimal)

/-- How many zeros stand at the front. -/
def zeroRun (gs : List Nat) : Nat := (gs.takeWhile (· == 0)).length

/-- Start and length of the longest run of zeros, the first of equal ones. -/
def longestZeroRun : List Nat → Nat × Nat
  | [] => (0, 0)
  | g :: rest =>
    let here := zeroRun (g :: rest)
    let (start, length) := longestZeroRun rest
    if length ≤ here then (0, here) else (start + 1, length)

def groupsText (gs : List Nat) : List Char :=
  [':'].intercalate (gs.map Numeral.hexadecimal)

/-- The longest run of two or more zero groups is left out. -/
def textV6 (bits : BitVec 128) : List Char :=
  match mapped? bits with
  | some b => [':', ':', 'f', 'f', 'f', 'f', ':'] ++ textV4 b
  | none =>
    let gs := groups bits
    let (start, length) := longestZeroRun gs
    if 1 < length then
      groupsText (gs.take start) ++ [':', ':'] ++ groupsText (gs.drop (start + length))
    else groupsText gs

def text : IpAddress → List Char
  | v4 bits => textV4 bits
  | v6 bits => textV6 bits

end IpAddress

end GatedRelay
