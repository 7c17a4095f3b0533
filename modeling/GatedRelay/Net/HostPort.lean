import GatedRelay.Net.IpAddress
import GatedRelay.Text.Search

/-!
Peer addresses: a host and a port joined by a colon. A host that holds colons stands in brackets.
-/

namespace GatedRelay

namespace HostPort

/-- The host of an address. What follows its colon is not looked at, except that it holds no
further colon. -/
def host? : List Char → Option (List Char)
  | '[' :: rest =>
    match Text.cutAt? ']' rest with
    | none => none
    | some (host, ':' :: port) => if port.contains ':' ∨ host.isEmpty then none else some host
    | some _ => none
  | cs =>
    match Text.cutAtLast? ':' cs with
    | none => none
    | some (host, _) =>
      if host.contains ':' ∨ host.contains '[' ∨ host.contains ']' then none else some host

def split? (addr : String) : Option String := (host? addr.toList).map String.ofList

end HostPort

/-- The address of a connection's other end. -/
inductive PeerAddress
  | v4 (bits : BitVec 32) (port : UInt16)
  | v6 (bits : BitVec 128) (scope : UInt32) (port : UInt16)
  deriving DecidableEq

namespace PeerAddress

def ip : PeerAddress → IpAddress
  | v4 bits _ => .v4 bits
  | v6 bits _ _ => .v6 bits

/-- A scope other than zero is written after a percent sign. -/
def text : PeerAddress → List Char
  | v4 bits port => IpAddress.textV4 bits ++ ':' :: Numeral.decimal port.toNat
  | v6 bits scope port =>
    let scopeText := if scope = 0 then [] else '%' :: Numeral.decimal scope.toNat
    '[' :: IpAddress.textV6 bits ++ scopeText ++ ']' :: ':' :: Numeral.decimal port.toNat

def port? (cs : List Char) : Option UInt16 :=
  match Numeral.read? 10 cs with
  | some n => if n < 65536 then some (UInt16.ofNat n) else none
  | none => none

def scope? : List Char → Option UInt32
  | [] => some 0
  | '%' :: ds =>
    match Numeral.read? 10 ds with
    | some n => if n < 4294967296 then some (UInt32.ofNat n) else none
    | none => none
  | _ => none

def parse? (cs : List Char) : Option PeerAddress :=
  match cs with
  | '[' :: rest =>
    match IpAddress.readV6? .strict rest with
    | none => none
    | some (ds, rest) =>
      match Text.cutAt? ']' rest with
      | some (scopeText, ':' :: portText) =>
        match scope? scopeText, port? portText with
        | some s, some p => some (v6 (IpAddress.ofDigits 128 16 ds) s p)
        | _, _ => none
      | _ => none
  | _ =>
    match IpAddress.readV4? .strict cs with
    | some (ds, ':' :: portText) => (port? portText).map (v4 (IpAddress.ofDigits 32 8 ds))
    | _ => none

end PeerAddress

end GatedRelay
