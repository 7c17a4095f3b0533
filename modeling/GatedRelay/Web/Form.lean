import GatedRelay.Text.Utf8
import GatedRelay.Text.Numeral

/-!
Form fields as `application/x-www-form-urlencoded` bytes: names and values joined by equals signs,
pairs joined by ampersands, spaces as plus signs, and other bytes as percent escapes.
-/

namespace GatedRelay.Form

/-- The byte of an ASCII character. -/
def byte (c : Char) : UInt8 := UInt8.ofNat c.toNat

def hexValue? (b : UInt8) : Option Nat := Numeral.digitValue? (Char.ofNat b.toNat)

/-- Whether two hexadecimal digits stand at the front. -/
def startsWithHex : Bytes → Bool
  | a :: b :: _ => (hexValue? a).isSome && (hexValue? b).isSome
  | _ => false

/-- The rest of a body from its first percent sign on that begins no escape. -/
def badEscape? : Bytes → Option Bytes
  | [] => none
  | b :: rest => if b = byte '%' ∧ !startsWithHex rest then some (b :: rest) else badEscape? rest

/-- Replaces escapes by their bytes. A percent sign that begins no escape stands for itself. -/
def unescape : Bytes → Bytes
  | [] => []
  | [b] => [b]
  | [a, b] => [a, b]
  | a :: b :: c :: rest =>
    if a = byte '%' then
      match hexValue? b, hexValue? c with
      | some m, some n => UInt8.ofNat (16 * m + n) :: unescape rest
      | _, _ => a :: unescape (b :: c :: rest)
    else a :: unescape (b :: c :: rest)

def plusToSpace (b : UInt8) : UInt8 := if b = byte '+' then byte ' ' else b

/-- The text of a name or value. -/
def component (bs : Bytes) : String := Utf8.decodeLossy (unescape (bs.map plusToSpace))

def splitOn (separator : UInt8) : Bytes → List Bytes
  | [] => [[]]
  | b :: rest =>
    match splitOn separator rest with
    | [] => [[b]]
    | p :: ps => if b = separator then [] :: p :: ps else (b :: p) :: ps

/-- A pair from the bytes between ampersands; without an equals sign the value is empty. -/
def pair (bs : Bytes) : String × String :=
  (component (bs.takeWhile (· ≠ byte '=')), component ((bs.dropWhile (· ≠ byte '=')).drop 1))

def pairs (body : Bytes) : List (String × String) :=
  ((splitOn (byte '&') body).filter fun bs => !bs.isEmpty).map pair

/-- Each name once, with its values in order. -/
abbrev Fields := List (String × List String)

/-- Adds a value to those of a name. -/
def add (name value : String) : Fields → Fields
  | [] => [(name, [value])]
  | (n, vs) :: rest =>
    if n = name then (n, vs ++ [value]) :: rest else (n, vs) :: add name value rest

def collect (ps : List (String × String)) : Fields :=
  ps.foldl (fun acc p => add p.1 p.2 acc) []

/-- Reads the fields of a body. An escape that is no escape refuses the whole body, and what
stands in its place is reported. -/
def parse (body : Bytes) : Except String Fields :=
  match badEscape? body with
  | some rest => .error (Utf8.decodeLossy (rest.take 3))
  | none => .ok (collect (pairs body))

end GatedRelay.Form
