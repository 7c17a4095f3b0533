import GatedRelay.Json.Value
import GatedRelay.Number.Render
import GatedRelay.Text.Utf8

/-!
Compact JSON text: no spaces, and in strings only quotes, backslashes and control characters
are escaped.
-/

namespace GatedRelay.Json

/-- The letter after the backslash in the short escapes. -/
def escapeLetter? (c : Char) : Option Char :=
  if c = '"' then some '"'
  else if c = '\\' then some '\\'
  else if c = '\x08' then some 'b'
  else if c = '\t' then some 't'
  else if c = '\n' then some 'n'
  else if c = '\x0c' then some 'f'
  else if c = '\r' then some 'r'
  else none

def printChar (c : Char) : List Char :=
  match escapeLetter? c with
  | some letter => ['\\', letter]
  | none =>
    if c < ' ' then
      ['\\', 'u', '0', '0', Numeral.digitChar (c.toNat / 16), Numeral.digitChar (c.toNat % 16)]
    else [c]

def printString (s : String) : List Char := '"' :: s.toList.flatMap printChar ++ ['"']

mutual

def print : Json → List Char
  | null => ['n', 'u', 'l', 'l']
  | bool true => ['t', 'r', 'u', 'e']
  | bool false => ['f', 'a', 'l', 's', 'e']
  | int i => Numeral.decimalInt i.val
  | double d => Double.render .json d.val
  | string s => printString s
  | array items => '[' :: printItems items ++ [']']
  | object fields => '{' :: printFields fields ++ ['}']

def printItems : List Json → List Char
  | [] => []
  | [j] => print j
  | j :: rest => print j ++ ',' :: printItems rest

def printFields : List (String × Json) → List Char
  | [] => []
  | [(k, v)] => printString k ++ ':' :: print v
  | (k, v) :: rest => printString k ++ ':' :: print v ++ ',' :: printFields rest

end

def text (j : Json) : String := String.ofList (print j)

def bytes (j : Json) : Bytes := Utf8.encode (print j)

end GatedRelay.Json
