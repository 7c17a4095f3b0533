import GatedRelay.Text.Hidden
import GatedRelay.Text.Numeral

/-!
Texts in quotes for diagnostics: quotes and backslashes are escaped, line ends, tabs and NUL have
short escapes, and other characters that would not be seen are given by their code points.
-/

namespace GatedRelay.Text.Escaped

def encodeChar (c : Char) : List Char :=
  if c = '\x00' then ['\\', '0']
  else if c = '\t' then ['\\', 't']
  else if c = '\r' then ['\\', 'r']
  else if c = '\n' then ['\\', 'n']
  else if c = '\\' ∨ c = '"' then ['\\', c]
  else if isHidden c then ['\\', 'u', '\x7b'] ++ Numeral.hexadecimal c.toNat ++ ['\x7d']
  else [c]

def encode (cs : List Char) : List Char := '"' :: cs.flatMap encodeChar ++ ['"']

end GatedRelay.Text.Escaped
