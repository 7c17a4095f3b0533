/-!
Quoted text: a text between double quotes in which quotes, backslashes and seven control
characters are written as escapes.
-/

namespace GatedRelay.Text.Quoted

/-- The letter after the backslash, for the characters that are written as escapes. -/
def escapeLetter? (c : Char) : Option Char :=
  if c = '\x07' then some 'a'
  else if c = '\x08' then some 'b'
  else if c = '\x0c' then some 'f'
  else if c = '\n' then some 'n'
  else if c = '\r' then some 'r'
  else if c = '\t' then some 't'
  else if c = '\x0b' then some 'v'
  else if c = '\\' then some '\\'
  else if c = '"' then some '"'
  else none

def encodeChar (c : Char) : List Char :=
  match escapeLetter? c with
  | some letter => ['\\', letter]
  | none => [c]

def encode (cs : List Char) : List Char := '"' :: cs.flatMap encodeChar ++ ['"']

end GatedRelay.Text.Quoted
