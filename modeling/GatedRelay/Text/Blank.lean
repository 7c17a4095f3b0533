/-!
White space in the sense of the Unicode property `White_Space`, and the text between it.
-/

namespace GatedRelay.Text

def isBlank (c : Char) : Bool :=
  ('\t' ≤ c ∧ c ≤ '\r') || c = ' ' || c = '\u0085' || c = '\u00A0' || c = '\u1680' ||
    ('\u2000' ≤ c ∧ c ≤ '\u200A') || c = '\u2028' || c = '\u2029' || c = '\u202F' ||
    c = '\u205F' || c = '\u3000'

def dropBlankRight (cs : List Char) : List Char := (cs.reverse.dropWhile isBlank).reverse

def trim (cs : List Char) : List Char := dropBlankRight (cs.dropWhile isBlank)

def trimString (s : String) : String := String.ofList (trim s.toList)

/-- A text of white space only counts as not given. -/
def isBlankString (s : String) : Bool := s.toList.all isBlank

end GatedRelay.Text
