import GatedRelay.Text.Search
import GatedRelay.Text.Utf8

/-!
The targets of requests: a path with perhaps a query, a whole address with a scheme, an authority
alone, or an asterisk. A fragment is dropped.
-/

namespace GatedRelay

structure Uri where
  scheme : Option String
  path : String
  query : Option String
  deriving DecidableEq

namespace Uri

def isSchemeChar (c : Char) : Bool := c.isAlphanum || c = '+' || c = '-' || c = '.'

/-- The scheme in front of `://`, and what follows. The two usual schemes are lower-cased. -/
def cutScheme? (cs : List Char) : Option (String × List Char) :=
  let name := cs.takeWhile isSchemeChar
  match cs.dropWhile isSchemeChar with
  | ':' :: '/' :: '/' :: rest =>
    let lower := Text.lowerAscii name
    if lower = "http".toList ∨ lower = "https".toList then some (String.ofList lower, rest)
    else if name.isEmpty ∨ name.length > 64 then none
    else some (String.ofList name, rest)
  | _ => none

/-- Where the authority ends. -/
def endsAuthority (c : Char) : Bool := c = '/' || c = '?' || c = '#'

def isAuthorityChar (c : Char) : Bool :=
  c.isAlphanum || "!$%&\x27()*+,-.:;=@[]_~".toList.contains c

/-- Whether a text can be an authority. After a user there is a host, brackets stand once and in
order, and behind both there is at most one colon and nothing escaped. -/
def isAuthority (cs : List Char) : Bool :=
  let brackets := cs.filter fun c => c = '[' || c = ']'
  let tail := cs.reverse.takeWhile fun c => c ≠ '@' && c ≠ ']'
  cs.all isAuthorityChar && (brackets.isEmpty || brackets == ['[', ']']) &&
    cs.getLast? ≠ some '@' && tail.count ':' ≤ 1 && !tail.contains '%'

/-- Characters of paths; those beyond ASCII are let pass. -/
def isPathChar (c : Char) : Bool :=
  '!' ≤ c && c ≠ '#' && c ≠ '<' && c ≠ '>' && c ≠ '?' && c ≠ '\x60'

def isQueryChar (c : Char) : Bool :=
  '!' ≤ c && c ≠ '"' && c ≠ '#' && c ≠ '<' && c ≠ '>'

/-- A path and a query, where an empty path stands for the root. -/
def pathAndQuery? (scheme : Option String) (cs : List Char) : Option Uri :=
  let cs := cs.takeWhile (· ≠ '#')
  let path := cs.takeWhile (· ≠ '?')
  let query := (cs.dropWhile (· ≠ '?')).drop 1
  if path.all isPathChar && query.all isQueryChar then
    some ⟨scheme, if path.isEmpty then "/" else String.ofList path,
      if path.length < cs.length then some (String.ofList query) else none⟩
  else none

def parse? (cs : List Char) : Option Uri :=
  match cs with
  | [] => none
  | ['*'] => some ⟨none, "*", none⟩
  | '/' :: _ => pathAndQuery? none cs
  | _ =>
    match cutScheme? cs with
    | some (scheme, rest) =>
      let authority := rest.takeWhile fun c => !endsAuthority c
      if authority.isEmpty || !isAuthority authority then none
      else pathAndQuery? (some scheme) (rest.dropWhile fun c => !endsAuthority c)
    | none => if isAuthority cs then some ⟨none, "", none⟩ else none

end Uri

end GatedRelay
