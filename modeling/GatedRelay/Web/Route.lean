import GatedRelay.Text.Search

/-!
Routes: paths in which a segment, or all that follows a slash, may stand open. A path that fits
the route of the health check as well belongs to the health check.
-/

namespace GatedRelay

/-- A part of a route. An open segment ends before the next slash, an open rest never; neither
is empty. -/
inductive RoutePart
  | exact (c : Char)
  | segment
  | rest
  deriving DecidableEq

abbrev Route := List RoutePart

namespace Route

/-- The name of an open part, and what follows it, up to the next slash. A second mark in the name
spoils it. -/
def openName? (cs : List Char) : Option (List Char) :=
  let name := cs.takeWhile (· ≠ '/')
  if name.isEmpty || name.any (fun c => c = ':' || c = '*') then none
  else some (cs.dropWhile (· ≠ '/'))

/-- The parts of a route after some character. An open rest has to follow a slash and to be the
last part. -/
def partsAfter? (previous : Char) (cs : List Char) : Nat → Option Route
  | 0 => none
  | fuel + 1 =>
    match cs with
    | [] => some []
    | ':' :: more =>
      match openName? more with
      | none => none
      | some remainder => (partsAfter? ':' remainder fuel).map (.segment :: ·)
    | '*' :: more =>
      match openName? more with
      | some [] => if previous = '/' then some [.rest] else none
      | _ => none
    | c :: more => (partsAfter? c more fuel).map (.exact c :: ·)

/-- A route begins with a slash. -/
def parse? (path : String) : Option Route :=
  match path.toList with
  | '/' :: rest => (partsAfter? '/' rest (rest.length + 1)).map (.exact '/' :: ·)
  | _ => none

/-- Whether a path fits a route. -/
def fits : Route → List Char → Bool
  | [], cs => cs.isEmpty
  | .exact c :: parts, d :: cs => c = d && fits parts cs
  | .exact _ :: _, [] => false
  | .segment :: parts, cs =>
    let name := cs.takeWhile (· ≠ '/')
    !name.isEmpty && fits parts (cs.dropWhile (· ≠ '/'))
  | .rest :: _, cs => !cs.isEmpty

end Route

/-- Where health checks are answered when the relay has a path of its own. -/
def healthPath : String := "/healthz"

/-- Which paths lead to the relay: all of them, or those that fit a route. -/
inductive Mount
  | everywhere
  | along (route : Route) (healthCheck : Bool)
  deriving DecidableEq

/-- What answers a request. -/
inductive Target
  | relay
  | health
  | nothing
  deriving DecidableEq

namespace Mount

/-- The health check gives way if its path is that of the relay. -/
def ofPath? (path : String) : Option Mount :=
  if path = "/" then some everywhere
  else (Route.parse? path).map fun r => along r (path ≠ healthPath)

def target (m : Mount) (path : String) : Target :=
  match m with
  | everywhere => .relay
  | along r healthCheck =>
    if healthCheck ∧ path = healthPath then .health
    else if r.fits path.toList then .relay
    else .nothing

end Mount

end GatedRelay
