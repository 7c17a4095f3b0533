import GatedRelay.Pattern.Bracket

/-!
Reading patterns from the left. What is not a pattern, nests too deep or repeats too much gives no
result.
-/

namespace GatedRelay.Pattern

/-- A part of a pattern as it was read. -/
structure Reading where
  regex : Regex
  /-- How deep brackets, groups, repetitions, sequences and choices nest. -/
  height : Nat
  /-- Whether it can be repeated: the setting of a flag cannot. -/
  repeatable : Bool

namespace Reading

def leaf (r : Regex) : Reading := ⟨r, 0, true⟩

def flagSetting : Reading := ⟨.empty, 0, false⟩

def deepest (parts : List Reading) : Nat := (parts.map (·.height)).foldl max 0

/-- Parts one after the other, of which the last one is given first. -/
def sequence : List Reading → Reading
  | [] => leaf .empty
  | [r] => r
  | last :: before =>
    ⟨before.foldl (fun r part => .concat part.regex r) last.regex, deepest (last :: before) + 1,
      true⟩

/-- Alternatives, of which the last one is given first. -/
def choice : List Reading → Reading
  | [] => leaf .empty
  | [r] => r
  | last :: before =>
    ⟨before.foldl (fun r part => .alternate part.regex r) last.regex, deepest (last :: before) + 1,
      true⟩

def group (r : Reading) : Reading := ⟨r.regex, r.height + 1, true⟩

def repeated (r : Reading) (least : Nat) (extra : Option Nat) : Reading :=
  ⟨.repetition r.regex least extra, r.height + 1, true⟩

end Reading

/-- A group that is still open, or the whole pattern. -/
structure Group where
  /-- The flags outside of it. -/
  flags : Flags
  /-- The alternatives before the current one, the last one first. -/
  branches : List Reading
  /-- The parts of the current alternative, the last one first. -/
  parts : List Reading

namespace Group

def opened (flags : Flags) : Group := ⟨flags, [], []⟩

def add (g : Group) (r : Reading) : Group := { g with parts := r :: g.parts }

def nextBranch (g : Group) : Group := ⟨g.flags, Reading.sequence g.parts :: g.branches, []⟩

def reading (g : Group) : Reading := Reading.choice (Reading.sequence g.parts :: g.branches)

/-- Repeats the last part. -/
def repeatLast? (g : Group) (least : Nat) (extra : Option Nat) : Option Group :=
  match g.parts with
  | last :: before =>
    if last.repeatable then some { g with parts := last.repeated least extra :: before } else none
  | [] => none

end Group

/-- What is known of a pattern in the midst of it. -/
structure State where
  flags : Flags
  names : List (List Char)
  group : Group
  outer : List Group

namespace State

def initial : State := ⟨.initial, [], .opened .initial, []⟩

def add (s : State) (r : Reading) : State := { s with group := s.group.add r }

def enter (s : State) (flags : Flags) (names : List (List Char)) : State :=
  ⟨flags, names, .opened s.flags, s.group :: s.outer⟩

def leave? (s : State) : Option State :=
  match s.outer with
  | [] => none
  | g :: outer => some ⟨s.group.flags, s.names, g.add s.group.reading.group, outer⟩

end State

/-- The digits of a number. -/
def boundDigits (f : Flags) : Nat → List Char → List Char × List Char
  | 0, cs => ([], cs)
  | fuel + 1, cs =>
    match cs with
    | c :: rest =>
      if Numeral.isDigit c then
        let (digits, rest) := boundDigits f fuel (f.skip rest)
        (c :: digits, rest)
      else ([], cs)
    | [] => ([], [])

/-- A number of repetitions of 32 bits with blanks around it. -/
def readBound? (f : Flags) (cs : List Char) : Option (Nat × List Char) :=
  let body := cs.dropWhile Text.isBlank
  let (digits, rest) := boundDigits f body.length body
  match Numeral.read? 10 digits with
  | some n => if n < 0x100000000 then some (n, f.skip (rest.dropWhile Text.isBlank)) else none
  | none => none

/-- The bounds of a repetition from after the opening brace: how often at least, and how often more
at most. -/
def countedBounds? (f : Flags) (cs : List Char) : Option ((Nat × Option Nat) × List Char) :=
  match readBound? f (f.skip cs) with
  | some (n, '\x7d' :: rest) => some ((n, some 0), rest)
  | some (n, ',' :: rest) =>
    match f.skip rest with
    | '\x7d' :: rest => some ((n, none), rest)
    | rest =>
      match readBound? f rest with
      | some (m, '\x7d' :: rest) => if n ≤ m then some ((n, some (m - n)), rest) else none
      | _ => none
  | _ => none

/-- A question mark after a repetition changes only which match is preferred. -/
def skipLazy : List Char → List Char
  | '?' :: rest => rest
  | cs => cs

/-- The name of a group up to its closing bracket. -/
def groupName? (cs : List Char) : Option (List Char × List Char) :=
  match cs.span (· != '>') with
  | (c :: more, _ :: rest) =>
    let continues (c : Char) : Bool := ['_', '.', '[', ']'].contains c || Text.isAlphanumeric c
    if (c == '_' || Text.isAlphabetic c) && more.all continues then some (c :: more, rest) else none
  | _ => none

/-- Opens a group or sets flags, from after the opening bracket. -/
def openGroup? (s : State) (cs : List Char) : Option (State × List Char) :=
  let named (cs : List Char) : Option (State × List Char) :=
    match groupName? cs with
    | some (name, rest) =>
      if s.names.contains name then none else some (s.enter s.flags (name :: s.names), rest)
    | none => none
  match s.flags.skip cs with
  | '?' :: 'P' :: '<' :: rest => named rest
  | '?' :: '<' :: rest => named rest
  | '?' :: rest =>
    match rest.span fun c => c != ':' && c != ')' with
    | (letters, sign :: rest) =>
      match s.flags.update? letters with
      | some flags =>
        if sign = ':' then some (s.enter flags s.names, rest)
        else if letters.isEmpty then none
        else some ({ s with flags := flags }.add .flagSetting, rest)
      | none => none
    | _ => none
  | rest => some (s.enter s.flags s.names, rest)

/-- The characters that a dot stands for. Without Unicode there are none. -/
def dotSet? (f : Flags) : Option CharSet :=
  if !f.unicode then none
  else if f.dotAll then some .all
  else if f.crlf then some (.complement (.union (.single '\n') (.single '\r')))
  else some (.complement (.single '\n'))

/-- A part that is no group and no repetition. -/
def part? (f : Flags) (cs : List Char) : Option (Reading × List Char) :=
  match cs with
  | [] => none
  | c :: rest =>
    match c with
    | '\\' =>
      match Escape.read? f rest with
      | some (.char c, rest) => some (.leaf (.one (f.fold (.single c))), rest)
      | some (.set s, rest) => some (.leaf (.one s), rest)
      | some (.check a, rest) => some (.leaf (.check a), rest)
      | none => none
    | '[' => (bracketed? f rest).map fun p => (⟨.one p.1.set, p.1.height, true⟩, p.2)
    | '.' => (dotSet? f).map fun s => (.leaf (.one s), rest)
    | '^' => some (.leaf (.check (if f.multiLine then .lineStart f.crlf else .textStart)), rest)
    | '$' => some (.leaf (.check (if f.multiLine then .lineEnd f.crlf else .textEnd)), rest)
    | _ => some (.leaf (.one (f.fold (.single c))), rest)

/-- Reads one part, sign or bracket. -/
def step? (s : State) (cs : List Char) : Option (State × List Char) :=
  let repeated (least : Nat) (extra : Option Nat) (rest : List Char) : Option (State × List Char) :=
    (s.group.repeatLast? least extra).map fun g => ({ s with group := g }, skipLazy rest)
  match cs with
  | '(' :: rest => openGroup? s rest
  | ')' :: rest => s.leave?.map (·, rest)
  | '|' :: rest => some ({ s with group := s.group.nextBranch }, rest)
  | '*' :: rest => repeated 0 none rest
  | '+' :: rest => repeated 1 none rest
  | '?' :: rest => repeated 0 (some 1) rest
  | '\x7b' :: rest =>
    match countedBounds? s.flags rest with
    | some ((least, extra), rest) => repeated least extra (s.flags.skip rest)
    | none => none
  | _ => (part? s.flags cs).map fun p => (s.add p.1, p.2)

/-- Reads to the end. -/
def readAll? : Nat → State → List Char → Option Reading
  | 0, _, _ => none
  | fuel + 1, s, cs =>
    match s.flags.skip cs with
    | [] => if s.outer.isEmpty then some s.group.reading else none
    | cs =>
      match step? s cs with
      | some (s, rest) => readAll? fuel s rest
      | none => none

/-- The deepest nesting that is allowed. -/
def heightLimit : Nat := 250

/-- About how many bytes a machine for a pattern may take. -/
def sizeLimit : Nat := 10 * 0x100000

/-- The pattern that a text denotes. -/
def parse? (cs : List Char) : Option Regex :=
  match readAll? (cs.length + 1) .initial cs with
  | some r => if r.height ≤ heightLimit ∧ r.regex.size + 300 ≤ sizeLimit then some r.regex else none
  | none => none

end GatedRelay.Pattern
