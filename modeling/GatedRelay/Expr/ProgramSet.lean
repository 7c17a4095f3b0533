import GatedRelay.Expr.Program
import GatedRelay.Text.Blank

/-!
The programs of a relay: one that authorizes, one that makes messages, and perhaps one that makes
answers. They are put together step by step; a step that fails changes nothing.
-/

namespace GatedRelay.Expr

structure ProgramSet where
  authorization : Program
  extraction : Program
  response : Option Program

namespace ProgramSet

/-- The programs in the order in which they run. -/
def toList (ps : ProgramSet) : List Program :=
  ps.authorization :: ps.extraction :: ps.response.toList

end ProgramSet

/-- Programs on the way to a complete set. -/
structure Draft where
  authorization : Option Program
  extraction : Option Program
  response : Option Program

namespace Draft

def empty : Draft := ⟨none, none, none⟩

def get? (d : Draft) : Role → Option Program
  | .authorization => d.authorization
  | .extraction => d.extraction
  | .response => d.response

/-- Puts a program in the place of its role. -/
def put (d : Draft) (p : Program) : Draft :=
  match p.role with
  | .authorization => { d with authorization := some p }
  | .extraction => { d with extraction := some p }
  | .response => { d with response := some p }

def install (d : Draft) (role : Role) (source : String) : Attempt ProgramError Draft :=
  (Program.compile role source).map d.put

/-- A step of putting programs together, after which the draft stands as before if it fails. -/
def step (d : Draft) (role : Role) (source : String) : Attempt ProgramError Unit × Draft :=
  match d.install role source with
  | .ok d' => (.ok (), d')
  | .error e => (.error e, d)

def build (d : Draft) : Except ProgramError ProgramSet :=
  match d.authorization, d.extraction with
  | none, _ => .error (.missing .authorization)
  | some _, none => .error (.missing .extraction)
  | some a, some e => .ok ⟨a, e, d.response⟩

end Draft

namespace ProgramSet

/-- Compiles all programs of a relay. A blank text stands for no program that makes answers. -/
def compile (authorization extraction : String) (response : Option String) :
    Attempt ProgramError ProgramSet := do
  let d ← Draft.empty.install .authorization authorization
  let d ← d.install .extraction extraction
  let d ← match response.filter fun r => !Text.isBlankString r with
    | some r => d.install .response r
    | none => .ok d
  match d.build with
  | .ok ps => .ok ps
  | .error e => .fail e

end ProgramSet

end GatedRelay.Expr
