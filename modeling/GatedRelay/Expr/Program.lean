import GatedRelay.Expr.Parser
import GatedRelay.Expr.Typing
import GatedRelay.Expr.Eval
import GatedRelay.Json.Printer

/-!
Programs: expressions that were read, checked and given a part to play. A program that authorizes
has to be a condition by its static type.
-/

namespace GatedRelay.Expr

inductive CompileError
  | syntaxError
  | rejected (problems : List Problem)
  deriving DecidableEq

def CompileError.message : CompileError → String
  | syntaxError => "syntax error: *"
  | rejected problems => "; ".intercalate (problems.map Problem.message)

/-- Reads and checks an expression. -/
def compile (source : String) : Attempt CompileError (Term × Ty) :=
  match read source with
  | .aborted => .abort
  | .syntaxError => .fail .syntaxError
  | .parsed e =>
    match check e with
    | .ok t => .ok (e, t)
    | .error problems => .fail (.rejected problems)

/-- What a program is for: to let a request pass, to make the message, or to make the answer. -/
inductive Role
  | authorization
  | extraction
  | response
  deriving DecidableEq

def Role.name : Role → String
  | authorization => "authorization"
  | extraction => "extraction"
  | response => "response"

def Role.all : List Role := [authorization, extraction, response]

def Role.ofName? (name : String) : Option Role := Role.all.find? fun r => r.name == name

/-- A time stands for worlds in which it is always that time. -/
instance : Coe Int (Role → World) := ⟨fun t _ => t⟩

inductive ProgramError
  | doesNotCompile (role : Role) (source : String) (e : CompileError)
  | notBool (role : Role) (source : String) (type : Ty)
  | missing (role : Role)
  deriving DecidableEq

def ProgramError.message : ProgramError → String
  | doesNotCompile role source e =>
    s!"could not compile {role.name} expression '{source}': {e.message}"
  | notBool role source type =>
    s!"{role.name} expression '{source}' has type {type.name}, wanted type bool"
  | missing role => s!"no {role.name} expression was configured"

structure Program where
  role : Role
  source : String
  body : Term
  type : Ty

namespace Program

def compile (role : Role) (source : String) : Attempt ProgramError Program := do
  let (body, type) ← (Expr.compile source).mapFailure (.doesNotCompile role source)
  if role = .authorization ∧ type ≠ .bool then .fail (.notBool role source type)
  else .ok ⟨role, source, body, type⟩

/-- The value of a program for a request, in the world of its role. -/
def evaluate (p : Program) (worlds : Role → World) (origin request : Value) : Eval Value :=
  eval (Scope.root (worlds p.role) origin request) p.body

/-- A description of a program as the text of a JSON object. -/
def describe (p : Program) : List Char :=
  let field (name : String) (value : String) : List Char :=
    Json.print (.string name) ++ ':' :: Json.print (.string value)
  '{' :: [','].intercalate
    [field "role" p.role.name, field "expression" p.source, field "type" p.type.name] ++ ['}']

end Program

end GatedRelay.Expr
