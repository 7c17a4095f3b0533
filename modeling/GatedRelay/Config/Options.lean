import GatedRelay.Toml.Parser
import GatedRelay.Text.Utf8

/-!
Options as they are given on the command line or in a configuration file, each of which may be
left out. A file may hold nothing else, and its values have to be of the right kinds.
-/

namespace GatedRelay

/-- The options that are texts. -/
inductive Field
  | project
  | topic
  | handlerPath
  | control
  | message
  | response
  deriving DecidableEq

structure Options where
  project : Option String
  topic : Option String
  handlerPath : Option String
  control : Option String
  message : Option String
  response : Option String
  maxBodyBytes : Option Nat
  deriving DecidableEq

namespace Options

def empty : Options := ⟨none, none, none, none, none, none, none⟩

def get? (o : Options) : Field → Option String
  | .project => o.project
  | .topic => o.topic
  | .handlerPath => o.handlerPath
  | .control => o.control
  | .message => o.message
  | .response => o.response

def set (o : Options) (f : Field) (v : String) : Options :=
  match f with
  | .project => { o with project := some v }
  | .topic => { o with topic := some v }
  | .handlerPath => { o with handlerPath := some v }
  | .control => { o with control := some v }
  | .message => { o with message := some v }
  | .response => { o with response := some v }

/-- The options at the top of a file, by name. -/
def topField? : String → Option Field
  | "project" => some .project
  | "topic" => some .topic
  | "handler_path" => some .handlerPath
  | _ => none

/-- The options of the table of expressions, by name. -/
def expressionField? : String → Option Field
  | "control" => some .control
  | "message" => some .message
  | "response" => some .response
  | _ => none

def setText (field? : String → Option Field) (o : Options) (entry : String × Toml) :
    Option Options :=
  match field? entry.1, entry.2 with
  | some f, .string s => some (o.set f s)
  | _, _ => none

/-- Expressions stand in a table, or in a list in the order control, message, response. -/
def setExpressions (o : Options) : Toml → Option Options
  | .table _ entries => entries.foldlM (setText expressionField?) o
  | .array (.string c :: .string m :: .string r :: _) =>
    some (((o.set .control c).set .message m).set .response r)
  | _ => none

def setEntry (o : Options) (entry : String × Toml) : Option Options :=
  if entry.1 = "expressions" then o.setExpressions entry.2
  else if entry.1 = "max_body_bytes" then
    match entry.2 with
    | .integer i =>
      if 0 ≤ i ∧ i < 0x10000000000000000 then some { o with maxBodyBytes := some i.toNat }
      else none
    | _ => none
  else setText topField? o entry

/-- The options in the text of a configuration file. -/
def ofText? (s : String) : Option Options := (Toml.parse? s).bind (List.foldlM setEntry empty)

end Options

end GatedRelay
