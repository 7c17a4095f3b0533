/-!
Static types of expressions: what can be known of a value before evaluation. `dyn` is the type
of everything that depends on the request.
-/

namespace GatedRelay.Expr

inductive Ty
  | bool
  | int
  | uint
  | double
  | string
  | bytes
  | null
  | list
  | map
  | timestamp
  | duration
  | dyn
  deriving DecidableEq

namespace Ty

def name : Ty → String
  | bool => "bool"
  | int => "int"
  | uint => "uint"
  | double => "double"
  | string => "string"
  | bytes => "bytes"
  | null => "null_type"
  | list => "list"
  | map => "map"
  | timestamp => "google.protobuf.Timestamp"
  | duration => "google.protobuf.Duration"
  | dyn => "dyn"

def all : List Ty :=
  [bool, int, uint, double, string, bytes, null, list, map, timestamp, duration, dyn]

def ofName? (name : String) : Option Ty := all.find? fun t => t.name == name

/-- Whether a value of the first type may be passed where the second is declared. -/
def assignableTo (actual expected : Ty) : Bool :=
  actual == expected || actual == dyn || expected == dyn

/-- The type of a choice between two branches. -/
def join (a b : Ty) : Ty := if a = b then a else dyn

def isNumeric : Ty → Bool
  | int | uint | double => true
  | _ => false

end Ty

end GatedRelay.Expr
