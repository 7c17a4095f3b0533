import GatedRelay.Fault
import GatedRelay.Expr.Format
import GatedRelay.Expr.Ast
import GatedRelay.Jwt

/-!
Why an evaluation gives no value. Either it fails with an error, which the expression can in part
react to, or it is aborted.
-/

namespace GatedRelay.Expr

/-- The kinds of values that functions ask for. -/
inductive ParamKind
  | any
  | string
  | bytes
  | int
  | list
  /-- What a comprehension runs over. -/
  | collection
  deriving DecidableEq

def ParamKind.accepts : ParamKind → Value → Bool
  | any, _ => true
  | string, .string _ => true
  | bytes, .bytes _ => true
  | int, .int _ => true
  | list, .list _ _ => true
  | collection, .list _ _ => true
  | collection, .map _ _ => true
  | _, _ => false

/-- Why a function refuses its arguments. -/
inductive Refusal
  | sizeUndefined
  | noConversion (target : String)
  | unreadableNumber
  | overflow
  | unsignedOverflow
  | unreadableTime
  | badPattern (pattern : String)
  | badAddress (text : String)
  | badRange (text : String)
  | notAnObject
  | badJson
  | badToken (e : Jwt.Error)
  | indexKind
  | indexOutOfRange (index : String)
  | noStart
  | reversedRange (start finish : Nat)
  | separatorKind (kind : String)
  | itemKind (kind : String)
  | badBase64
  | badFormat (e : Format.Error)
  | badZone (zone : String)
  | notForDurations
  | notFor (kind : String)
  deriving DecidableEq

def Refusal.message : Refusal → String
  | sizeUndefined => "cannot determine the size of *"
  | noConversion target => s!"cannot convert * to {target}"
  | unreadableNumber => "string parse error: *"
  | overflow => "integer overflow"
  | unsignedOverflow => "unsigned integer overflow"
  | unreadableTime => "*"
  | badPattern pattern => s!"'{pattern}' not a valid regex*"
  | badAddress text => s!"'{text}' is not a valid IP address: *"
  | badRange text => s!"'{text}' is not a valid CIDR range: *"
  | notAnObject => "parseJSON expects a JSON object"
  | badJson => "invalid JSON: *"
  | badToken e => s!"invalid token: {e.message}"
  | indexKind => "substring indices must be integers"
  | indexOutOfRange index => s!"index out of range: {index}"
  | noStart => "substring expects a start index"
  | reversedRange start finish =>
    let (start, finish) := (Numeral.decimalString start, Numeral.decimalString finish)
    s!"invalid substring range: start {start} is after end {finish}"
  | separatorKind kind => s!"separator must be a string, found {kind}"
  | itemKind kind => s!"join expects a list of strings, found {kind}"
  | badBase64 => "invalid base64: *"
  | badFormat e => e.message
  | badZone zone => s!"unsupported time zone '{zone}', expected UTC or an offset such as +05:30"
  | notForDurations => "not defined for durations"
  | notFor kind => s!"not defined for {kind}"

inductive EvalError
  | noSuchKey (name : String)
  | undeclaredReference (name : String)
  | refused (function : String) (r : Refusal)
  | unexpectedKind (want : ParamKind)
  | missingArgument
  | fieldsUnsupported
  | notComparable (l r : Value)
  | badIndex (target i : Value)
  | badBinary (op : Arithmetic) (l r : Value)
  | badUnary (op : UnaryOp) (v : Value)
  | badKey (v : Value)
  | badMapIndex (v : Value)
  | badListIndex (v : Value)

/-- The text of an error in messages; only some errors show what they are about. -/
def EvalError.message : EvalError → String
  | noSuchKey name => s!"No such key: {name}"
  | undeclaredReference name => s!"Undeclared reference to '{name}'"
  | refused function r => s!"Error executing function '{function}': {r.message}"
  | missingArgument => "Missing argument or target"
  | _ => "*"

abbrev Eval (α : Type) := Attempt EvalError α

end GatedRelay.Expr
