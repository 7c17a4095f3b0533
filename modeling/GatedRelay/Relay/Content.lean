import GatedRelay.Json.Parser
import GatedRelay.Relay.Rejection

/-!
What becomes of the values of programs: messages to publish, and bodies of answers. Maps and lists
become JSON in both; a text is read as JSON for a message, and stands for itself in an answer.
-/

namespace GatedRelay

open GatedRelay.Expr (Value)

/-- The name of a value's kind where kinds without a JSON counterpart are not told apart. -/
def outputKind : Value → String
  | .null => "null"
  | .bool _ => "bool"
  | .int _ => "int"
  | .uint _ => "uint"
  | .double _ => "double"
  | .string _ => "string"
  | .bytes _ => "bytes"
  | .map _ _ => "map"
  | .list _ _ => "list"
  | .timestamp _ | .duration _ | .function _ _ => "opaque"

/-- The message that a value stands for; `null` is none. -/
def messageOf (v : Value) : Except Rejection Json :=
  match v with
  | .string s =>
    match Json.parseString? s with
    | some .null => .error (.client .extraction .nullMessage)
    | some j => .ok j
    | none => .error (.client .extraction .badMessageText)
  | .map _ _ | .list _ _ =>
    match v.toJson with
    | .ok j => .ok j
    | .error e => .error (.service .extraction (.badMessage e))
  | v => .error (.client .extraction (.notAMessage (outputKind v)))

inductive AnswerBody
  | empty
  | text (s : String)
  | json (bs : Bytes)
  deriving DecidableEq

/-- The body that a value stands for; values without one give an empty body. -/
def answerOf (v : Value) : Except Rejection AnswerBody :=
  match v with
  | .null => .error (.service .response .nullResponse)
  | .string s => .ok (.text s)
  | .map _ _ | .list _ _ =>
    match v.toJson with
    | .ok j => .ok (.json j.bytes)
    | .error e => .error (.service .response (.badResponse e))
  | _ => .ok .empty

end GatedRelay
