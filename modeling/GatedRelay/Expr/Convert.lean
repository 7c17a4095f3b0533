import GatedRelay.Expr.Value

/-!
Values and JSON. Every JSON value has a value of evaluation. The way back fails for keys that are
not strings, for doubles that are not finite, and for functions; bytes become lists of numbers,
timestamps and durations their texts.
-/

namespace GatedRelay.Expr

inductive ConversionError
  | notAString (key : Key)
  | notFinite (d : Double)
  | function
  deriving DecidableEq

namespace ConversionError

/-- A key with the name of its kind. -/
def describeKey : Key → String
  | .int i => s!"Int({Numeral.intString i.toInt})"
  | .uint u => s!"Uint({Numeral.decimalString u.toNat})"
  | .bool true => "Bool(true)"
  | .bool false => "Bool(false)"
  | .string s => s

def message : ConversionError → String
  | notAString key => s!"map key {describeKey key} is not a string"
  | notFinite d => s!"{Double.text .display d} has no JSON representation"
  | function => "value * has no JSON representation"

end ConversionError

namespace Value

/-- A signed number where it fits, else an unsigned one. -/
def ofWideInt (i : WideInt) : Value :=
  if i.val < 0x8000000000000000 then int (Int64.ofInt i.val) else uint (UInt64.ofNat i.val.toNat)

mutual

def ofJson : Json → Value
  | .null => null
  | .bool b => bool b
  | .int i => ofWideInt i
  | .double d => double d.val
  | .string s => string s
  | .array items => list none (ofJsonList items)
  | .object fields => map none (ofJsonFields fields)

def ofJsonList : List Json → List Value
  | [] => []
  | j :: rest => ofJson j :: ofJsonList rest

def ofJsonFields : List (String × Json) → List (Key × Value)
  | [] => []
  | (k, j) :: rest => (.string k, ofJson j) :: ofJsonFields rest

end

mutual

def toJson : Value → Except ConversionError Json
  | null => .ok .null
  | bool b => .ok (.bool b)
  | int i => .ok (.int (.ofInt64 i))
  | uint u => .ok (.int (.ofUInt64 u))
  | double d => if h : d.isFinite = true then .ok (.double ⟨d, h⟩) else .error (.notFinite d)
  | string s => .ok (.string s)
  | bytes bs => .ok (.array (bs.map fun b => .int (.ofByte b)))
  | list _ items => (toJsonList items).map .array
  | map _ entries => (toJsonFields entries).map .object
  | timestamp t => .ok (.string (String.ofList t.text))
  | duration d => .ok (.string (String.ofList d.secondsText))
  | function _ _ => .error .function

def toJsonList : List Value → Except ConversionError (List Json)
  | [] => .ok []
  | v :: rest =>
    match toJson v with
    | .error e => .error e
    | .ok j => (toJsonList rest).map (j :: ·)

/-- The fields of a map, each put at its place. -/
def toJsonFields : List (Key × Value) → Except ConversionError JsonFields
  | [] => .ok []
  | (.string k, v) :: rest =>
    match toJson v with
    | .error e => .error e
    | .ok j => (toJsonFields rest).map (JsonFields.insert k j)
  | (k, _) :: _ => .error (.notAString k)

end

end Value

end GatedRelay.Expr
