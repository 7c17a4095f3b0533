import GatedRelay.Number.Binary64

/-!
JSON values. Whole numbers keep all values of 64 bits, signed or unsigned; other numbers are
finite doubles. The fields of an object are in the order of their names, each name once.
-/

namespace GatedRelay

/-- A whole number that fits 64 bits, either signed or unsigned. -/
structure WideInt where
  val : Int
  lower : -0x8000000000000000 ≤ val
  upper : val < 0x10000000000000000
  deriving DecidableEq

namespace WideInt

def ofInt? (i : Int) : Option WideInt :=
  if h : -0x8000000000000000 ≤ i ∧ i < 0x10000000000000000 then some ⟨i, h.1, h.2⟩ else none

def ofInt64 (i : Int64) : WideInt :=
  ⟨i.toInt, by have := i.le_toInt; omega, by have := i.toInt_lt; omega⟩

def ofUInt64 (u : UInt64) : WideInt := ⟨u.toNat, by omega, by have := u.toNat_lt; omega⟩

def ofByte (b : UInt8) : WideInt := ⟨b.toNat, by omega, by have := b.toNat_lt; omega⟩

end WideInt

inductive Json
  | null
  | bool (b : Bool)
  | int (i : WideInt)
  | double (d : FiniteDouble)
  | string (s : String)
  | array (items : List Json)
  | object (fields : List (String × Json))

abbrev JsonFields := List (String × Json)

namespace JsonFields

/-- Puts a field at its place in the order of names; a field of that name is replaced. -/
def insert (name : String) (value : Json) : JsonFields → JsonFields
  | [] => [(name, value)]
  | (k, v) :: rest =>
    if name < k then (name, value) :: (k, v) :: rest
    else if name = k then (k, value) :: rest
    else (k, v) :: insert name value rest

/-- The fields of an object text in which the last field of a name counts. -/
def ofList (fields : List (String × Json)) : JsonFields :=
  fields.foldl (fun acc f => insert f.1 f.2 acc) []

def get? (name : String) (fields : JsonFields) : Option Json :=
  (fields.find? fun f => f.1 == name).map (·.2)

end JsonFields

def Json.isNull : Json → Bool
  | null => true
  | _ => false

end GatedRelay
