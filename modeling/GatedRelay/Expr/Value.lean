import GatedRelay.Json.Value
import GatedRelay.Json.Printer
import GatedRelay.Time.Timestamp
import GatedRelay.Expr.Type

/-!
The values of evaluation. A map is a list of entries whose keys differ; their order does not
matter to anything that is compared, printed or converted. Lists and maps may say where they were
made, because one is equal to itself even if it holds a NaN.
-/

namespace GatedRelay.Expr

inductive Key
  | int (i : Int64)
  | uint (u : UInt64)
  | bool (b : Bool)
  | string (s : String)
  deriving DecidableEq

namespace Key

/-- Ints come first, then uints, bools and strings. -/
def rank : Key → Nat
  | int _ => 0
  | uint _ => 1
  | bool _ => 2
  | string _ => 3

def le (a b : Key) : Bool :=
  match a, b with
  | int x, int y => x ≤ y
  | uint x, uint y => x ≤ y
  | bool x, bool y => !x || y
  | string x, string y => !(y < x)
  | a, b => a.rank ≤ b.rank

def text : Key → List Char
  | int i => Numeral.decimalInt i.toInt
  | uint u => Numeral.decimal u.toNat
  | bool true => ['t', 'r', 'u', 'e']
  | bool false => ['f', 'a', 'l', 's', 'e']
  | string s => s.toList

/-- The key of the other whole number type with the same value. -/
def twin? : Key → Option Key
  | int i => if 0 ≤ i then some (uint i.toUInt64) else none
  | uint u => if u.toNat < 0x8000000000000000 then some (int u.toInt64) else none
  | _ => none

end Key

/-- A step of an evaluation: which of the steps of the step that it belongs to, and so on up to the
whole. Or a part of a value from outside. -/
abbrev Place := List Nat

namespace Place

/-- The evaluation of a program. -/
def program : Place := [0]

/-- The value that the variable `origin` has. -/
def origin : Place := [1]

/-- The value that the variable `request` has. -/
def request : Place := [2]

/-- One of the steps that belong to a step. -/
def step (p : Place) (i : Nat) : Place := i :: p

/-- The step after one. -/
def next : Place → Place
  | [] => []
  | i :: p => (i + 1) :: p

/-- Whether two places are known and the same. -/
def same (p q : Option Place) : Bool := p.isSome && p == q

end Place

inductive Value
  | null
  | bool (b : Bool)
  | int (i : Int64)
  | uint (u : UInt64)
  | double (d : Double)
  | string (s : String)
  | bytes (bs : Bytes)
  /-- A list and the place where it was made, if that matters. -/
  | list (place : Option Place) (items : List Value)
  | map (place : Option Place) (entries : List (Key × Value))
  | timestamp (t : Timestamp)
  | duration (d : Duration)
  | function (name : String) (target : Option Value)

abbrev Entries := List (Key × Value)

namespace Entries

/-- Replaces the value of a key, or adds the key at the end. -/
def insert (k : Key) (v : Value) : Entries → Entries
  | [] => [(k, v)]
  | (k', v') :: rest => if k' = k then (k, v) :: rest else (k', v') :: insert k v rest

def find? (k : Key) : Entries → Option Value
  | [] => none
  | (k', v) :: rest => if k' = k then some v else find? k rest

def hasKey (k : Key) (entries : Entries) : Bool := (find? k entries).isSome

/-- Int and uint keys of the same value find each other. -/
def lookup? (k : Key) (entries : Entries) : Option Value :=
  match find? k entries with
  | some v => some v
  | none => k.twin?.bind fun k => find? k entries

/-- Entries in order, of which the last for a key counts. -/
def ofList (entries : List (Key × Value)) : Entries :=
  entries.foldl (fun acc e => insert e.1 e.2 acc) []

def sorted (entries : Entries) : Entries := entries.mergeSort fun a b => a.1.le b.1

end Entries

namespace Value

def ofString (s : List Char) : Value := string (String.ofList s)

def key? : Value → Option Key
  | int i => some (.int i)
  | uint u => some (.uint u)
  | bool b => some (.bool b)
  | string s => some (.string s)
  | _ => none

def ofKey : Key → Value
  | .int i => int i
  | .uint u => uint u
  | .bool b => bool b
  | .string s => string s

/-- The name of a value's kind in messages. -/
def kindName : Value → String
  | null => "null"
  | bool _ => "bool"
  | int _ => "int"
  | uint _ => "uint"
  | double _ => "float"
  | string _ => "string"
  | bytes _ => "bytes"
  | list _ _ => "list"
  | map _ _ => "map"
  | timestamp _ => "timestamp"
  | duration _ => "duration"
  | function _ _ => "function"

/-- The static type of a value's kind; functions have none of their own. -/
def type : Value → Ty
  | null => .null
  | bool _ => .bool
  | int _ => .int
  | uint _ => .uint
  | double _ => .double
  | string _ => .string
  | bytes _ => .bytes
  | list _ _ => .list
  | map _ _ => .map
  | timestamp _ => .timestamp
  | duration _ => .duration
  | function _ _ => .dyn

/-- Whether a value counts as true in a condition. -/
def isTruthy : Value → Bool
  | null => false
  | bool b => b
  | int i => i != 0
  | uint u => u != 0
  | double d => !d.isZero
  | string s => !s.isEmpty
  | bytes bs => !bs.isEmpty
  | list _ items => !items.isEmpty
  | map _ entries => !entries.isEmpty
  | timestamp t => 0 < t.totalNanos && t.totalNanos < 0x8000000000000000
  | duration d => d.nanos != 0 && d.fits64
  | function _ _ => false

/-- A number of any of the three kinds. -/
inductive Number
  | whole (i : Int)
  | double (d : Double)

def number? : Value → Option Number
  | int i => some (.whole i.toInt)
  | uint u => some (.whole u.toNat)
  | double d => some (.double d)
  | _ => none

namespace Number

/-- Whole numbers compare exactly; with a double they become doubles first. -/
def compare? : Number → Number → Option Ordering
  | whole a, whole b => some (compare a b)
  | whole a, double b => Double.compare? (.ofInt a) b
  | double a, whole b => Double.compare? a (.ofInt b)
  | double a, double b => Double.compare? a b

def equals (a b : Number) : Bool := compare? a b == some .eq

end Number

mutual

/-- Equality of values: numbers by value, lists item by item, maps key by key. A NaN differs from
itself, but a list or map is equal to itself whatever it holds, and what was made at one place is one
and the same. -/
def equals : Value → Value → Bool
  | null, null => true
  | bool a, bool b => a == b
  | string a, string b => a == b
  | bytes a, bytes b => a == b
  | list p a, list q b => Place.same p q || equalsList a b
  | map p a, map q b => Place.same p q || (a.length == b.length && equalsEntries a b)
  | timestamp a, timestamp b => Timestamp.compare a b == .eq
  | duration a, duration b => a.nanos == b.nanos
  | function a s, function b t => a == b && equalsOption s t
  | a, b =>
    match number? a, number? b with
    | some m, some n => m.equals n
    | _, _ => false

def equalsList : List Value → List Value → Bool
  | [], [] => true
  | a :: as, b :: bs => equals a b && equalsList as bs
  | _, _ => false

/-- Whether each entry has an equal one among the others. -/
def equalsEntries : List (Key × Value) → List (Key × Value) → Bool
  | [], _ => true
  | (k, v) :: rest, others =>
    (match Entries.find? k others with
      | some w => equals v w
      | none => false) && equalsEntries rest others

def equalsOption : Option Value → Option Value → Bool
  | none, none => true
  | some a, some b => equals a b
  | _, _ => false

end

def compareBool : Bool → Bool → Ordering
  | false, true => .lt
  | true, false => .gt
  | _, _ => .eq

/-- The order of two values, where they have one. -/
def compare? (a b : Value) : Option Ordering :=
  match a, b with
  | null, null => some .eq
  | bool x, bool y => some (compareBool x y)
  | string x, string y => some (compare x y)
  | timestamp x, timestamp y => some (Timestamp.compare x y)
  | duration x, duration y => some (compare x.nanos y.nanos)
  | a, b =>
    match number? a, number? b with
    | some m, some n => m.compare? n
    | _, _ => none

mutual

/-- A value in which each list and map has a place of its own below one. -/
def placed (p : Place) : Value → Value
  | list _ items => list (some p) (placedList (p.step 0) items)
  | map _ entries => map (some p) (placedEntries (p.step 0) entries)
  | function name target => function name (placedOption (p.step 0) target)
  | v => v

def placedList (p : Place) : List Value → List Value
  | [] => []
  | v :: rest => placed p v :: placedList p.next rest

def placedEntries (p : Place) : List (Key × Value) → List (Key × Value)
  | [] => []
  | (k, v) :: rest => (k, placed p v) :: placedEntries p.next rest

def placedOption (p : Place) : Option Value → Option Value
  | none => none
  | some v => some (placed p v)

end

mutual

/-- The text of a value in formatted output. -/
def display : Value → List Char
  | null => ['n', 'u', 'l', 'l']
  | bool true => ['t', 'r', 'u', 'e']
  | bool false => ['f', 'a', 'l', 's', 'e']
  | int i => Numeral.decimalInt i.toInt
  | uint u => Numeral.decimal u.toNat
  | double d => Double.render .display d
  | string s => s.toList
  | bytes bs => (Utf8.decodeLossy bs).toList
  | timestamp t => t.text
  | duration d => d.secondsText
  | function name _ => name.toList
  | list _ items => '[' :: [',', ' '].intercalate (displayList items) ++ [']']
  | map _ entries =>
    '{' :: [',', ' '].intercalate
      (((displayEntries entries).mergeSort fun a b => a.1.le b.1).map (·.2)) ++ ['}']

def displayList : List Value → List (List Char)
  | [] => []
  | v :: rest => display v :: displayList rest

/-- The text of each entry, with its key. -/
def displayEntries : List (Key × Value) → List (Key × List Char)
  | [] => []
  | (k, v) :: rest => (k, k.text ++ [':', ' '] ++ display v) :: displayEntries rest

end

end Value

end GatedRelay.Expr
