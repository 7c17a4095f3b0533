/-!
Configuration documents. Numbers with a fraction, and dates and times, are kept as written.
-/

namespace GatedRelay

/-- How a table came about. A table that a dotted key or the header of a table inside it brought
about may still be added to; the others may not. -/
inductive TableOrigin
  | header
  | implied
  | dotted
  | inline
  deriving DecidableEq

inductive Toml
  | string (s : String)
  | integer (i : Int)
  | float (text : String)
  | boolean (b : Bool)
  | moment (text : String)
  | array (items : List Toml)
  /-- Tables with headers in double brackets, the first one first. -/
  | tables (items : List (List (String × Toml)))
  | table (origin : TableOrigin) (entries : List (String × Toml))

abbrev TomlTable := List (String × Toml)

namespace TomlTable

def find? (name : String) (t : TomlTable) : Option Toml :=
  (List.find? (fun e => e.1 == name) t).map (·.2)

/-- Puts a value under a name, in the place of an earlier one. -/
def set (name : String) (v : Toml) : TomlTable → TomlTable
  | [] => [(name, v)]
  | (n, w) :: rest => if n = name then (n, v) :: rest else (n, w) :: set name v rest

/-- Adds a value under dotted keys. What a header or an inline table has defined is closed to it. -/
def insert (t : TomlTable) (keys : List String) (v : Toml) : Option TomlTable :=
  match keys with
  | [] => none
  | [name] => if (find? name t).isSome then none else some (t ++ [(name, v)])
  | name :: more =>
    match find? name t with
    | none => (insert [] more v).map fun inner => t ++ [(name, .table .dotted inner)]
    | some (.table .dotted inner) =>
      (insert inner more v).map fun inner => t.set name (.table .dotted inner)
    | some _ => none

/-- Adds values under the keys of a header, which leads through tables and to the last of
several. -/
def within (t : TomlTable) (keys : List String) (f : TomlTable → Option TomlTable) :
    Option TomlTable :=
  match keys with
  | [] => f t
  | name :: more =>
    match find? name t with
    | none => (within [] more f).map fun inner => t ++ [(name, .table .implied inner)]
    | some (.table .inline _) => none
    | some (.table origin inner) =>
      (within inner more f).map fun inner => t.set name (.table origin inner)
    | some (.tables items) =>
      match items.getLast? with
      | none => none
      | some last =>
        (within last more f).map fun inner => t.set name (.tables (items.dropLast ++ [inner]))
    | some _ => none

/-- Opens a table by its header. Only a table that headers of inner tables implied may exist. -/
def openTable (name : String) (t : TomlTable) : Option TomlTable :=
  match find? name t with
  | none => some (t ++ [(name, .table .header [])])
  | some (.table .implied inner) => some (t.set name (.table .header inner))
  | some _ => none

/-- Opens one more of several tables of a name. -/
def openNext (name : String) (t : TomlTable) : Option TomlTable :=
  match find? name t with
  | none => some (t ++ [(name, .tables [[]])])
  | some (.tables items) => some (t.set name (.tables (items ++ [[]])))
  | some _ => none

end TomlTable

end GatedRelay
