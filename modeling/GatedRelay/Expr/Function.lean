import GatedRelay.Expr.TimePart
import GatedRelay.Expr.Type

/-!
The functions of the language, by what the static checker has to know of them. Some are built in
and go by the number of arguments; the others have overloads. A function with a namespace is
called as `namespace.name`, and during evaluation it goes by its bare name.
-/

namespace GatedRelay.Expr

/-- The forms that evaluate their argument, or the body of a loop, by rules of their own. -/
inductive Form
  | has
  | all
  | existsAny
  | existsOne
  | map
  | filter
  deriving DecidableEq

inductive Builtin
  | form (f : Form)
  | contains
  | startsWith
  | endsWith
  | matchesPattern
  | size
  | int
  | uint
  | double
  | string
  | bytes
  | max
  | duration
  | timestamp
  deriving DecidableEq

/-- Numbers of arguments, without an upper bound or with one. -/
structure Arity where
  least : Nat
  most : Option Nat
  deriving DecidableEq

def Arity.exactly (n : Nat) : Arity := ⟨n, some n⟩

def Arity.admits (a : Arity) (n : Nat) : Bool := a.least ≤ n && a.most.all (n ≤ ·)

namespace Builtin

def allBuiltins : List Builtin :=
  [form .has, contains, startsWith, endsWith, matchesPattern, form .all, form .existsAny,
    form .existsOne, form .map, form .filter, size, int, uint, double, string, bytes, max, duration,
    timestamp]

def name : Builtin → String
  | form .has => "has"
  | form .all => "all"
  | form .existsAny => "exists"
  | form .existsOne => "exists_one"
  | form .map => "map"
  | form .filter => "filter"
  | contains => "contains"
  | startsWith => "startsWith"
  | endsWith => "endsWith"
  | matchesPattern => "matches"
  | size => "size"
  | int => "int"
  | uint => "uint"
  | double => "double"
  | string => "string"
  | bytes => "bytes"
  | max => "max"
  | duration => "duration"
  | timestamp => "timestamp"

/-- How many arguments a call without a target takes. -/
def globalArity? : Builtin → Option Arity
  | form .has | size | int | uint | double | string | bytes | duration | timestamp =>
    some (.exactly 1)
  | contains | startsWith | endsWith | matchesPattern => some (.exactly 2)
  | max => some ⟨1, none⟩
  | form _ => none

/-- How many arguments a call on a target takes. -/
def methodArity? : Builtin → Option Arity
  | contains | startsWith | endsWith | matchesPattern => some (.exactly 1)
  | int | uint | double | string => some (.exactly 0)
  | form .has | size | bytes | max | duration | timestamp => none
  | form _ => some (.exactly 2)

def result : Builtin → Ty
  | form .map | form .filter => .list
  | form _ | contains | startsWith | endsWith | matchesPattern => .bool
  | size | int => .int
  | uint => .uint
  | double => .double
  | string => .string
  | bytes => .bytes
  | max => .dyn
  | duration => .duration
  | timestamp => .timestamp

/-- Whether the first argument names a variable for the others. -/
def isComprehension : Builtin → Bool
  | form .has => false
  | form _ => true
  | _ => false

def ofName? (name : String) : Option Builtin := allBuiltins.find? fun b => b.name == name

end Builtin

/-- One way to call a function: on a target of some type, or without one. -/
structure Overload where
  receiver : Option Ty
  params : List Ty
  result : Ty
  deriving DecidableEq

inductive Library
  | ipInRange
  | parseJson
  | parseJwt
  | hmacSha256
  | hmacSha1
  | substring
  | indexOf
  | lowerAscii
  | upperAscii
  | trim
  | replace
  | split
  | charAt
  | lastIndexOf
  | reverse
  | format
  | join
  | quote
  | encodeBase64
  | decodeBase64
  | part (p : TimePart)
  deriving DecidableEq

namespace Library

def allFunctions : List Library :=
  [ipInRange, parseJson, parseJwt, hmacSha256, hmacSha1, substring, indexOf, lowerAscii, upperAscii,
    trim, replace, split, charAt, lastIndexOf, reverse, format, join, quote, encodeBase64,
    decodeBase64] ++ TimePart.all.map part

def spaceOf? : Library → Option String
  | quote => some "strings"
  | encodeBase64 | decodeBase64 => some "base64"
  | _ => none

/-- The name without its namespace. -/
def handler : Library → String
  | ipInRange => "ipInRange"
  | parseJson => "parseJSON"
  | parseJwt => "parseJWT"
  | hmacSha256 => "hmacSHA256"
  | hmacSha1 => "hmacSHA1"
  | substring => "substring"
  | indexOf => "indexOf"
  | lowerAscii => "lowerAscii"
  | upperAscii => "upperAscii"
  | trim => "trim"
  | replace => "replace"
  | split => "split"
  | charAt => "charAt"
  | lastIndexOf => "lastIndexOf"
  | reverse => "reverse"
  | format => "format"
  | join => "join"
  | quote => "quote"
  | encodeBase64 => "encode"
  | decodeBase64 => "decode"
  | part p => p.name

def name (f : Library) : String :=
  match f.spaceOf? with
  | some space => space ++ "." ++ f.handler
  | none => f.handler

def onString (params : List Ty) (result : Ty) : Overload := ⟨some .string, params, result⟩

def global (params : List Ty) (result : Ty) : Overload := ⟨none, params, result⟩

def overloads : Library → List Overload
  | ipInRange => [global [.string, .string] .bool]
  | parseJson => [global [.string] .map]
  | parseJwt => [global [.string, .string] .map]
  | hmacSha256 | hmacSha1 => [global [.string, .string] .string]
  | substring => [onString [.int] .string, onString [.int, .int] .string]
  | indexOf | lastIndexOf => [onString [.string] .int]
  | lowerAscii | upperAscii | trim | reverse => [onString [] .string]
  | replace => [onString [.string, .string] .string]
  | split => [onString [.string] .list]
  | charAt => [onString [.int] .string]
  | format => [onString [.list] .string]
  | join => [⟨some .list, [], .string⟩, ⟨some .list, [.string], .string⟩]
  | quote => [global [.string] .string]
  | encodeBase64 => [global [.bytes] .string]
  | decodeBase64 => [global [.string] .bytes]
  | part p =>
    [⟨some .timestamp, [], .int⟩, ⟨some .timestamp, [.string], .int⟩] ++
      if p.isClockPart then [⟨some .duration, [], .int⟩] else []

def ofName? (name : String) : Option Library := allFunctions.find? fun f => f.name == name

def ofHandler? (name : String) : Option Library := allFunctions.find? fun f => f.handler == name

/-- The namespaces, each of which is also a variable that holds its own name. -/
def spaces : List String := ["strings", "base64"]

end Library

/-- A function during evaluation. -/
inductive Function
  | builtin (b : Builtin)
  | library (f : Library)
  deriving DecidableEq

namespace Function

def handler : Function → String
  | builtin b => b.name
  | library f => f.handler

def ofHandler? (name : String) : Option Function :=
  match Library.ofHandler? name with
  | some f => some (library f)
  | none => (Builtin.ofName? name).map builtin

end Function

end GatedRelay.Expr
