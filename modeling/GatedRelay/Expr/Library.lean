import GatedRelay.Expr.Operators
import GatedRelay.Expr.Convert
import GatedRelay.Expr.Function
import GatedRelay.Net.IpRange
import GatedRelay.Pattern.Parser
import GatedRelay.Text.Quoted

/-!
What the functions do. A function says which kinds of arguments it takes; it is applied to values
of those kinds, its subject first if it has one: the target of the call, or else the first
argument.
-/

namespace GatedRelay.Expr

open Attempt

/-- The times that the test of a token reads from the clock: one for its issue, and then one for its
beginning and its end. -/
structure Moment where
  issue : Int
  validity : Int

/-- A time stands for the moment in which the clock shows it at both looks. -/
instance : Coe Int Moment := ⟨fun t => ⟨t, t⟩⟩

/-- The arguments that a function takes: a subject, then some of given kinds, or all there are. -/
structure Signature where
  subject : Option ParamKind
  params : List ParamKind
  takesRest : Bool

namespace Signature

def plain (params : List ParamKind) : Signature := ⟨none, params, false⟩

def on (subject : ParamKind) (params : List ParamKind) : Signature := ⟨some subject, params, false⟩

end Signature

def Builtin.signature : Builtin → Signature
  | contains => .on .any [.any]
  | startsWith | endsWith | matchesPattern => .on .string [.string]
  | size => .plain [.any]
  | int | uint | double | string => .on .any []
  | bytes | duration | timestamp => .plain [.string]
  | max => ⟨none, [], true⟩
  | form _ => .plain []

def Library.signature : Library → Signature
  | ipInRange | parseJwt | hmacSha256 | hmacSha1 => .plain [.string, .string]
  | parseJson | quote | decodeBase64 => .plain [.string]
  | encodeBase64 => .plain [.bytes]
  | substring => ⟨some .string, [], true⟩
  | indexOf | lastIndexOf | split => .on .string [.string]
  | lowerAscii | upperAscii | trim | reverse => .on .string []
  | replace => .on .string [.string, .string]
  | charAt => .on .string [.int]
  | format => .on .string [.list]
  | join => ⟨some .list, [], true⟩
  | part _ => ⟨some .any, [], true⟩

def Function.signature : Function → Signature
  | builtin b => b.signature
  | library f => f.signature

/-- The outcome of a function: a value, a reason not to give one, or the end of everything. -/
inductive Outcome
  | value (v : Value)
  | refused (r : Refusal)
  | failed (e : EvalError)
  | aborted

namespace Outcome

def ofOption (r : Refusal) : Option Value → Outcome
  | some v => value v
  | none => refused r

def ofRefusal : Except Refusal Value → Outcome
  | .ok v => value v
  | .error r => refused r

def toEval (function : String) : Outcome → Eval Value
  | value v => .ok v
  | refused r => fail (.refused function r)
  | failed e => fail e
  | aborted => abort

end Outcome

namespace Convert

def int64? (i : Int) : Option Value :=
  if -0x8000000000000000 ≤ i ∧ i < 0x8000000000000000 then some (.int (Int64.ofInt i)) else none

def uint64? (i : Int) : Option Value :=
  if 0 ≤ i ∧ i < 0x10000000000000000 then some (.uint (UInt64.ofNat i.toNat)) else none

/-- Saturates at the bounds; a NaN gives zero. -/
def clampInt (lo hi : Int) (d : Double) : Int :=
  if d.isNaN then 0
  else if !d.isFinite then if d.isNegative then lo else hi
  else max lo (min hi d.truncate)

/-- Whether a double lies beyond another one, in the order of doubles. -/
def above (a b : Double) : Bool := Double.compare? a b == some .gt

def toInt (v : Value) : Outcome :=
  match v with
  | .string s => .ofOption .unreadableNumber ((Numeral.readSigned? s.toList).bind int64?)
  | .double d =>
    if above d (.ofInt 0x8000000000000000) || above (.ofInt (-0x8000000000000000)) d then
      .refused .overflow
    else .ofOption .overflow (int64? (clampInt (-0x8000000000000000) 0x7fffffffffffffff d))
  | .int i => .value (.int i)
  | .uint u => .ofOption .overflow (int64? u.toNat)
  | _ => .refused (.noConversion "int")

def toUInt (v : Value) : Outcome :=
  match v with
  | .string s =>
    .ofOption .unreadableNumber ((Numeral.readUnsigned? 10 s.toList).bind fun n => uint64? n)
  | .double d =>
    if above d (.ofInt 0x10000000000000000) || above (.zero false) d then .refused .unsignedOverflow
    else .ofOption .unsignedOverflow (uint64? (clampInt 0 0xffffffffffffffff d))
  | .int i => .ofOption .unsignedOverflow (uint64? i.toInt)
  | .uint u => .value (.uint u)
  | _ => .refused (.noConversion "uint")

/-- A sign in front of a text, and the text without it. -/
def signOf : List Char → Bool × List Char
  | '-' :: r => (true, r)
  | '+' :: r => (false, r)
  | r => (false, r)

/-- The exponent at the end of a number, or none if there is something else. -/
def exponentOf? (cs : List Char) : Option Int :=
  match cs with
  | [] => some 0
  | e :: rest => if e = 'e' ∨ e = 'E' then Numeral.readSigned? rest else none

/-- A decimal with digits before or after its point, or a word for a value that is not finite. -/
def readDouble? (cs : List Char) : Option Double :=
  let (negative, body) := signOf cs
  let word := String.ofList (body.map Char.toLower)
  if word = "inf" ∨ word = "infinity" then some (.infinity negative)
  else if word = "nan" then some .nan
  else
    let whole := body.takeWhile Numeral.isDigit
    let (fraction, rest) : List Char × List Char := match body.dropWhile Numeral.isDigit with
      | '.' :: r => (r.takeWhile Numeral.isDigit, r.dropWhile Numeral.isDigit)
      | r => ([], r)
    match Numeral.read? 10 (whole ++ fraction), exponentOf? rest with
    | some n, some e => some (.ofDecimal negative n (e - (fraction.length : Int)))
    | _, _ => none

def toDouble (v : Value) : Outcome :=
  match v with
  | .string s => .ofOption .unreadableNumber ((readDouble? s.toList).map .double)
  | v => .ofOption (.noConversion "double") (v.asDouble?.map .double)

def toText (v : Value) : Outcome :=
  match v with
  | .string s => .value (.string s)
  | .timestamp t => .value (.ofString t.text)
  | .duration d => .value (.ofString d.unitText)
  | .int i => .value (.ofString (Numeral.decimalInt i.toInt))
  | .uint u => .value (.ofString (Numeral.decimal u.toNat))
  | .double d => .value (.ofString (Double.render .display d))
  | .bytes bs => .value (.string (Utf8.decodeLossy bs))
  | _ => .refused (.noConversion "string")

end Convert

namespace Builtin

def bytesOccur (needle : Bytes) : Bytes → Bool
  | [] => needle.isEmpty
  | b :: rest => needle.isPrefixOf (b :: rest) || bytesOccur needle rest

/-- Whether a value occurs in a list or a text, or is a key of a map. Looking for no bytes among
bytes ends everything. -/
def occurs (this arg : Value) : Outcome :=
  match this, arg with
  | .list _ items, arg => .value (.bool (items.any fun item => item.equals arg))
  | .map _ entries, arg =>
    match arg.key? with
    | some k => .value (.bool (Entries.hasKey k entries))
    | none => .failed (.badKey arg)
  | .string s, .string t => .value (.bool (Text.occursIn t.toList s.toList))
  | .bytes bs, .bytes needle =>
    if needle.isEmpty then .aborted else .value (.bool (bytesOccur needle bs))
  | _, _ => .value (.bool false)

def sizeOf (v : Value) : Outcome :=
  let count (n : Nat) : Outcome := .value (.int (Int64.ofNat n))
  match v with
  | .list _ items => count items.length
  | .map _ entries => count entries.length
  | .string s => count (Utf8.ofString s).length
  | .bytes bs => count bs.length
  | _ => .refused .sizeUndefined

def maximumFrom (acc : Value) : List Value → Outcome
  | [] => .value acc
  | x :: rest =>
    match Value.compare? acc x with
    | some .gt => maximumFrom acc rest
    | some _ => maximumFrom x rest
    | none => .failed (.notComparable acc x)

/-- The largest of several values, of equal ones the last; a single list stands for its items. -/
def maximum (args : List Value) : Outcome :=
  match args with
  | [.list _ []] => .value .null
  | [.list _ (x :: rest)] => maximumFrom x rest
  | [v] => .value v
  | [] => .value .null
  | x :: rest => maximumFrom x rest

def searchPattern (text pattern : String) : Outcome :=
  match Pattern.parse? pattern.toList with
  | some r => .value (.bool (r.matchesIn text.toList))
  | none => .refused (.badPattern pattern)

/-- A built-in function on values of the kinds of its signature. -/
def apply (b : Builtin) (args : List Value) : Outcome :=
  match b, args with
  | contains, [this, arg] => occurs this arg
  | startsWith, [.string s, .string t] => .value (.bool (t.toList.isPrefixOf s.toList))
  | endsWith, [.string s, .string t] => .value (.bool (t.toList.isSuffixOf s.toList))
  | matchesPattern, [.string s, .string t] => searchPattern s t
  | size, [v] => sizeOf v
  | int, [v] => Convert.toInt v
  | uint, [v] => Convert.toUInt v
  | double, [v] => Convert.toDouble v
  | string, [v] => Convert.toText v
  | bytes, [.string s] => .value (.bytes (Utf8.ofString s))
  | max, args => maximum args
  | duration, [.string s] => .ofOption .unreadableTime ((Duration.parse? s.toList).map .duration)
  | timestamp, [.string s] => .ofOption .unreadableTime ((Timestamp.parse? s.toList).map .timestamp)
  | _, _ => .failed .missingArgument

end Builtin

namespace Library

def rangeTest (addr range : String) : Outcome :=
  match IpAddress.parse? addr.toList with
  | none => .refused (.badAddress addr)
  | some a =>
    match IpRange.parse? range.toList with
    | none => .refused (.badRange range)
    | some r => .value (.bool (r.canonical.contains a.canonical))

def jsonObject (text : String) : Outcome :=
  match Json.parseString? text with
  | some (.object fields) => .value (.ofJson (.object fields))
  | some _ => .refused .notAnObject
  | none => .refused .badJson

def tokenClaims (now : Moment) (key token : String) : Outcome :=
  match Jwt.verify (Utf8.ofString key) token.toList now.issue now.validity with
  | .ok claims => .value (.ofJson (.object claims))
  | .error e => .refused (.badToken e)

def keyedDigest (h : Digest.Hash) (key message : String) : Outcome :=
  .value (.ofString (Hex.encode (Digest.hmac h (Utf8.ofString key) (Utf8.ofString message))))

/-- An index as a number of characters, at most the length. -/
def charIndex (length : Nat) (v : Value) : Except Refusal Nat :=
  let within (i : Int) (text : String) : Except Refusal Nat :=
    if 0 ≤ i ∧ i ≤ (length : Int) then .ok i.toNat else .error (.indexOutOfRange text)
  match v with
  | .int i => within i.toInt s!"Int({Numeral.intString i.toInt})"
  | .uint u => within u.toNat s!"UInt({Numeral.decimalString u.toNat})"
  | _ => .error .indexKind

/-- The characters from a start index up to an end index, or to the end. -/
def slice (s : String) (args : List Value) : Except Refusal Value := do
  let cs := s.toList
  let start ← match args with
    | v :: _ => charIndex cs.length v
    | [] => .error .noStart
  let finish ← match args with
    | _ :: v :: _ => charIndex cs.length v
    | _ => .ok cs.length
  if finish < start then .error (.reversedRange start finish)
  else .ok (.ofString ((cs.take finish).drop start))

/-- A position in a text, or -1. One beyond the ints is given as the largest of them. -/
def position (i : Option Nat) : Outcome :=
  .value (.int (i.elim (-1) fun i => Int64.ofNat (min i 0x7fffffffffffffff)))

/-- The position of a text in another one: its bytes are searched for, and the offset at which they
are found comes to a number of characters. -/
def searchBytes (find? : Bytes → Bytes → Option Nat) (s t : String) : Outcome :=
  position ((find? (Utf8.ofString t) (Utf8.ofString s)).map (Text.charPosition s.toList))

/-- The character at an index; none at the end. -/
def characterAt (s : String) (i : Int64) : Outcome :=
  let cs := s.toList
  if 0 ≤ i.toInt ∧ i.toInt ≤ (cs.length : Int) then
    .value (.ofString ((cs.drop i.toInt.toNat).take 1))
  else .refused (.indexOutOfRange (Numeral.intString i.toInt))

/-- The texts of a list that holds nothing else. -/
def texts : List Value → Except Refusal (List (List Char))
  | [] => .ok []
  | .string s :: rest => (texts rest).map (s.toList :: ·)
  | v :: _ => .error (.itemKind v.kindName)

def joinList (items args : List Value) : Except Refusal Value := do
  let separator ← match args with
    | [] => .ok []
    | .string s :: _ => .ok s.toList
    | v :: _ => .error (.separatorKind v.kindName)
  let parts ← texts items
  .ok (.ofString (Text.join separator parts))

def formatted (template : String) (args : List Value) : Outcome :=
  match Format.format template.toList args with
  | .ok cs => .value (.ofString cs)
  | .error .precisionOverflow => .aborted
  | .error e => .refused (.badFormat e)

def timePart (p : TimePart) (this : Value) (args : List Value) : Outcome :=
  match this, args with
  | .timestamp t, [] => .value (.int (Int64.ofInt (p.ofTimestamp t 0)))
  | .timestamp t, [.string zone] =>
    match Zone.parse? zone.toList with
    | some offset => .value (.int (Int64.ofInt (p.ofTimestamp t offset)))
    | none => .refused (.badZone zone)
  | .duration d, [] =>
    .ofOption .notForDurations ((TimePart.ofDuration? d p).map fun i => .int (Int64.ofInt i))
  | v, _ => .refused (.notFor v.kindName)

/-- A function of the library on values of the kinds of its signature. -/
def apply (now : Moment) (f : Library) (args : List Value) : Outcome :=
  match f, args with
  | ipInRange, [.string addr, .string range] => rangeTest addr range
  | parseJson, [.string text] => jsonObject text
  | parseJwt, [.string key, .string token] => tokenClaims now key token
  | hmacSha256, [.string key, .string message] => keyedDigest .sha256 key message
  | hmacSha1, [.string key, .string message] => keyedDigest .sha1 key message
  | substring, .string s :: args => .ofRefusal (slice s args)
  | indexOf, [.string s, .string t] => searchBytes Text.indexOf? s t
  | lastIndexOf, [.string s, .string t] => searchBytes Text.lastIndexOf? s t
  | lowerAscii, [.string s] => .value (.ofString (Text.lowerAscii s.toList))
  | upperAscii, [.string s] => .value (.ofString (Text.upperAscii s.toList))
  | trim, [.string s] => .value (.ofString (Text.trim s.toList))
  | replace, [.string s, .string p, .string q] =>
    .value (.ofString (Text.replace p.toList q.toList s.toList))
  | split, [.string s, .string p] =>
    .value (.list none ((Text.split p.toList s.toList).map .ofString))
  | charAt, [.string s, .int i] => characterAt s i
  | reverse, [.string s] => .value (.ofString s.toList.reverse)
  | format, [.string template, .list _ args] => formatted template args
  | join, .list _ items :: args => .ofRefusal (joinList items args)
  | quote, [.string s] => .value (.ofString (Text.Quoted.encode s.toList))
  | encodeBase64, [.bytes bs] => .value (.ofString (Base64.encode .standard bs))
  | decodeBase64, [.string s] =>
    .ofOption .badBase64 ((Base64.decode? .standard s.toList).map .bytes)
  | part p, this :: args => timePart p this args
  | _, _ => .failed .missingArgument

end Library

/-- A function on values of the kinds of its signature. -/
def Function.apply (now : Moment) (f : Function) (args : List Value) : Eval Value :=
  match f with
  | builtin b => (b.apply args).toEval b.name
  | library g => (g.apply now args).toEval g.handler

end GatedRelay.Expr
