import GatedRelay.Number.Binary64
import GatedRelay.Text.Numeral

/-!
Durations in whole nanoseconds, of either sign. They have two texts: decimal seconds, and hours,
minutes and seconds; and they are read from sums such as `1h30m`.
-/

namespace GatedRelay

structure Duration where
  nanos : Int
  deriving DecidableEq

namespace Duration

/-- The largest absolute value: as many milliseconds as 63 bits hold. -/
def maxNanos : Int := 0x7fffffffffffffff * 1000000

def inRange (d : Duration) : Bool := -maxNanos ≤ d.nanos && d.nanos ≤ maxNanos

/-- A duration, unless it lies out of range. -/
def ofNanos? (n : Int) : Option Duration :=
  if inRange ⟨n⟩ then some ⟨n⟩ else none

def seconds (d : Duration) : Int := d.nanos.tdiv 1000000000

def subsecondNanos (d : Duration) : Int := d.nanos.tmod 1000000000

/-- Whether the nanoseconds fit a signed 64-bit number. -/
def fits64 (d : Duration) : Bool := -0x8000000000000000 ≤ d.nanos && d.nanos < 0x8000000000000000

/-- Digits after the point: as many as the nanoseconds need. -/
def fraction (width nanos : Nat) : List Char :=
  if nanos = 0 then []
  else
    let digits := Numeral.padded width nanos
    '.' :: (digits.reverse.dropWhile (· == '0')).reverse

/-- Decimal seconds. -/
def secondsText (d : Duration) : List Char :=
  let sub := d.subsecondNanos.natAbs
  Numeral.decimalInt d.seconds ++ fraction 9 sub ++ ['s']

/-- Hours, minutes and seconds, each only where it is needed. -/
def clockText (totalSeconds nanos : Nat) : List Char :=
  let s := Numeral.decimal (totalSeconds % 60) ++ fraction 9 nanos ++ ['s']
  let minutes := totalSeconds / 60
  if minutes = 0 then s
  else
    let ms := Numeral.decimal (minutes % 60) ++ 'm' :: s
    let hours := minutes / 60
    if hours = 0 then ms else Numeral.decimal hours ++ 'h' :: ms

/-- Below one second the unit is chosen by the size. -/
def unsignedText (nanos : Nat) : List Char :=
  if nanos = 0 then ['0', 's']
  else if nanos < 1000 then Numeral.decimal nanos ++ ['n', 's']
  else if nanos < 1000000 then
    Numeral.decimal (nanos / 1000) ++ fraction 3 (nanos % 1000) ++ ['µ', 's']
  else if nanos < 1000000000 then
    Numeral.decimal (nanos / 1000000) ++ fraction 6 (nanos % 1000000) ++ ['m', 's']
  else clockText (nanos / 1000000000) (nanos % 1000000000)

/-- The text in hours, minutes and seconds. What follows the sign is the number modulo 2^64;
beyond 64 bits of nanoseconds it is the number of whole seconds. -/
def unitText (d : Duration) : List Char :=
  let body :=
    if d.fits64 then unsignedText (d.nanos % 0x10000000000000000).toNat
    else clockText (d.seconds % 0x10000000000000000).toNat 0
  if d.nanos < 0 then '-' :: body else body

/-- The unit at the front, in nanoseconds. -/
def readUnit? : List Char → Option (Nat × List Char)
  | 'm' :: 's' :: rest => some (1000000, rest)
  | 'u' :: 's' :: rest => some (1000, rest)
  | 'n' :: 's' :: rest => some (1, rest)
  | 'h' :: rest => some (3600000000000, rest)
  | 'm' :: rest => some (60000000000, rest)
  | 's' :: rest => some (1000000000, rest)
  | _ => none

/-- What a reader found at the front of a text: something, nothing, or the beginning of
something that is not complete. -/
inductive Found (α : Type)
  | found (a : α) (rest : List Char)
  | absent
  | broken

/-- The exponent at the front. A letter without digits after it is a broken one. -/
def readExponent (cs : List Char) : Found Int :=
  match cs with
  | [] => .found 0 []
  | e :: rest =>
    if e = 'e' ∨ e = 'E' then
      let (negative, rest) := match rest with
        | '-' :: r => (true, r)
        | '+' :: r => (false, r)
        | r => (false, r)
      match Numeral.read? 10 (rest.takeWhile Numeral.isDigit) with
      | none => .broken
      | some n =>
        .found (if negative then -(n : Int) else (n : Int)) (rest.dropWhile Numeral.isDigit)
    else .found 0 cs

/-- Whether a word stands at the front, in any case. -/
def startsWithWord (word cs : List Char) : Bool :=
  word.isPrefixOf ((cs.take word.length).map Char.toLower)

/-- The number at the front: digits with an optional sign, point and exponent, or one of the
words for values that are not finite. -/
def readNumber (cs : List Char) : Found Double :=
  let (negative, body) := match cs with
    | '-' :: r => (true, r)
    | '+' :: r => (false, r)
    | r => (false, r)
  let whole := body.takeWhile Numeral.isDigit
  let afterWhole := body.dropWhile Numeral.isDigit
  let (fractionDigits, rest) := match afterWhole with
    | '.' :: r => (r.takeWhile Numeral.isDigit, r.dropWhile Numeral.isDigit)
    | r => ([], r)
  if whole.isEmpty ∧ fractionDigits.isEmpty then
    if startsWithWord ['n', 'a', 'n'] cs then .found .nan (cs.drop 3)
    else if startsWithWord ['i', 'n', 'f'] cs then .found (.infinity false) (cs.drop 3)
    else .absent
  else
    match readExponent rest with
    | .broken => .broken
    | .absent => .absent
    | .found e rest =>
      match Numeral.read? 10 (whole ++ fractionDigits) with
      | none => .absent
      | some digits => .found (.ofDecimal negative digits (e - (fractionDigits.length : Int))) rest

/-- A double as a signed 64-bit number: towards zero, cut off at the bounds, zero for a NaN. -/
def saturate (d : Double) : Int :=
  if d.isNaN then 0
  else if !d.isFinite then if d.isNegative then -0x8000000000000000 else 0x7fffffffffffffff
  else max (-0x8000000000000000) (min 0x7fffffffffffffff d.truncate)

/-- One part of a duration: a number and its unit. -/
def readPart (cs : List Char) : Found Int :=
  match readNumber cs with
  | .absent => .absent
  | .broken => .broken
  | .found n rest =>
    match readUnit? rest with
    | none => .absent
    | some (unit, rest) => .found (saturate (n.mul (.ofNat unit))) rest

/-- The sum of the parts at the front, at least one. -/
def readParts : Nat → List Char → Option Int
  | 0, _ => none
  | fuel + 1, cs =>
    match readPart cs with
    | .absent => none
    | .broken => none
    | .found n rest =>
      match readPart rest with
      | .absent => some n
      | .broken => none
      | .found _ _ => (readParts fuel rest).map (n + ·)

/-- Reads a sum of parts; what follows the last complete part is ignored. -/
def parse? (cs : List Char) : Option Duration :=
  let (negative, body) := match cs with
    | '-' :: r => (true, r)
    | r => (false, r)
  if body = ['0'] then some ⟨0⟩
  else
    (readParts (body.length + 1) body).bind fun n => ofNanos? (if negative then -n else n)

end Duration

end GatedRelay
