import GatedRelay.Time.Calendar
import GatedRelay.Time.Duration

/-!
Points in time with a time zone offset. A point within a leap second has the seconds of the
second before it and 10^9 or more nanoseconds.
-/

namespace GatedRelay

structure Timestamp where
  /-- Whole seconds since 1970 in UTC. -/
  seconds : Int
  nanos : Nat
  /-- Seconds that local clocks are ahead of UTC. -/
  offset : Int
  deriving DecidableEq

namespace Timestamp

/-- Time as a clock at some offset shows it. -/
structure Local where
  dayNumber : Int
  secondOfDay : Nat
  nanos : Nat

def atOffset (t : Timestamp) (offset : Int) : Local :=
  let s := t.seconds + offset
  ⟨s / 86400, (s % 86400).toNat, t.nanos⟩

namespace Local

def date (l : Local) : Date := Calendar.ofDayNumber l.dayNumber

def hour (l : Local) : Nat := l.secondOfDay / 3600

def minute (l : Local) : Nat := l.secondOfDay / 60 % 60

def second (l : Local) : Nat := l.secondOfDay % 60

def millisecond (l : Local) : Nat := l.nanos / 1000000

end Local

/-- Equality and order are those of the instants; offsets do not matter. -/
def compare (a b : Timestamp) : Ordering :=
  (Ord.compare a.seconds b.seconds).then (Ord.compare a.nanos b.nanos)

/-- The first and the last second that can be represented. -/
def minSeconds : Int := Calendar.dayNumber ⟨-262143, 1, 1⟩ * 86400

def maxSeconds : Int := Calendar.dayNumber ⟨262142, 12, 31⟩ * 86400 + 86399

/-- Adds nanoseconds. A sum that leaves a leap second counts it as over. -/
def add? (t : Timestamp) (d : Duration) : Option Timestamp :=
  let secs := d.seconds
  let frac := d.subsecondNanos
  let inLeap := 1000000000 ≤ t.nanos
  let stays := secs = 0 ∧ ((t.nanos : Int) + frac < 2000000000 ∨ frac ≤ 0)
  let raw : Int × Int :=
    if inLeap ∧ stays then (t.seconds, (t.nanos : Int) + frac)
    else
      let (s, n) : Int × Int :=
        if ¬inLeap then (t.seconds, (t.nanos : Int))
        else if secs < 0 then (t.seconds + 1, (t.nanos : Int) - 1000000000)
        else (t.seconds, (t.nanos : Int) - 1000000000)
      let n := n + frac
      if n < 0 then (s + secs - 1, n + 1000000000)
      else if 1000000000 ≤ n then (s + secs + 1, n - 1000000000)
      else (s + secs, n)
  if minSeconds ≤ raw.1 ∧ raw.1 ≤ maxSeconds then some ⟨raw.1, raw.2.toNat, t.offset⟩ else none

/-- The time from `b` to `a`. A leap second between them on the same day counts. -/
def since? (a b : Timestamp) : Option Duration :=
  let sa := a.seconds % 86400
  let sb := b.seconds % 86400
  let leap : Int :=
    if sb < sa ∧ 1000000000 ≤ b.nanos then 1
    else if sa < sb ∧ 1000000000 ≤ a.nanos then -1
    else 0
  Duration.ofNanos?
    ((a.seconds - b.seconds + leap) * 1000000000 + ((a.nanos : Int) - (b.nanos : Int)))

/-- Nanoseconds since 1970. -/
def totalNanos (t : Timestamp) : Int := t.seconds * 1000000000 + t.nanos

def yearText (year : Int) : List Char :=
  if 0 ≤ year ∧ year ≤ 9999 then Numeral.padded 4 year.toNat
  else (if year < 0 then '-' else '+') :: Numeral.padded 4 year.natAbs

def dateText (d : Date) : List Char :=
  yearText d.year ++ '-' :: Numeral.padded 2 d.month ++ '-' :: Numeral.padded 2 d.day

/-- Three, six or nine digits, whichever suffice. -/
def fractionText (nanos : Nat) : List Char :=
  if nanos = 0 then []
  else if nanos % 1000000 = 0 then '.' :: Numeral.padded 3 (nanos / 1000000)
  else if nanos % 1000 = 0 then '.' :: Numeral.padded 6 (nanos / 1000)
  else '.' :: Numeral.padded 9 nanos

/-- The offset to the nearest minute. -/
def offsetText (offset : Int) : List Char :=
  let minutes := (offset.natAbs + 30) / 60
  (if offset < 0 then '-' else '+') :: Numeral.padded 2 (minutes / 60) ++
    ':' :: Numeral.padded 2 (minutes % 60)

/-- The RFC 3339 text in the timestamp's own offset. -/
def text (t : Timestamp) : List Char :=
  let l := t.atOffset t.offset
  let leap := 1000000000 ≤ t.nanos
  let second := if leap then l.second + 1 else l.second
  let nanos := if leap then t.nanos - 1000000000 else t.nanos
  dateText l.date ++ 'T' :: Numeral.padded 2 l.hour ++ ':' :: Numeral.padded 2 l.minute ++
    ':' :: Numeral.padded 2 second ++ fractionText nanos ++ offsetText t.offset

/-- A number of exactly so many digits at the front. -/
def readDigits? (n : Nat) (cs : List Char) : Option (Nat × List Char) :=
  let ds := cs.take n
  if ds.length = n ∧ ds.all Numeral.isDigit then
    (Numeral.read? 10 ds).map fun v => (v, cs.drop n)
  else none

def readChar? (test : Char → Bool) : List Char → Option (List Char)
  | [] => none
  | c :: rest => if test c then some rest else none

/-- Nanoseconds from the digits after the point; those beyond nine are dropped. -/
def readFraction? (cs : List Char) : Option (Nat × List Char) :=
  match cs with
  | '.' :: rest =>
    let ds := rest.takeWhile Numeral.isDigit
    (Numeral.read? 10 ((ds ++ List.replicate 9 '0').take 9)).bind fun v =>
      if ds.isEmpty then none else some (v, rest.dropWhile Numeral.isDigit)
  | rest => some (0, rest)

def readOffset? (cs : List Char) : Option (Int × List Char) :=
  match cs with
  | [] => none
  | c :: rest =>
    if c = 'Z' ∨ c = 'z' then some (0, rest)
    else if c = '+' ∨ c = '-' ∨ c = '\u2212' then do
      let (h, rest) ← readDigits? 2 rest
      let rest ← readChar? (· == ':') rest
      let (m, rest) ← readDigits? 2 rest
      if 59 < m ∨ 24 ≤ h then none
      else
        let seconds : Int := ((h * 60 + m) * 60 : Nat)
        some (if c = '+' then seconds else -seconds, rest)
    else none

/-- Reads an RFC 3339 text. The second may be 60. -/
def parse? (cs : List Char) : Option Timestamp := do
  let (year, cs) ← readDigits? 4 cs
  let cs ← readChar? (· == '-') cs
  let (month, cs) ← readDigits? 2 cs
  let cs ← readChar? (· == '-') cs
  let (day, cs) ← readDigits? 2 cs
  let cs ← readChar? (fun c => c == 'T' || c == 't' || c == ' ') cs
  let (hour, cs) ← readDigits? 2 cs
  let cs ← readChar? (· == ':') cs
  let (minute, cs) ← readDigits? 2 cs
  let cs ← readChar? (· == ':') cs
  let (second, cs) ← readDigits? 2 cs
  let (nanos, cs) ← readFraction? cs
  let (offset, cs) ← readOffset? cs
  if !cs.isEmpty ∨ month = 0 ∨ 12 < month ∨ day = 0 ∨ Calendar.daysInMonth year month < day ∨
      23 < hour ∨ 59 < minute ∨ 60 < second then none
  else
    let dayNumber := Calendar.dayNumber ⟨year, month, day⟩
    let leap := second = 60
    let secondOfDay : Int := ((hour * 60 + minute) * 60 + (if leap then 59 else second) : Nat)
    some
      ⟨dayNumber * 86400 + secondOfDay - offset, if leap then nanos + 1000000000 else nanos, offset⟩

end Timestamp

end GatedRelay
