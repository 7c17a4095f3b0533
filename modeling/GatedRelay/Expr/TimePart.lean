import GatedRelay.Time.Timestamp
import GatedRelay.Time.Zone

/-!
The parts of timestamps and durations. January is month 0 and Sunday day 0; the date counts from
one, the day of the month and of the year from zero. Of a duration a part is its total length in
that unit.
-/

namespace GatedRelay.Expr

inductive TimePart
  | fullYear
  | month
  | date
  | dayOfMonth
  | dayOfWeek
  | dayOfYear
  | hours
  | minutes
  | seconds
  | milliseconds
  deriving DecidableEq

namespace TimePart

def all : List TimePart :=
  [fullYear, month, date, dayOfMonth, dayOfWeek, dayOfYear, hours, minutes, seconds, milliseconds]

def name : TimePart → String
  | fullYear => "getFullYear"
  | month => "getMonth"
  | date => "getDate"
  | dayOfMonth => "getDayOfMonth"
  | dayOfWeek => "getDayOfWeek"
  | dayOfYear => "getDayOfYear"
  | hours => "getHours"
  | minutes => "getMinutes"
  | seconds => "getSeconds"
  | milliseconds => "getMilliseconds"

/-- Whether durations have the part too. -/
def isClockPart : TimePart → Bool
  | hours | minutes | seconds | milliseconds => true
  | _ => false

def ofLocal (l : Timestamp.Local) : TimePart → Int
  | fullYear => l.date.year
  | month => (l.date.month : Int) - 1
  | date => l.date.day
  | dayOfMonth => (l.date.day : Int) - 1
  | dayOfWeek => Calendar.dayOfWeek l.dayNumber
  | dayOfYear => Calendar.dayOfYear l.date
  | hours => l.hour
  | minutes => l.minute
  | seconds => l.second
  | milliseconds => l.millisecond

/-- The part as clocks at an offset from UTC show it. -/
def ofTimestamp (p : TimePart) (t : Timestamp) (offset : Int) : Int := ofLocal (t.atOffset offset) p

def ofDuration? (d : Duration) : TimePart → Option Int
  | hours => some (d.seconds.tdiv 3600)
  | minutes => some (d.seconds.tdiv 60)
  | seconds => some d.seconds
  | milliseconds => some (d.nanos.tdiv 1000000)
  | _ => none

end TimePart

end GatedRelay.Expr
