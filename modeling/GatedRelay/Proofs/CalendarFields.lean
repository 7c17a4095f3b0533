import GatedRelay.Proofs.Aborts
import GatedRelay.Proofs.CalendarDays
import GatedRelay.Proofs.Republishing
import GatedRelay.Proofs.ZoneTexts

/-!
# The fields of calendars and clocks

The parts of a timestamp at an offset, and the fields of the time of a request, are the date and the
time of day of one instant, which can be found again from them.
-/

namespace GatedRelay

/-- A date and a time of day that are so many seconds after the start of 1970. -/
structure ShowsSecond (year month day hour minute second total : Int) : Prop where
  month_bounds : 1 ≤ month ∧ month ≤ 12
  day_bounds : 1 ≤ day ∧ day ≤ Calendar.daysInMonth year month.toNat
  hour_bounds : 0 ≤ hour ∧ hour < 24
  minute_bounds : 0 ≤ minute ∧ minute < 60
  second_bounds : 0 ≤ second ∧ second < 60
  total_eq : Calendar.days year month day * 86400 + hour * 3600 + minute * 60 + second = total

/-- The other fields are ints if the year is one. -/
lemma ShowsSecond.toInt_ofInt {year month day hour minute second total : Int}
    (h : ShowsSecond year month day hour minute second total) (hyear : year.natAbs < 2 ^ 63) :
    ShowsSecond (Int64.ofInt year).toInt (Int64.ofInt month).toInt (Int64.ofInt day).toInt
      (Int64.ofInt hour).toInt (Int64.ofInt minute).toInt (Int64.ofInt second).toInt total := by
  have hint {i : Int} (hi : i.natAbs < 2 ^ 63) : (Int64.ofInt i).toInt = i :=
    Int64.toInt_ofInt_of_le (by omega) (by omega)
  have hdays := Calendar.daysInMonth_le year month.toNat
  obtain ⟨hmonth, hday, hhour, hminute, hsecond, htotal⟩ := h
  rw [hint hyear, hint (by omega), hint (by omega), hint (by omega), hint (by omega),
    hint (by omega)]
  exact ⟨hmonth, hday, hhour, hminute, hsecond, htotal⟩

namespace Timestamp

lemma Local.isDate_date (l : Local) : Calendar.IsDate l.date :=
  Calendar.isDate_ofDayNumber l.dayNumber

lemma Local.days_date (l : Local) :
    Calendar.days l.date.year l.date.month l.date.day = l.dayNumber :=
  Calendar.days_ofDayNumber l.dayNumber

variable (t : Timestamp) (offset : Int)

lemma total_atOffset :
    (t.atOffset offset).dayNumber * 86400 + (t.atOffset offset).secondOfDay = t.seconds + offset ∧
      (t.atOffset offset).secondOfDay < 86400 := by
  dsimp only [atOffset]
  omega

lemma showsSecond_atOffset :
    ShowsSecond (t.atOffset offset).date.year (t.atOffset offset).date.month
      (t.atOffset offset).date.day (t.atOffset offset).hour (t.atOffset offset).minute
      (t.atOffset offset).second (t.seconds + offset) := by
  obtain ⟨htotal, hday⟩ := t.total_atOffset offset
  generalize t.atOffset offset = l at htotal hday ⊢
  have hdate := l.isDate_date
  have hdays := l.days_date
  simp only [Local.hour, Local.minute, Local.second]
  refine ⟨?_, ?_, by omega, by omega, by omega, by omega⟩
  · exact ⟨by exact_mod_cast hdate.first_month, by exact_mod_cast hdate.last_month⟩
  · exact ⟨by exact_mod_cast hdate.first_day, by exact_mod_cast hdate.last_day⟩

lemma natAbs_year_atOffset_le :
    (t.atOffset offset).date.year.natAbs ≤ (t.seconds + offset).natAbs / 86400 + 1971 := by
  obtain ⟨htotal, hday⟩ := t.total_atOffset offset
  generalize t.atOffset offset = l at htotal hday ⊢
  have hyear : l.date.year.natAbs ≤ l.dayNumber.natAbs + 1970 :=
    Calendar.natAbs_year_ofDayNumber_le l.dayNumber
  omega

end Timestamp

namespace Expr

open Attempt

/-! ### Parts of timestamps -/

/-- What the parts of a timestamp at an offset say. -/
structure ShowsInstant (part : TimePart → Int) (t : Timestamp) (offset : Int) : Prop where
  showsSecond : ShowsSecond (part .fullYear) (part .month + 1) (part .date) (part .hours)
    (part .minutes) (part .seconds) (t.seconds + offset)
  instant : Calendar.days (part .fullYear) (part .month + 1) (part .date) * 86400000 +
    part .hours * 3600000 + part .minutes * 60000 + part .seconds * 1000 + part .milliseconds =
      t.totalNanos / 1000000 + offset * 1000
  dayOfMonth : part .dayOfMonth = part .date - 1
  dayOfYear : part .dayOfYear =
    Calendar.days (part .fullYear) (part .month + 1) (part .date) -
      Calendar.days (part .fullYear) 1 1
  dayOfWeek : part .dayOfWeek =
    (Calendar.days (part .fullYear) (part .month + 1) (part .date) + 4) % 7

namespace TimePart

variable {t : Timestamp} {offset : Int}

lemma showsInstant_ofTimestamp (t : Timestamp) (offset : Int) :
    ShowsInstant (fun p => p.ofTimestamp t offset) t offset := by
  have hsecond := t.showsSecond_atOffset offset
  have hnanos : (t.atOffset offset).nanos = t.nanos := rfl
  simp only [ofTimestamp]
  generalize t.atOffset offset = l at hsecond hnanos ⊢
  constructor <;> simp only [ofLocal, sub_add_cancel]
  case showsSecond => exact hsecond
  case instant =>
    have htotal := hsecond.total_eq
    simp only [Timestamp.Local.millisecond, Timestamp.totalNanos]
    omega
  case dayOfYear => exact l.isDate_date.dayOfYear_eq
  case dayOfWeek =>
    rw [l.days_date, Calendar.dayOfWeek]
    omega

/-- The parts of a timestamp are ints. -/
lemma toInt_ofInt_ofTimestamp (p : TimePart) (hseconds : (t.seconds + offset).natAbs < 2 ^ 64)
    (hnanos : t.nanos < 2 ^ 32) :
    (Int64.ofInt (p.ofTimestamp t offset)).toInt = p.ofTimestamp t offset := by
  suffices hsmall : (p.ofTimestamp t offset).natAbs < 2 ^ 63 from
    Int64.toInt_ofInt_of_le (by omega) (by omega)
  obtain ⟨htotal, hday⟩ := t.total_atOffset offset
  have hnanos' : (t.atOffset offset).nanos < 2 ^ 32 := hnanos
  have hyear := t.natAbs_year_atOffset_le offset
  rw [ofTimestamp]
  generalize t.atOffset offset = l at htotal hday hnanos' hyear
  have hmonth := l.isDate_date.last_month
  have hdays := l.isDate_date.last_day.trans (Calendar.daysInMonth_le _ _)
  cases p with
  | dayOfYear =>
    have hle := l.isDate_date.natAbs_dayOfYear_le
    rw [ofLocal]
    omega
  | dayOfWeek =>
    rw [ofLocal, Calendar.dayOfWeek]
    omega
  | fullYear | month | date | dayOfMonth =>
    rw [ofLocal]
    omega
  | hours | minutes | seconds | milliseconds =>
    simp only [ofLocal, Timestamp.Local.hour, Timestamp.Local.minute, Timestamp.Local.second,
      Timestamp.Local.millisecond]
    omega

end TimePart

/-- The accessors of timestamps. -/
def accessors : List (String × TimePart) :=
  [("getFullYear", .fullYear), ("getMonth", .month), ("getDate", .date),
    ("getDayOfMonth", .dayOfMonth), ("getDayOfYear", .dayOfYear), ("getDayOfWeek", .dayOfWeek),
    ("getHours", .hours), ("getMinutes", .minutes), ("getSeconds", .seconds),
    ("getMilliseconds", .milliseconds)]

/-- The arguments of an accessor that name an offset: none for UTC, or a zone. -/
inductive NamesOffset (scope : Scope) : List Term → Int → Prop
  | utc : NamesOffset scope [] 0
  | zone {e : Term} {s : String} {offset : Int} (he : eval (scope.step 1) e = .ok (.string s))
      (hs : Zone.parse? s.toList = some offset) : NamesOffset scope [e] offset

section Accessors

variable {scope : Scope} {e : Term} {args : List Term} {t : Timestamp} {offset : Int}

lemma NamesOffset.natAbs_lt (h : NamesOffset scope args offset) : offset.natAbs < 86400 := by
  cases h with
  | utc => decide
  | zone _ hs => exact Zone.natAbs_lt_of_parse? hs

lemma eval_accessor (he : eval (scope.step 0) e = .ok (.timestamp t))
    (hargs : NamesOffset scope args offset) (p : TimePart) :
    eval scope (.method e p.name args) = .ok (.int (Int64.ofInt (p.ofTimestamp t offset))) := by
  cases hargs with
  | utc =>
    have hvalue : evalArgs (scope.step 1) [] [] true = .ok [] := by rw [evalArgs]
    exact eval_method_of_eval (f := .part p) rfl he rfl hvalue
  | @zone z s _ hz hs =>
    have hvalue : evalArgs (scope.step 1) [z] [] true = .ok [.string s] := by
      rw [evalArgs, hz]
      rfl
    have hpart : Library.timePart p (.timestamp t) [.string s] =
        .value (.int (Int64.ofInt (p.ofTimestamp t offset))) := by
      rw [Library.timePart, hs]
    have hcall : eval scope (.method e p.name [z]) =
        (Library.timePart p (.timestamp t) [.string s]).toEval p.name :=
      eval_method_of_eval (f := .part p) rfl he rfl hvalue
    rw [hcall, hpart]
    rfl

lemma exists_parts (he : eval (scope.step 0) e = .ok (.timestamp t))
    (hargs : NamesOffset scope args offset) (hlow : -2 ^ 63 ≤ t.seconds) (hhigh : t.seconds < 2 ^ 63)
    (hnanos : t.nanos < 2 ^ 32) :
    ∃ part : TimePart → Int64,
      (∀ a ∈ accessors, eval scope (.method e a.1 args) = .ok (.int (part a.2))) ∧
        ShowsInstant (fun p => (part p).toInt) t offset := by
  have hname : ∀ a ∈ accessors, a.1 = a.2.name := by decide
  have hoffset := hargs.natAbs_lt
  have hint (p : TimePart) :
      (Int64.ofInt (p.ofTimestamp t offset)).toInt = p.ofTimestamp t offset :=
    p.toInt_ofInt_ofTimestamp (by omega) hnanos
  refine ⟨fun p => .ofInt (p.ofTimestamp t offset), ?_, ?_⟩
  · intro a ha
    rw [hname a ha, eval_accessor he hargs]
  · simp only [hint]
    exact TimePart.showsInstant_ofTimestamp t offset

end Accessors

/-! ### The time of a request -/

/-- The tree of `request.time.name`. -/
def timeField (name : String) : Term := .select (requestField "time") name

/-- What the fields of the time of a request say. -/
def ShowsTime (world : World) (c : RequestContext) (now : Int64) : Prop :=
  ∃ year month day hour minute second : Int64,
    (∀ field ∈ [("year", year), ("month", month), ("day", day), ("hour", hour), ("minute", minute),
        ("second", second)],
      eval (Scope.root world c.origin c.request) (timeField field.1) = .ok (.int field.2)) ∧
    eval (Scope.root world c.origin c.request) (requestField "unixtime") = .ok (.int now) ∧
    ShowsSecond year.toInt month.toInt day.toInt hour.toInt minute.toInt second.toInt now.toInt

lemma showsTime_of_unixtime {c : RequestContext} {now : Int64} (h : c.unixtime = now.toInt)
    (world : World) : ShowsTime world c now := by
  have hnow : Int64.ofInt c.unixtime = now := by rw [h, Int64.ofInt_toInt]
  have hlow := now.le_toInt
  have hhigh := now.toInt_lt
  have hsecond : ShowsSecond c.time.year c.time.month c.time.day c.time.hour c.time.minute
      c.time.second now.toInt := by
    rw [← h, ← add_zero c.unixtime]
    exact (Timestamp.mk c.unixtime 0 0).showsSecond_atOffset 0
  have hyear : c.time.year.natAbs ≤ (c.unixtime + 0).natAbs / 86400 + 1971 :=
    (Timestamp.mk c.unixtime 0 0).natAbs_year_atOffset_le 0
  refine ⟨.ofInt c.time.year, .ofInt c.time.month, .ofInt c.time.day, .ofInt c.time.hour,
    .ofInt c.time.minute, .ofInt c.time.second, ?_, ?_, ?_⟩
  · simp only [List.forall_mem_cons]
    exact ⟨rfl, rfl, rfl, rfl, rfl, rfl, nofun⟩
  · rw [← hnow]
    rfl
  · exact hsecond.toInt_ofInt (by omega)

/-- The parts of a timestamp at an offset determine the instant, and the fields of the time of a
request determine its time in seconds. -/
theorem calendar_fields_determine_instant (scope : Scope) :
    (∀ (e : Term) (args : List Term) (seconds : Int64) (nanos : UInt32) (own offset : Int),
      eval (scope.step 0) e = .ok (.timestamp ⟨seconds.toInt, nanos.toNat, own⟩) →
      NamesOffset scope args offset →
      ∃ part : TimePart → Int64,
        (∀ a ∈ accessors, eval scope (.method e a.1 args) = .ok (.int (part a.2))) ∧
        ShowsInstant (fun p => (part p).toInt) ⟨seconds.toInt, nanos.toNat, own⟩ offset) ∧
    ∀ (r : Request) (now : Int64) (c : RequestContext),
      RequestContext.build r now.toInt = .ok c → ShowsTime scope.world c now := by
  refine ⟨fun e args seconds nanos own offset he hargs => ?_, fun r now c hbuild => ?_⟩
  · exact exists_parts he hargs seconds.le_toInt seconds.toInt_lt nanos.toNat_lt
  · obtain ⟨_, _, _, -, -, -, -, rfl⟩ := RequestContext.build_eq_ok_iff.mp hbuild
    exact showsTime_of_unixtime rfl scope.world

theorem calendar_fields_determine_instant_leapSecond :
    let t : Timestamp := ⟨-1, 1500000000, 0⟩
    let scope : Scope := ⟨[("t", .timestamp t)], (0 : Int), .program⟩
    ∃ part : TimePart → Int64,
      (∀ a ∈ accessors, eval scope (.method (.ident "t") a.1 [.literal (.string "-05:30")]) =
        .ok (.int (part a.2))) ∧
      ShowsInstant (fun p => (part p).toInt) t (-19800) :=
  (calendar_fields_determine_instant _).1 _ _ (-1) 1500000000 0 _ rfl (.zone rfl (by decide +kernel))

end Expr

end GatedRelay
