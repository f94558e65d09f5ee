import WikiPress.Text.Basic

/-!
# Date/Civil — dates of the proleptic Gregorian calendar

A date is a year from -9999 to 9999 with a month and a day of that month.  Days are numbered from
the first of January of year 1, so that weekdays and weeks are arithmetic.
-/

namespace WikiPress

/-- A leap year: every fourth, but of the centuries only every fourth. -/
def isLeapYear (year : Int) : Bool :=
  year % 4 == 0 && (year % 100 != 0 || year % 400 == 0)

/-- The number of days of a month. -/
def daysInMonth (year : Int) (month : Nat) : Nat :=
  match month with
  | 2 => if isLeapYear year then 29 else 28
  | 4 | 6 | 9 | 11 => 30
  | _ => 31

/-- Whether a year, a month and a day name a date. -/
def isDate (year : Int) (month day : Nat) : Bool :=
  -9999 ≤ year && year ≤ 9999 && 1 ≤ month && month ≤ 12 && 1 ≤ day && day ≤ daysInMonth year month

/-- A date. -/
structure Date where
  year : Int
  month : Nat
  day : Nat
  valid : isDate year month day = true
deriving DecidableEq, Repr

namespace Date

/-- The date with these numbers, if there is one. -/
def mk? (year : Int) (month day : Nat) : Option Date :=
  if h : isDate year month day = true then some ⟨year, month, day, h⟩ else none

/-- Comparison by time. -/
def compare (a b : Date) : Ordering :=
  (Ord.compare a.year b.year).then ((Ord.compare a.month b.month).then (Ord.compare a.day b.day))

/-- The later of two dates. -/
def later (a b : Date) : Date := if compare a b == .lt then b else a

/-- The number of days of the year before a month. -/
def daysBefore (year : Int) : (month : Nat) → Nat
  | 0 => 0
  | 1 => 0
  | month + 1 => daysBefore year month + daysInMonth year month

/-- The day of the year, counted from one. -/
def ordinal (d : Date) : Nat := daysBefore d.year d.month + d.day

/-- The number of days from the first of January of year 1 to that of `year`. -/
def newYear (year : Int) : Int :=
  let y := year - 1
  365 * y + y / 4 - y / 100 + y / 400

/-- The number of days since the first of January of year 1, a Monday. -/
def dayNumber (d : Date) : Int := newYear d.year + d.ordinal - 1

/-- The day of the week, counted from Monday as zero. -/
def weekday (d : Date) : Nat := (d.dayNumber % 7).toNat

/-- The day number of the Monday that begins week one of a year: the week that holds the fourth of
January. -/
def firstWeek (year : Int) : Int :=
  let fourth := newYear year + 3
  fourth - fourth % 7

/-- The year that the week of the date belongs to, and the number of the week in it. -/
def isoWeek (d : Date) : Int × Nat :=
  let n := d.dayNumber
  let year :=
    if n < firstWeek d.year then d.year - 1
    else if firstWeek (d.year + 1) ≤ n then d.year + 1
    else d.year
  (year, ((n - firstWeek year) / 7).toNat + 1)

/-- The number of the week when weeks begin on `first` (counted from Monday as zero) and the days
before the first such day are week zero. -/
def weekOfYear (first : Nat) (d : Date) : Nat :=
  (d.ordinal + 6 - (d.weekday + 7 - first) % 7) / 7

end Date

end WikiPress
