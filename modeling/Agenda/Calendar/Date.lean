/-!
# Dates of the calendar

A date is a day of the proleptic Gregorian calendar between 1 January of the year -262143 and
31 December of the year 262142. It is kept as the number of days since 1 January 1970, so that
order and arithmetic are those of the integers; `Date.civil` gives its year, month and day, and
`Date.ofCivil?` finds the date of a year, month and day.
-/

namespace Agenda

/-- A year, a month and a day of the month, as written in a date. -/
structure Civil where
  year : Int
  month : Nat
  day : Nat
  deriving DecidableEq, Repr

/-! ### Years and months -/

/-- Whether a year has a 29 February. -/
def isLeap (year : Int) : Bool :=
  year % 4 = 0 ∧ (year % 100 ≠ 0 ∨ year % 400 = 0)

/-- The days from 1 January of the year 1 to 1 January of a year. -/
def daysBeforeYear (year : Int) : Int :=
  365 * (year - 1) + (year - 1) / 4 - (year - 1) / 100 + (year - 1) / 400

/-- The lengths of the months of a year. -/
def monthLengths (leap : Bool) : List Nat :=
  [31, if leap then 29 else 28, 31, 30, 31, 30, 31, 31, 30, 31, 30, 31]

/-- The days of a year before the first day of a month. -/
def daysBeforeMonth (leap : Bool) (month : Nat) : Nat :=
  ((monthLengths leap).take (month - 1)).foldr (· + ·) 0

/-- The year that holds the day with the given number, counted from 1 January of the year 1. A
year has 146097/400 days on average, and an estimate by it is off by at most one. -/
def yearOfDay (n : Int) : Int :=
  let guess := n * 400 / 146097 + 1
  if n < daysBeforeYear guess then guess - 1
  else if daysBeforeYear (guess + 1) ≤ n then guess + 1
  else guess

/-- How many whole months lie before a day of the year, and how many days are left over. -/
def splitMonths : List Nat → Nat → Nat × Nat
  | [], n => (0, n)
  | length :: rest, n =>
    if n < length then (0, n)
    else
      let (months, left) := splitMonths rest (n - length)
      (months + 1, left)

/-! ### Civil dates -/

/-- The number of 1 January 1970, counted from 1 January of the year 1. -/
def epochDay : Int := 719162

/-- Whether the month exists and has the day. -/
def Civil.isValid (c : Civil) : Bool :=
  1 ≤ c.month && 1 ≤ c.day &&
    match (monthLengths (isLeap c.year))[c.month - 1]? with
    | some length => c.day ≤ length
    | none => false

/-- The days from 1 January 1970 to a civil date. -/
def Civil.dayNumber (c : Civil) : Int :=
  daysBeforeYear c.year - epochDay + daysBeforeMonth (isLeap c.year) c.month + (c.day - 1 : Int)

/-- The civil date a number of days after 1 January 1970. -/
def Civil.ofDayNumber (n : Int) : Civil :=
  let year := yearOfDay (n + epochDay)
  let (months, left) :=
    splitMonths (monthLengths (isLeap year)) (n + epochDay - daysBeforeYear year).toNat
  ⟨year, months + 1, left + 1⟩

/-! ### Dates -/

/-- The first day of the calendar, 1 January of the year -262143. -/
def firstDay : Int := -96465292

/-- The last day of the calendar, 31 December of the year 262142. -/
def lastDay : Int := 95026236

/-- A day of the calendar, as the number of days since 1 January 1970. -/
structure Date where
  day : Int
  first_le : firstDay ≤ day
  le_last : day ≤ lastDay
  deriving DecidableEq, Repr

namespace Date

/-- The date with a day number, when the calendar has it. -/
def ofDay? (n : Int) : Option Date :=
  if h : firstDay ≤ n ∧ n ≤ lastDay then some ⟨n, h.1, h.2⟩ else none

/-- The date of a civil date, when there is such a day in the calendar. -/
def ofCivil? (c : Civil) : Option Date :=
  if c.isValid then ofDay? c.dayNumber else none

/-- The year, month and day of a date. -/
def civil (d : Date) : Civil :=
  Civil.ofDayNumber d.day

/-- The date some days later, or earlier for a negative number, when the calendar has it. -/
def addDays? (d : Date) (n : Int) : Option Date :=
  ofDay? (d.day + n)

instance : LT Date := ⟨fun a b => a.day < b.day⟩
instance : LE Date := ⟨fun a b => a.day ≤ b.day⟩
instance (a b : Date) : Decidable (a < b) := inferInstanceAs (Decidable (a.day < b.day))
instance (a b : Date) : Decidable (a ≤ b) := inferInstanceAs (Decidable (a.day ≤ b.day))

end Date

/-! ### Days of the week -/

/-- A day of the week. -/
inductive Weekday where
  | sunday | monday | tuesday | wednesday | thursday | friday | saturday
  deriving DecidableEq, Repr

namespace Weekday

/-- The days from Sunday to a day of the week. -/
def index : Weekday → Nat
  | sunday => 0
  | monday => 1
  | tuesday => 2
  | wednesday => 3
  | thursday => 4
  | friday => 5
  | saturday => 6

/-- The day of the week some days after a Sunday. -/
def ofIndex : Nat → Weekday
  | 0 => sunday
  | 1 => monday
  | 2 => tuesday
  | 3 => wednesday
  | 4 => thursday
  | 5 => friday
  | _ => saturday

end Weekday

namespace Date

/-- The day of the week of a date; 1 January 1970 was a Thursday. -/
def weekday (d : Date) : Weekday :=
  Weekday.ofIndex ((d.day + 4) % 7).toNat

/-- The next date after `today` that falls on a day of the week: never `today` itself. -/
def next? (today : Date) (weekday : Weekday) : Option Date :=
  let ahead : Int := (weekday.index : Int) - today.weekday.index
  today.addDays? (if ahead ≤ 0 then ahead + 7 else ahead)

end Date

end Agenda
