import Agenda.Calendar.Date
import Agenda.Text.Decimal

/-!
# Times of day and date-times

A time of day is counted in nanoseconds since midnight, and a date-time is a date with a time of
day. Date-times are ordered by their instant, the nanoseconds since the beginning of 1970, and
their differences are exact.
-/

namespace Agenda

/-- The nanoseconds of a second. -/
def nanosPerSecond : Nat := 1000000000

/-- The nanoseconds of a day. -/
def nanosPerDay : Nat := 86400 * nanosPerSecond

/-- A time of day, in nanoseconds since midnight. -/
structure TimeOfDay where
  nanos : Nat
  nanos_lt : nanos < nanosPerDay
  deriving DecidableEq, Repr

namespace TimeOfDay

/-- The time of day with the given nanoseconds since midnight. -/
def ofNanos? (n : Nat) : Option TimeOfDay :=
  if h : n < nanosPerDay then some ⟨n, h⟩ else none

/-- The time of day on a clock, when the clock can show it. -/
def ofClock? (hour minute second : Nat) : Option TimeOfDay :=
  if hour < 24 ∧ minute < 60 ∧ second < 60 then
    ofNanos? ((hour * 3600 + minute * 60 + second) * nanosPerSecond)
  else none

/-- The beginning of a day, 00:00:00. -/
def midnight : TimeOfDay := ⟨0, by decide⟩

/-- The last full second of a day, 23:59:59. -/
def endOfDay : TimeOfDay := ⟨86399 * nanosPerSecond, by decide⟩

/-- The whole seconds since midnight. -/
def seconds (t : TimeOfDay) : Nat :=
  t.nanos / nanosPerSecond

/-- The hour that a clock shows. -/
def hour (t : TimeOfDay) : Nat :=
  t.seconds / 3600

/-- The minute that a clock shows. -/
def minute (t : TimeOfDay) : Nat :=
  t.seconds / 60 % 60

/-- The second that a clock shows. -/
def second (t : TimeOfDay) : Nat :=
  t.seconds % 60

/-- The nanoseconds since the last full second. -/
def fraction (t : TimeOfDay) : Nat :=
  t.nanos % nanosPerSecond

end TimeOfDay

/-- A date and a time of day. -/
structure DateTime where
  date : Date
  time : TimeOfDay
  deriving DecidableEq, Repr

/-- The date-time at a time of day of a date. -/
def Date.at (d : Date) (t : TimeOfDay) : DateTime :=
  ⟨d, t⟩

namespace DateTime

/-- The nanoseconds since the beginning of 1970. -/
def instant (t : DateTime) : Int :=
  t.date.day * nanosPerDay + t.time.nanos

instance : LT DateTime := ⟨fun a b => a.instant < b.instant⟩
instance : LE DateTime := ⟨fun a b => a.instant ≤ b.instant⟩
instance (a b : DateTime) : Decidable (a < b) :=
  inferInstanceAs (Decidable (a.instant < b.instant))
instance (a b : DateTime) : Decidable (a ≤ b) :=
  inferInstanceAs (Decidable (a.instant ≤ b.instant))

/-- The nanoseconds from one date-time to another, negative when the other is earlier. -/
def nanosUntil (t later : DateTime) : Int :=
  later.instant - t.instant

/-- The whole seconds from one date-time to another; a part of a second is dropped. -/
def secondsUntil (t later : DateTime) : Int :=
  (t.nanosUntil later).tdiv nanosPerSecond

/-- The last whole second that is not after a date-time, counted from the beginning of 1970. -/
def epochSeconds (t : DateTime) : Int :=
  t.date.day * 86400 + t.time.seconds

/-- The date-time some seconds after the beginning of 1970, when the calendar has it. -/
def ofEpochSeconds? (s : Int) : Option DateTime :=
  match Date.ofDay? (s / 86400), TimeOfDay.ofNanos? ((s % 86400).toNat * nanosPerSecond) with
  | some date, some time => some ⟨date, time⟩
  | _, _ => none

end DateTime

/-! ### Written dates and times -/

open Text in
/-- The year with four digits, and with a sign when it is not between 0 and 9999. -/
def yearText (year : Int) : String :=
  if 0 ≤ year ∧ year ≤ 9999 then padded 4 year.toNat
  else (if year < 0 then "-" else "+") ++ padded 4 year.natAbs

open Text in
/-- The date as day, month and year with slashes between them. -/
def Date.slashed (d : Date) : String :=
  let c := d.civil
  padded 2 c.day ++ "/" ++ padded 2 c.month ++ "/" ++ yearText c.year

open Text in
/-- The hour and the minute with a colon between them. -/
def TimeOfDay.clock (t : TimeOfDay) : String :=
  padded 2 t.hour ++ ":" ++ padded 2 t.minute

/-- The date with slashes, followed by the hour and the minute. -/
def DateTime.slashed (t : DateTime) : String :=
  t.date.slashed ++ " " ++ t.time.clock

end Agenda
