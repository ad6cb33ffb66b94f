import Agenda.Task.Basic

/-!
# Countdown to the end of a task

The time between now and the end of a task in words, such as `2 days, 3 hours from now.`. A month
is four weeks and a year twelve months, so anything longer than a week is approximate.
-/

namespace Agenda

/-- The units of a countdown, largest first, with the number of each that makes up one of the
next larger; years are not bounded. -/
inductive CountdownUnit where
  | year | month | week | day | hour | minute
  deriving DecidableEq, Repr

namespace CountdownUnit

/-- All units, largest first. -/
def all : List CountdownUnit := [year, month, week, day, hour, minute]

/-- The minutes of a unit. -/
def minutes : CountdownUnit → Nat
  | minute => 1
  | hour => 60
  | day => 24 * 60
  | week => 7 * 24 * 60
  | month => 4 * 7 * 24 * 60
  | year => 12 * 4 * 7 * 24 * 60

/-- The name of one unit. -/
def name : CountdownUnit → String
  | year => "year"
  | month => "month"
  | week => "week"
  | day => "day"
  | hour => "hour"
  | minute => "minute"

end CountdownUnit

/-- A number of minutes spelt in units, largest first: as many as fit of each unit, then the rest
in the smaller units. Units that do not occur are left out. -/
def spellMinutes : List CountdownUnit → Nat → List (Nat × CountdownUnit)
  | [], _ => []
  | unit :: rest, n =>
    let count := n / unit.minutes
    if count = 0 then spellMinutes rest n
    else (count, unit) :: spellMinutes rest (n % unit.minutes)

/-- A count of a unit in words, with the plural except for one. -/
def countText (count : Nat) (unit : CountdownUnit) : String :=
  if count = 1 then "1 " ++ unit.name else toString count ++ " " ++ unit.name ++ "s"

/-- The time from `now` to the end of the task in words; nothing when the task has no end. -/
def Task.countdown (t : Task) (now : DateTime) : Option String :=
  t.ends.map fun ends =>
    let seconds := now.secondsUntil ends
    let parts := (spellMinutes CountdownUnit.all (seconds.natAbs / 60)).map
      fun (count, unit) => countText count unit
    let amount := if parts.isEmpty then "less than a minute" else ", ".intercalate parts
    amount ++ (if seconds < 0 then " ago." else " from now.")

end Agenda
