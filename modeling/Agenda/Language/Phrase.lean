import Agenda.Language.Refusal
import Agenda.Text.LowerCase
import Agenda.Text.Word

/-!
# Phrases for times

Before a phrase for a time is read, its words are put into figures: filler words and commas
become blanks, `to` becomes a dash, the name of a day becomes a date with slashes, and the name
of a time of day becomes a clock time. The substitution goes word by word, and only the phrase
`day after tomorrow` spans several words.
-/

namespace Agenda

open Text

namespace Phrase

/-- The dates that the names of days stand for on a given day. -/
structure NamedDays where
  yesterday : Date
  today : Date
  tomorrow : Date
  afterTomorrow : Date
  /-- The next date of each day of the week, never today. -/
  next : Weekday → Date

/-- The next dates of all days of the week, if the calendar has them. -/
def nextDates? (today : Date) : Option (Weekday → Date) := do
  let sunday ← today.next? .sunday
  let monday ← today.next? .monday
  let tuesday ← today.next? .tuesday
  let wednesday ← today.next? .wednesday
  let thursday ← today.next? .thursday
  let friday ← today.next? .friday
  let saturday ← today.next? .saturday
  return fun
    | .sunday => sunday
    | .monday => monday
    | .tuesday => tuesday
    | .wednesday => wednesday
    | .thursday => thursday
    | .friday => friday
    | .saturday => saturday

/-- What the names of days stand for, provided that the calendar has the day before and the seven
days after. -/
def NamedDays.of? (today : Date) : Option NamedDays := do
  let yesterday ← today.addDays? (-1)
  let tomorrow ← today.addDays? 1
  let afterTomorrow ← today.addDays? 2
  let next ← nextDates? today
  return { yesterday, today, tomorrow, afterTomorrow, next }

/-- The words that say nothing about a time. -/
def fillers : List String := ["this", "next", "the"]

/-- The date that a single word names. -/
def NamedDays.date? (days : NamedDays) (word : String) : Option Date :=
  if word = "yesterday" then some days.yesterday
  else if word ∈ ["today", "2day"] then some days.today
  else if word ∈ ["tomorrow", "tmr", "tml"] then some days.tomorrow
  else if word ∈ ["monday", "mon"] then some (days.next .monday)
  else if word ∈ ["tuesday", "tues", "tue"] then some (days.next .tuesday)
  else if word ∈ ["wednesday", "wed"] then some (days.next .wednesday)
  else if word ∈ ["thursday", "thurs", "thur", "thu"] then some (days.next .thursday)
  else if word ∈ ["friday", "fri"] then some (days.next .friday)
  else if word ∈ ["saturday", "sat"] then some (days.next .saturday)
  else if word ∈ ["sunday", "sun"] then some (days.next .sunday)
  else none

/-- The clock time that a word names. -/
def namedTime? (word : String) : Option String :=
  match word with
  | "dawn" => some "06:00"
  | "morning" => some "10:00"
  | "noon" => some "12:00"
  | "afternoon" => some "18:00"
  | "evening" => some "20:00"
  | "night" => some "22:00"
  | "midnight" => some "23:59"
  | _ => none

/-- What stands for a run in figures; a run that is no known word stands for itself. -/
def figures (days : NamedDays) (run : List Char) : List Char :=
  let word := String.ofList run
  if word ∈ fillers then [' ']
  else if word = "to" then ['-']
  else
    match days.date? word, namedTime? word with
    | some date, _ => date.slashed.toList
    | none, some time => time.toList
    | none, none => run

/-- The runs of the phrase for the date after tomorrow. -/
def dayAfterTomorrow : List (List Char) :=
  ["day".toList, [' '], "after".toList, [' '], "tomorrow".toList]

/-- Puts runs into figures. -/
def substitute (days : NamedDays) : List (List Char) → List (List Char)
  | [] => []
  | a :: b :: c :: d :: e :: rest =>
    if [a, b, c, d, e] = dayAfterTomorrow then
      days.afterTomorrow.slashed.toList :: substitute days rest
    else figures days a :: substitute days (b :: c :: d :: e :: rest)
  | run :: rest => figures days run :: substitute days rest

/-- A phrase in lower case and in figures. -/
def inFigures (days : NamedDays) (phrase : String) : List Char :=
  let text := (lower phrase.toList).map fun c => if c = ',' then ' ' else c
  (substitute days (runs text)).flatten

end Phrase

end Agenda
