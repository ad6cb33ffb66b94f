import Agenda.Language.Phrase
import Agenda.Text.Decimal

/-!
# Periods and deadlines

A phrase for a time names one endpoint, which is a deadline, or two with a dash between them. An
endpoint is a date, a time of day or both, in either order. What a period leaves open is filled
in: an endpoint without a date takes that of the other one or else today, a beginning without a
time is the start of its day, and an end without a time is the last second of its day.
-/

namespace Agenda

open Text

/-- A period, or a deadline when there is no beginning. -/
structure Period where
  starts : Option DateTime
  ends : DateTime
  deriving DecidableEq

namespace Period

/-- The date and the time of day that one side of a period gives. -/
structure Endpoint where
  date : Option Date := none
  time : Option TimeOfDay := none
  deriving DecidableEq

/-! ### Dates and times in figures -/

/-- A number of one or two digits. -/
def shortNumber? (text : List Char) : Option Nat :=
  if text.length ≤ 2 then readDigits? text else none

/-- A year of four digits, or one of this millennium with its last two digits. -/
def year? (text : List Char) : Option Int :=
  match readDigits? text with
  | none => none
  | some n =>
    if text.length = 4 then some n else if text.length = 2 then some (2000 + n : Int) else none

/-- The date that a word with slashes writes, day first. Without a year it is one of this year. -/
def date? (today : Date) (word : List Char) : Option Date :=
  match fields (· == '/') word with
  | [day, month] => do
    Date.ofCivil? ⟨today.civil.year, ← shortNumber? month, ← shortNumber? day⟩
  | [day, month, year] => do
    Date.ofCivil? ⟨← year? year, ← shortNumber? month, ← shortNumber? day⟩
  | _ => none

/-- The halves of a day on a clock with twelve hours. -/
inductive Meridiem where
  | am | pm
  deriving DecidableEq, Repr

/-- The half of the day that a word names. -/
def Meridiem.ofWord? (word : List Char) : Option Meridiem :=
  if word = "am".toList then some .am
  else if word = "pm".toList then some .pm
  else none

/-- A clock time in figures: an hour, perhaps a minute, perhaps the half of the day. -/
structure Figures where
  hour : Nat
  minute : Option Nat
  meridiem : Option Meridiem
  deriving DecidableEq, Repr

/-- The half of the day at the end of a word, and the word without it. -/
def splitMeridiem (word : List Char) : List Char × Option Meridiem :=
  match Meridiem.ofWord? (word.drop (word.length - 2)) with
  | some half => (word.take (word.length - 2), some half)
  | none => (word, none)

/-- The clock time that a word writes. -/
def figures? (word : List Char) : Option Figures :=
  let (digits, meridiem) := splitMeridiem word
  match fields (· == ':') digits with
  | [hour] => do return ⟨← shortNumber? hour, none, meridiem⟩
  | [hour, minute] =>
    if minute.length = 2 then do
      return ⟨← shortNumber? hour, some (← shortNumber? minute), meridiem⟩
    else none
  | _ => none

/-- The time of day of figures. Twelve hours need a half of the day and begin at twelve; without
a half, a minute must be there to tell a time from a bare number. -/
def Figures.time? (f : Figures) : Option TimeOfDay :=
  let minute := f.minute.getD 0
  match f.meridiem with
  | some half =>
    if 1 ≤ f.hour ∧ f.hour ≤ 12 then
      TimeOfDay.ofClock? (f.hour % 12 + (if half = .pm then 12 else 0)) minute 0
    else none
  | none => if f.minute.isSome then TimeOfDay.ofClock? f.hour minute 0 else none

/-! ### Endpoints -/

/-- The endpoint with a date, unless it has one already. -/
def Endpoint.setDate (e : Endpoint) (date : Date) : Except Refusal Endpoint :=
  if e.date.isSome then .error .tooManyTimes else .ok { e with date := some date }

/-- The endpoint with a time of day, unless it has one already. -/
def Endpoint.setTime (e : Endpoint) (time : TimeOfDay) : Except Refusal Endpoint :=
  if e.time.isSome then .error .tooManyTimes else .ok { e with time := some time }

/-- Adds the dates and times of words to an endpoint. The word after a clock time may be its half
of the day. -/
def Endpoint.addWords (today : Date) (e : Endpoint) : List (List Char) → Except Refusal Endpoint
  | [] => .ok e
  | word :: rest =>
    match date? today word with
    | some date =>
      match e.setDate date with
      | .error cause => .error cause
      | .ok e => e.addWords today rest
    | none =>
      let refusal := Refusal.unknownTime (String.ofList word)
      match figures? word with
      | none => .error refusal
      | some f =>
        match f.meridiem, rest with
        | none, next :: rest =>
          match Meridiem.ofWord? next with
          | some half =>
            match { f with meridiem := some half }.time? with
            | none => .error refusal
            | some time =>
              match e.setTime time with
              | .error cause => .error cause
              | .ok e => e.addWords today rest
          | none =>
            match f.time? with
            | none => .error refusal
            | some time =>
              match e.setTime time with
              | .error cause => .error cause
              | .ok e => e.addWords today (next :: rest)
        | _, rest =>
          match f.time? with
          | none => .error refusal
          | some time =>
            match e.setTime time with
            | .error cause => .error cause
            | .ok e => e.addWords today rest

/-- The endpoint that a text names. -/
def Endpoint.ofText (today : Date) (text : List Char) : Except Refusal Endpoint :=
  match words text with
  | [] => .error .missingTime
  | ws => Endpoint.addWords today {} ws

/-- An endpoint as the end of a period or deadline. -/
def Endpoint.asEnd (e : Endpoint) (today : Date) : DateTime :=
  (e.date.getD today).at (e.time.getD .endOfDay)

/-- An endpoint as the beginning of a period. -/
def Endpoint.asStart (e : Endpoint) (today : Date) : DateTime :=
  (e.date.getD today).at (e.time.getD .midnight)

/-! ### Periods -/

/-- The period between two endpoints; each lends its date to the other. -/
def between (today : Date) (first second : Endpoint) : Except Refusal Period :=
  let starts := { first with date := first.date <|> second.date }.asStart today
  let ends := { second with date := second.date <|> first.date }.asEnd today
  if ends < starts then .error (.endsBeforeStart starts ends)
  else .ok { starts := some starts, ends }

/-- The period or deadline that a text in figures names. The phrase as it was typed is quoted when
one side of its dash is empty. -/
def ofFigures (today : Date) (phrase : String) (text : List Char) : Except Refusal Period :=
  if (trim text).isEmpty then .error .missingTime
  else
    match fields (· == '-') text with
    | [single] =>
      (Endpoint.ofText today single).map fun e => { starts := none, ends := e.asEnd today }
    | [first, second] =>
      if (trim first).isEmpty || (trim second).isEmpty then
        .error (.malformedRange (String.ofList (trim phrase.toList)))
      else
        match Endpoint.ofText today first with
        | .error cause => .error cause
        | .ok first =>
          match Endpoint.ofText today second with
          | .error cause => .error cause
          | .ok second => between today first second
    | _ => .error .tooManyTimes

/-- The period or deadline that the times segments of a body name together; nothing when there
are none. -/
def ofSegments (segments : List String) (now : DateTime) : Reading (Option Period) :=
  if segments.isEmpty then .read none
  else
    match Phrase.NamedDays.of? now.date with
    | none => .offCalendar
    | some days =>
      let phrase := " ".intercalate segments
      .ofExcept ((ofFigures now.date phrase (Phrase.inFigures days phrase)).map some)

/-- The single day that a phrase names. -/
def dayOfPhrase (phrase : String) (now : DateTime) : Reading Date := do
  match ← ofSegments [phrase] now with
  | some { starts := none, ends } => return ends.date
  | some { starts := some _, .. } =>
    .refused (.unknownTime (String.ofList (Text.trim phrase.toList)))
  | none => .refused .missingTime

end Period

end Agenda
