import Agenda.Calendar.DateTime
import Agenda.Task.TagSet

/-!
# Tasks

A task has a description, tags, an optional beginning, an optional end and a mark that it is
done. It has no identity beyond these: two tasks that agree in all of them are equal, and the
number that a user sees is only the place of the task in the current list.
-/

namespace Agenda

/-- A single thing to do. -/
structure Task where
  description : String
  tags : TagSet := ∅
  starts : Option DateTime := none
  ends : Option DateTime := none
  done : Bool := false
  deriving DecidableEq

namespace Task

/-- A task without any time. -/
def isFloating (t : Task) : Bool :=
  t.starts.isNone && t.ends.isNone

/-- A task with both a beginning and an end. -/
def isEvent (t : Task) : Bool :=
  t.starts.isSome && t.ends.isSome

/-- The end of the task lies before `now`. -/
def isOverdue (t : Task) (now : DateTime) : Bool :=
  match t.ends with
  | some ends => ends < now
  | none => false

/-- The task has begun and is not overdue. -/
def isOngoing (t : Task) (now : DateTime) : Bool :=
  match t.starts with
  | some starts => !t.isOverdue now && decide (starts < now)
  | none => false

/-- The end of the task falls on a date, or the task is overdue, which counts on any date. -/
def isDueOn (t : Task) (date : Date) (now : DateTime) : Bool :=
  match t.ends with
  | some ends =>
    t.isOverdue now ||
      (decide (date.at .midnight ≤ ends) && decide (ends ≤ date.at .endOfDay))
  | none => false

/-- The task is due today. An overdue task stays so while its end is not before today. -/
def isDueToday (t : Task) (now : DateTime) : Bool :=
  match t.ends with
  | some ends =>
    if t.isOverdue now then decide (now.date.at .midnight ≤ ends)
    else decide (ends ≤ now.date.at .endOfDay)
  | none => false

/-- The task is due tomorrow. There is no answer for a task with an end on the last day of the
calendar, which no tomorrow follows. -/
def isDueTomorrow? (t : Task) (now : DateTime) : Option Bool :=
  match t.ends with
  | none => some false
  | some ends =>
    match now.date.addDays? 1 with
    | none => none
    | some tomorrow =>
      if t.isOverdue now then some (decide (tomorrow.at .midnight ≤ ends))
      else
        some (decide (tomorrow.at .midnight ≤ ends) && decide (ends ≤ tomorrow.at .endOfDay))

end Task

end Agenda
