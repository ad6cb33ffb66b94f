import Agenda.Task.Countdown

/-!
# Listings

What a list of tasks looks like to the user: entries, each a task with its number, and views,
which are entries together with all that depends on the time of looking.
-/

namespace Agenda

/-- A task with its number in the list, counted from one. -/
structure Entry where
  id : Nat
  task : Task
  deriving DecidableEq

namespace Entry

/-- The tasks with their numbers, from a first number on. -/
def numberFrom (id : Nat) : List Task → List Entry
  | [] => []
  | t :: rest => ⟨id, t⟩ :: numberFrom (id + 1) rest

/-- The tasks with their numbers. -/
def number (tasks : List Task) : List Entry :=
  numberFrom 1 tasks

end Entry

/-- An entry as it looks at a time. -/
structure View extends Entry where
  isOverdue : Bool
  isOngoing : Bool
  isDueToday : Bool
  isDueTomorrow : Bool
  countdown : Option String
  deriving DecidableEq

/-- The view of an entry, if the calendar has the day after `now` or does not need it. -/
def Entry.view? (e : Entry) (now : DateTime) : Option View :=
  (e.task.isDueTomorrow? now).map fun isDueTomorrow =>
    { e with
      isOverdue := e.task.isOverdue now
      isOngoing := e.task.isOngoing now
      isDueToday := e.task.isDueToday now
      isDueTomorrow
      countdown := e.task.countdown now }

/-- Entries as of a time. -/
structure Listing where
  entries : List Entry
  asOf : DateTime
  deriving DecidableEq

/-- The views of all entries at the time of the listing. -/
def Listing.views? (l : Listing) : Option (List View) :=
  l.entries.mapM fun e => e.view? l.asOf

end Agenda
