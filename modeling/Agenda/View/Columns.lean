import Agenda.View.Listing

/-!
# The columns of a listing

The texts that a table and a screen show for an entry: a mark for its state, its time, and its
tags.
-/

namespace Agenda.Entry

/-- The mark for the state of an entry: done, overdue, ongoing or none of these. -/
def marker (e : Entry) (now : DateTime) : String :=
  if e.task.done then "✔"
  else if e.task.isOverdue now then "!"
  else if e.task.isOngoing now then "▶"
  else ""

/-- The time of an entry: a period, a deadline, a beginning, or nothing. -/
def timeText (e : Entry) : String :=
  match e.task.starts, e.task.ends with
  | some starts, some ends => starts.slashed ++ " - " ++ ends.slashed
  | none, some ends => "by " ++ ends.slashed
  | some starts, none => "from " ++ starts.slashed
  | none, none => ""

/-- The tags of an entry, each after a `#`. -/
def tagText (e : Entry) : String :=
  " ".intercalate (e.task.tags.names.map ("#" ++ ·))

end Agenda.Entry
