import Agenda.Language.Period
import Agenda.Task.Basic
import Agenda.Text.Search

/-!
# Filters

What a request to show tasks can select: all of them, those in some state, those with a tag, those
due on a day, and otherwise those whose description contains the text of the request.
-/

namespace Agenda

open Text

/-- A selection of tasks. -/
inductive Filter where
  | all | done | undone | ongoing | overdue | today | tomorrow
  | tag (name : String)
  | dueOn (date : Date)
  | description (text : String)
  deriving DecidableEq

namespace Filter

/-- The filter that a single word names. -/
def named? (word : String) : Option Filter :=
  match word with
  | "" => some all
  | "all" => some all
  | "everything" => some all
  | "done" => some done
  | "undone" => some undone
  | "ongoing" => some ongoing
  | "overdue" => some overdue
  | "today" => some today
  | "tomorrow" => some tomorrow
  | _ => none

/-- The filter that the argument of a request describes. An `@` before it is of no account. -/
def ofText (s : String) (now : DateTime) : Reading Filter :=
  let text := trim (s.toList.dropWhile (· == '@'))
  match named? (String.ofList (lower text)) with
  | some filter => .read filter
  | none =>
    match text with
    | ['#'] => .refused .namelessTag
    | '#' :: name => .read (tag (String.ofList name))
    | _ =>
      match Period.dayOfPhrase (String.ofList text) now with
      | .read date => .read (dueOn date)
      | .refused _ => .read (description (String.ofList text))
      | .offCalendar => .offCalendar

/-- The title of the tasks that a filter selects. -/
def title : Filter → String
  | all => "all tasks"
  | done => "done tasks"
  | undone => "undone tasks"
  | ongoing => "ongoing tasks"
  | overdue => "overdue tasks"
  | today => "tasks due today"
  | tomorrow => "tasks due tomorrow"
  | tag name => "tasks tagged #" ++ name
  | dueOn date => "tasks due on " ++ date.slashed
  | description text => "tasks containing \"" ++ text ++ "\""

/-- Whether a filter selects a task. Only `tomorrow` asks for a day that the calendar may not
have. -/
def selects? (filter : Filter) (t : Task) (now : DateTime) : Option Bool :=
  match filter with
  | all => some true
  | done => some t.done
  | undone => some (!t.done)
  | ongoing => some (t.isOngoing now)
  | overdue => some (t.isOverdue now)
  | today => some (t.isDueToday now)
  | tomorrow => t.isDueTomorrow? now
  | tag name => some (t.tags.names.any (isSame false name))
  | dueOn date => some (t.isDueOn date now)
  | description text => some (isWithin false text t.description)

end Filter

end Agenda
