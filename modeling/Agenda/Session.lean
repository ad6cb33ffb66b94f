import Agenda.History
import Agenda.Language.Action

/-!
# Sessions

A session runs lines of text one at a time against a store. Each line is answered by a reply: a
message with a status, and perhaps a request to the screen. Between lines a session can tell
which task is about to begin.
-/

namespace Agenda

/-- How a line went. -/
inductive Status where
  /-- The list has changed. -/
  | success
  /-- The line was refused or could not be carried out. -/
  | failure
  /-- Nothing has changed, and nothing went wrong. -/
  | normal
  deriving DecidableEq, Repr

/-- What a reply asks of the screen. -/
inductive Request where
  | showTasks (title : String) (views : List View)
  | hide
  | help
  | about
  | settings
  | exit
  deriving DecidableEq

/-- The answer to a line. -/
structure Reply where
  status : Status
  message : String := ""
  request : Option Request := none
  deriving DecidableEq

/-- A task about to begin, and what to tell the user. -/
structure Reminder where
  task : Task
  message : String
  deriving DecidableEq

/-- A store with the history of the commands run on it. -/
structure Session where
  store : Store
  history : History := {}
  implicitAdd : Bool := false
  deriving DecidableEq

namespace Session

/-- The entries that a filter selects, with their numbers in the whole list. -/
def select? (filter : Filter) (now : DateTime) : List Entry → Option (List Entry)
  | [] => some []
  | e :: rest => do
    let selected ← filter.selects? e.task now
    let more ← select? filter now rest
    return if selected then e :: more else more

/-- The reply that shows what a filter selects. -/
def showing? (s : Session) (filter : Filter) (now : DateTime) : Option Reply := do
  let entries ← select? filter now s.store.entries
  let views ← Listing.views? ⟨entries, now⟩
  return {
    status := .normal
    message := "Showing " ++ filter.title ++ " (" ++ toString entries.length ++ ")."
    request := some (.showTasks filter.title views) }

/-- The reply to something that went wrong. -/
def failure (message : String) : Reply :=
  ⟨.failure, message, none⟩

/-- Does what a line asks for. -/
def perform (s : Session) (now : DateTime) : Action → Option (Reply × Session)
  | .execute command =>
    match (History.execute command).run (s.history, s.store) with
    | .ok () (history, store) =>
      some (⟨.success, command.confirmation, none⟩, { s with history, store })
    | .error error (history, store) => some (failure error.message, { s with history, store })
  | .undo =>
    match History.undo.run (s.history, s.store) with
    | .ok (some command) (history, store) =>
      some (⟨.success, "Undid " ++ command.word ++ ".", none⟩, { s with history, store })
    | .ok none (history, store) =>
      some (⟨.normal, "Nothing to undo", none⟩, { s with history, store })
    | .error error (history, store) => some (failure error.message, { s with history, store })
  | .redo =>
    match History.redo.run (s.history, s.store) with
    | .ok (some command) (history, store) =>
      some (⟨.success, "Redid " ++ command.word ++ ".", none⟩, { s with history, store })
    | .ok none (history, store) =>
      some (⟨.normal, "Nothing to redo", none⟩, { s with history, store })
    | .error error (history, store) => some (failure error.message, { s with history, store })
  | .show filter => (s.showing? filter now).map fun reply => (reply, s)
  | .hide => some (⟨.normal, "", some .hide⟩, s)
  | .help => some (⟨.normal, "", some .help⟩, s)
  | .about => some (⟨.normal, "", some .about⟩, s)
  | .settings => some (⟨.normal, "", some .settings⟩, s)
  | .exit => some (⟨.normal, "", some .exit⟩, s)

/-- Runs a line as of a time. There is no answer when the line needs a date that the calendar does
not have. -/
def run (s : Session) (text : String) (now : DateTime) : Option (Reply × Session) :=
  match Action.ofText s.implicitAdd s.store.list text now with
  | .read action => s.perform now action
  | .refused cause => some (failure cause.message, s)
  | .offCalendar => none

/-! ### Reminders -/

/-- The nanoseconds of a number of minutes, if a span of time can hold it: its milliseconds and
their negative have to be integers of 64 bits. -/
def spanOfMinutes? (minutes : Int) : Option Int :=
  if -Int64.maxValue.toInt ≤ minutes * 60000 ∧ minutes * 60000 ≤ Int64.maxValue.toInt then
    some (minutes * 60 * nanosPerSecond)
  else none

/-- The message of a reminder some seconds ahead. Minutes are rounded up, so that a task half a
minute ahead is not zero minutes away. -/
def reminderMessage (t : Task) (seconds : Int) : String :=
  let minutes := (seconds + 59).tdiv 60
  "Next task: " ++ t.description ++ " begins in " ++ toString minutes
    ++ (if minutes = 1 then " minute." else " minutes.")

/-- A reminder of the next task, if it begins within the given minutes. There is no answer when
there is a next task and the minutes are more than a span of time can hold. -/
def reminder? (s : Session) (now : DateTime) (minutes : Int) : Option (Option Reminder) :=
  match s.store.soonest? now with
  | none => some none
  | some (starts, t) =>
    (spanOfMinutes? minutes).map fun span =>
      if span < now.nanosUntil starts then none
      else some ⟨t, reminderMessage t (now.secondsUntil starts)⟩

end Session

end Agenda
