import Agenda.Calendar.DateTime
import Agenda.Task.TagSet

/-!
# Why a line is refused

Everything that can be wrong with a line of text, each cause with what its message needs, and the
result of reading a line. Reading has a third outcome besides a value and a refusal: the dates
that a line asks about may lie outside the calendar, and then there is no answer at all.
-/

namespace Agenda

/-- A reason for which a line of text is not understood or not acted on. -/
inductive Refusal where
  /-- The line begins with no known command. -/
  | unknownCommand (text : String)
  /-- A task would have more than ten tags. -/
  | tooManyTags
  /-- More than one date, time or period is given. -/
  | tooManyTimes
  /-- A period begins after it ends. -/
  | endsBeforeStart (starts ends : DateTime)
  /-- A range lacks an end or has too many. -/
  | malformedRange (text : String)
  /-- A range of ids begins after it ends. -/
  | descendingRange (first last : Nat)
  /-- An id is neither a number nor a word for one. -/
  | malformedId (text : String)
  /-- An id is not the number of a task. -/
  | unknownId (id total : Nat)
  /-- There is no description to add. -/
  | nothingToAdd
  /-- There is nothing to change. -/
  | nothingToChange
  /-- A removal names no task. -/
  | noIdToRemove
  /-- An edit names no task. -/
  | noIdToEdit
  /-- No task to mark as done is named. -/
  | noIdToMark
  /-- No task to mark as not done is named. -/
  | noIdToUnmark
  /-- A mark that takes something away is used on a new task. -/
  | onlyForEdits (mark : String)
  /-- A tag has no name. -/
  | namelessTag
  /-- A time is announced but not given. -/
  | missingTime
  /-- A word is neither a date nor a time. -/
  | unknownTime (text : String)
  /-- Nothing has been added yet. -/
  | nothingAdded
  /-- The list is empty. -/
  | emptyList
  deriving DecidableEq

/-- The message that the user sees. -/
def Refusal.message : Refusal → String
  | unknownCommand text => "I don't know what to do for '" ++ text ++ "'."
  | tooManyTags => "A task can't have more than " ++ toString maximumTags ++ " tags."
  | tooManyTimes => "You can't have more than 2 time periods or deadlines in a task."
  | endsBeforeStart starts ends =>
    "Start time (" ++ starts.slashed ++ ") is after end time (" ++ ends.slashed ++ ")."
  | malformedRange text => "'" ++ text ++ "' doesn't look like a valid range."
  | descendingRange first last =>
    "Start number (" ++ toString first ++ ") is after end number (" ++ toString last ++ ")."
  | malformedId text => "'" ++ text ++ "' doesn't look like a number."
  | unknownId id total =>
    "There is no task '" ++ toString id ++ "'. Please give a number between 1 and "
      ++ toString total ++ "."
  | nothingToAdd => "You need to tell me what to add."
  | nothingToChange => "You need to tell me what you want to change for the task."
  | noIdToRemove => "You need to tell me which task(s) to remove."
  | noIdToEdit => "You need to tell me which task to edit."
  | noIdToMark => "You need to tell me what to mark as done."
  | noIdToUnmark => "You need to tell me what to mark as undone."
  | onlyForEdits mark => "'" ++ mark ++ "' can only be used when editing a task."
  | namelessTag => "Please give a name for your tag."
  | missingTime => "Please give me a valid deadline for this task."
  | unknownTime text => "'" ++ text ++ "' doesn't look like a date or time I understand."
  | nothingAdded => "There is no last task."
  | emptyList => "There are no tasks."

/-- The result of reading text that may speak of dates. -/
inductive Reading (α : Type) where
  /-- The text is understood. -/
  | read (value : α)
  /-- The text is refused. -/
  | refused (cause : Refusal)
  /-- A date that the reading needs is not in the calendar. -/
  | offCalendar
  deriving DecidableEq

namespace Reading

variable {α β : Type}

/-- Goes on with the value that is read; a refusal and a missing date end the reading. -/
def bind (r : Reading α) (f : α → Reading β) : Reading β :=
  match r with
  | read value => f value
  | refused cause => refused cause
  | offCalendar => offCalendar

instance : Monad Reading where
  pure := read
  bind := bind

/-- The outcome of a step that needs no dates. -/
def ofExcept : Except Refusal α → Reading α
  | .ok value => read value
  | .error cause => refused cause

@[simp] theorem read_bind (value : α) (f : α → Reading β) : (read value >>= f) = f value := rfl

@[simp] theorem refused_bind (cause : Refusal) (f : α → Reading β) :
    (refused cause >>= f) = refused cause := rfl

@[simp] theorem offCalendar_bind (f : α → Reading β) :
    (offCalendar >>= f) = (offCalendar : Reading β) := rfl

@[simp] theorem pure_eq_read (value : α) : (pure value : Reading α) = read value := rfl

/-- A reading goes on to a value only through a value of its own. -/
@[simp] theorem bind_eq_read_iff {r : Reading α} {f : α → Reading β} {value : β} :
    (r >>= f) = read value ↔ ∃ a, r = read a ∧ f a = read value := by
  cases r <;> simp

@[simp] theorem map_eq_read_iff {r : Reading α} {f : α → β} {value : β} :
    (f <$> r) = read value ↔ ∃ a, r = read a ∧ f a = value := by
  cases r <;> simp [Functor.map, bind]

@[simp] theorem ofExcept_eq_read_iff {r : Except Refusal α} {value : α} :
    ofExcept r = read value ↔ r = .ok value := by
  cases r <;> simp [ofExcept]

end Reading

end Agenda
