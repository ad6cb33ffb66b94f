import Agenda.Command
import Agenda.Language.Body
import Agenda.Language.Filter
import Agenda.Language.IdList
import Agenda.Language.Line

/-!
# What a line asks for

Interpreting a line yields an action: a command with all tasks that it is about, a request to show
something, or a request to undo, redo or leave. Interpretation looks at the task list, to know
which tasks the ids of a line mean, but changes nothing.
-/

namespace Agenda

open Text

/-- What a line asks for. -/
inductive Action where
  | execute (command : Command)
  | undo
  | redo
  | «show» (filter : Filter)
  | hide
  | help
  | about
  | settings
  | exit
  deriving DecidableEq

/-- What the ids of a line can refer to. -/
def TaskList.idScope (l : TaskList) : IdScope :=
  ⟨l.size, l.newest?⟩

namespace Action

/-! ### Tasks that a line names -/

/-- The tasks with the given ids, as they are now. -/
def targetsAt (l : TaskList) : List Nat → Except Refusal (List Target)
  | [] => .ok []
  | id :: rest =>
    match l.get? (id - 1) with
    | none => .error (.unknownId id l.size)
    | some task =>
      match targetsAt l rest with
      | .error cause => .error cause
      | .ok targets => .ok (⟨id - 1, task⟩ :: targets)

/-- The tasks that an id list names. -/
def targets (l : TaskList) (ids : String) : Except Refusal (List Target) := do
  targetsAt l (← IdList.resolve ids l.idScope)

/-! ### Adding -/

/-- The tags of a new task. Only additions are allowed. -/
def newTags (tags : TagSet) : List TagChange → Except Refusal TagSet
  | [] => .ok tags
  | .add name :: rest =>
    match tags.insert? name with
    | some tags => newTags tags rest
    | none => .error .tooManyTags
  | .remove name :: _ => .error (.onlyForEdits ("#-" ++ name))
  | .clear :: _ => .error (.onlyForEdits "-#")

/-- The task that a body describes, without its time. -/
def newTask (body : Body) : Except Refusal Task := do
  if body.dropsTime then throw (.onlyForEdits "-@")
  if body.description = "" then throw .nothingToAdd
  return { description := body.description, tags := ← newTags ∅ body.tags }

/-- A task with the time of a period. -/
def withPeriod (t : Task) (period : Option Period) : Task :=
  match period with
  | some period => { t with starts := period.starts, ends := some period.ends }
  | none => t

/-- Adds the task that a text describes. -/
def add (text : String) (now : DateTime) : Reading Command := do
  let body ← .ofExcept (Body.ofText text)
  let task ← .ofExcept (newTask body)
  let period ← Period.ofSegments body.times now
  return .add (withPeriod task period)

/-! ### Editing -/

/-- How much of a text, after the first id of a list, still belongs to the list: an id follows
after a dash with any blanks around it, or after a comma with any blanks behind it. -/
def idListTail (fuel : Nat) (text : List Char) : List Char :=
  match fuel with
  | 0 => []
  | fuel + 1 =>
    let gap := text.takeWhile isBlank
    match text.dropWhile isBlank with
    | [] => []
    | c :: rest =>
      if c = '-' ∨ (c = ',' ∧ gap = []) then
        let blanks := rest.takeWhile isBlank
        let rest := rest.dropWhile isBlank
        let id := rest.takeWhile isWordChar
        if id = [] then []
        else gap ++ [c] ++ blanks ++ id ++ idListTail fuel (rest.dropWhile isWordChar)
      else []

/-- The id list at the beginning of a text. -/
def idListStart? (text : List Char) : Option (List Char) :=
  let id := text.takeWhile isWordChar
  if id = [] then none
  else some (id ++ idListTail text.length (text.dropWhile isWordChar))

/-- The tags of an edited task without those that it loses. -/
def loseTags (tags : TagSet) (changes : List TagChange) : TagSet :=
  changes.foldl
    (fun tags change =>
      match change with
      | .remove name => tags.erase name
      | .clear => ∅
      | .add _ => tags)
    tags

/-- The tags of an edited task with those that it gets. -/
def gainTags (tags : TagSet) : List TagChange → Except Refusal TagSet
  | [] => .ok tags
  | .add name :: rest =>
    match tags.insert? name with
    | some tags => gainTags tags rest
    | none => .error .tooManyTags
  | _ :: rest => gainTags tags rest

/-- A task edited as a body says. Tags are lost before others are gained, so a full set can take
new ones. -/
def edited (t : Task) (body : Body) (period : Option Period) : Except Refusal Task :=
  let cleared := if body.dropsTime then { t with starts := none, ends := none } else t
  let timed := withPeriod cleared period
  (gainTags (loseTags t.tags body.tags) body.tags).map fun tags =>
    { timed with
      description := if body.description = "" then t.description else body.description
      tags }

/-- The edits of the tasks that a line names. -/
def edits (body : Body) (period : Option Period) : List Target → Except Refusal (List Revision)
  | [] => .ok []
  | target :: rest =>
    match edited target.task body period with
    | .error cause => .error cause
    | .ok after =>
      match edits body period rest with
      | .error cause => .error cause
      | .ok more => .ok (⟨target.position, target.task, after⟩ :: more)

/-- Edits the tasks that a text begins with, as the rest of it says. -/
def edit (l : TaskList) (text : String) (now : DateTime) : Reading Command :=
  match idListStart? text.toList with
  | none => .refused .noIdToEdit
  | some ids => do
    let named ← .ofExcept (IdList.resolve (String.ofList ids) l.idScope)
    let body ← .ofExcept (Body.ofText (String.ofList (trim (text.toList.drop ids.length))))
    if body.isEmpty then .refused .nothingToChange
    else
      let period ← Period.ofSegments body.times now
      let targets ← .ofExcept (targetsAt l named)
      return .edit (← .ofExcept (edits body period targets))

/-! ### Removing and marking -/

/-- Removes the tasks that a text names. -/
def remove (l : TaskList) (text : String) : Except Refusal Command :=
  if text = "" then .error .noIdToRemove else (targets l text).map .remove

/-- Marks the tasks that a text names. -/
def mark (l : TaskList) (text : String) (done : Bool) : Except Refusal Command :=
  if text = "" then .error (if done then .noIdToMark else .noIdToUnmark)
  else (targets l text).map (.mark · done)

/-! ### Lines -/

/-- The action of a line with a known verb. -/
def ofVerb (verb : Verb) (l : TaskList) (argument : String) (now : DateTime) : Reading Action :=
  match verb with
  | .add => execute <$> add argument now
  | .edit => execute <$> edit l argument now
  | .remove => execute <$> .ofExcept (remove l argument)
  | .done => execute <$> .ofExcept (mark l argument true)
  | .undone => execute <$> .ofExcept (mark l argument false)
  | .clear => .read (execute (.clear l.tasks))
  | .«show» => «show» <$> Filter.ofText argument now
  | .undo => .read undo
  | .redo => .read redo
  | .hide => .read hide
  | .help => .read help
  | .about => .read about
  | .settings => .read settings
  | .exit => .read exit

/-- What a line of text asks for. With `implicitAdd`, a line that begins with no command word adds
a task. -/
def ofText (implicitAdd : Bool) (l : TaskList) (text : String) (now : DateTime) :
    Reading Action :=
  let line := Line.ofText text
  match line.verb? with
  | some verb => ofVerb verb l line.argument now
  | none =>
    if implicitAdd && line.text != "" then execute <$> add line.text now
    else .refused (.unknownCommand line.text)

end Action

end Agenda
