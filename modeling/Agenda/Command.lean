import Agenda.Store.Draft

/-!
# Commands

A command is a change of the task list that can be taken back. It holds all that both directions
need: the tasks as they were when the command was made, with their positions then. Since the list
is sorted anew after each change, a task is looked for by its position first and by its value
otherwise.
-/

namespace Agenda

/-- A task and the position that it had when a command was made. -/
structure Target where
  position : Nat
  task : Task
  deriving DecidableEq

/-- A task before and after an edit, and the position that it had when the edit was made. -/
structure Revision where
  position : Nat
  before : Task
  after : Task
  deriving DecidableEq

/-- A change of the task list that can be taken back. Targets are in ascending order of
position. -/
inductive Command where
  /-- Adds a task. -/
  | add (task : Task)
  /-- Removes tasks. -/
  | remove (targets : List Target)
  /-- Gives tasks new values. -/
  | edit (targets : List Revision)
  /-- Marks tasks as done, or as not done. -/
  | mark (targets : List Target) (done : Bool)
  /-- Removes all tasks, which were the given ones. -/
  | clear (tasks : List Task)
  deriving DecidableEq

namespace Command

/-- The word for what a command does. -/
def word : Command → String
  | add _ => "add"
  | remove _ => "remove"
  | edit _ => "edit"
  | mark _ true => "done"
  | mark _ false => "undone"
  | clear _ => "clear"

/-- The confirmation that the user sees after the command. -/
def confirmation : Command → String
  | add task => "Added \"" ++ task.description ++ "\"."
  | remove [one] => "Removed \"" ++ one.task.description ++ "\"."
  | remove targets => "Removed " ++ toString targets.length ++ " tasks."
  | edit [one] => "Edited task " ++ toString (one.position + 1) ++ "."
  | edit targets => "Edited " ++ toString targets.length ++ " tasks."
  | mark targets done =>
    let state := if done then "done" else "not done"
    match targets with
    | [one] => "Marked \"" ++ one.task.description ++ "\" as " ++ state ++ "."
    | many => "Marked " ++ toString many.length ++ " tasks as " ++ state ++ "."
  | clear tasks => "Cleared " ++ toString tasks.length ++ " tasks."

/-- Puts one task in place of another, wherever that is now. -/
def swap (old new : Task) (hint : Option Nat := none) : Draft Unit := do
  let position ← .ask (·.positionOf old hint)
  let _ ← .step (·.replace position new)

/-- Removes a target, wherever it is now. -/
def removeTarget (target : Target) : Draft Unit := do
  let position ← .ask (·.positionOf target.task (some target.position))
  let _ ← .step (·.remove position)

/-- Carries a command out. Removals and marks go from the last target to the first, so that the
positions of those to come stay right. -/
def apply : Command → Draft Unit
  | add task => modify (·.push task)
  | remove targets => targets.reverse.forM removeTarget
  | edit targets => targets.forM fun target => swap target.before target.after target.position
  | mark targets done => targets.reverse.forM fun target =>
    swap target.task { target.task with done } target.position
  | clear _ => modify (·.clear.2)

/-- Takes a command back, in the opposite order. The tasks are where sorting has put them, so only
their values can find them. -/
def revert : Command → Draft Unit
  | add task => do
    let position ← .ask (·.positionOf task)
    let _ ← .step (·.takeBack position)
  | remove targets => targets.forM fun target => modify (·.insert target.position target.task)
  | edit targets => targets.reverse.forM fun target => swap target.after target.before
  | mark targets done => targets.forM fun target => swap { target.task with done } target.task
  | clear tasks => modify (·.restore tasks)

end Command

end Agenda
