import Agenda.Store.TaskList
import Agenda.Text.LowerCase

/-!
# Orders of a task list

Four stable sorts, and the order in which the list is saved: the sorts by description, by end and
by done one after the other, so that what is done comes last, what has an end comes first, and
the description decides between the rest.
-/

namespace Agenda

/-- The order of optional times: earlier ones first, missing ones last. -/
def timeLE : Option DateTime → Option DateTime → Bool
  | some a, some b => decide (a ≤ b)
  | some _, none => true
  | none, some _ => false
  | none, none => true

namespace Task

/-- The order of descriptions, case disregarded. -/
def descriptionLE (a b : Task) : Bool :=
  decide (Text.lowerCase a.description ≤ Text.lowerCase b.description)

/-- The order of ends. -/
def endLE (a b : Task) : Bool :=
  timeLE a.ends b.ends

/-- The order of beginnings. -/
def startLE (a b : Task) : Bool :=
  timeLE a.starts b.starts

/-- The order of marks: what is not done comes first. -/
def doneLE (a b : Task) : Bool :=
  !a.done || b.done

end Task

/-- What a task list can be sorted by. -/
inductive SortKey where
  | description | ends | starts | done
  deriving DecidableEq, Repr

/-- The order that a key stands for. -/
def SortKey.le : SortKey → Task → Task → Bool
  | description => Task.descriptionLE
  | ends => Task.endLE
  | starts => Task.startLE
  | done => Task.doneLE

/-- The tasks sorted by a key; tasks with equal keys keep their order. -/
def SortKey.sort (key : SortKey) (tasks : List Task) : List Task :=
  tasks.mergeSort key.le

/-- The tasks in the order in which they are saved. -/
def saveOrder (tasks : List Task) : List Task :=
  SortKey.done.sort (SortKey.ends.sort (SortKey.description.sort tasks))

/-- The list with its tasks in the order in which they are saved. -/
def TaskList.sorted (l : TaskList) : TaskList :=
  { l with tasks := saveOrder l.tasks }

end Agenda
