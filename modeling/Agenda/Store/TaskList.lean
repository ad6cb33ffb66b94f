import Agenda.Store.Error
import Agenda.Task.Basic

/-!
# Task lists

The list that a transaction works on: the tasks in order, and the tasks added this session, from
which `last` is known. A position counts from zero. Operations that name a position fail when the
list has no task there; nothing else can fail.
-/

namespace Agenda

/-- The position of the last occurrence of a value in a list. -/
def lastIndexOf? {α : Type} [DecidableEq α] (x : α) : List α → Option Nat
  | [] => none
  | y :: ys =>
    match lastIndexOf? x ys with
    | some i => some (i + 1)
    | none => if y = x then some 0 else none

/-- Tasks in order, with a log of those added this session. -/
structure TaskList where
  tasks : List Task
  /-- The tasks added this session, most recent first. -/
  added : List Task := []
  deriving DecidableEq

namespace TaskList

/-- The number of tasks. -/
def size (l : TaskList) : Nat :=
  l.tasks.length

/-- The task at a position. -/
def get? (l : TaskList) (position : Nat) : Option Task :=
  l.tasks[position]?

/-- The list with a new task at the end, which is now the one added last. -/
def push (l : TaskList) (t : Task) : TaskList :=
  { tasks := l.tasks ++ [t], added := t :: l.added }

/-- The list with a task put in at a position, or at the end when the position is past it. -/
def insert (l : TaskList) (position : Nat) (t : Task) : TaskList :=
  { l with tasks := l.tasks.insertIdx (min position l.size) t }

/-- The task at a position, and the list without it. -/
def remove (l : TaskList) (position : Nat) : Except StoreError (Task × TaskList) :=
  match l.get? position with
  | some t => .ok (t, { l with tasks := l.tasks.eraseIdx position })
  | none => .error (.taskMoved position)

/-- Takes back an addition: removes the task at a position, and if it was logged as added, its
latest entry goes too. -/
def takeBack (l : TaskList) (position : Nat) : Except StoreError (Task × TaskList) :=
  (l.remove position).map fun (t, rest) => (t, { rest with added := rest.added.erase t })

/-- The last task, and the list without it. -/
def pop (l : TaskList) : Except StoreError (Task × TaskList) :=
  match l.tasks.getLast? with
  | some t => .ok (t, { l with tasks := l.tasks.dropLast })
  | none => .error .noTask

/-- The task at a position, and the list with another one in its place. The log of additions
follows: whatever equals the old task is now the new one. -/
def replace (l : TaskList) (position : Nat) (t : Task) : Except StoreError (Task × TaskList) :=
  match l.get? position with
  | some old =>
    .ok (old,
      { tasks := l.tasks.set position t
        added := l.added.map fun entry => if entry = old then t else entry })
  | none => .error (.taskMoved position)

/-- The position of an expected task: the hint if it is there, else its last occurrence. -/
def positionOf (l : TaskList) (expected : Task) (hint : Option Nat := none) :
    Except StoreError Nat :=
  match hint.filter (l.get? · = some expected) with
  | some position => .ok position
  | none =>
    match lastIndexOf? expected l.tasks with
    | some position => .ok position
    | none => .error (.taskMoved (hint.getD l.size))

/-- The tasks, and the list without any. -/
def clear (l : TaskList) : List Task × TaskList :=
  (l.tasks, { l with tasks := [] })

/-- The list with all tasks replaced by others, in their order. -/
def restore (l : TaskList) (tasks : List Task) : TaskList :=
  { l with tasks }

/-- The position of the task added last, if it is still there. -/
def newest? (l : TaskList) : Option Nat :=
  match l.added with
  | [] => none
  | t :: _ => lastIndexOf? t l.tasks

end TaskList

end Agenda
