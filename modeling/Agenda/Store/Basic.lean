import Agenda.Store.Draft
import Agenda.Store.Order
import Agenda.Store.Repository
import Agenda.Text.Search
import Agenda.View.Listing

/-!
# The task store

The store holds the task list and keeps it saved. Every change is a transaction: it is made on a
draft, the draft is sorted and saved, and only then does it take the place of the list. So an error
at any point leaves the list as it was. After each change a snapshot of the list is put into the
outbox, where a screen picks it up.
-/

namespace Agenda

/-- The task list, where it is saved, and the snapshots not picked up yet. -/
structure Store where
  list : TaskList
  repository : Repository
  /-- The snapshots sent so far, oldest first. -/
  outbox : List (List Entry) := []
  deriving DecidableEq

namespace Store

/-- Opens a store on what is saved. -/
def open? (repository : Repository) : Except StoreError Store :=
  repository.load.map fun tasks => { list := { tasks }, repository }

/-- The store with a snapshot of its list sent. -/
def post (s : Store) : Store :=
  { s with outbox := s.outbox ++ [Entry.number s.list.tasks] }

/-- Makes a draft, sorts and saves it, puts it in the place of the list and sends a snapshot. -/
def transaction {α : Type} (draft : Draft α) : EStateM StoreError Store α := fun s =>
  match draft.run s.list with
  | .error error _ => .error error s
  | .ok answer list =>
    let list := list.sorted
    match (Repository.save list.tasks).run s.repository with
    | .error error repository => .error error { s with repository }
    | .ok () repository => .ok answer { s with list, repository : Store }.post

/-- The store with saving made to fail, or to work again. -/
def setFailing (s : Store) (failing : Bool) : Store :=
  { s with repository := s.repository.setFailing failing }

/-! ### Changes -/

/-- Adds a task. -/
def add (t : Task) : EStateM StoreError Store Unit :=
  transaction (modify (·.push t))

/-- Puts a task in at a position. -/
def insert (t : Task) (position : Nat) : EStateM StoreError Store Unit :=
  transaction (modify (·.insert position t))

/-- Removes the task at a position and answers it. -/
def remove (position : Nat) : EStateM StoreError Store Task :=
  transaction (.step (·.remove position))

/-- Removes the last task and answers it. -/
def pop : EStateM StoreError Store Task :=
  transaction (.step (·.pop))

/-- Puts a task in place of the one at a position and answers the old one. -/
def replace (position : Nat) (t : Task) : EStateM StoreError Store Task :=
  transaction (.step (·.replace position t))

/-- Removes all tasks and answers them. -/
def clear : EStateM StoreError Store (List Task) :=
  transaction (.step fun l => .ok l.clear)

/-- Sorts the list by a key. The order lasts until the next change, which sorts anew. -/
def sort (s : Store) (key : SortKey) : Store :=
  { s with list := { s.list with tasks := key.sort s.list.tasks } : Store }.post

/-! ### Questions -/

/-- The tasks in their present order. -/
def tasks (s : Store) : List Task :=
  s.list.tasks

/-- The number of tasks. -/
def total (s : Store) : Nat :=
  s.list.size

/-- The entries of all tasks. -/
def entries (s : Store) : List Entry :=
  Entry.number s.tasks

/-- The entries as of a time. -/
def listing (s : Store) (now : DateTime) : Listing :=
  ⟨s.entries, now⟩

/-- The tasks whose descriptions contain a text. -/
def findText (s : Store) (text : String) (caseSensitive : Bool) : List Task :=
  s.tasks.filter fun t => Text.isWithin caseSensitive text t.description

/-- The tasks that have a tag. -/
def findTag (s : Store) (tag : String) (caseSensitive : Bool) : List Task :=
  s.tasks.filter fun t => t.tags.names.any (Text.isSame caseSensitive tag)

/-- Keeps the earlier of two beginnings, the first one if they are equal. -/
def earlier (best : Option (DateTime × Task)) (next : DateTime × Task) :
    Option (DateTime × Task) :=
  match best with
  | some (starts, t) => if next.1 < starts then some next else some (starts, t)
  | none => some next

/-- The task not done yet that begins soonest after `now`, and when it begins. -/
def soonest? (s : Store) (now : DateTime) : Option (DateTime × Task) :=
  let upcoming := s.tasks.filterMap fun t =>
    match t.starts with
    | some starts => if !t.done && now < starts then some (starts, t) else none
    | none => none
  upcoming.foldl earlier none

/-- The task not done yet that begins soonest after `now`. -/
def soonest (s : Store) (now : DateTime) : Except StoreError Task :=
  match s.soonest? now with
  | some (_, t) => .ok t
  | none => .error .noTask

end Store

end Agenda
