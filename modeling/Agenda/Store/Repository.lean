import Agenda.Storage.Disk
import Agenda.Storage.Record
import Agenda.Store.TaskList

/-!
# Repositories

Where the task list lives between sessions: in memory, where saving can be made to fail, or in a
task file on a disk. A file is written under another name first and then put in its place; when
that goes wrong, what has been written under the other name is swept away, as far as the disk lets
it be removed.
-/

namespace Agenda

/-- What tells the temporary file of a running program from those of others: a text without
slashes, such as the number of its process. -/
structure Writer where
  text : String
  noSlash : '/' ∉ text.toList
  deriving DecidableEq

/-- The number of a process as what tells its temporary file from those of others. -/
def Writer.ofNumber (n : Nat) : Writer where
  text := n.repr
  noSlash := by
    rw [Nat.toList_repr]
    intro h
    have := Nat.isDigit_of_mem_toDigits (by decide) (by decide) h
    exact absurd this (by decide)

/-- A task file on a disk. -/
structure FileLocation where
  disk : Disk
  /-- The path of the task file. -/
  path : String
  writer : Writer
  deriving DecidableEq

/-- The durable home of the task list. -/
inductive Repository where
  | memory (saved : List Task) (failing : Bool)
  | file (location : FileLocation)
  deriving DecidableEq

namespace FileLocation

/-- Opens a task file in a folder, which is made if it is not there. -/
def open? (disk : Disk) (folder name : String) (writer : Writer) : Except String FileLocation :=
  match disk.makeFolder folder with
  | .ok disk => .ok ⟨disk, Path.join folder name, writer⟩
  | .error error =>
    .error ("could not create data directory " ++ folder ++ ": " ++ error.message)

/-- The tasks in the file; a missing file has none. -/
def load (l : FileLocation) : Except String (List Task) :=
  match l.disk.find? l.path with
  | none => .ok []
  | some .folder => .error (l.path ++ " is not a valid task file")
  | some (.file contents) =>
    match TaskFile.parse? contents with
    | some records => .ok (records.map Record.toTask)
    | none => .error (l.path ++ " is not a valid task file")

/-- The bytes of a file that holds the tasks. -/
def contents (tasks : List Task) : Json.Bytes :=
  (TaskFile.print (tasks.map Record.ofTask)).toUTF8.toList

/-- The path of the temporary file. -/
def temporary (l : FileLocation) : Except String String :=
  match Path.parent? l.path, Path.fileName? l.path with
  | none, _ => .error ("task file " ++ l.path ++ " has no parent directory")
  | _, none => .error ("task file " ++ l.path ++ " has no file name")
  | some parent, some name => .ok (Path.join parent ("." ++ name ++ ".tmp." ++ l.writer.text))

/-- Fills a temporary file and puts it in the place of the file at a path. -/
def replaceFile (path temporary : String) (contents : Json.Bytes) : EStateM String Disk Unit := do
  let place ← (Disk.create temporary).adaptExcept fun error =>
    "could not create " ++ temporary ++ ": " ++ error.message
  (Disk.fill place contents).adaptExcept DiskError.message
  (Disk.moveTo place path).adaptExcept fun error =>
    "could not replace " ++ path ++ ": " ++ error.message

/-- Puts the tasks into the file. -/
def save (tasks : List Task) : EStateM String FileLocation Unit := fun l =>
  match l.temporary with
  | .error reason => .error reason l
  | .ok temporary =>
    match (replaceFile l.path temporary (contents tasks)).run l.disk with
    | .ok () disk => .ok () { l with disk }
    | .error reason disk =>
      match (Disk.sweep temporary).run disk with
      | .ok () disk => .error reason { l with disk }
      -- what cannot be removed stays, and saving has failed for the first reason all the same
      | .error _ disk => .error reason { l with disk }

end FileLocation

namespace Repository

/-- The tasks that are saved. -/
def load : Repository → Except StoreError (List Task)
  | memory saved _ => .ok saved
  | file location =>
    match location.load with
    | .ok tasks => .ok tasks
    | .error reason => .error (.readFailed reason)

/-- The repository with saving made to fail, or to work again. A file is not affected. -/
def setFailing (failing : Bool) : Repository → Repository
  | memory saved _ => memory saved failing
  | file location => file location

/-- Saves the tasks. -/
def save (tasks : List Task) : EStateM StoreError Repository Unit
  | memory saved true => .error (.writeFailed "disk full") (memory saved true)
  | memory _ false => .ok () (memory tasks false)
  | file location =>
    match (FileLocation.save tasks).run location with
    | .ok () location => .ok () (file location)
    | .error reason location => .error (.writeFailed reason) (file location)

end Repository

end Agenda
