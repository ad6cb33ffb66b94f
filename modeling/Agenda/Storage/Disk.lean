import Agenda.Json.Reader
import Agenda.Storage.Path

/-!
# Disks

The part of a file system that the task store touches: folders and files under their places, and
the few operations on them with the errors that the operating system gives. The root folder is
always there, and relative paths begin at the working folder. An operation that changes the disk
answers the disk also when it fails, since it may have been carried out in part.
-/

namespace Agenda

/-- What can stand at a place on a disk. -/
inductive Node where
  | folder
  | file (contents : Json.Bytes)
  deriving DecidableEq

/-- Errors of the operating system. -/
inductive DiskError where
  | notFound
  | alreadyExists
  | notADirectory
  | isADirectory
  | busy
  | nameTooLong
  | noSpace
  | damaged
  | readOnly
  /-- A path with a character that no path can have, which does not reach the operating system. -/
  | invalidName
  deriving DecidableEq, Repr

/-- The text of an error with its number. -/
def DiskError.message : DiskError → String
  | notFound => "No such file or directory (os error 2)"
  | alreadyExists => "File exists (os error 17)"
  | notADirectory => "Not a directory (os error 20)"
  | isADirectory => "Is a directory (os error 21)"
  | busy => "Device or resource busy (os error 16)"
  | nameTooLong => "File name too long (os error 36)"
  | noSpace => "No space left on device (os error 28)"
  | damaged => "Input/output error (os error 5)"
  | readOnly => "Read-only file system (os error 30)"
  | invalidName => "file name contained an unexpected NUL byte"

/-- A place on a disk: the names on the way from the root folder. -/
abbrev Place := List String

/-- How the filling of files goes wrong on a full or damaged disk. -/
structure FillFault where
  /-- The number of bytes that get through before. -/
  filled : Nat
  error : DiskError
  deriving DecidableEq

/-- The nodes of a disk, each at its place. -/
structure Disk where
  nodes : List (Place × Node) := []
  /-- The folder where relative paths begin. -/
  working : Place := []
  /-- What goes wrong at present when a file is filled. -/
  fault : Option FillFault := none
  /-- What goes wrong at present when a file is removed. -/
  removalFault : Option DiskError := none
  deriving DecidableEq

namespace Disk

/-- What stands at a place. -/
def node? (disk : Disk) (place : Place) : Option Node :=
  if place.isEmpty then some .folder else disk.nodes.lookup place

/-- The disk without the node at a place. -/
def remove (disk : Disk) (place : Place) : Disk :=
  { disk with nodes := disk.nodes.filter (·.1 ≠ place) }

/-- The disk with a node put at a place. -/
def put (disk : Disk) (place : Place) (node : Node) : Disk :=
  { disk with nodes := (place, node) :: (disk.remove place).nodes }

/-- The disk without whatever stands at a place or below it. -/
def erase (disk : Disk) (place : Place) : Disk :=
  { disk with nodes := disk.nodes.filter fun (other, _) => !place.isPrefixOf other }

/-- The names in a folder. -/
def names (disk : Disk) (folder : Place) : List String :=
  disk.nodes.filterMap fun (place, _) =>
    match place.getLast? with
    | some name => if place.dropLast = folder then some name else none
    | none => none

/-- The bytes that a name can have at most. -/
def nameLimit : Nat := 255

/-- The bytes that a path can have at most. -/
def pathLimit : Nat := 4095

/-- Goes from a place along components; all but the last of them have to be folders. -/
def walk (disk : Disk) (place : Place) : List PathPart → Except DiskError Place
  | [] => .ok place
  | part :: rest =>
    match disk.node? place with
    | none => .error .notFound
    | some (.file _) => .error .notADirectory
    | some .folder =>
      match part with
      | .root => walk disk [] rest
      | .here => walk disk place rest
      | .up => walk disk place.dropLast rest
      | .name text =>
        if nameLimit < text.utf8ByteSize then .error .nameTooLong
        else walk disk (place ++ [text]) rest

/-- The place that a path leads to, whether there is anything or not. -/
def locate (disk : Disk) (path : String) : Except DiskError Place :=
  if '\x00' ∈ path.toList then .error .invalidName
  else if pathLimit < path.utf8ByteSize then .error .nameTooLong
  else disk.walk disk.working (Path.parts path)

/-- What stands at a path. -/
def find? (disk : Disk) (path : String) : Option Node :=
  match disk.locate path with
  | .error _ => none
  | .ok place =>
    match disk.node? place with
    | some (.file contents) => if Path.asksForFolder path then none else some (.file contents)
    | found => found

/-- Makes the folders on the way along components, as far as they are not there yet. -/
def makeFolders (disk : Disk) (place : Place) : List PathPart → Except DiskError Disk
  | [] => .ok disk
  | .root :: rest => makeFolders disk [] rest
  | .here :: rest => makeFolders disk place rest
  | .up :: rest => makeFolders disk place.dropLast rest
  | .name text :: rest =>
    let next := place ++ [text]
    match disk.node? next with
    | none => makeFolders (disk.put next .folder) next rest
    | some .folder => makeFolders disk next rest
    | some (.file _) => .error (if rest.isEmpty then .alreadyExists else .notADirectory)

/-- Makes the folder at a path, and those on the way to it. -/
def makeFolder (disk : Disk) (path : String) : Except DiskError Disk :=
  disk.makeFolders disk.working (Path.parts path)

/-- The place of a file that is to be created. -/
def placeForFile (disk : Disk) (path : String) : Except DiskError Place :=
  match disk.locate path with
  | .error error => .error error
  | .ok place =>
    match disk.node? place with
    | some .folder => .error .isADirectory
    | _ => .ok place

/-- The place of a file that takes the place of another one under a path. A dot or a slash at the
end of the path makes that impossible. -/
def placeForRename (disk : Disk) (path : String) : Except DiskError Place :=
  match disk.locate path with
  | .error error => .error error
  | .ok place =>
    if Path.endsInDot path then
      match disk.node? place with
      | none => .error .notFound
      | some (.file _) => .error .notADirectory
      | some .folder => .error .busy
    else if Path.asksForFolder path then .error .notADirectory
    else disk.placeForFile path

/-! ### Changes -/

/-- Creates an empty file at a path, in place of a file that is there, and answers its place. -/
def create (path : String) : EStateM DiskError Disk Place := fun disk =>
  match disk.placeForFile path with
  | .error error => .error error disk
  | .ok place => .ok place (disk.put place (.file []))

/-- Fills the file at a place. -/
def fill (place : Place) (contents : Json.Bytes) : EStateM DiskError Disk Unit := fun disk =>
  match disk.fault with
  | none => .ok () (disk.put place (.file contents))
  | some fault => .error fault.error (disk.put place (.file (contents.take fault.filled)))

/-- Moves the file at a place to a path, in place of a file that is there. -/
def moveTo (source : Place) (path : String) : EStateM DiskError Disk Unit := fun disk =>
  match disk.node? source, disk.placeForRename path with
  | none, _ => .error .notFound disk
  | some _, .error error => .error error disk
  | some node, .ok place => .ok () ((disk.remove source).put place node)

/-- Removes the file at a path. -/
def unlink (path : String) : EStateM DiskError Disk Unit := fun disk =>
  match disk.locate path with
  | .error error => .error error disk
  | .ok place =>
    match disk.node? place with
    | none => .error .notFound disk
    | some .folder => .error .isADirectory disk
    | some (.file _) =>
      if Path.asksForFolder path then .error .notADirectory disk
      else
        match disk.removalFault with
        | some error => .error error disk
        | none => .ok () (disk.remove place)

/-- Removes the file at a path if something is there. -/
def sweep (path : String) : EStateM DiskError Disk Unit := fun disk =>
  match disk.find? path with
  | none => .ok () disk
  | some _ => unlink path disk

end Disk

end Agenda
