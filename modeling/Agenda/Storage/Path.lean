import Agenda.Text.Blank

/-!
# Paths

Paths are texts with slashes. Joining follows the rules of the file system: an absolute path
replaces what it is joined to. The parent and the file name of a path are read off its
components, where repeated slashes, a slash at the end and dots within the path do not count.
-/

namespace Agenda

/-- A component of a path. -/
inductive PathPart where
  | root
  | here
  | up
  | name (text : String)
  deriving DecidableEq, Repr

namespace Path

/-- Whether a path begins at the root. -/
def isAbsolute (path : String) : Bool :=
  path.toList.head? == some '/'

/-- A path continued by another one. -/
def join (base path : String) : String :=
  if isAbsolute path then path
  else if base.isEmpty || base.toList.getLast? == some '/' then base ++ path
  else base ++ "/" ++ path

/-- The texts between the slashes of a path. -/
def texts (path : String) : List String :=
  (Text.fields (· == '/') path.toList).map String.ofList

/-- The components of a path. A dot counts only at the very beginning of a relative path. -/
def parts (path : String) : List PathPart :=
  let rest := ((texts path).drop 1).filterMap part?
  match texts path with
  | "" :: _ :: _ => .root :: rest
  | "." :: _ => .here :: rest
  | first :: _ => (part? first).toList ++ rest
  | [] => []
where
  /-- The component that a text between slashes stands for. -/
  part? : String → Option PathPart
    | "" => none
    | "." => none
    | ".." => some .up
    | text => some (.name text)

/-- The texts between slashes without those at the end that stand for no component. -/
def trimTexts (texts : List String) : List String :=
  (texts.reverse.dropWhile fun text => text = "" || text = ".").reverse

/-- The path without its last component, with what is left as it is written; the root and the
empty path have no parent. -/
def parent? (path : String) : Option String :=
  match texts path with
  | [] => none
  | first :: rest =>
    match trimTexts rest with
    | [] => if first.isEmpty then none else some ""
    | rest =>
      let rest := trimTexts rest.dropLast
      some (if first.isEmpty && rest.isEmpty then "/" else "/".intercalate (first :: rest))

/-- Whether a path asks for a folder: it ends in a slash or a dot. -/
def asksForFolder (path : String) : Bool :=
  match (texts path).reverse with
  | last :: _ :: _ => last = "" || last = "."
  | _ => false

/-- Whether a path asks for the folder itself that its components lead to, by a dot at its end. -/
def endsInDot (path : String) : Bool :=
  ((texts path).reverse.dropWhile (· = "")).head? = some "."

/-- The last component of a path, if it is a name. -/
def fileName? (path : String) : Option String :=
  match (parts path).getLast? with
  | some (.name text) => some text
  | _ => none

end Path

end Agenda
