import Agenda.Language.Refusal
import Agenda.Text.Blank

/-!
# Bodies

The body of a command describes a task: words of the description, `@` before each part of a time,
`#name` and `#-name` for a tag to have and a tag to lose, `-#` to lose all tags and `-@` to lose
the time. A `#` counts only at the beginning of a word, and a word after a backslash is taken as
it stands.

Reading goes in two steps: each word of the text stands for some pieces, and the pieces are
sorted into the parts of a body.
-/

namespace Agenda

open Text

/-- What is to be done with the tags of a task. -/
inductive TagChange where
  /-- The task gets a tag. -/
  | add (name : String)
  /-- The task loses a tag. -/
  | remove (name : String)
  /-- The task loses all its tags. -/
  | clear
  deriving DecidableEq, Repr

/-- The parts that the body of a command describes. -/
structure Body where
  /-- The words before the first `@`. -/
  description : String := ""
  /-- The words after each `@`, in order. -/
  times : List String := []
  /-- The changes of tags, in order. -/
  tags : List TagChange := []
  /-- The time is to be taken away. -/
  dropsTime : Bool := false
  deriving DecidableEq, Repr

namespace Body

/-- What a word of a body can stand for. -/
inductive Piece where
  /-- A word of the description or of a time. -/
  | word (text : List Char)
  /-- An `@`. -/
  | cut
  /-- A change of tags. -/
  | tag (change : TagChange)
  /-- A `-@`. -/
  | dropTime
  deriving DecidableEq, Repr

/-- A word, unless there is nothing in it. -/
def literal (text : List Char) : List Piece :=
  if text.isEmpty then [] else [.word text]

/-- The change of tags that a word with a `#` before it stands for. -/
def tagChange : List Char → Except Refusal TagChange
  | [] => .error .namelessTag
  | ['-'] => .error .namelessTag
  | '-' :: name => .ok (.remove (String.ofList name))
  | name => .ok (.add (String.ofList name))

/-- The words and cuts of a word that may hold some `@`. -/
def cutAtSigns (word : List Char) : List Piece :=
  match fields (· == '@') word with
  | [] => []
  | first :: rest => literal first ++ rest.flatMap fun text => .cut :: literal text

/-- The pieces that a word of a body stands for. -/
def piecesOfWord : List Char → Except Refusal (List Piece)
  | '\\' :: text => .ok (literal text)
  | ['-', '@'] => .ok [.dropTime]
  | ['-', '#'] => .ok [.tag .clear]
  | '#' :: name => (tagChange name).map fun change => [.tag change]
  | word => .ok (cutAtSigns word)

/-- The pieces of a list of words; the first word that is refused refuses them all. -/
def piecesOfWords : List (List Char) → Except Refusal (List Piece)
  | [] => .ok []
  | word :: rest =>
    match piecesOfWord word with
    | .error cause => .error cause
    | .ok pieces =>
      match piecesOfWords rest with
      | .error cause => .error cause
      | .ok more => .ok (pieces ++ more)

/-- The words before the first cut, and the words after each cut. -/
def segments : List Piece → List (List Char) × List (List (List Char))
  | [] => ([], [])
  | .word text :: rest =>
    let (first, more) := segments rest
    (text :: first, more)
  | .cut :: rest =>
    let (first, more) := segments rest
    ([], first :: more)
  | _ :: rest => segments rest

/-- The changes of tags among the pieces. -/
def tagChanges (pieces : List Piece) : List TagChange :=
  pieces.filterMap fun
    | .tag change => some change
    | _ => none

/-- The body that pieces make up. -/
def ofPieces (pieces : List Piece) : Body :=
  let (first, more) := segments pieces
  { description := String.ofList (unwords first)
    times := more.map fun segment => String.ofList (unwords segment)
    tags := tagChanges pieces
    dropsTime := pieces.contains .dropTime }

/-- The body that a text describes. -/
def ofText (s : String) : Except Refusal Body :=
  (piecesOfWords (words s.toList)).map ofPieces

/-- The body describes nothing. -/
def isEmpty (body : Body) : Bool :=
  body.description == "" && body.times.isEmpty && body.tags.isEmpty && !body.dropsTime

end Body

end Agenda
