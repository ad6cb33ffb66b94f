import Agenda.Text.LowerCase
import Agenda.Text.Word

/-!
# Lines of the command language

A line begins with a word for a command. `standardForm` puts a line into standard form: a synonym at
its beginning becomes the command word itself, and each word that introduces a time, such as `by`
or `from`, becomes `@`. The standard form is then cut into the command word and its argument.
-/

namespace Agenda

open Text

/-- What a line asks for. -/
inductive Verb where
  | add | edit | remove | «show» | hide | done | undone | undo | redo | clear | help | about
  | settings | exit
  deriving DecidableEq, Repr

namespace Verb

/-- All verbs. -/
def all : List Verb :=
  [add, edit, remove, «show», hide, done, undone, undo, redo, clear, help, about, settings, exit]

/-- The command word of a verb. -/
def word : Verb → String
  | add => "add"
  | edit => "edit"
  | remove => "remove"
  | «show» => "show"
  | hide => "hide"
  | done => "done"
  | undone => "undone"
  | undo => "undo"
  | redo => "redo"
  | clear => "clear"
  | help => "help"
  | about => "about"
  | settings => "settings"
  | exit => "exit"

/-- Other words with which a line may ask for the same. -/
def synonyms : Verb → List String
  | add => ["do", "create"]
  | edit => ["change"]
  | remove => ["rm", "delete"]
  | «show» => ["ls", "search", "find"]
  | exit => ["quit"]
  | _ => []

/-- The verb of a command word. -/
def ofWord? (word : String) : Option Verb :=
  all.find? fun verb => verb.word == word

end Verb

namespace Line

/-- The words that introduce a time. -/
def connectors : List String := ["by", "at", "from", "on"]

/-- Puts the command word of a verb in place of a synonym at the beginning of a line, together
with the blanks before it. -/
def replaceSynonym (verb : Verb) (text : List Char) : List Char :=
  let start := trimLeft text
  if isOneOf verb.synonyms (start.takeWhile isWordChar) then
    verb.word.toList ++ start.dropWhile isWordChar
  else text

/-- Whether a run of other characters ends in a blank. -/
def endsInBlank (run : List Char) : Bool :=
  match run.getLast? with
  | some c => isBlank c
  | none => false

/-- Puts ` @` in place of each connector and the blank before it. -/
def markConnectors : List (List Char) → List (List Char)
  | gap :: word :: rest =>
    if endsInBlank gap && isOneOf connectors word then
      (gap.dropLast ++ [' ', '@']) :: markConnectors rest
    else gap :: markConnectors (word :: rest)
  | rest => rest

/-- The standard form of a line. -/
def standardForm (text : List Char) : List Char :=
  let named := Verb.all.foldl (fun text verb => replaceSynonym verb text) text
  (markConnectors (runs named)).flatten

end Line

/-- A line in standard form, cut into command word and argument. -/
structure Line where
  /-- The first word, in lower case. -/
  keyword : String
  /-- All that follows the first word, without the blanks around it. -/
  argument : String
  /-- The whole standard form, without the blanks around it. -/
  text : String
  deriving DecidableEq, Repr

namespace Line

/-- The standard form of a text, cut after its first word. -/
def ofText (s : String) : Line :=
  let text := trim (standardForm s.toList)
  { keyword := String.ofList (lower (text.takeWhile (!isBlank ·)))
    argument := String.ofList (trim (text.dropWhile (!isBlank ·)))
    text := String.ofList text }

/-- The verb of a line, if its first word is a command word. -/
def verb? (line : Line) : Option Verb :=
  Verb.ofWord? line.keyword

end Line

end Agenda
