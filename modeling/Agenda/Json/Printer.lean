import Agenda.Json.Value

/-!
# Writing JSON

Documents are written with two spaces for each level, one item or member on a line, and nothing
between the brackets of an empty one. In texts, quotes, backslashes and control characters are
escaped, control characters by their short escape if they have one, and all else stands for
itself.
-/

namespace Agenda.Json

/-- The lower-case hexadecimal digit of a number below sixteen. -/
def hexDigit (n : Nat) : Char :=
  Nat.digitChar n

/-- A character as it stands in a written text. -/
def escapeChar (c : Char) : List Char :=
  if c = '"' then ['\\', '"']
  else if c = '\\' then ['\\', '\\']
  else if c = '\x08' then ['\\', 'b']
  else if c = '\t' then ['\\', 't']
  else if c = '\n' then ['\\', 'n']
  else if c = '\x0c' then ['\\', 'f']
  else if c = '\r' then ['\\', 'r']
  else if c.toNat < 0x20 then
    ['\\', 'u', '0', '0', hexDigit (c.toNat / 16), hexDigit (c.toNat % 16)]
  else [c]

/-- A text in quotes. -/
def quoted (s : String) : List Char :=
  '"' :: s.toList.flatMap escapeChar ++ ['"']

/-- The beginning of a line at a depth. -/
def newLine (depth : Nat) : List Char :=
  '\n' :: List.replicate (2 * depth) ' '

mutual

/-- A value as it is written at a depth. -/
def render (depth : Nat) : Json → List Char
  | null => "null".toList
  | bool true => "true".toList
  | bool false => "false".toList
  | integer value => (toString value).toList
  | text value => quoted value
  | array [] => ['[', ']']
  | array (item :: rest) =>
    '[' :: newLine (depth + 1) ++ render (depth + 1) item ++ renderItems (depth + 1) rest
      ++ newLine depth ++ [']']
  | object [] => ['\x7b', '\x7d']
  | object (member :: rest) =>
    '\x7b' :: newLine (depth + 1) ++ renderMember (depth + 1) member
      ++ renderMembers (depth + 1) rest ++ newLine depth ++ ['\x7d']
  | other => "null".toList

/-- The items after the first one, each after a comma and on its own line. -/
def renderItems (depth : Nat) : List Json → List Char
  | [] => []
  | item :: rest => ',' :: newLine depth ++ render depth item ++ renderItems depth rest

/-- A member of an object. -/
def renderMember (depth : Nat) : String × Json → List Char
  | (name, value) => quoted name ++ [':', ' '] ++ render depth value

/-- The members after the first one, each after a comma and on its own line. -/
def renderMembers (depth : Nat) : List (String × Json) → List Char
  | [] => []
  | member :: rest =>
    ',' :: newLine depth ++ renderMember depth member ++ renderMembers depth rest

end

/-- The document that holds a value. -/
def print (value : Json) : String :=
  String.ofList (render 0 value)

end Agenda.Json
