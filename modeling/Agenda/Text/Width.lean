import Agenda.Text.WidthTable

/-!
# Columns of characters

How many columns a character takes on a screen of fixed-width cells, and cutting a text to a
number of columns, its characters taken one by one. What characters take together is another
matter (`Agenda.Text.Ligature`).
-/

namespace Agenda.Text

/-- Whether a character is a control character, which has no picture. -/
def isControl (c : Char) : Bool :=
  c.toNat < 0x20 || (0x7F ≤ c.toNat && c.toNat < 0xA0)

/-- The columns that a character takes. Control characters take none. -/
def charColumns (c : Char) : Nat :=
  if isControl c then 0
  else if c ≤ '~' then 1
  else if zeroWidthRanges.contains c.toNat then 0
  else if wideRanges.contains c.toNat then 2
  else if c = '\u17D8' then 3
  else 1

/-- The columns that the characters of a text take, one by one. -/
def columns (text : List Char) : Nat :=
  text.foldr (fun c width => charColumns c + width) 0

/-- The longest beginning of a text that leaves one of `limit` columns free. -/
def takeColumns (limit : Nat) : List Char → List Char
  | [] => []
  | c :: cs =>
    if charColumns c + 1 ≤ limit then c :: takeColumns (limit - charColumns c) cs else []

/-- The text itself when it fits into `limit` columns, else as much of it as fits together with
the mark of an omission. -/
def abbreviate (limit : Nat) (text : List Char) : List Char :=
  if columns text ≤ limit then text else takeColumns limit text ++ ['…']

end Agenda.Text
