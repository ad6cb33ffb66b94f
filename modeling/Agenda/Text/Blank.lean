import Agenda.Text.Ranges

/-!
# Blanks, and cutting text at them

A blank is a character with the White_Space property. Text is handled as a list of characters:
`fields` cuts it at every separator and keeps empty fields, `words` keeps the non-empty pieces
between blanks, `splitLines` takes the lines apart, and `trim` takes the blanks off both ends.
-/

namespace Agenda.Text

/-- The characters with the White_Space property, ascending. -/
def blankRanges : CodeRanges := [
    (0x0009, 0x000D), (0x0020, 0x0020), (0x0085, 0x0085), (0x00A0, 0x00A0),
    (0x1680, 0x1680), (0x2000, 0x200A), (0x2028, 0x2029), (0x202F, 0x202F),
    (0x205F, 0x205F), (0x3000, 0x3000)]

/-- Whether a character is white space. -/
def isBlank (c : Char) : Bool :=
  blankRanges.contains c.toNat

/-- The text without its leading blanks. -/
def trimLeft (text : List Char) : List Char :=
  text.dropWhile isBlank

/-- The text without its trailing blanks. -/
def trimRight (text : List Char) : List Char :=
  (text.reverse.dropWhile isBlank).reverse

/-- The text without the blanks at its two ends. -/
def trim (text : List Char) : List Char :=
  trimRight (trimLeft text)

/-- The fields between the separators, empty ones included; there is always at least one. -/
def fields (isSeparator : Char → Bool) : List Char → List (List Char)
  | [] => [[]]
  | c :: cs =>
    if isSeparator c then
      [] :: fields isSeparator cs
    else
      match fields isSeparator cs with
      | [] => [[c]]
      | field :: rest => (c :: field) :: rest

/-- The non-empty pieces between the separators. -/
def pieces (isSeparator : Char → Bool) (text : List Char) : List (List Char) :=
  (fields isSeparator text).filter (!·.isEmpty)

/-- The non-empty pieces between blanks. -/
def words (text : List Char) : List (List Char) :=
  pieces isBlank text

/-- The text without a carriage return at its end. -/
def dropReturn (text : List Char) : List Char :=
  if text.getLast? = some '\r' then text.dropLast else text

/-- The lines of a text. A line feed ends a line, together with a carriage return before it; the
end of the last line can be left out. -/
def splitLines (text : List Char) : List (List Char) :=
  let all := fields (· == '\n') text
  let last := all.getLast?.getD []
  all.dropLast.map dropReturn ++ (if last.isEmpty then [] else [last])

/-- The words with one space between each two. -/
def unwords (ws : List (List Char)) : List Char :=
  [' '].intercalate ws

/-- `fields` never answers an empty list. -/
theorem fields_ne_nil (isSeparator : Char → Bool) (text : List Char) :
    fields isSeparator text ≠ [] := by
  cases text with
  | nil => simp [fields]
  | cons c cs =>
    unfold fields
    split
    · simp
    · split <;> simp

end Agenda.Text
