/-!
# Texts by bytes

A place in a text is given by the bytes before it in UTF-8. A character is put in or taken out only
where the byte does not lie within a character, and taken out only before the end.
-/

namespace Agenda.Text

/-- The byte where a number of characters of a text ends: the sum of their lengths in UTF-8. -/
def byteIndex (text : List Char) (chars : Nat) : String.Pos.Raw :=
  ⟨(text.take chars).foldr (fun ch bytes => ch.utf8Size + bytes) 0⟩

/-- The text with a character put in at a byte, unless the byte lies within a character or beyond
the text. -/
def insertAt? (text : String) (byte : String.Pos.Raw) (ch : Char) : Option String :=
  if h : byte.IsValid text then
    let place := text.pos byte h
    some ((text.sliceTo place).copy ++ String.singleton ch ++ (text.sliceFrom place).copy)
  else none

/-- The text without the character that begins at a byte, if there is one. -/
def removeAt? (text : String) (byte : String.Pos.Raw) : Option String :=
  if h : byte.IsValid text then
    let place := text.pos byte h
    if hend : place = text.endPos then none
    else some ((text.sliceTo place).copy ++ (text.sliceFrom (place.next hend)).copy)
  else none

end Agenda.Text
