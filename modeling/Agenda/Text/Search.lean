import Agenda.Text.LowerCase

/-!
# Finding a text within another
-/

namespace Agenda.Text

/-- Whether a text occurs in another one as a stretch of consecutive characters. -/
def occursIn (text : List Char) : List Char → Bool
  | [] => text.isEmpty
  | c :: cs => text.isPrefixOf (c :: cs) || occursIn text cs

/-- Whether a text is within another one, letter for letter or case disregarded. -/
def isWithin (caseSensitive : Bool) (text other : String) : Bool :=
  if caseSensitive then occursIn text.toList other.toList
  else occursIn (lower text.toList) (lower other.toList)

/-- Whether two texts are the same, letter for letter or case disregarded. -/
def isSame (caseSensitive : Bool) (text other : String) : Bool :=
  if caseSensitive then text == other else lower text.toList == lower other.toList

end Agenda.Text
