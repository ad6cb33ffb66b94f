import Agenda.Text.EmojiTable

/-!
# Emoji

The classes of characters that make up emoji: pictures, skin tones, and the letters and names of
flags.
-/

namespace Agenda.Text

/-- Whether a character is a picture, which a joiner can put together with another one. -/
def isPicture (c : Char) : Bool :=
  pictureRanges.contains c.toNat

/-- Whether a character is drawn as an emoji unless text is asked for. -/
def isEmoji (c : Char) : Bool :=
  emojiRanges.contains c.toNat

/-- Whether a character can be followed by a selector of text or emoji. -/
def isSelectable (c : Char) : Bool :=
  selectableRanges.contains c.toNat

/-- Whether a selector of text makes a character narrow. Ideographs in a square stay wide. -/
def isNarrowAsText (c : Char) : Bool :=
  isEmoji c && isSelectable c && !(0x1F200 ≤ c.toNat && c.toNat ≤ 0x1F2FF)

/-- Whether a character is a skin tone. -/
def isTone (c : Char) : Bool :=
  0x1F3FB ≤ c.toNat && c.toNat ≤ 0x1F3FF

/-- Whether a skin tone can follow a character. -/
def isTonable (c : Char) : Bool :=
  tonableRanges.contains c.toNat

/-- Whether a character is one of the two letters of a flag. -/
def isFlagLetter (c : Char) : Bool :=
  0x1F1E6 ≤ c.toNat && c.toNat ≤ 0x1F1FF

/-- Whether a character is the flag that a name can follow. -/
def isNamedFlag (c : Char) : Bool :=
  c.toNat = 0x1F3F4

/-- Whether a character is a letter in the name of a flag. -/
def isNameLetter (c : Char) : Bool :=
  0xE0061 ≤ c.toNat && c.toNat ≤ 0xE007A

/-- Whether a character is a digit in the name of a flag. -/
def isNameDigit (c : Char) : Bool :=
  0xE0030 ≤ c.toNat && c.toNat ≤ 0xE0039

/-- Whether a character ends the name of a flag. -/
def isNameEnd (c : Char) : Bool :=
  c.toNat = 0xE007F

end Agenda.Text
