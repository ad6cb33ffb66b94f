import Agenda.Text.Emoji
import Agenda.Text.Width

/-!
# Columns of characters that are drawn together

Some characters take other columns together than one by one: pictures put together from others,
letters that some scripts write as one sign, and characters with a selector of text or emoji
after them. A text is measured from its end to its beginning (`drawnColumns`). What has been
measured is known by its `Beginning`, and `Beginning.grow` says how many columns the character
before it adds and what the longer text begins with.
-/

namespace Agenda.Text

/-! ### Beginnings -/

/-- What a text begins with, as far as that matters to the character before it. -/
inductive Head where
  | plain
  | lineFeed
  /-- A picture that is drawn as an emoji. -/
  | emoji
  /-- A skin tone. -/
  | tone
  /-- One flag letter, or several. -/
  | flagLetter | flagLetters
  /-- A joiner that ties an emoji. -/
  | tie
  /-- The frame of a keycap before a tie. -/
  | tiedKeycap
  /-- One flag letter before a tie, two or another even number, three or another odd number. -/
  | tiedHalfFlag | tiedFlags | tiedFlagsAndHalf
  /-- The end of the name of a flag before a tie: letters, or digits after which letters come. -/
  | tiedLetters (count : Nat) | tiedDigits (count : Nat)
  /-- The vowel signs E and AI of Kirat Rai. -/
  | vowelE | vowelAi
  /-- An alef, which a lam before it takes in. -/
  | alef
  /-- A lamed, which an alef before a joiner takes in. -/
  | lamed
  /-- The letter ya of Buginese, and the sign -i before it. -/
  | ya | signAndYa
  /-- A consonant of Tifinagh, and the sign that joins it to the one before. -/
  | consonant | joinedConsonant
  /-- A letter of Khmer that is written below another one. -/
  | lowerLetter
  /-- A tone letter of Lisu that is written after another one. -/
  | toneLetter
  /-- The letter I of Old Turkic. -/
  | orkhonI
  deriving DecidableEq, Repr

/-- Whether letters form a sign with the text before them. Selectors leave such a text as it
is. -/
def Head.isLetter : Head → Bool
  | .alef | .lamed | .ya | .signAndYa | .consonant | .joinedConsonant | .lowerLetter
  | .toneLetter | .orkhonI => true
  | _ => false

/-- The beginning of a text: its head, whether a joiner stands before a letter, and what the
selectors before it ask of the next character. -/
structure Beginning where
  head : Head := .plain
  joined : Bool := false
  asksForEmoji : Bool := false
  asksForText : Bool := false
  asksForWide : Bool := false
  deriving DecidableEq, Repr

namespace Beginning

/-- The beginning without whatever is no letter. -/
def onlyLetter (b : Beginning) : Beginning :=
  if b.head.isLetter then b else {}

/-- A selector of emoji stands before the text. -/
def askForEmoji (b : Beginning) : Beginning :=
  if b.head = .tie || b.head = .tiedKeycap then { head := b.head, asksForEmoji := true }
  else { b.onlyLetter with asksForEmoji := true }

/-- A selector of text stands before the text. -/
def askForText (b : Beginning) : Beginning :=
  { b.onlyLetter with asksForText := true }

/-- A selector of the wide form of quotes stands before the text. -/
def askForWide (b : Beginning) : Beginning :=
  { b.onlyLetter with asksForWide := true }

/-- A character that cannot be an emoji stands before the text. -/
def refuseEmoji (b : Beginning) : Beginning :=
  if b.asksForEmoji then { b.onlyLetter with asksForEmoji := false } else b

end Beginning

/-! ### Classes of characters -/

/-- Whether a character is a quote that has a wide form. -/
def isQuote (c : Char) : Bool :=
  c = '\u2018' || c = '\u2019' || c = '\u201C' || c = '\u201D'

/-- Whether a character is a mark without picture, which keeps letters together. -/
def isInvisibleMark (c : Char) : Bool :=
  CodeRanges.contains
    [(0x034F, 0x034F), (0x17B4, 0x17B5), (0x180B, 0x180D), (0x180F, 0x180F), (0xFE00, 0xFE0F),
      (0xE0100, 0xE01EF)] c.toNat

/-- Whether a character is a mark across which Arabic letters join. -/
def isArabicMark (c : Char) : Bool :=
  charColumns c = 0 && !separatingRanges.contains c.toNat

/-- Whether a character is a lam of the Arabic script. -/
def isLam (c : Char) : Bool :=
  CodeRanges.contains
    [(0x0644, 0x0644), (0x06B5, 0x06B8), (0x076A, 0x076A), (0x08A6, 0x08A6), (0x08C7, 0x08C7)]
    c.toNat

/-- Whether a character is an alef of the Arabic script. -/
def isAlef (c : Char) : Bool :=
  CodeRanges.contains
    [(0x0622, 0x0623), (0x0625, 0x0625), (0x0627, 0x0627), (0x0671, 0x0673), (0x0675, 0x0675),
      (0x0773, 0x0774), (0x0870, 0x0882)] c.toNat

/-- Whether a character is a letter of Khmer that is written below another one after a coeng. -/
def isLowerLetter (c : Char) : Bool :=
  CodeRanges.contains
    [(0x1780, 0x1782), (0x1784, 0x1787), (0x1789, 0x178C), (0x178E, 0x1793), (0x1795, 0x1798),
      (0x179B, 0x179D), (0x17A0, 0x17A0), (0x17A2, 0x17A2), (0x17A7, 0x17A7), (0x17AB, 0x17AC),
      (0x17AF, 0x17AF)] c.toNat

/-- Whether a character is a consonant of Tifinagh. -/
def isTifinagh (c : Char) : Bool :=
  CodeRanges.contains [(0x2D31, 0x2D65), (0x2D6F, 0x2D6F)] c.toNat

/-- What a text of one character begins with. -/
def headOf (c : Char) : Head :=
  if isFlagLetter c then .flagLetter
  else if isTone c then .tone
  else if isEmoji c then .emoji
  else if isAlef c then .alef
  else if isLowerLetter c then .lowerLetter
  else if isTifinagh c then .consonant
  else if c = '\u05DC' then .lamed
  else if c = '\u1A10' then .ya
  else if c = '\uA4FC' || c = '\uA4FD' then .toneLetter
  else if c.toNat = 0x10C03 then .orkhonI
  else if c.toNat = 0x16D67 then .vowelE
  else if c.toNat = 0x16D68 then .vowelAi
  else .plain

/-! ### Longer texts -/

namespace Beginning

/-- A text of one character: its columns and its beginning. -/
def ofChar (c : Char) : Int × Beginning :=
  if c ≤ '\u00A0' then (1, { head := if c = '\n' then .lineFeed else .plain })
  else if c = '\uFE0F' then (0, { asksForEmoji := true })
  else if c = '\uFE0E' then (0, { asksForText := true })
  else if c = '\uFE01' then (0, { asksForWide := true })
  else (charColumns c, { head := headOf c })

/-- What a character adds to a text with which it forms an emoji. -/
def growEmoji? (head : Head) (c : Char) : Option (Int × Beginning) :=
  match head with
  | .emoji | .tiedFlags | .tiedFlagsAndHalf | .flagLetters =>
    if c = '\u200D' then some (0, { head := .tie })
    else if !isFlagLetter c then none
    else match head with
      | .flagLetters => some (1, { head := .flagLetters })
      | .tiedFlagsAndHalf => some (-1, { head := .tiedFlags })
      | .tiedFlags => some (3, { head := .tiedFlagsAndHalf })
      | _ => none
  | .flagLetter => if isFlagLetter c then some (1, { head := .flagLetters }) else none
  | .tone =>
    if c = '\u200D' then some (0, { head := .tie })
    else if isTonable c then some (0, { head := .emoji })
    else none
  | .tie =>
    if c = '\u20E3' then some (0, { head := .tiedKeycap })
    else if isFlagLetter c then some (1, { head := .tiedHalfFlag })
    else if isTone c then some (0, { head := .tone })
    else if isNameEnd c then some (0, { head := .tiedLetters 0 })
    else if isEmoji c then some (0, { head := .emoji })
    else none
  | .tiedHalfFlag => if isFlagLetter c then some (-1, { head := .tiedFlags }) else none
  | .tiedLetters n =>
    if isNameLetter c && n < 6 then some (0, { head := .tiedLetters (n + 1) })
    else if isNameDigit c && n < 5 then some (0, { head := .tiedDigits 1 })
    else if isNamedFlag c && 3 ≤ n then some (0, { head := .emoji })
    else none
  | .tiedDigits n =>
    if isNameDigit c && n < 3 then some (0, { head := .tiedDigits (n + 1) })
    else if isNamedFlag c && n = 3 then some (0, { head := .emoji })
    else none
  | _ => none

/-- What a character adds to a text with whose first letter it forms one sign. -/
def growLetter? (head : Head) (joined : Bool) (c : Char) : Option (Int × Beginning) :=
  match head with
  | .alef =>
    if isLam c then some (0, {})
    else if isArabicMark c then some (0, { head := .alef })
    else none
  | .lamed => if joined && c = '\u05D0' then some (0, {}) else none
  | .lowerLetter => if c = '\u17D2' then some (-1, {}) else none
  | .ya => if joined && c = '\u1A17' then some (0, { head := .signAndYa }) else none
  | .signAndYa => if c = '\u1A15' then some (0, {}) else none
  | .consonant =>
    if c = '\u2D7F' then some (1, { head := .joinedConsonant })
    else if joined && isTifinagh c then some (0, {})
    else none
  | .joinedConsonant => if isTifinagh c then some (-1, {}) else none
  | .toneLetter => if '\uA4F8' ≤ c && c ≤ '\uA4FB' then some (0, {}) else none
  | .orkhonI => if joined && c.toNat = 0x10C32 then some (0, {}) else none
  | .vowelE =>
    if c.toNat = 0x16D63 || c.toNat = 0x16D69 then some (0, {})
    else if c.toNat = 0x16D67 then some (0, { head := .vowelAi })
    else if c.toNat = 0x16D68 then some (1, { head := .vowelE })
    else none
  | .vowelAi => if c.toNat = 0x16D63 then some (0, {}) else none
  | _ => none

/-- What a character adds to a text whose selectors it does not follow. -/
def growUnselected (b : Beginning) (c : Char) : Int × Beginning :=
  if b.head.isLetter && b.head ≠ .alef && c = '\u200D' then (0, { b with joined := true })
  else if b.head.isLetter && b.head ≠ .alef && isInvisibleMark c then (0, b)
  else ((growEmoji? b.head c <|> growLetter? b.head b.joined c).getD (ofChar c))

/-- What a character that is no emoji adds to a text: its columns, and the beginning of the
longer text. -/
def growPlain (b : Beginning) (c : Char) : Int × Beginning :=
  if c ≤ '\u00A0' then if c = '\r' && b.head = .lineFeed then (0, {}) else ofChar c
  else if c = '\uFE0F' then (0, b.askForEmoji)
  else if c = '\uFE0E' then (0, b.askForText)
  else if c = '\uFE01' then (0, b.askForWide)
  else if b.asksForText && isNarrowAsText c then (1, {})
  else if b.asksForWide && !b.asksForText && isQuote c then (2, {})
  else growUnselected { b with asksForText := false, asksForWide := false } c

/-- What a character adds to a text: its columns, and the beginning of the longer text. -/
def grow (b : Beginning) (c : Char) : Int × Beginning :=
  if b.asksForEmoji && isSelectable c then
    (if b.head = .tie || b.head = .tiedKeycap then 0 else 2, { head := .emoji })
  else growPlain b.refuseEmoji c

end Beginning

/-! ### Texts -/

/-- The columns and the beginning of a text. -/
def measure (text : List Char) : Int × Beginning :=
  text.foldr
    (fun c (columns, beginning) =>
      let (more, longer) := beginning.grow c
      (more + columns, longer))
    (0, {})

/-- The columns that a text takes. A control character takes one, and so does the end of a line
that is written with two of them. -/
def drawnColumns (text : List Char) : Nat :=
  (measure text).1.toNat

end Agenda.Text
