import Agenda.Text.ClusterTable
import Agenda.Text.Emoji

/-!
# Clusters

A cluster is what a reader takes for one character: a letter with the signs on it, a Hangul
syllable written in parts, a conjunct of consonants, a flag, or a picture put together from
others. The clusters of a text are the pieces between which it can be cut, by the rules for
extended grapheme clusters.
-/

namespace Agenda.Text

/-! ### Classes of characters -/

/-- How a character stands to its neighbours. -/
inductive Bond where
  /-- The two halves of the end of a line. -/
  | carriageReturn | lineFeed
  /-- Never in one cluster with another character. -/
  | separate
  /-- Belongs to the character before. -/
  | extending | following
  /-- Belongs to the character before and ties the next picture to it. -/
  | joiner
  /-- Belongs to the character after. -/
  | preceding
  /-- One of the two letters of a flag. -/
  | flagLetter
  /-- The parts of Hangul syllables, and whole ones without and with a final consonant. -/
  | initial | medial | final | openSyllable | closedSyllable
  | other
  deriving DecidableEq, Repr

/-- The parts of Hangul syllables, and the vowel signs of Kirat Rai, which stay together as
medial parts do. -/
def hangulBond (n : Nat) : Option Bond :=
  if CodeRanges.contains [(0x1100, 0x115F), (0xA960, 0xA97C)] n then some .initial
  else if CodeRanges.contains
    [(0x1160, 0x11A7), (0xD7B0, 0xD7C6), (0x16D63, 0x16D63), (0x16D67, 0x16D6A)] n then
    some .medial
  else if CodeRanges.contains [(0x11A8, 0x11FF), (0xD7CB, 0xD7FB)] n then some .final
  else if 0xAC00 ≤ n && n ≤ 0xD7A3 then
    some (if (n - 0xAC00) % 28 = 0 then .openSyllable else .closedSyllable)
  else none

/-- The class of a character. -/
def bond (c : Char) : Bond :=
  if ' ' ≤ c && c ≤ '~' then .other
  else if c = '\r' then .carriageReturn
  else if c = '\n' then .lineFeed
  else if c = '\u200D' then .joiner
  else if isFlagLetter c then .flagLetter
  else if extendingRanges.contains c.toNat then .extending
  else if followingRanges.contains c.toNat then .following
  else if precedingRanges.contains c.toNat then .preceding
  else if separateRanges.contains c.toNat then .separate
  else (hangulBond c.toNat).getD .other

/-- Whether a character is a consonant that forms conjuncts. -/
def isConsonant (c : Char) : Bool :=
  consonantRanges.contains c.toNat

/-- Whether a character ties the next consonant to the one before. -/
def isLinker (c : Char) : Bool :=
  linkerRanges.contains c.toNat

/-! ### The end of a cluster -/

/-- What of a cluster decides whether the next character belongs to it. -/
structure ClusterEnd where
  /-- The class of the last character. -/
  bond : Bond
  /-- Whether a picture with extending characters ends here. -/
  picture : Bool
  /-- Whether such a picture with a joiner after it ends here. -/
  joined : Bool
  /-- Whether a consonant with signs ends here. -/
  consonant : Bool
  /-- Whether there is a linker among these signs. -/
  linked : Bool
  /-- Whether a flag lacks its second letter. -/
  halfFlag : Bool
  deriving DecidableEq, Repr

namespace ClusterEnd

/-- The end of a cluster that a character begins. -/
def start (c : Char) : ClusterEnd :=
  ⟨Text.bond c, isPicture c, false, isConsonant c, false, isFlagLetter c⟩

/-- Whether a character belongs to the cluster. -/
def takes (e : ClusterEnd) (c : Char) : Bool :=
  match e.bond, Text.bond c with
  | .carriageReturn, .lineFeed => true
  | .carriageReturn, _ | .lineFeed, _ | .separate, _ => false
  | _, .carriageReturn | _, .lineFeed | _, .separate => false
  | .initial, .initial | .initial, .medial | .initial, .openSyllable
  | .initial, .closedSyllable => true
  | .openSyllable, .medial | .openSyllable, .final | .medial, .medial | .medial, .final => true
  | .closedSyllable, .final | .final, .final => true
  | _, .extending | _, .joiner | _, .following => true
  | .preceding, _ => true
  | .flagLetter, .flagLetter => e.halfFlag
  | _, _ => (e.linked && isConsonant c) || (e.joined && isPicture c)

/-- The end of the cluster after one more character. -/
def extend (e : ClusterEnd) (c : Char) : ClusterEnd :=
  let bond := Text.bond c
  let isSign := bond = .joiner || (bond = .extending && c ≠ '\u200C')
  { bond
    picture := isPicture c || (e.picture && bond = .extending)
    joined := e.picture && bond = .joiner
    consonant := isConsonant c || (e.consonant && isSign)
    linked := e.consonant && isSign && (e.linked || isLinker c)
    halfFlag := isFlagLetter c && !e.halfFlag }

end ClusterEnd

/-! ### Clusters -/

/-- The clusters of a text that follows the beginning of a cluster. The first of them is the rest
of that cluster. -/
def clustersAfter (e : ClusterEnd) : List Char → List Char × List (List Char)
  | [] => ([], [])
  | c :: cs =>
    if e.takes c then
      let (rest, more) := clustersAfter (e.extend c) cs
      (c :: rest, more)
    else
      let (rest, more) := clustersAfter (.start c) cs
      ([], (c :: rest) :: more)

/-- The clusters of a text. -/
def clusters : List Char → List (List Char)
  | [] => []
  | c :: cs =>
    let (rest, more) := clustersAfter (.start c) cs
    (c :: rest) :: more

end Agenda.Text
