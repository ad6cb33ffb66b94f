import Agenda.Text.CaseTable

/-!
# Lower-casing

Full lower-casing: every capital letter has its lower-case form, the dotted capital I has two
characters, and a capital sigma is lowered to its final form at the end of a word. Whether a
sigma ends a word is read off the cased letters around it, looking through the characters that
case context ignores.
-/

namespace Agenda.Text

/-- The lower-case form of a capital letter that a table of runs holds. -/
def lookupLower : List CaseRun → Nat → Option Nat
  | [], _ => none
  | run :: rest, n =>
    if n < run.first then none
    else if n ≤ run.last ∧ (n - run.first) % run.step = 0 then some ((n : Int) + run.shift).toNat
    else lookupLower rest n

/-- The lower-case form of a character, context aside. -/
def lowerChar (c : Char) : List Char :=
  if c = '\u0130' then ['i', '\u0307']
  else
    match lookupLower lowerRuns c.toNat with
    | some n => [Char.ofNat n]
    | none => [c]

/-- Whether the next character that case context does not ignore is a cased one. -/
def meetsCased (text : List Char) : Bool :=
  match text.dropWhile (fun c => caseIgnorableRanges.contains c.toNat) with
  | [] => false
  | c :: _ => casedRanges.contains c.toNat

/-- The form of a sigma between the text before it, nearest character first, and the text after
it: final when a cased letter comes before and none comes after. -/
def lowerSigma (before after : List Char) : Char :=
  if meetsCased before && !meetsCased after then '\u03C2' else '\u03C3'

/-- Lowers the rest of a text whose beginning, nearest character first, is `before`. -/
def lowerFrom (before : List Char) : List Char → List Char
  | [] => []
  | c :: cs =>
    (if c = '\u03A3' then [lowerSigma before cs] else lowerChar c) ++ lowerFrom (c :: before) cs

/-- The text in lower case. -/
def lower (text : List Char) : List Char :=
  lowerFrom [] text

/-- The string in lower case. -/
def lowerCase (s : String) : String :=
  String.ofList (lower s.toList)

end Agenda.Text
