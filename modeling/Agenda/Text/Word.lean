import Agenda.Text.Blank
import Agenda.Text.WordTable

/-!
# Words and runs

A text falls apart into runs: maximal stretches of word characters and, between them, stretches
of other characters. Replacing a whole word is replacing a run, so no rule of the command
language has to look at the characters on both sides of a match.
-/

namespace Agenda.Text

/-- Whether a character belongs to words. -/
def isWordChar (c : Char) : Bool :=
  wordRanges.contains c.toNat

/-- The maximal stretches of word characters and of other characters, in order. -/
def runs : List Char → List (List Char)
  | [] => []
  | c :: cs =>
    match runs cs with
    | (d :: run) :: rest =>
      if isWordChar c == isWordChar d then (c :: d :: run) :: rest else [c] :: (d :: run) :: rest
    | rest => [c] :: rest

/-- The letter that a character stands for when a command word is compared without regard to
case. Besides the capitals, the long s is an `s` and the kelvin sign is a `k`. -/
def foldLetter (c : Char) : Char :=
  if 'A' ≤ c ∧ c ≤ 'Z' then Char.ofNat (c.toNat + 32)
  else if c = '\u017F' then 's'
  else if c = '\u212A' then 'k'
  else c

/-- Whether a word is one of the given lower-case words, case disregarded. -/
def isOneOf (names : List String) (word : List Char) : Bool :=
  names.any fun name => name.toList == word.map foldLetter

/-- Cutting into runs loses nothing. -/
theorem flatten_runs (text : List Char) : (runs text).flatten = text := by
  induction text with
  | nil => rfl
  | cons c cs ih =>
    unfold runs
    split
    · next d run rest h =>
      rw [h] at ih
      split <;> simp_all
    · simp [ih]

end Agenda.Text
