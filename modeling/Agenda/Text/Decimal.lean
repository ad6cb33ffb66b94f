/-!
# Decimal numerals

Reading and writing numbers in decimal. A numeral is read from ASCII digits only.
-/

namespace Agenda.Text

/-- The value of a non-empty text of ASCII digits. -/
def readDigits? (text : List Char) : Option Nat :=
  if text.isEmpty || !text.all Char.isDigit then none
  else some (text.foldl (fun n c => 10 * n + (c.toNat - '0'.toNat)) 0)

/-- The value of a numeral that fits a machine word of 64 bits; a plus sign may stand before
it. -/
def readWord? (text : List Char) : Option Nat :=
  let digits := match text with
    | '+' :: rest => rest
    | _ => text
  match readDigits? digits with
  | some n => if n < UInt64.size then some n else none
  | none => none

/-- The numeral of a number, with zeros before it up to a width. -/
def padded (width n : Nat) : String :=
  let digits := toString n
  "".pushn '0' (width - digits.length) ++ digits

end Agenda.Text
