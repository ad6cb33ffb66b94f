import Agenda.Json.Value

/-!
# Reading JSON

A document is a sequence of bytes, and reading it follows the grammar of RFC 8259: no comments, no
trailing commas, no leading zeros, nothing after the value but white space. Bytes that are not
text are let pass inside the quotes of a string, which then has no meaning; elsewhere they are
errors like any other unexpected byte.
-/

namespace Agenda.Json

/-- A sequence of bytes. -/
abbrev Bytes := List UInt8

/-! ### White space and literals -/

/-- Whether a byte is white space between tokens. -/
def isSpace (b : UInt8) : Bool :=
  b == 0x20 || b == 0x09 || b == 0x0A || b == 0x0D

/-- The bytes after leading white space. -/
def skipSpace (bytes : Bytes) : Bytes :=
  bytes.dropWhile isSpace

/-- The byte of an ASCII character. -/
def byte (c : Char) : UInt8 :=
  c.toNat.toUInt8

/-- The bytes after an expected beginning. -/
def expect : List Char → Bytes → Option Bytes
  | [], bytes => some bytes
  | _ :: _, [] => none
  | c :: cs, b :: bytes => if b = byte c then expect cs bytes else none

/-! ### Numbers -/

/-- Whether a byte is an ASCII digit. -/
def isDigit (b : UInt8) : Bool :=
  0x30 ≤ b && b ≤ 0x39

/-- The number that digits write. -/
def digitsValue (digits : Bytes) : Nat :=
  digits.foldl (fun n b => 10 * n + (b.toNat - 0x30)) 0

/-- The digits at the beginning, of which there must be some, and the bytes after them. -/
def digits? (bytes : Bytes) : Option (Bytes × Bytes) :=
  if (bytes.takeWhile isDigit).isEmpty then none
  else some (bytes.takeWhile isDigit, bytes.dropWhile isDigit)

/-- The digits of a whole number, which begin with a zero only if there is nothing more. -/
def wholeDigits? (bytes : Bytes) : Option (Bytes × Bytes) :=
  match bytes with
  | 0x30 :: rest => some ([0x30], rest)
  | bytes => digits? bytes

/-- The bytes after a decimal part, if there is one, and whether there was. -/
def skipFraction (bytes : Bytes) : Option (Bool × Bytes) :=
  match bytes with
  | 0x2E :: rest => (digits? rest).map fun (_, rest) => (true, rest)
  | bytes => some (false, bytes)

/-- The bytes after a sign, if there is one. -/
def skipSign (bytes : Bytes) : Bytes :=
  match bytes with
  | b :: rest => if b == byte '+' || b == byte '-' then rest else bytes
  | [] => []

/-- The bytes after an exponent, if there is one, and whether there was. -/
def skipExponent (bytes : Bytes) : Option (Bool × Bytes) :=
  match bytes with
  | b :: rest =>
    if b == byte 'e' || b == byte 'E' then
      (digits? (skipSign rest)).map fun (_, rest) => (true, rest)
    else some (false, bytes)
  | [] => some (false, [])

/-- A number without its sign. A decimal part, an exponent and the sign of a zero make it no
integer. -/
def number? (negative : Bool) (bytes : Bytes) : Option (Json × Bytes) := do
  let (digits, rest) ← wholeDigits? bytes
  let (hasFraction, rest) ← skipFraction rest
  let (hasExponent, rest) ← skipExponent rest
  let value := digitsValue digits
  if hasFraction || hasExponent || (negative && value == 0) then return (other, rest)
  else return (integer (if negative then -(value : Int) else value), rest)

/-! ### Strings -/

/-- The value of a hexadecimal digit. -/
def hexValue? (b : UInt8) : Option Nat :=
  if isDigit b then some (b.toNat - 0x30)
  else if 0x61 ≤ b && b ≤ 0x66 then some (b.toNat - 0x61 + 10)
  else if 0x41 ≤ b && b ≤ 0x46 then some (b.toNat - 0x41 + 10)
  else none

/-- The value of four hexadecimal digits. -/
def hexValue4? (a b c d : UInt8) : Option Nat := do
  return (((← hexValue? a) * 16 + (← hexValue? b)) * 16 + (← hexValue? c)) * 16 + (← hexValue? d)

/-- The character of a short escape. -/
def shortEscape? (b : UInt8) : Option Char :=
  if b == byte '"' then some '"'
  else if b == byte '\\' then some '\\'
  else if b == byte '/' then some '/'
  else if b == byte 'b' then some '\x08'
  else if b == byte 'f' then some '\x0c'
  else if b == byte 'n' then some '\n'
  else if b == byte 'r' then some '\r'
  else if b == byte 't' then some '\t'
  else none

/-- Whether a number is the first half of a surrogate pair. -/
def isHighSurrogate (n : Nat) : Bool :=
  0xD800 ≤ n && n < 0xDC00

/-- Whether a number is the second half of a surrogate pair. -/
def isLowSurrogate (n : Nat) : Bool :=
  0xDC00 ≤ n && n < 0xE000

/-- The character that a surrogate pair stands for. -/
def pairChar (high low : Nat) : Char :=
  Char.ofNat (0x10000 + (high - 0xD800) * 0x400 + (low - 0xDC00))

/-- The contents of the rest of a string, with a character in front. They stay missing if they
are, and are lost when the first half of a surrogate pair waits in vain for the second. -/
def pushBytes (high : Option Nat) (bytes : Bytes) (rest : Option (Option Bytes × Bytes)) :
    Option (Option Bytes × Bytes) :=
  rest.map fun (contents, after) =>
    (if high.isSome then none else contents.map (bytes ++ ·), after)

/-- The contents of a string up to its closing quote, and the bytes after it. The contents are
missing when an escape in them stands for no character; `high` is the first half of a surrogate
pair that has just been read. -/
def stringBody (high : Option Nat) : Bytes → Option (Option Bytes × Bytes)
  | [] => none
  | 0x22 :: rest => some (if high.isSome then none else some [], rest)
  | 0x5C :: 0x75 :: a :: b :: c :: d :: rest =>
    match hexValue4? a b c d with
    | none => none
    | some n =>
      match high with
      | some first =>
        if isLowSurrogate n then
          pushBytes none (String.utf8EncodeChar (pairChar first n)) (stringBody none rest)
        else pushBytes high [] (stringBody none rest)
      | none =>
        if isHighSurrogate n then stringBody (some n) rest
        else if isLowSurrogate n then pushBytes (some n) [] (stringBody none rest)
        else pushBytes none (String.utf8EncodeChar (Char.ofNat n)) (stringBody none rest)
  | 0x5C :: b :: rest =>
    match shortEscape? b with
    | none => none
    | some c => pushBytes high (String.utf8EncodeChar c) (stringBody none rest)
  | b :: rest => if b < 0x20 then none else pushBytes high [b] (stringBody none rest)

/-- The text that bytes encode. -/
def textOfBytes? (bytes : Bytes) : Option String :=
  String.fromUTF8? ⟨bytes.toArray⟩

/-- The contents of a string, if they are text, and the bytes after its closing quote. -/
def string? (bytes : Bytes) : Option (Option String × Bytes) :=
  (stringBody none bytes).map fun (contents, rest) => (contents.bind textOfBytes?, rest)

/-! ### Values -/

/-- The object with the given members, which has no meaning if one of its names is not text. -/
def ofMembers (members : List (Option String × Json)) : Json :=
  match members.mapM fun (name, value) => name.map fun name => (name, value) with
  | some members => object members
  | none => other

mutual

/-- A value at the beginning of bytes, and the bytes after it. The fuel bounds the depth and the
length of arrays and objects. -/
def value? : Nat → Bytes → Option (Json × Bytes)
  | 0, _ => none
  | fuel + 1, bytes =>
    match skipSpace bytes with
    | [] => none
    | b :: rest =>
      if b == byte 'n' then (expect "ull".toList rest).map fun rest => (null, rest)
      else if b == byte 't' then (expect "rue".toList rest).map fun rest => (bool true, rest)
      else if b == byte 'f' then (expect "alse".toList rest).map fun rest => (bool false, rest)
      else if b == byte '-' then number? true rest
      else if b == byte '"' then
        (string? rest).map fun (contents, rest) => ((contents.map text).getD other, rest)
      else if b == byte '[' then
        match skipSpace rest with
        | 0x5D :: rest => some (array [], rest)
        | _ => (items? fuel rest).map fun (items, rest) => (array items, rest)
      else if b == byte '\x7b' then
        match skipSpace rest with
        | 0x7D :: rest => some (object [], rest)
        | _ => (members? fuel rest).map fun (members, rest) => (ofMembers members, rest)
      else number? false (b :: rest)

/-- The items of an array up to its closing bracket, and the bytes after it. -/
def items? : Nat → Bytes → Option (List Json × Bytes)
  | 0, _ => none
  | fuel + 1, bytes =>
    match value? fuel bytes with
    | none => none
    | some (item, rest) =>
      match skipSpace rest with
      | 0x2C :: rest => (items? fuel rest).map fun (items, rest) => (item :: items, rest)
      | 0x5D :: rest => some ([item], rest)
      | _ => none

/-- The members of an object up to its closing brace, and the bytes after it. -/
def members? : Nat → Bytes → Option (List (Option String × Json) × Bytes)
  | 0, _ => none
  | fuel + 1, bytes =>
    match expect ['"'] (skipSpace bytes) with
    | none => none
    | some rest =>
      match string? rest with
      | none => none
      | some (name, rest) =>
        match expect [':'] (skipSpace rest) with
        | none => none
        | some rest =>
          match value? fuel rest with
          | none => none
          | some (value, rest) =>
            match skipSpace rest with
            | 0x2C :: rest =>
              (members? fuel rest).map fun (members, rest) => ((name, value) :: members, rest)
            | 0x7D :: rest => some ([(name, value)], rest)
            | _ => none

end

/-- The value that a document holds. -/
def parse? (bytes : Bytes) : Option Json :=
  match value? (2 * bytes.length + 1) bytes with
  | some (value, rest) => if (skipSpace rest).isEmpty then some value else none
  | none => none

end Agenda.Json
