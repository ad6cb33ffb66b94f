import Agenda.Screen.Console

/-!
# The keyboard

What a terminal sends for the keys that are pressed: the bytes of characters, control characters,
and sequences that begin with the escape character. The bytes are taken in one at a time. An escape
character is the beginning of a sequence or the escape key, which shows only when nothing follows
it for a while.
-/

namespace Agenda

/-- The keys that a console listens to. -/
inductive Key where
  | char (ch : Char)
  | enter
  | backspace
  | left
  | right
  | up
  | down
  | escape
  deriving DecidableEq, Repr

/-- The console after a key. There is no answer when the session has none. -/
def Console.press? (c : Console) (now : DateTime) : Key → Option Console
  | .char ch => c.typeInBytes? ch
  | .enter => c.submit now
  | .backspace => c.backspaceInBytes?
  | .left => some c.left
  | .right => some c.right
  | .up => some c.previous
  | .down => some c.next
  | .escape => some c.escape

/-- What is done at the keyboard. -/
inductive Stroke where
  | key (key : Key)
  /-- The user wants to leave at once. -/
  | interrupt
  deriving DecidableEq, Repr

/-- What a few bytes amount to. -/
inductive Spelling where
  /-- More bytes have to follow. -/
  | part
  /-- They are all of a stroke, or of something that nobody listens to. -/
  | whole (stroke : Option Stroke)
  deriving DecidableEq, Repr

namespace Spelling

/-- The number of bytes of a character in UTF-8, by the first of them. -/
def width (first : UInt8) : Nat :=
  if first < 0x80 then 1 else if first < 0xe0 then 2 else if first < 0xf0 then 3 else 4

/-- A character that is typed. A control character stands for the letter that is pressed with it,
as far as it does not have a key of its own. -/
def ofChar (ch : Char) : Option Stroke :=
  if ch = '\x03' then some .interrupt
  else if ch = '\r' ∨ ch = '\n' then some (.key .enter)
  else if ch = '\x7f' then some (.key .backspace)
  else if ch = '\t' then none
  else if '\x01' ≤ ch ∧ ch ≤ '\x1a' then some (.key (.char (Char.ofNat (ch.toNat + 0x60))))
  else if ch < ' ' then none
  else some (.key (.char ch))

/-- The bytes of a character. -/
def ofBytes (bytes : List UInt8) : Spelling :=
  match bytes with
  | [] => .part
  | first :: _ =>
    if bytes.length < width first then .part
    else
      match String.fromUTF8? (ByteArray.mk bytes.toArray) with
      | some text => .whole (text.toList.head?.bind ofChar)
      | none => .whole none

/-- The arrow at the end of a sequence. -/
def arrow? (final : UInt8) : Option Stroke :=
  if final = 0x41 then some (.key .up)
  else if final = 0x42 then some (.key .down)
  else if final = 0x43 then some (.key .right)
  else if final = 0x44 then some (.key .left)
  else none

/-- The bytes after the beginning of a sequence. It ends with a letter or the like, and only a
sequence of one letter is that of an arrow. -/
def ofSequence : List UInt8 → Spelling
  | [] => .part
  | [final] => if 0x40 ≤ final ∧ final ≤ 0x7e then .whole (arrow? final) else .part
  | bytes =>
    match bytes.getLast? with
    | some final => if 0x40 ≤ final ∧ final ≤ 0x7e then .whole none else .part
    | none => .part

/-- The bytes of a stroke. -/
def of : List UInt8 → Spelling
  | [0x1b] => .part
  | [0x1b, 0x1b] => .whole (some (.key .escape))
  | 0x1b :: 0x5b :: rest => ofSequence rest
  | [0x1b, 0x4f] => .part
  | [0x1b, 0x4f, final] => .whole (arrow? final)
  | 0x1b :: rest => ofBytes rest
  | bytes => ofBytes bytes

end Spelling

/-- The bytes of a stroke that have come so far. -/
structure Keyboard where
  bytes : List UInt8 := []

namespace Keyboard

/-- Takes in a byte. -/
def feed (k : Keyboard) (byte : UInt8) : Keyboard × Option Stroke :=
  match Spelling.of (k.bytes ++ [byte]) with
  | .part => (⟨k.bytes ++ [byte]⟩, none)
  | .whole stroke => ({}, stroke)

/-- Takes in that nothing has followed for a while. -/
def pause (k : Keyboard) : Keyboard × Option Stroke :=
  ({}, if k.bytes = [0x1b] then some (.key .escape) else none)

end Keyboard

end Agenda
