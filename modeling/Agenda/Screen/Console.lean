import Agenda.Session
import Agenda.Storage.Settings
import Agenda.Text.Bytes

/-!
# The console

What the terminal screen is about: the rows it shows and which of them is selected, the line that
is being typed and the place of the cursor in it, the outcome of the last line, and a panel that
may lie over everything. Keys and finished lines change it step by step.
-/

namespace Agenda

/-- A panel with a text of its own. -/
inductive Panel where
  | help | about | settings
  deriving DecidableEq, Repr

/-- The state of the terminal screen. -/
structure Console where
  session : Session
  settings : Settings
  /-- The title of the rows. -/
  title : String
  rows : Listing
  /-- The selected row, counted from zero. -/
  selected : Option Nat
  /-- The first row on the screen when it was drawn last. -/
  offset : Nat := 0
  /-- The line that is being typed. -/
  input : List Char := []
  /-- The number of characters of the line before the cursor. -/
  cursor : Nat := 0
  status : Option (Status × String) := none
  panel : Option Panel := none
  /-- Whether the rows are hidden. -/
  hidden : Bool := false
  shouldQuit : Bool := false
  /-- The task of the last reminder. -/
  reminded : Option Task := none
  deriving DecidableEq

namespace Console

/-- The title of the whole list. -/
def allTasks : String := "all tasks"

/-- A console that shows the whole list. -/
def start (session : Session) (settings : Settings) (now : DateTime) : Console where
  session
  settings
  title := allTasks
  rows := session.store.listing now
  selected := if session.store.tasks.isEmpty then none else some 0

/-- The number of rows. -/
def rowCount (c : Console) : Nat :=
  c.rows.entries.length

/-! ### Selection -/

/-- Selects the next row, after the last one the first. -/
def next (c : Console) : Console :=
  if c.rowCount = 0 then c
  else
    match c.selected with
    | some i => { c with selected := some (if i + 1 < c.rowCount then i + 1 else 0) }
    | none => { c with selected := some 0 }

/-- Selects the previous row, before the first one the last. -/
def previous (c : Console) : Console :=
  if c.rowCount = 0 then c
  else
    match c.selected with
    | some (i + 1) => { c with selected := some i }
    | _ => { c with selected := some (c.rowCount - 1) }

/-- Shows other rows. The selection stays where it is as far as there are rows. -/
def setRows (c : Console) (rows : Listing) : Console :=
  let count := rows.entries.length
  if count = 0 then { c with rows, selected := none, offset := 0 }
  else { c with rows, selected := some (min (c.selected.getD 0) (count - 1)) }

/-! ### The input line -/

/-- Types a character at the cursor. -/
def typeChar (c : Console) (ch : Char) : Console :=
  { c with input := c.input.insertIdx c.cursor ch, cursor := c.cursor + 1 }

/-- Deletes the character before the cursor. -/
def backspace (c : Console) : Console :=
  if c.cursor = 0 then c
  else { c with input := c.input.eraseIdx (c.cursor - 1), cursor := c.cursor - 1 }

/-- Types a character at the byte of the cursor, if this does not lie within a character. -/
def typeInBytes? (c : Console) (ch : Char) : Option Console :=
  (Text.insertAt? (String.ofList c.input) (Text.byteIndex c.input c.cursor) ch).map fun text =>
    { c with input := text.toList, cursor := c.cursor + 1 }

/-- Deletes the character that begins at the byte before the cursor, if there is one. -/
def backspaceInBytes? (c : Console) : Option Console :=
  if c.cursor = 0 then some c
  else
    (Text.removeAt? (String.ofList c.input) (Text.byteIndex c.input (c.cursor - 1))).map fun text =>
      { c with input := text.toList, cursor := c.cursor - 1 }

/-- Moves the cursor one character to the left. -/
def left (c : Console) : Console :=
  { c with cursor := c.cursor - 1 }

/-- Moves the cursor one character to the right. -/
def right (c : Console) : Console :=
  if c.cursor < c.input.length then { c with cursor := c.cursor + 1 } else c

/-- Empties the input line. -/
def clearInput (c : Console) : Console :=
  { c with input := [], cursor := 0 }

/-- Closes the panel, or else empties the input line. -/
def escape (c : Console) : Console :=
  match c.panel with
  | some _ => { c with panel := none }
  | none => c.clearInput

/-! ### Lines -/

/-- Does what a reply asks for. -/
def react (c : Console) (now : DateTime) : Option Request → Console
  | none => c
  | some (.showTasks title views) =>
    { { c with title }.setRows ⟨views.map View.toEntry, now⟩ with hidden := false }
  | some .hide => { c with hidden := true }
  | some .help => { c with panel := some .help }
  | some .about => { c with panel := some .about }
  | some .settings => { c with panel := some .settings }
  | some .exit => { c with shouldQuit := true }

/-- Takes in the reply to a line. After a change the whole list is shown. -/
def answer (c : Console) (now : DateTime) (reply : Reply) : Console :=
  let status := if reply.message = "" then none else some (reply.status, reply.message)
  let c := { c with status }
  let c := if reply.status = .success then { c with title := allTasks, hidden := false } else c
  c.react now reply.request

/-- Runs a line. There is no answer when the session has none. -/
def submitLine (c : Console) (line : String) (now : DateTime) : Option Console :=
  (c.session.run line now).map fun (reply, session) => { c with session }.answer now reply

/-- Runs the input line, if there is anything in it, and empties it. -/
def submit (c : Console) (now : DateTime) : Option Console :=
  let line := Text.trim c.input
  let c := c.clearInput
  if line.isEmpty then some c else c.submitLine (String.ofList line) now

/-! ### News from the store -/

/-- Picks up the latest snapshot that the store has sent. It is shown when the whole list is on
the screen. -/
def sync (c : Console) (now : DateTime) : Console :=
  let latest := c.session.store.outbox.getLast?
  let c := { c with session.store.outbox := [] }
  match latest with
  | some entries => if c.title = allTasks then c.setRows ⟨entries, now⟩ else c
  | none => c

/-- Announces the next task when it is time to, each task once. There is no answer when the
session has none. -/
def remind (c : Console) (now : DateTime) : Option Console :=
  (c.session.reminder? now c.settings.reminderMinutes.toInt).map fun
    | none => c
    | some reminder =>
      if c.reminded = some reminder.task then c
      else
        { c with status := some (.normal, reminder.message), reminded := some reminder.task }

end Console

end Agenda
