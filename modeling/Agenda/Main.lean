import Agenda.Cli
import Agenda.Screen.Draw
import Agenda.Screen.Keyboard
import Std.Time.Zoned

/-!
# The program

The outer layer: it reads the arguments, the clock and the files that a run touches, lets the
library do the rest on values, and writes back what has changed.
-/

/-- A byte that has been asked for. -/
abbrev PendingByte := Task (Except IO.Error ByteArray)

namespace Agenda.Program

/-- What the clock on the wall shows. -/
def clock : IO DateTime := do
  let now ← Std.Time.PlainDateTime.now
  let nanos := min now.time.toNanoseconds.val.toNat (nanosPerDay - 1)
  match Date.ofDay? now.toEpochDay.val, TimeOfDay.ofNanos? nanos with
  | some date, some time => return date.at time
  | _, _ => throw (IO.userError "the clock is outside the calendar")

/-- The number of the process, with which the system begins its own account of it. -/
def processNumber : IO Nat := do
  let account ← IO.FS.readFile "/proc/self/stat"
  match (String.ofList (account.toList.takeWhile Char.isDigit)).toNat? with
  | some number => return number
  | none => throw (IO.userError "the system does not tell the number of the process")

/-- The path of a place. -/
def pathOf (place : Place) : String :=
  "/" ++ "/".intercalate place

/-! ### Files -/

/-- Reads what stands along components of a path into a disk. -/
def readAlong (disk : Disk) (place : Place) : List PathPart → IO Disk
  | [] => return disk
  | .root :: rest => readAlong disk [] rest
  | .here :: rest => readAlong disk place rest
  | .up :: rest => readAlong disk place.dropLast rest
  | .name text :: rest => do
    let next := place ++ [text]
    let path := (← IO.currentDir) / pathOf next
    if ← path.isDir then readAlong (disk.put next .folder) next rest
    else if ← path.pathExists then
      return disk.put next (.file (← IO.FS.readBinFile path).toList)
    else return disk

/-- Reads what stands at a path into a disk. -/
def readPath (disk : Disk) (path : String) : IO Disk :=
  readAlong disk disk.working (Path.parts path)

/-- The disk with all that a session in a data folder looks at. -/
def readDisk (folder : String) : IO Disk := do
  let current := (← IO.currentDir).toString
  let disk ← readPath {} current
  let working := (Path.parts current).filterMap fun
    | .name text => some text
    | _ => none
  let disk ← readPath { disk with working } (Path.join folder Settings.fileName)
  let disk ← readPath disk (logFolder folder)
  match Settings.load disk folder with
  | .ok settings => readPath disk (Path.join folder settings.tasksFile)
  | .error _ => return disk

/-- Writes a file under another name first and then puts it in its place. When that goes wrong,
what has been written is removed as far as it can be. -/
def writeFile (place : Place) (contents : Json.Bytes) (writer : Writer) : IO Unit := do
  let name := place.getLast?.getD ""
  let temporary := pathOf (place.dropLast ++ ["." ++ name ++ ".tmp." ++ writer.text])
  try
    IO.FS.writeBinFile temporary (ByteArray.mk contents.toArray)
    IO.FS.rename temporary (pathOf place)
  catch error =>
    try IO.FS.removeFile temporary catch _ => pure ()
    throw error

/-- Writes what is new on a disk. -/
def writeChanges (old new : Disk) (writer : Writer) : IO Unit := do
  for (place, node) in new.nodes.reverse do
    if old.node? place ≠ some node then
      match node with
      | .folder => IO.FS.createDirAll (pathOf place)
      | .file contents => writeFile place contents writer

/-! ### The terminal screen

The terminal is in raw mode, so that keys come one by one and are not shown by themselves; whoever
starts the program sees to that, for instance with `stty raw -echo`. -/

/-- The width and the height of the screen. -/
def screenSize : Nat × Nat := (80, 24)

/-- What opens a screen beside that of the shell. -/
def openingSequence : String := "\x1b[?1049h"

/-- What goes back to the screen of the shell. -/
def closingSequence : String := "\x1b[?1049l"

/-- Draws the screen in place of what was there, and puts the cursor into the input line. -/
def refresh (console : Console) : IO Console := do
  let (picture, console) := Screen.draw console screenSize.1 screenSize.2
  let cursor := toString (picture.cursorY + 1) ++ ";" ++ toString (picture.cursorX + 1)
  IO.print ("\x1b[2J\x1b[H" ++ "\r\n".intercalate picture.canvas.lines ++ "\x1b[" ++ cursor ++ "H")
  (← IO.getStdout).flush
  return console

/-- Asks the terminal for a byte. -/
def listen : IO PendingByte := do
  let input ← IO.getStdin
  IO.asTask (input.read 1) .dedicated

/-- Whether a byte comes within a number of hundredths of a second. -/
def comes (pending : PendingByte) : Nat → IO Bool
  | 0 => IO.hasFinished pending
  | hundredths + 1 => do
    if ← IO.hasFinished pending then return true
    IO.sleep 10
    comes pending hundredths

/-- The hundredths of a second after which the screen is drawn again without a key. -/
def tick : Nat := 25

/-- Shows the screen and does what the keys ask for, until the user leaves or the input ends. A byte
is asked for only when there is none to wait for, so that nobody waits for one in the end. -/
partial def converse (console : Console) (disk : Disk) (writer : Writer) (keyboard : Keyboard)
    (asked : Option PendingByte) : IO Unit := do
  let now ← clock
  let console := console.sync now
  let console ← refresh ((console.remind now).getD console)
  let pending ← match asked with
    | some pending => pure pending
    | none => listen
  if ← comes pending tick then
    let bytes ← IO.ofExcept (← IO.wait pending)
    match bytes.toList with
    | [] => return
    | byte :: _ =>
      let (keyboard, stroke) := keyboard.feed byte
      act console disk writer keyboard none stroke
  else
    let (keyboard, stroke) := keyboard.pause
    act console disk writer keyboard (some pending) stroke
where
  act (console : Console) (disk : Disk) (writer : Writer) (keyboard : Keyboard)
      (asked : Option PendingByte) : Option Stroke → IO Unit
    | none => converse console disk writer keyboard asked
    | some .interrupt => return
    | some (.key key) => do
      match console.press? (← clock) key with
      | none => throw (IO.userError "a date of the line is outside the calendar")
      | some console =>
        let after := Cli.diskOf console.session.store disk
        writeChanges disk after writer
        if console.shouldQuit then return
        converse console after writer keyboard asked

/-! ### Runs -/

/-- The data folder of an invocation: the one that is asked for by an option or else by the
environment, or else the usual one. -/
def folderOf (i : Cli.Invocation) : IO String := do
  let asked ← IO.getEnv "TASUKE_DIR"
  let home ← IO.getEnv "HOME"
  return dataFolder (i.folder <|> asked) (home.getD "/")

/-- Opens the terminal screen. -/
def openScreen (i : Cli.Invocation) (folder : String) (writer : Writer) (disk : Disk) :
    IO UInt32 := do
  let (message, opened, opening) := Cli.openSession i disk folder writer
  IO.eprint message
  match opening with
  | none =>
    writeChanges disk opened writer
    return 1
  | some ⟨session, settings⟩ =>
    let opened := Cli.diskOf session.store opened
    writeChanges disk opened writer
    IO.print openingSequence
    try
      converse (Console.start session settings (← clock)) opened writer {} none
    finally
      IO.print closingSequence
    return 0

/-- Does a job and answers the exit code. -/
def execute (i : Cli.Invocation) : IO UInt32 := do
  let folder ← folderOf i
  let writer := Writer.ofNumber (← processNumber)
  let disk ← readDisk folder
  if i.job = .screen then openScreen i folder writer disk
  else
    let result := Cli.run i disk folder writer (← clock)
    writeChanges disk result.disk writer
    IO.print result.output
    IO.eprint result.errors
    return result.code.toUInt32

/-- How the program is called. -/
def usage : String :=
  "Usage: tasuke [--data-dir FOLDER] [--log-level LEVEL] [run WORDS... | list | tui]"

end Agenda.Program

/-- Runs the program on the arguments of the shell. -/
def main (arguments : List String) : IO UInt32 := do
  match Agenda.Cli.Invocation.ofArguments? arguments with
  | some i => Agenda.Program.execute i
  | none =>
    IO.eprintln Agenda.Program.usage
    return 2
