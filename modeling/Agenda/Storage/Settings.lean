import Agenda.Json.Printer
import Agenda.Json.Reader
import Agenda.Storage.Disk

/-!
# Settings

What the user can choose, kept as `config.json` in the data folder. Every setting has a default,
and a missing file means the defaults.
-/

namespace Agenda

/-- The settings of the user. -/
structure Settings where
  /-- The name of the task file in the data folder. -/
  tasksFile : String := "tasks.json"
  logLevel : String := "info"
  /-- Whether a line without a command word adds a task. -/
  implicitAdd : Bool := false
  /-- How many minutes before it begins a task is announced. -/
  reminderMinutes : Int64 := 10
  deriving DecidableEq

namespace Settings

/-- The name of the settings file. -/
def fileName : String := "config.json"

/-- The JSON object of the settings. -/
def toJson (s : Settings) : Json :=
  .object [
    ("tasks_file", .text s.tasksFile),
    ("log_level", .text s.logLevel),
    ("implicit_add", .bool s.implicitAdd),
    ("reminder_minutes", .integer s.reminderMinutes.toInt)]

/-- The settings that a JSON value holds. -/
def ofJson? (value : Json) : Option Settings := do
  let defaults : Settings := {}
  match ← value.fields? ["tasks_file", "log_level", "implicit_add", "reminder_minutes"] with
  | [tasksFile, logLevel, implicitAdd, reminderMinutes] =>
    return {
      tasksFile := ← Json.fieldOr defaults.tasksFile Json.text? tasksFile
      logLevel := ← Json.fieldOr defaults.logLevel Json.text? logLevel
      implicitAdd := ← Json.fieldOr defaults.implicitAdd Json.bool? implicitAdd
      reminderMinutes := ← Json.fieldOr defaults.reminderMinutes Json.int64? reminderMinutes }
  | _ => none

/-- The text of a settings file. -/
def print (s : Settings) : String :=
  Json.print s.toJson

/-- The settings that a file holds. -/
def parse? (bytes : Json.Bytes) : Option Settings :=
  (Json.parse? bytes).bind ofJson?

/-- The settings in a data folder. -/
def load (disk : Disk) (folder : String) : Except String Settings :=
  let path := Path.join folder fileName
  let refusal := path ++ " is not a valid config file"
  match disk.find? path with
  | none => .ok {}
  | some .folder => .error refusal
  | some (.file contents) =>
    match parse? contents with
    | some settings => .ok settings
    | none => .error refusal

/-- Saves the settings in a data folder, which is made if it is not there. -/
def save (s : Settings) (disk : Disk) (folder : String) : Except DiskError Disk := do
  let disk ← disk.makeFolder folder
  let place ← disk.placeForFile (Path.join folder fileName)
  return disk.put place (.file s.print.toUTF8.toList)

end Settings

/-! ### Where things lie -/

/-- The data folder: the one that is asked for, or else one in the home folder. -/
def dataFolder (explicit : Option String) (home : String) : String :=
  explicit.getD (Path.join home ".tasuke")

/-- The folder for logs within the data folder. -/
def logFolder (folder : String) : String :=
  Path.join folder "logs"

end Agenda
