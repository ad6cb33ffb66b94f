import Agenda.Session
import Agenda.Storage.Settings
import Agenda.View.Guide
import Agenda.View.Table

/-!
# The command line

What a shell can ask of the program: to run a single line, to list all tasks, or to open the
terminal screen. `Invocation.ofArguments?` reads the arguments, and `run` says what is printed, with
which exit code the program ends, and what is on the disk afterwards. The screen itself is not
part of a run: `openSession` gives what it starts from.
-/

namespace Agenda.Cli

/-! ### Arguments -/

/-- What the command line asks for. -/
inductive Job where
  /-- Run the words as one line. -/
  | run (words : List String)
  /-- List all tasks. -/
  | list
  /-- Open the terminal screen. -/
  | screen
  deriving DecidableEq, Repr

/-- A command line. -/
structure Invocation where
  /-- The data folder, when it is not the usual one. -/
  folder : Option String := none
  /-- The level of the log, when it is not that of the settings. -/
  logLevel : Option String := none
  job : Job := .screen
  deriving DecidableEq, Repr

namespace Invocation

/-- The value that an argument of the form `name=value` gives to an option. -/
def valueOf? (name argument : String) : Option String :=
  let start := (name ++ "=").toList
  if start.isPrefixOf argument.toList then
    some (String.ofList (argument.toList.drop start.length))
  else none

/-- The options that have been read, and the arguments after them. -/
structure Options where
  folder : Option String := none
  logLevel : Option String := none
  rest : List String := []
  deriving DecidableEq, Repr

/-- Reads the options at the beginning of the arguments. Each can be given once, and a value in an
argument of its own does not begin with a dash, unless it is no more than that. -/
def readOptions? (o : Options) : List String → Option Options
  | [] => some o
  | "--data-dir" :: rest =>
    match rest with
    | [] => none
    | value :: rest => if isValue value && o.folder.isNone then
        readOptions? { o with folder := some value } rest else none
  | "--log-level" :: rest =>
    match rest with
    | [] => none
    | value :: rest => if isValue value && o.logLevel.isNone then
        readOptions? { o with logLevel := some value } rest else none
  | argument :: rest =>
    match valueOf? "--data-dir" argument, valueOf? "--log-level" argument with
    | some folder, _ =>
      if o.folder.isNone then readOptions? { o with folder := some folder } rest else none
    | none, some level =>
      if o.logLevel.isNone then readOptions? { o with logLevel := some level } rest else none
    | none, none => some { o with rest := argument :: rest }
where
  /-- Whether an argument can be the value of an option. -/
  isValue (argument : String) : Bool :=
    argument = "-" || argument.toList.head? ≠ some '-'

/-- The invocation with the options in place of its own ones. -/
def withOptions (i : Invocation) (o : Options) : Invocation :=
  { i with folder := o.folder <|> i.folder, logLevel := o.logLevel <|> i.logLevel }

/-- The arguments without the two dashes at their beginning that say that no option follows. -/
def dropDashes : List String → List String
  | "--" :: rest => rest
  | arguments => arguments

/-- The invocation that arguments stand for. Options can stand on both sides of the word for the
job, but whatever follows two dashes or the first word of a line belongs to the line. -/
def ofArguments? (arguments : List String) : Option Invocation := do
  let o ← readOptions? {} arguments
  let i : Invocation := withOptions {} o
  match o.rest with
  | job :: rest =>
    if job = "--" then if rest.isEmpty then some i else none
    else
      let o ← readOptions? {} rest
      let i := i.withOptions o
      match job, dropDashes o.rest with
      | "run", word :: words => some { i with job := .run (word :: words) }
      | "list", [] => some { i with job := .list }
      | "tui", [] => some i
      | _, _ => none
  | [] => some i

end Invocation

/-! ### Opening a session -/

/-- A text with the end of its line. -/
def line (text : String) : String :=
  text ++ "\n"

/-- A message of failure. -/
def failure (reason : String) : String :=
  line ("Error: " ++ reason)

/-- A warning that there will be no log. -/
def logWarning (reason : String) : String :=
  line ("Warning: logging disabled: " ++ reason)

/-- The levels at which a log can be kept. -/
def logLevels : List String :=
  ["trace", "debug", "info", "warn", "warning", "error", "off"]

/-- A log level without regard to case and to blanks around it. -/
def normalLevel (level : String) : String :=
  (String.ofList (Text.trim level.toList)).toLower

/-- Makes the folder for logs. Without a log level that there is or without the folder there is a
warning instead. -/
def prepareLog (disk : Disk) (folder level : String) : Disk × String :=
  let level := normalLevel level
  if level ∈ logLevels then
    match disk.makeFolder (logFolder folder) with
    | .ok disk => (disk, "")
    | .error error =>
      (disk, logWarning ("failed to create log directory `" ++ logFolder folder ++ "`: "
        ++ error.message))
  else
    (disk, logWarning ("unsupported log level `" ++ level
      ++ "`; expected trace|debug|info|warn|error|off"))

/-- The store and the settings in a data folder, opened for a session. -/
structure Opening where
  session : Session
  settings : Settings

/-- Opens the task file that the settings name. -/
def openStore (disk : Disk) (folder : String) (writer : Writer) (settings : Settings) :
    Except String Store :=
  match FileLocation.open? disk folder settings.tasksFile writer with
  | .error reason => .error reason
  | .ok location =>
    match Store.open? (.file location) with
    | .error error => .error error.message
    | .ok store => .ok store

/-- Opens a session in a data folder: what there is to say about that, the disk afterwards, and
the session unless it failed. -/
def openSession (i : Invocation) (disk : Disk) (folder : String) (writer : Writer) :
    String × Disk × Option Opening :=
  match Settings.load disk folder with
  | .error reason => (failure reason, disk, none)
  | .ok settings =>
    let (disk, warning) := prepareLog disk folder (i.logLevel.getD settings.logLevel)
    match openStore disk folder writer settings with
    | .error reason => (warning ++ failure reason, disk, none)
    | .ok store => (warning, disk, some ⟨{ store, implicitAdd := settings.implicitAdd }, settings⟩)

/-! ### Runs -/

/-- What a run leaves behind. -/
structure Result where
  disk : Disk
  code : Nat := 0
  output : String := ""
  errors : String := ""

/-- The exit code and the output for a reply. A change is followed by the whole list. -/
def report (reply : Reply) (store : Store) (now : DateTime) : Nat × String × String :=
  if reply.status = .failure then (1, "", failure reply.message)
  else
    let message := if reply.message = "" then "" else line reply.message
    let shown :=
      match reply.request with
      | some (.showTasks _ views) => line (Table.render ⟨views.map View.toEntry, now⟩)
      | some .help => line Guide.help
      | some .about => line Guide.about
      | _ => if reply.status = .success then line (Table.render (store.listing now)) else ""
    (0, message ++ shown, "")

/-- The disk below a store; a store in memory has none of its own. -/
def diskOf (s : Store) (otherwise : Disk) : Disk :=
  match s.repository with
  | .file location => location.disk
  | .memory .. => otherwise

/-- Does a job in an open session. -/
def perform (s : Session) (job : Job) (disk : Disk) (now : DateTime) : Result :=
  match job with
  | .run words =>
    match s.run (" ".intercalate words) now with
    | none => { disk, code := 101 }
    | some (reply, s) =>
      let (code, output, errors) := report reply s.store now
      { disk := diskOf s.store disk, code, output, errors }
  | .list => { disk, output := line (Table.render (s.store.listing now)) }
  | .screen => { disk }

/-- Runs an invocation on a disk. -/
def run (i : Invocation) (disk : Disk) (folder : String) (writer : Writer) (now : DateTime) :
    Result :=
  match openSession i disk folder writer with
  | (errors, disk, none) => { disk, code := 1, errors }
  | (warning, disk, some opening) =>
    let result := perform opening.session i.job (diskOf opening.session.store disk) now
    { result with errors := warning ++ result.errors }

end Agenda.Cli
