import Agenda.Screen.Console
import Agenda.Screen.Widgets
import Agenda.View.Columns
import Agenda.View.Guide

/-!
# Drawing the console

The screen from top to bottom: a header, the rows or a hint that they are hidden, the input line,
and a status line; a panel lies over the middle. Drawing changes one thing about the console, the
first row on the screen, which moves by the least that shows the selected row.
-/

namespace Agenda.Screen

open Text

/-! ### The rows -/

/-- The marker before the selected row. -/
def selectionMarker : String := ">> "

/-- The columns that a description takes at most. -/
def descriptionWidth : Nat := 40

/-- The places and widths of the columns within a width. The number, the mark and the tags have
fixed widths; the description takes what is left, and below 20 it takes from the time. -/
def columnPlaces (width indent : Nat) : List (Nat × Nat) :=
  let left := width - indent - 4
  let description := max 20 (left - 61)
  let time := min 35 (left - 26 - description)
  [(indent, 4), (indent + 5, 2), (indent + 8, description), (indent + 9 + description, time),
    (indent + 10 + description + time, 20)]

/-- The style of a description, by the state of its task. -/
def taskStyle (t : Task) (now : DateTime) : Style :=
  if t.done then { foreground := some .darkGray }
  else if t.isOverdue now then { foreground := some .red }
  else if t.isOngoing now then { foreground := some .green }
  else if t.isDueToday now then { foreground := some .yellow }
  else {}

/-- The cells of an entry. -/
def entrySpans (now : DateTime) (e : Entry) : List Span :=
  [⟨toString e.id, {}⟩,
    ⟨e.marker now, {}⟩,
    ⟨String.ofList (abbreviate descriptionWidth e.task.description.toList), taskStyle e.task now⟩,
    ⟨e.timeText, {}⟩,
    ⟨e.tagText, { foreground := some .blue }⟩]

/-- The titles of the columns. -/
def headerSpans : List Span :=
  ["#", "", "Task", "When", "Tags"].map (⟨·, {}⟩)

/-- Draws cells into the columns of a row. -/
def drawCells (c : Canvas) (a : Area) (places : List (Nat × Nat)) (spans : List Span) : Canvas :=
  (places.zip spans).foldl
    (fun c ((x, width), span) => drawSpan c ⟨a.x + x, a.y, min width (a.right - (a.x + x)), 1⟩ span)
    c

/-- The rows that are on the screen, from a first one up to one past the last, when `height` of
`count` rows have room and the first one was `offset` before. -/
def visibleRows (count height offset : Nat) (selected : Option Nat) : Nat × Nat :=
  let start := min offset (count - 1)
  match selected with
  | none => (start, min (start + height) count)
  | some selected =>
    let start := min start selected
    let stop := min (start + height) count
    if selected < stop then (start, stop) else (max start (selected + 1 - height), selected + 1)

/-- Draws one entry into a row. -/
def drawEntry (now : DateTime) (a : Area) (places : List (Nat × Nat)) (isSelected : Bool)
    (c : Canvas) (e : Entry) : Canvas :=
  let c := if isSelected then drawSpan c a ⟨selectionMarker, {}⟩ else c
  let c := drawCells c a places (entrySpans now e)
  if isSelected then c.style a { background := some .darkGray, bold := true } else c

/-- Draws the rows into an area, and answers the first row shown. -/
def drawRows (console : Console) (c : Canvas) (a : Area) : Canvas × Nat :=
  let c := drawFrame c a (" " ++ console.title ++ " ")
  let inner := a.inner
  if inner.isEmpty then (c, console.offset)
  else
    let indent := if console.selected.isSome then selectionMarker.length else 0
    let places := columnPlaces inner.width indent
    let c := c.style (inner.row 0) { foreground := some .yellow }
    let c := drawCells c (inner.row 0) places headerSpans
    if console.rowCount = 0 then (c, console.offset)
    else
      let (start, stop) :=
        visibleRows console.rowCount (inner.height - 1) console.offset console.selected
      let shown := (console.rows.entries.zipIdx.take stop).drop start
      let c := shown.foldl
        (fun c (e, i) =>
          drawEntry console.rows.asOf (inner.row (i - start + 1)) places
            (console.selected = some i) c e)
        c
      (c, start)

/-! ### The rest of the screen -/

/-- Draws the header. -/
def drawHeader (c : Canvas) (a : Area) : Canvas :=
  let style : Style := { foreground := some .cyan, bold := true }
  let c := drawFrame (c.style a style) a
  drawParagraph c a.inner (linesOf Guide.programName.toUpper style) true

/-- Draws the hint that the rows are hidden. -/
def drawHidden (c : Canvas) (a : Area) : Canvas :=
  let style : Style := { foreground := some .darkGray }
  drawParagraph (c.style a style) a
    (linesOf "Tasks hidden. Type `show` to bring them back." style) true

/-- Draws the input line. -/
def drawInput (console : Console) (c : Canvas) (a : Area) : Canvas :=
  let c := drawFrame c a " What do you want to do? "
  drawParagraph c a.inner (linesOf (String.ofList console.input))

/-- The text and the colour of the status line. -/
def statusText (console : Console) : String × Color :=
  match console.status with
  | some (.success, message) => (message, .green)
  | some (.failure, message) => (message, .red)
  | some (.normal, message) => (message, .cyan)
  | none => ("Enter: run | Up/Down: scroll | Esc: clear | Ctrl+C: quit", .darkGray)

/-- Draws the status line. -/
def drawStatus (console : Console) (c : Canvas) (a : Area) : Canvas :=
  let (text, colour) := statusText console
  let style : Style := { foreground := some colour }
  drawParagraph (c.style a style) a (linesOf text style)

/-! ### Panels -/

/-- A line of the settings panel. -/
def settingRow (name value : String) : Line :=
  [⟨name ++ ": ", { foreground := some .blue }⟩, ⟨value, {}⟩]

/-- The title and the lines of a panel. -/
def panelText (settings : Settings) : Panel → String × List Line
  | .help => (" Help ", linesOf Guide.help)
  | .about => (" About ", linesOf Guide.about)
  | .settings =>
    (" Settings ",
      [settingRow "Tasks file" settings.tasksFile,
        settingRow "Log level" settings.logLevel,
        settingRow "Implicit add" (if settings.implicitAdd then "true" else "false"),
        settingRow "Reminder (minutes)" (toString settings.reminderMinutes.toInt),
        [],
        [⟨"Edit config.json in the data directory to change these.",
          { foreground := some .darkGray }⟩]])

/-- A share of a length in percent, to the nearest whole number. -/
def percent (share length : Nat) : Nat :=
  (share * length + 50) / 100

/-- The area of a panel: the middle 70 by 60 percent of an area. -/
def panelArea (a : Area) : Area :=
  let left := percent 15 a.width
  let top := percent 20 a.height
  ⟨a.x + left, a.y + top, percent 85 a.width - left, percent 80 a.height - top⟩

/-- Draws a panel over the middle of an area. -/
def drawPanel (settings : Settings) (panel : Panel) (c : Canvas) (a : Area) : Canvas :=
  let (title, lines) := panelText settings panel
  let place := panelArea a
  let c := drawFrame (c.erase place) place title
  drawWrapped c place.inner lines

/-! ### The screen -/

/-- A drawn screen: the canvas and the place of the cursor. -/
structure Picture where
  canvas : Canvas
  cursorX : Nat
  cursorY : Nat

/-- Draws the console on a blank screen, and answers the console after it. -/
def draw (console : Console) (width height : Nat) : Picture × Console :=
  let c := Canvas.blank width height
  let middle := height - 7
  let c := drawHeader c ⟨0, 0, width, 3⟩
  let main : Area := ⟨0, 3, width, middle⟩
  let (c, offset) :=
    if console.hidden then (drawHidden c main, console.offset) else drawRows console c main
  let inputArea : Area := ⟨0, 3 + middle, width, 3⟩
  let c := drawInput console c inputArea
  let c := drawStatus console c ⟨0, 6 + middle, width, 1⟩
  let c :=
    match console.panel with
    | some panel => drawPanel console.settings panel c ⟨0, 0, width, height⟩
    | none => c
  let before := columns (console.input.take console.cursor)
  (⟨c, inputArea.x + 1 + before, inputArea.y + 1⟩, { console with offset })

end Agenda.Screen
