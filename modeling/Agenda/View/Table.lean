import Agenda.Text.Blank
import Agenda.Text.Ligature
import Agenda.View.Columns

/-!
# Tables

A listing as a table of text: a coloured header, a row for each entry, and lines drawn around all
cells. A column is as wide as the widest line in it, and a row is as high as its highest cell.
-/

namespace Agenda.Table

open Text

/-- The titles of the columns. -/
def titles : List String := ["ID", "St", "Description", "When", "Tags"]

/-- The cells of an entry, one for each column. -/
def cells (now : DateTime) (e : Entry) : List String :=
  [toString e.id, e.marker now, e.task.description, e.timeText, e.tagText]

/-- The lines of a cell. -/
def cellLines (cell : String) : List (List Char) :=
  fields (· == '\n') cell.toList

/-- The columns that a cell takes. -/
def cellWidth (cell : String) : Nat :=
  ((cellLines cell).map drawnColumns).foldr max 0

/-- The widths of the columns of some rows. -/
def widths (rows : List (List String)) : List Nat :=
  rows.foldr (fun row widths => List.zipWith max (row.map cellWidth) widths)
    (titles.map fun _ => 0)

/-- A line of a cell with blanks up to the width of its column and one more on each side. -/
def padCell (decorate : List Char → List Char) (width : Nat) (line : List Char) : List Char :=
  [' '] ++ decorate line ++ List.replicate (width - drawnColumns line) ' ' ++ [' ']

/-- The lines of a row. -/
def rowLines (decorate : List Char → List Char) (widths : List Nat) (row : List String) :
    List (List Char) :=
  let columns := row.map cellLines
  let height := (columns.map List.length).foldr max 0
  (List.range height).map fun i =>
    ['│'] ++ (List.zipWith (fun lines width => padCell decorate width (lines[i]?.getD []) ++ ['│'])
      columns widths).flatten

/-- A line between rows, with its corners and crossings. -/
def ruler (left middle right : Char) (widths : List Nat) : List Char :=
  [left] ++ [middle].intercalate (widths.map fun width => List.replicate (width + 2) '─')
    ++ [right]

/-- A text in the colour of headers. -/
def coloured (text : List Char) : List Char :=
  "\x1b[36m".toList ++ text ++ "\x1b[39m".toList

/-- The table of a listing; a sentence when there is nothing in it. -/
def render (l : Listing) : String :=
  if l.entries.isEmpty then "No tasks found."
  else
    let rows := l.entries.map (cells l.asOf)
    let widths := widths (titles :: rows)
    let between := ruler '├' '┼' '┤' widths
    let lines :=
      [ruler '┌' '┬' '┐' widths] ++ rowLines coloured widths titles
        ++ rows.flatMap (fun row => between :: rowLines id widths row)
        ++ [ruler '└' '┴' '┘' widths]
    String.ofList (['\n'].intercalate lines)

end Agenda.Table
