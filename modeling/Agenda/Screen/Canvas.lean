import Agenda.Text.Cluster
import Agenda.Text.Ligature

/-!
# Canvases

A canvas is a grid of cells, each with a symbol and a style. A symbol is a cluster of
characters, and a wide one hides the cells under the rest of it.
-/

namespace Agenda.Screen

open Text

/-! ### Styles -/

/-- The colours that are used; `reset` is the terminal's own. -/
inductive Color where
  | reset | cyan | darkGray | yellow | red | green | blue
  deriving DecidableEq, Repr

/-- A change of style. What it does not set stays as it is. -/
structure Style where
  foreground : Option Color := none
  background : Option Color := none
  bold : Bool := false
  deriving DecidableEq, Repr

/-- A symbol and how it is drawn. -/
structure Cell where
  symbol : List Char := [' ']
  foreground : Color := .reset
  background : Color := .reset
  bold : Bool := false
  deriving DecidableEq, Repr

instance : Inhabited Cell := ⟨{}⟩

/-- The cell with a style laid over it. -/
def Cell.patch (c : Cell) (style : Style) : Cell :=
  { c with
    foreground := style.foreground.getD c.foreground
    background := style.background.getD c.background
    bold := c.bold || style.bold }

/-- Whether a cell has the terminal's own style. -/
def Cell.isPlain (c : Cell) : Bool :=
  c.foreground = .reset && c.background = .reset && !c.bold

/-! ### Areas -/

/-- A rectangle of cells. -/
structure Area where
  x : Nat
  y : Nat
  width : Nat
  height : Nat
  deriving DecidableEq, Repr

namespace Area

/-- The column after the last one. -/
def right (a : Area) : Nat :=
  a.x + a.width

/-- The row after the last one. -/
def bottom (a : Area) : Nat :=
  a.y + a.height

/-- The area within a border of one cell. -/
def inner (a : Area) : Area :=
  if a.width < 2 ∨ a.height < 2 then { a with width := 0, height := 0 }
  else ⟨a.x + 1, a.y + 1, a.width - 2, a.height - 2⟩

/-- Whether the area has no cells. -/
def isEmpty (a : Area) : Bool :=
  a.width = 0 || a.height = 0

/-- A row of the area. -/
def row (a : Area) (i : Nat) : Area :=
  ⟨a.x, a.y + i, a.width, 1⟩

end Area

/-! ### Canvases -/

/-- A grid of cells, row by row. -/
structure Canvas where
  width : Nat
  height : Nat
  cells : Array Cell

namespace Canvas

/-- A canvas of blank cells. -/
def blank (width height : Nat) : Canvas :=
  ⟨width, height, Array.replicate (width * height) {}⟩

/-- The cell at a column and a row. -/
def cell (c : Canvas) (x y : Nat) : Cell :=
  if x < c.width then c.cells[y * c.width + x]?.getD {} else {}

/-- Changes the cell at a column and a row, if there is one. -/
def modify (c : Canvas) (x y : Nat) (f : Cell → Cell) : Canvas :=
  if x < c.width then { c with cells := c.cells.modify (y * c.width + x) f } else c

/-- Changes all cells of an area. -/
def modifyArea (c : Canvas) (a : Area) (f : Cell → Cell) : Canvas :=
  (List.range' a.y a.height).foldl
    (fun c y => (List.range' a.x a.width).foldl (fun c x => c.modify x y f) c) c

/-- Lays a style over an area. -/
def style (c : Canvas) (a : Area) (style : Style) : Canvas :=
  c.modifyArea a (·.patch style)

/-- Blanks an area. -/
def erase (c : Canvas) (a : Area) : Canvas :=
  c.modifyArea a fun _ => {}

/-- Puts a symbol into a cell and lays a style over it. -/
def put (c : Canvas) (x y : Nat) (symbol : List Char) (style : Style) : Canvas :=
  c.modify x y fun cell => { cell with symbol }.patch style

end Canvas

/-! ### Symbols -/

/-- The cells that a symbol takes: its columns, and one more for each halfwidth voicing mark, for
which room is left on screens that give it none. -/
def symbolWidth (symbol : List Char) : Nat :=
  drawnColumns symbol + (symbol.filter fun c => c = '\uFF9E' || c = '\uFF9F').length

/-! ### What a screen shows -/

/-- The cells of a row as the screen shows them: those under the rest of a wide symbol are blank.
`hidden` counts the cells still to be hidden. -/
def shownCells (hidden : Nat) : List Cell → List Cell
  | [] => []
  | cell :: rest =>
    match hidden with
    | n + 1 => {} :: shownCells n rest
    | 0 => cell :: shownCells (symbolWidth cell.symbol - 1) rest

/-- The text of a row of shown cells, without the cells under the columns of wide symbols. -/
def shownText (hidden : Nat) : List Cell → List Char
  | [] => []
  | cell :: rest =>
    match hidden with
    | n + 1 => shownText n rest
    | 0 => cell.symbol ++ shownText (drawnColumns cell.symbol - 1) rest

namespace Canvas

/-- The cells of a row. -/
def row (c : Canvas) (y : Nat) : List Cell :=
  (List.range c.width).map fun x => c.cell x y

/-- The text of each row, as the screen shows it. -/
def lines (c : Canvas) : List String :=
  (List.range c.height).map fun y => String.ofList (shownText 0 (shownCells 0 (c.row y)))

end Canvas

end Agenda.Screen
