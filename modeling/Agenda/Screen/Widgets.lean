import Agenda.Screen.Canvas
import Agenda.Text.Blank

/-!
# Things to draw

A frame with a title, a line of text, and a paragraph of lines that may be centred or wrapped at
words. What does not fit into its area is cut off at the right and at the bottom.
-/

namespace Agenda.Screen

open Text

/-- A piece of text in one style. -/
structure Span where
  text : String
  style : Style := {}
  deriving DecidableEq, Repr

/-- A line of spans. -/
abbrev Line := List Span

/-- A symbol in its style. -/
structure Glyph where
  symbol : List Char
  style : Style
  deriving DecidableEq, Repr

/-- The cells that a glyph takes. -/
def Glyph.width (g : Glyph) : Nat :=
  symbolWidth g.symbol

/-- The cells that glyphs take side by side. -/
def glyphsWidth (gs : List Glyph) : Nat :=
  gs.foldr (fun g width => g.width + width) 0

/-- The glyphs of a span: its clusters, without those that hold control characters. -/
def Span.glyphs (span : Span) : List Glyph :=
  ((clusters span.text.toList).filter fun symbol => !symbol.any isControl).map (⟨·, span.style⟩)

/-- The columns of a span. Control characters count, though they are not drawn. -/
def Span.width (span : Span) : Nat :=
  drawnColumns span.text.toList

/-- The glyphs of a line. -/
def Line.glyphs (line : Line) : List Glyph :=
  line.flatMap Span.glyphs

/-- The columns of a line. -/
def Line.width (line : Line) : Nat :=
  line.foldr (fun span width => span.width + width) 0

/-! ### Lines of text -/

/-- Draws glyphs from a column on, up to the right edge of an area. A glyph without columns joins
the cell before it; a wide one blanks the cells under the rest of it. -/
def drawGlyphs (a : Area) (x : Nat) (isFirst : Bool) (c : Canvas) : List Glyph → Canvas
  | [] => c
  | g :: rest =>
    let next := x + g.width
    if a.right < next then c
    else
      let append (cell : Cell) : Cell :=
        { cell with symbol := cell.symbol ++ g.symbol }.patch g.style
      let c :=
        if isFirst then c.put x a.y g.symbol g.style
        else if x = a.x then c.modify x a.y append
        else if g.width = 0 then c.modify (x - 1) a.y append
        else c.put x a.y g.symbol g.style
      let c := c.modifyArea ⟨x + 1, a.y, next - (x + 1), 1⟩ fun _ => {}
      drawGlyphs a next false c rest

/-- Draws a span in the first row of an area. A span without columns is left out. -/
def drawSpan (c : Canvas) (a : Area) (span : Span) : Canvas :=
  if a.isEmpty || span.width = 0 then c else drawGlyphs a a.x true c span.glyphs

/-- Draws spans one after the other, each as far from the one before as that has columns. -/
def drawSpans (c : Canvas) (a : Area) : Line → Canvas
  | [] => c
  | span :: rest =>
    drawSpans (drawSpan c a span)
      { a with x := a.x + span.width, width := a.width - span.width } rest

/-- The lines of a text, each as one span. -/
def linesOf (text : String) (style : Style := {}) : List Line :=
  (splitLines text.toList).map fun line => [⟨String.ofList line, style⟩]

/-! ### Frames -/

/-- Draws a frame with rounded corners around an area, with a title in its upper edge. The lines
of the title stand one after the other. -/
def drawFrame (c : Canvas) (a : Area) (title : String := "") : Canvas :=
  if a.isEmpty then c
  else
    let line (symbol : Char) (c : Canvas) (x y : Nat) := c.put x y [symbol] {}
    let c := (List.range' a.y a.height).foldl
      (fun c y => line '│' (line '│' c a.x y) (a.right - 1) y) c
    let c := (List.range' a.x a.width).foldl
      (fun c x => line '─' (line '─' c x a.y) x (a.bottom - 1)) c
    let c := line '╯' c (a.right - 1) (a.bottom - 1)
    let c := line '╮' c (a.right - 1) a.y
    let c := line '╰' c a.x (a.bottom - 1)
    let c := line '╭' c a.x a.y
    let title : Line := (linesOf title).flatten
    drawSpans c ⟨a.x + 1, a.y, min title.width (a.width - 2), 1⟩ title

/-! ### Paragraphs -/

/-- The glyphs of a line that fit into a width. Glyphs wider than that are passed over. -/
def cutGlyphs (width used : Nat) : List Glyph → List Glyph
  | [] => []
  | g :: rest =>
    if width < g.width then cutGlyphs width used rest
    else if width < used + g.width then []
    else g :: cutGlyphs width (used + g.width) rest

/-- Whether a glyph separates words. -/
def Glyph.isBlank (g : Glyph) : Bool :=
  g.symbol = ['\u200B'] || (g.symbol.all Text.isBlank && g.symbol ≠ ['\u00A0'])

/-- What wrapping has put together so far: the lines that are full, the line being filled, the
blanks after it, and the word after those. -/
structure Wrapping where
  lines : List (List Glyph) := []
  line : List Glyph := []
  blanks : List Glyph := []
  word : List Glyph := []
  afterWord : Bool := false

namespace Wrapping

/-- Ends the word being read: it goes to the line, with the blanks before it. -/
def endWord (w : Wrapping) : Wrapping :=
  { w with line := w.line ++ w.blanks ++ w.word, blanks := [], word := [] }

/-- The blanks left when as many as fit into the rest of a line are dropped. -/
def dropBlanks (room : Nat) : List Glyph → List Glyph
  | [] => []
  | g :: rest => if room < g.width then g :: rest else dropBlanks (room - g.width) rest

/-- Puts a glyph after the blanks or the word. -/
def append (w : Wrapping) (g : Glyph) : Wrapping :=
  if g.isBlank then { w with blanks := w.blanks ++ [g], afterWord := false }
  else { w with word := w.word ++ [g], afterWord := true }

/-- Takes in the next glyph. A word ends at the blank after it or when it alone overflows a line,
and a line ends when what is to come does not fit any more. -/
def push (width : Nat) (w : Wrapping) (g : Glyph) : Wrapping :=
  if width < g.width then w
  else
    let overflows := w.line.isEmpty &&
      width < glyphsWidth w.word + glyphsWidth w.blanks + g.width
    let w := if (w.afterWord && g.isBlank) || overflows then w.endWord else w
    let used := glyphsWidth w.line
    let full := width ≤ used ||
      (0 < g.width && width ≤ used + glyphsWidth w.blanks + glyphsWidth w.word)
    if full then
      let blanks := dropBlanks (width - used) w.blanks
      let w := { w with lines := w.lines ++ [w.line], line := [], blanks }
      if g.isBlank && blanks.isEmpty then w else w.append g
    else w.append g

/-- The lines that come out in the end; there is always at least one. -/
def finish (w : Wrapping) : List (List Glyph) :=
  let last := w.line ++ w.blanks ++ w.word
  let lines := if last.isEmpty then w.lines else w.lines ++ [last]
  if lines.isEmpty then [[]] else lines

end Wrapping

/-- The lines into which glyphs are broken at words. -/
def wrapGlyphs (width : Nat) (gs : List Glyph) : List (List Glyph) :=
  (gs.foldl (Wrapping.push width) {}).finish

/-- Draws the glyphs of a line of a paragraph. Those without columns are left out. -/
def drawLine (y x : Nat) (c : Canvas) : List Glyph → Canvas
  | [] => c
  | g :: rest =>
    if g.width = 0 then drawLine y x c rest
    else drawLine y (x + g.width) (c.put x y g.symbol g.style) rest

/-- Draws lines of glyphs one below the other. -/
def drawLines (c : Canvas) (a : Area) (centred : Bool) (lines : List (List Glyph)) : Canvas :=
  (lines.take a.height).zipIdx.foldl
    (fun c (gs, i) =>
      let indent := if centred then a.width / 2 - glyphsWidth gs / 2 else 0
      drawLine (a.y + i) (a.x + indent) c gs)
    c

/-- Draws a paragraph whose lines are cut off at the right. -/
def drawParagraph (c : Canvas) (a : Area) (lines : List Line) (centred : Bool := false) : Canvas :=
  if a.isEmpty then c else drawLines c a centred (lines.map fun l => cutGlyphs a.width 0 l.glyphs)

/-- Draws a paragraph whose lines are broken at words. -/
def drawWrapped (c : Canvas) (a : Area) (lines : List Line) : Canvas :=
  if a.isEmpty then c else drawLines c a false (lines.flatMap fun l => wrapGlyphs a.width l.glyphs)

end Agenda.Screen
