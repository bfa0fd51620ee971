import SyntaxOutline.Screen.Canvas
import SyntaxOutline.Text.Lines
import SyntaxOutline.Viewer.Highlight
import SyntaxOutline.Viewer.Scroll
import SyntaxOutline.Viewer.TreeLine

/-!
# Panes

The viewer has two framed panes, one for the source with numbered lines and one for the outline,
and a status bar. What a pane lays out is a value (`Pane`), which is drawn in an area of a screen.
Laying out a pane first brings its scroll offset back to the last full page.
-/

namespace SyntaxOutline

/-- The lines of a pane, under a title in a frame. -/
structure Pane where
  title : String
  focused : Bool
  lines : List (List Span)
deriving DecidableEq, Repr

namespace Pane

/-- The style of a frame. -/
def borderStyle (focused : Bool) : Style :=
  if focused then (Style.ink Theme.focusedBorder).strong else .ink Theme.border

/-- Draws a pane in the part of the area that lies on the screen. -/
def draw (p : Pane) (s : Screen) (a : Area) : Screen :=
  let a := a.within s.area
  (s.drawFrame a p.title (borderStyle p.focused)).drawLines a.inner
    (p.lines.map fun spans => spans.flatMap Span.cells)

/-- A line number, right-aligned in four columns, and a blank. -/
def lineNumber (n : Nat) : List Char :=
  let digits := Nat.toDigits 10 n
  List.replicate (4 - digits.length) ' ' ++ digits ++ [' ']

/-- A numbered line of source. -/
def sourceLine (number : Nat) (line : String) : List Span :=
  ⟨lineNumber number, .ink Theme.comment⟩ :: (Highlight.line line.toList).map Highlight.Piece.span

/-- The lines of a source with their numbers, counted from 1. -/
def numbered (source : String) : List (Nat × String) :=
  ((Text.lines source).zipIdx 1).map fun (line, number) => (number, line)

/-- The numbered lines that the source pane shows at an offset. -/
def sourcePage (height offset : Nat) (source : String) : List (Nat × String) :=
  Scroll.page height offset (numbered source)

/-- Lays out the source pane at a height; gives the offset it is laid out at. -/
def source (height : Nat) (source : String) (focused : Bool) (offset : Nat) : Pane × Nat :=
  let offset := Scroll.clamp height (Text.lines source).length offset
  let lines := (sourcePage height offset source).map fun (number, line) => sourceLine number line
  (⟨" Source ", focused, lines⟩, offset)

/-- Draws the source pane; gives the offset it was drawn at. -/
def drawSource (s : Screen) (a : Area) (source : String) (focused : Bool) (offset : Nat) :
    Screen × Nat :=
  let (pane, offset) := Pane.source a.height source focused offset
  (pane.draw s a, offset)

/-- A line of an outline. -/
def treeLine (line : String) : List Span := (TreeLine.split line.toList).spans

/-- Lays out the outline pane at a height; gives the offset it is laid out at. -/
def tree (height : Nat) (tree : List String) (focused : Bool) (offset : Nat) : Pane × Nat :=
  let offset := Scroll.clamp height tree.length offset
  (⟨" Syntax Tree ", focused, (Scroll.page height offset tree).map treeLine⟩, offset)

/-- Draws the outline pane; gives the offset it was drawn at. -/
def drawTree (s : Screen) (a : Area) (tree : List String) (focused : Bool) (offset : Nat) :
    Screen × Nat :=
  let (pane, offset) := Pane.tree a.height tree focused offset
  (pane.draw s a, offset)

/-- The keys that the status bar tells of. -/
def keyHint : String := " Tab: switch pane  ↑↓/PgUp/PgDn: scroll  Home/End  q: quit "

/-- The width of the left part of the status bar: three fifths, rounded. -/
def statusWidth (width : Nat) : Nat := (6 * width + 5) / 10

/-- Draws the status bar. -/
def drawStatus (s : Screen) (a : Area) (fileName message : String) : Screen :=
  let leftWidth := statusWidth a.width
  let left := { a with width := leftWidth }.within s.area
  let right := { a with left := a.left + leftWidth, width := a.width - leftWidth }.within s.area
  let name : Span :=
    ⟨s!" {fileName} ".toList, ((Style.ink .black).onGround Theme.primary).strong⟩
  let status : Span :=
    ⟨s!" {message} ".toList, (Style.ink Theme.text).onGround Theme.statusGround⟩
  let hint : Span := ⟨keyHint.toList, (Style.ink Theme.secondary).onGround Theme.statusGround⟩
  let s := s.fill left (.ground Theme.statusGround)
  let s := s.drawLines left [name.cells ++ status.cells]
  let s := s.fill right (.ground Theme.statusGround)
  s.drawRight right hint.cells

end Pane

end SyntaxOutline
