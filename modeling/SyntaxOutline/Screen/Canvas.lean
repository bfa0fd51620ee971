import SyntaxOutline.Screen.Area
import SyntaxOutline.Screen.Cell

/-!
# Drawing on a screen

A screen is a grid of cells. Drawing in a cell lays the new style over the old one. What would
fall outside the screen is not drawn.
-/

namespace SyntaxOutline

/-- A grid of cells, row after row. -/
structure Screen where
  width : Nat
  height : Nat
  cells : Array Cell
deriving DecidableEq, Repr

namespace Screen

/-- A screen with nothing on it. -/
def blank (width height : Nat) : Screen :=
  let (width, height) := Area.sizeFor width height
  ⟨width, height, Array.replicate (width * height) .blank⟩

/-- The whole screen. -/
def area (s : Screen) : Area := ⟨0, 0, s.width, s.height⟩

/-- Changes one cell. -/
def update (s : Screen) (x y : Nat) (f : Cell → Cell) : Screen :=
  if x < s.width then { s with cells := s.cells.modify (y * s.width + x) f } else s

/-- Draws a symbol in a cell. -/
def draw (s : Screen) (x y : Nat) (c : Cell) : Screen :=
  s.update x y fun old => ⟨c.symbol, c.style.laidOver old.style⟩

/-- Lays a style over all cells of an area. -/
def fill (s : Screen) (a : Area) (style : Style) : Screen :=
  a.rows.foldl (fun s y =>
    a.columns.foldl (fun s x => s.update x y fun old => ⟨old.symbol, style.laidOver old.style⟩) s) s

/-- The cells of a line that fit into what is left of `width`. A symbol that is wider than the
whole width is passed over; the first other one that does not fit ends the line. -/
def fit (width : Nat) : Nat → List Cell → List Cell
  | _, [] => []
  | left, c :: cs =>
    if width < c.width then fit width left cs
    else if left < c.width then []
    else c :: fit width (left - c.width) cs

/-- The cells that a line takes. -/
def lineWidth (cs : List Cell) : Nat := cs.foldl (fun width c => width + c.width) 0

/-- Draws a line from a cell on. The second cell of a wide symbol is left blank. -/
def drawLine (s : Screen) (x y : Nat) : List Cell → Screen
  | [] => s
  | c :: cs =>
    let s := s.draw x y c
    let s := if 2 ≤ c.width then s.update (x + 1) y fun _ => .blank else s
    s.drawLine (x + c.width) y cs

/-- Draws lines below each other from the top left of an area, each cut to its width. -/
def drawLines (s : Screen) (a : Area) (lines : List (List Cell)) : Screen :=
  ((lines.take a.height).zipIdx).foldl
    (fun s (line, i) => s.drawLine a.left (a.top + i) (fit a.width a.width line)) s

/-- Draws a line in an area of one row, cut to its width and moved to its right end. -/
def drawRight (s : Screen) (a : Area) (line : List Cell) : Screen :=
  if a.isEmpty then s
  else
    let line := fit a.width a.width line
    s.drawLine (a.left + (a.width - lineWidth line)) a.top line

/-- Draws a frame around an area, with a title in its top row. Of corners that fall together the
top left one is drawn last. -/
def drawFrame (s : Screen) (a : Area) (title : String) (style : Style) : Screen :=
  if a.isEmpty then s
  else
    let line (s : Screen) (x y : Nat) (c : Char) := s.draw x y ⟨[c], style⟩
    let s := a.rows.foldl (fun s y => line (line s a.left y '│') a.right y '│') s
    let s := a.columns.foldl (fun s x => line (line s x a.top '─') x a.bottom '─') s
    let s := line s a.right a.bottom '┘'
    let s := line s a.right a.top '┐'
    let s := line s a.left a.bottom '└'
    let s := line s a.left a.top '┌'
    let width := a.width - 2
    s.drawLine (a.left + 1) a.top (fit width width (Span.cells ⟨title.toList, .plain⟩))

/-- The rows of a screen. -/
def rows (s : Screen) : List (List Cell) :=
  (List.range s.height).map fun y =>
    (List.range s.width).map fun x => s.cells[y * s.width + x]?.getD .blank

end Screen

end SyntaxOutline
