import SyntaxOutline.Binary64

/-!
# Areas of a screen

An area is a rectangle of cells. The number of its cells is limited.
-/

namespace SyntaxOutline

/-- A rectangle of cells. -/
structure Area where
  left : Nat
  top : Nat
  width : Nat
  height : Nat
deriving DecidableEq, Repr

namespace Area

/-- The cells that an area has at most. -/
def maxCells : Nat := 65535

/-- The width and height of the area that is made where one of the given size is asked for. If that
has too many cells, it is about the greatest of the same proportions: the height is the root of
`maxCells` over the proportion of width to height, and the width the height times that proportion,
in doubles. -/
def sizeFor (width height : Nat) : Nat × Nat :=
  if width * height ≤ maxCells then (width, height)
  else
    let proportion := Binary64.div (Binary64.ofNat width) (Binary64.ofNat height)
    let rows := Binary64.sqrt (Binary64.div (Binary64.ofNat maxCells) proportion)
    (Binary64.floor (Binary64.mul rows proportion), Binary64.floor rows)

/-- The area with a top left cell that is made where one of the given size is asked for. -/
def ofSize (left top width height : Nat) : Area :=
  let (width, height) := sizeFor width height
  ⟨left, top, width, height⟩

/-- Whether the area has no cells. -/
def isEmpty (a : Area) : Bool := a.width == 0 || a.height == 0

/-- The last column. -/
def right (a : Area) : Nat := a.left + a.width - 1

/-- The last row. -/
def bottom (a : Area) : Nat := a.top + a.height - 1

/-- What a frame of one cell on each side leaves. -/
def inner (a : Area) : Area := ⟨a.left + 1, a.top + 1, a.width - 2, a.height - 2⟩

/-- The part of the area that lies in another. -/
def within (a b : Area) : Area :=
  let left := max a.left b.left
  let top := max a.top b.top
  ⟨left, top, min (a.left + a.width) (b.left + b.width) - left,
    min (a.top + a.height) (b.top + b.height) - top⟩

/-- The columns of the area. -/
def columns (a : Area) : List Nat := List.range' a.left a.width

/-- The rows of the area. -/
def rows (a : Area) : List Nat := List.range' a.top a.height

end Area

end SyntaxOutline
