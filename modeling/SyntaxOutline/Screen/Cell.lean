import SyntaxOutline.Text.Cluster
import SyntaxOutline.Text.Cluster.Width

/-!
# Cells

A screen is made of cells. A cell shows one cluster of characters in a style: a colour for the
characters, one for the ground behind them, and whether they are bold. A style leaves open what it
does not set, so that it can be laid over another.
-/

namespace SyntaxOutline

/-- The colours of a screen. -/
inductive Colour where
  | rgb (red green blue : UInt8)
  | black
deriving DecidableEq, Repr

/-- What a style sets. -/
structure Style where
  ink? : Option Colour
  ground? : Option Colour
  bold : Bool
deriving DecidableEq, Repr

namespace Style

/-- The style that sets nothing. -/
def plain : Style := ⟨none, none, false⟩

/-- The style that sets the colour of the character. -/
def ink (c : Colour) : Style := { plain with ink? := some c }

/-- The style that sets the colour of the ground. -/
def ground (c : Colour) : Style := { plain with ground? := some c }

/-- The style with bold characters. -/
def strong (s : Style) : Style := { s with bold := true }

/-- The style with a colour for the ground. -/
def onGround (s : Style) (c : Colour) : Style := { s with ground? := some c }

/-- One style laid over another. -/
def laidOver (s base : Style) : Style :=
  ⟨s.ink? <|> base.ink?, s.ground? <|> base.ground?, s.bold || base.bold⟩

end Style

/-- A cluster of characters in a style. -/
structure Cell where
  symbol : List Char
  style : Style
deriving DecidableEq, Repr

namespace Cell

/-- A cell that nothing has been drawn in. -/
def blank : Cell := ⟨[' '], .plain⟩

/-- The cells that the symbol takes. -/
def width (c : Cell) : Nat := Text.clusterWidth c.symbol

end Cell

/-- A stretch of text in one style. -/
structure Span where
  text : List Char
  style : Style
deriving DecidableEq, Repr

/-- The clusters of a stretch, each with its style. Those that take no room are not shown. -/
def Span.cells (s : Span) : List Cell :=
  ((Text.clusters s.text).map (⟨·, s.style⟩)).filter fun c => 0 < c.width

end SyntaxOutline
