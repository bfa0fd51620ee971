/-!
# Scroll offsets

A pane shows a stretch of its lines from an offset on. Keys move the offset freely, up to the
largest offset that can be held; drawing the pane brings it back so that the last page is full.
-/

namespace SyntaxOutline

namespace Scroll

/-- The largest offset that can be held. -/
def maxOffset : Nat := UInt64.size - 1

/-- The number of lines that a page key moves by. -/
def pageSize : Nat := 20

/-- The offset moved down. -/
def down (n offset : Nat) : Nat := min (offset + n) maxOffset

/-- The offset moved up. -/
def up (n offset : Nat) : Nat := offset - n

/-- The number of lines that a framed pane shows; one that is too low counts as showing one. -/
def visible (height : Nat) : Nat := max (height - 2) 1

/-- The offset of the last full page. -/
def lastPage (height total : Nat) : Nat := total - visible height

/-- The offset brought back to the last full page. -/
def clamp (height total offset : Nat) : Nat := min offset (lastPage height total)

/-- The lines that are shown. -/
def page {α : Type} (height offset : Nat) (lines : List α) : List α :=
  (lines.drop offset).take (visible height)

end Scroll

end SyntaxOutline
