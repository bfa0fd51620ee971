import SyntaxOutline.Literal.NearestDouble
import SyntaxOutline.Program

/-!
# The values of literals

A literal is its text; its value is read off the text. An integer has a value when it fits in a
signed 32-bit word, a real number when the nearest double is finite.
-/

namespace SyntaxOutline

/-- The value of an integer literal that fits in a signed 32-bit word. -/
def IntLiteral.value? (l : IntLiteral) : Option Int :=
  (Decimal.readInteger? l.text.toList).filter fun n =>
    Int32.minValue.toInt ≤ n && n ≤ Int32.maxValue.toInt

/-- The word of the double nearest to a real literal, if it is finite. -/
def RealLiteral.word? (l : RealLiteral) : Option UInt64 :=
  (Decimal.read? l.text).bind Binary64.ofDecimal?

end SyntaxOutline
