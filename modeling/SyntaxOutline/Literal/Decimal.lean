/-!
# Numbers in decimal notation

A decimal number is a sign, a natural number of digits and a power of ten. `Decimal.read?` reads
one from a text: an optional sign, digits with at most one point among them and at least one digit
in all, and an optional exponent, with nothing before, between or after.
-/

namespace SyntaxOutline

/-- The number `± digits * 10 ^ exponent`. -/
structure Decimal where
  negative : Bool
  digits : Nat
  exponent : Int
deriving DecidableEq, Repr

namespace Decimal

/-- The value of a digit. -/
def digitValue (c : Char) : Nat := c.toNat - '0'.toNat

/-- The number that a list of digits spells. -/
def ofDigits (cs : List Char) : Nat := cs.foldl (fun n c => 10 * n + digitValue c) 0

/-- Cuts off a leading sign, and says whether it was a minus. -/
def readSign : List Char → Bool × List Char
  | '-' :: cs => (true, cs)
  | '+' :: cs => (false, cs)
  | cs => (false, cs)

/-- Reads a text of digits alone, at least one. -/
def readDigits? (cs : List Char) : Option Nat :=
  if !cs.isEmpty && cs.all Char.isDigit then some (ofDigits cs) else none

/-- Reads a text of digits with an optional sign. -/
def readInteger? (cs : List Char) : Option Int :=
  let (negative, cs) := readSign cs
  (readDigits? cs).map fun n => if negative then -(n : Int) else n

/-- The size from which on the digits of an exponent are not counted. -/
def exponentBound : Nat := 65536

/-- The exponent that a list of digits spells. -/
def exponentOfDigits (cs : List Char) : Nat :=
  cs.foldl (fun n c => if n < exponentBound then 10 * n + digitValue c else n) 0

/-- Reads the exponent of a number; the empty text is the exponent 0. Digits behind a first few that
make it reach `exponentBound` are passed over. -/
def readExponent? : List Char → Option Int
  | [] => some 0
  | c :: cs =>
    if c = 'e' || c = 'E' then
      let (negative, cs) := readSign cs
      if !cs.isEmpty && cs.all Char.isDigit then
        let n : Int := exponentOfDigits cs
        some (if negative then -n else n)
      else none
    else none

/-- Reads a number. -/
def read? (text : String) : Option Decimal :=
  let (negative, cs) := readSign text.toList
  let whole := cs.takeWhile Char.isDigit
  let cs := cs.dropWhile Char.isDigit
  let (fraction, cs) :=
    match cs with
    | '.' :: cs => (cs.takeWhile Char.isDigit, cs.dropWhile Char.isDigit)
    | cs => ([], cs)
  if whole.isEmpty && fraction.isEmpty then none
  else
    (readExponent? cs).map fun exponent =>
      ⟨negative, ofDigits (whole ++ fraction), exponent - fraction.length⟩

end Decimal

end SyntaxOutline
