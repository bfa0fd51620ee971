/-!
# Double-precision numbers as words

A double that is not negative, as its 64-bit word, and arithmetic on such words: a result that is no
double is rounded to the nearest, and one half-way between two doubles to the one with the even
word. All arithmetic is exact, on natural numbers.

The word of a positive double counts the doubles below it. With `u` the number in units of the
smallest double, `2 ^ -1074`, and `s` the number of bits by which `u` is longer than 53, the word
is `s * 2 ^ 52` plus `u / 2 ^ s` rounded: for `s = 0` these are the doubles that are spaced by one
unit, and each further `s` doubles the spacing. A carry out of the rounding leads to the next word
by itself.
-/

namespace SyntaxOutline

/-- Settles the bits of the square root of `n` below the one with the given number. -/
def refineRoot (n : Nat) : Nat → Nat → Nat
  | 0, root => root
  | bit + 1, root =>
    let next := root + (1 <<< bit)
    refineRoot n bit (if next * next ≤ n then next else root)

/-- The square root of a natural number, rounded down. -/
def squareRoot (n : Nat) : Nat := refineRoot n (n.log2 / 2 + 1) 0

namespace Binary64

/-- The first word that does not stand for a finite number. -/
def infinityWord : Nat := 2047 <<< 52

/-- The sign bit. -/
def signBit : Nat := 1 <<< 63

/-- Whether a word, with its sign, stands for no number. -/
def isNaN (word : UInt64) : Bool := infinityWord < word.toNat % signBit

/-- Whether two words stand for the same number. The two zeros do; what is no number is not the
same as anything. -/
def same (a b : UInt64) : Bool :=
  !isNaN a && !isNaN b && (a == b || (a.toNat % signBit == 0 && b.toNat % signBit == 0))

/-- The natural number nearest to `num / den`; a tie goes to the even one. -/
def roundDiv (num den : Nat) : Nat :=
  let q := num / den
  let r := num % den
  if 2 * r < den then q
  else if den < 2 * r then q + 1
  else if q % 2 = 0 then q else q + 1

/-- The word of the double nearest to `num / den`, counted on past the finite ones. -/
def wordOfRatio (num den : Nat) : Nat :=
  let units := num <<< 1074
  let shift := Nat.log2 (units / den) + 1 - 53
  (shift <<< 52) + roundDiv units (den <<< shift)

/-- The number that a word stands for, in units of the smallest double. -/
def units (word : Nat) : Nat :=
  let shift := (word >>> 52) - 1
  (word - (shift <<< 52)) <<< shift

/-- The word of a natural number. -/
def ofNat (n : Nat) : Nat := wordOfRatio n 1

/-- The quotient of two doubles. -/
def div (a b : Nat) : Nat := wordOfRatio (units a) (units b)

/-- The product of two doubles. -/
def mul (a b : Nat) : Nat := wordOfRatio (units a * units b) (1 <<< 2148)

/-- The square root of a double. It never lies half-way between two doubles, so half a unit more
than the root rounded down to units is rounded to the same double as the root. -/
def sqrt (a : Nat) : Nat := wordOfRatio (2 * squareRoot (units a <<< 1074) + 1) (1 <<< 1075)

/-- A double rounded down to a natural number. -/
def floor (a : Nat) : Nat := units a >>> 1074

end Binary64

end SyntaxOutline
