import SyntaxOutline.Binary64
import SyntaxOutline.Literal.Decimal

/-!
# Decimal numbers as double-precision words

The double nearest to a decimal number, as its 64-bit word.
-/

namespace SyntaxOutline

namespace Binary64

/-- Beyond `10 ^ decimalBound` every double is infinite, and below its reciprocal zero. -/
def decimalBound : Nat := 400

/-- The word of the double nearest to a decimal number without its sign, if it is finite. -/
def magnitude? (digits : Nat) (exponent : Int) : Option Nat :=
  -- The number lies below `10 ^ top` and, unless it is zero, not below `10 ^ (top - 1)`.
  let top := exponent + (Nat.toDigits 10 digits).length
  if digits = 0 ∨ top < -decimalBound then some 0
  else if decimalBound < top then none
  else
    let word := wordOfRatio (digits * Nat.pow 10 exponent.toNat) (Nat.pow 10 (-exponent).toNat)
    if word < infinityWord then some word else none

/-- The word of the double nearest to a decimal number, if it is finite. -/
def ofDecimal? (d : Decimal) : Option UInt64 :=
  (magnitude? d.digits d.exponent).map fun word =>
    UInt64.ofNat (if d.negative then signBit + word else word)

theorem magnitude?_lt {digits word : Nat} {exponent : Int}
    (h : magnitude? digits exponent = some word) : word < infinityWord := by
  unfold magnitude? at h
  simp only at h
  split at h
  · cases h
    decide
  · split at h
    · cases h
    · split at h
      · next hlt =>
        cases h
        exact hlt
      · cases h

/-- What is read from decimal digits is a number. -/
theorem isNaN_ofDecimal? {d : Decimal} {word : UInt64} (h : ofDecimal? d = some word) :
    isNaN word = false := by
  obtain ⟨m, hm, rfl⟩ := Option.map_eq_some_iff.mp h
  have hlt := magnitude?_lt hm
  simp only [infinityWord] at hlt
  have hmod : (UInt64.ofNat (if d.negative then signBit + m else m)).toNat % signBit = m := by
    have hbit : signBit = 2 ^ 63 := rfl
    rw [UInt64.toNat_ofNat', hbit]
    split <;> omega
  rw [isNaN, hmod, decide_eq_false_iff_not, infinityWord]
  omega

end Binary64

end SyntaxOutline
