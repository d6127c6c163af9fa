/-!
# Decimals in double precision

Numbers with a point or a power of ten are kept in double precision: as whole numbers below `2 ^ 53` times
a power of two.  A decimal is read as the nearest such number.

* `roundDiv` — the whole number nearest to a quotient; a half goes to the even neighbour.
* `Dyadic.nearest?` — the number nearest to a decimal, none if it is beyond the largest one.
-/

namespace TemplateAtlas

/-- The number `mantissa * 2 ^ exponent`, with a sign in front, also of zero. -/
structure Dyadic where
  negative : Bool
  mantissa : Nat
  exponent : Int
  deriving DecidableEq, Repr

/-- The whole number nearest to a quotient; a half goes to the even neighbour. -/
def roundDiv (num den : Nat) : Nat :=
  let quotient := num / den
  let rest := 2 * (num % den)
  if rest < den || (rest = den && quotient % 2 = 0) then quotient else quotient + 1

/-- A rounded quotient is at most half a unit away. -/
theorem roundDiv_near (num : Nat) {den : Nat} (hden : 0 < den) :
    2 * (den * roundDiv num den) ≤ 2 * num + den ∧ 2 * num ≤ 2 * (den * roundDiv num den) + den := by
  have hdiv := Nat.div_add_mod num den
  have hmod := Nat.mod_lt num hden
  simp only [roundDiv]
  split
  · next h =>
    simp only [Bool.or_eq_true, Bool.and_eq_true, decide_eq_true_eq] at h
    omega
  · next h =>
    simp only [Bool.or_eq_true, Bool.and_eq_true, decide_eq_true_eq] at h
    rw [Nat.mul_add]
    omega

namespace Dyadic

/-- The number of bits of a mantissa. -/
def precision : Nat := 53

/-- The smallest exponent. -/
def minExponent : Int := -1074

/-- The largest exponent. -/
def maxExponent : Int := 971

/-- The number is not zero. -/
def isNonzero (number : Dyadic) : Bool := number.mantissa ≠ 0

/-- The mantissa of the number nearest to a quotient, among those with the given exponent. -/
def mantissaOf (num den : Nat) (exponent : Int) : Nat :=
  if exponent < 0 then roundDiv (num * Nat.pow 2 (-exponent).toNat) den
  else roundDiv num (den * Nat.pow 2 exponent.toNat)

/-- The exponent by which the mantissa of a quotient has the full precision, as far as the smallest
exponent allows.  By their lengths in bits the quotient is known up to a factor of two. -/
def exponentOf (num den : Nat) : Int :=
  let low : Int := (num.log2 : Int) - den.log2 - precision
  let full := Nat.pow 2 precision ≤ mantissaOf num den low
  max minExponent (if full then low + 1 else low)

/-- The number nearest to a quotient, none if it is too large. -/
def ofQuotient? (negative : Bool) (num den : Nat) : Option Dyadic :=
  let exponent := exponentOf num den
  let mantissa := mantissaOf num den exponent
  if maxExponent < exponent || (exponent = maxExponent && Nat.pow 2 precision ≤ mantissa) then none
  else some ⟨negative, mantissa, exponent⟩

/-- Decimals whose first digit stands more than this many places before the point are too large. -/
def largestPlace : Int := 310

/-- Decimals whose first digit stands more than this many places after the point are nearest to zero. -/
def smallestPlace : Int := 330

/-- The number nearest to `digits * 10 ^ power` with a sign, none if it is too large. -/
def nearest? (negative : Bool) (digits : Nat) (power : Int) : Option Dyadic :=
  let place : Int := (Nat.toDigits 10 digits).length + power
  if digits = 0 || place < -smallestPlace then some ⟨negative, 0, 0⟩
  else if largestPlace < place then none
  else if power < 0 then ofQuotient? negative digits (Nat.pow 10 (-power).toNat)
  else ofQuotient? negative (digits * Nat.pow 10 power.toNat) 1

/-- The magnitude as `digits * 10 ^ (-places)`, which is exact. -/
def toDecimal (number : Dyadic) : Nat × Nat :=
  if number.exponent < 0 then
    let places := (-number.exponent).toNat
    (number.mantissa * Nat.pow 5 places, places)
  else (number.mantissa * Nat.pow 2 number.exponent.toNat, 0)

end Dyadic

end TemplateAtlas
