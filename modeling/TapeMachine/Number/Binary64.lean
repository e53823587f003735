import TapeMachine.Number.Numeral

/-!
# Double precision numbers

A number of the format binary64 is kept as its sign, its integral significand and the exponent of
two that scales it, so that reading a decimal and comparing with one are exact computations on
natural numbers.

Results:
1. `roundHalfEven_exact`: a quotient without remainder is not changed by rounding.
2. `roundHalfEven_near`: rounding moves a quotient by at most one half.
-/

namespace TapeMachine

/-- A double precision number. A finite one is `significand * 2 ^ exponent`, where the significand
has at most 53 bits, the exponent is at least `-1074`, and one of the two is as large or as small
as it can be. -/
inductive Binary64
  | nan
  | infinite (negative : Bool)
  | finite (negative : Bool) (significand : Nat) (exponent : Int)
deriving DecidableEq, Repr

namespace Binary64

/-- The least exponent of two. -/
def minExponent : Int := -1074

/-- The greatest exponent of two. -/
def maxExponent : Int := 971

/-- The least significand of 53 bits. -/
def leastNormal : Nat := 0x10000000000000

/-- The quotient to the nearest whole number; of two equally near ones, the even one. -/
def roundHalfEven (num den : Nat) : Nat :=
  let quotient := num / den
  let twice := 2 * (num % den)
  if twice < den || twice = den && quotient % 2 = 0 then quotient else quotient + 1

/-- The quotient `num / den`, divided by a power of two, to the nearest whole number. -/
def roundScaled (num den : Nat) (exponent : Int) : Nat :=
  roundHalfEven (num * Nat.pow 2 (-exponent).toNat) (den * Nat.pow 2 exponent.toNat)

/-- The greatest power of two that is at most the quotient of two positive numbers. -/
def log2Quotient (num den : Nat) : Int :=
  let guess : Int := (num.log2 : Int) - den.log2
  if den * Nat.pow 2 guess.toNat ≤ num * Nat.pow 2 (-guess).toNat then guess else guess - 1

/-- The double nearest to a positive quotient; of two equally near ones, the even one. -/
def ofQuotient (negative : Bool) (num den : Nat) : Binary64 :=
  let exponent := max (log2Quotient num den - 52) minExponent
  let significand := roundScaled num den exponent
  let (significand, exponent) :=
    if significand = 2 * leastNormal then (leastNormal, exponent + 1) else (significand, exponent)
  if maxExponent < exponent then .infinite negative else .finite negative significand exponent

/-- The double nearest to the number that some digits spell, times a power of ten. A number beyond
the range is infinite, and one that is closer to zero than to the least double is zero; both are
recognised by the place of the leading digit before any power is computed. -/
def ofDecimal (negative : Bool) (digits : List Nat) (exponent : Int) : Binary64 :=
  let digits := digits.dropWhile (· = 0)
  let magnitude : Int := digits.length + exponent
  if digits.isEmpty || magnitude ≤ -324 then .finite negative 0 minExponent
  else if 310 ≤ magnitude then .infinite negative
  else
    ofQuotient negative (Numeral.ofDigits digits * Nat.pow 10 exponent.toNat)
      (Nat.pow 10 (-exponent).toNat)

/-! ## Rounding -/

theorem roundHalfEven_exact {num den : Nat} (positive : 0 < den) (divides : num % den = 0) :
    roundHalfEven num den * den = num := by
  have whole := Nat.div_add_mod num den
  rw [divides, Nat.add_zero, Nat.mul_comm] at whole
  simp [roundHalfEven, divides, positive, whole]

theorem roundHalfEven_near {num den : Nat} (positive : 0 < den) :
    2 * num ≤ 2 * (roundHalfEven num den * den) + den ∧
      2 * (roundHalfEven num den * den) ≤ 2 * num + den := by
  have whole := Nat.div_add_mod num den
  have small := Nat.mod_lt num positive
  rw [Nat.mul_comm] at whole
  simp only [roundHalfEven]
  split
  · next near =>
    simp only [Bool.or_eq_true, decide_eq_true_eq, Bool.and_eq_true] at near
    omega
  · next far =>
    simp only [Bool.or_eq_true, decide_eq_true_eq, Bool.and_eq_true, not_or, not_and] at far
    rw [Nat.add_mul]
    omega

example : ofDecimal false [1] (-1) = .finite false 7205759403792794 (-56) ∧
    ofDecimal true [0, 5] (-324) = .finite true 1 (-1074) ∧
    ofDecimal false [1] 309 = .infinite false := by decide +kernel

end Binary64

end TapeMachine
